import DexBrowser.Main
import DexBrowser.Session.Lock
import DexBrowser.Session.World
import DexBrowser.Session.Tool
import DexBrowser.Proofs.Session.HandleUse
import DexBrowser.Proofs.Session.Attribute
import DexBrowser.Proofs.Session.Saving
import DexBrowser.Proofs.Session.Opening
import DexBrowser.Proofs.Session.Turnover
import DexBrowser.Proofs.Session.History
import DexBrowser.Proofs.Session.FailedLoad
import DexBrowser.Proofs.Session.StaleHandle
import DexBrowser.Proofs.Session.HandleLife
import DexBrowser.Proofs.Session.Closings
import DexBrowser.Proofs.Files.Confinement
import DexBrowser.Proofs.Image.ClassName
import DexBrowser.Proofs.Image.Naming
import DexBrowser.Proofs.Image.Partition
import DexBrowser.Proofs.Session.Unrevised
import DexBrowser.Proofs.Session.PackageSaving
import DexBrowser.Proofs.Session.Telling
import DexBrowser.Proofs.Session.Listing
import DexBrowser.Proofs.Session.Answers
import DexBrowser.Proofs.Session.Catalogue
import DexBrowser.Proofs.Session.FreshLoad
import DexBrowser.Proofs.Image.Lines
import DexBrowser.Proofs.Image.OneLine
import DexBrowser.Proofs.Session.ReportedLines
import DexBrowser.Proofs.Image.Renaming
import DexBrowser.Proofs.Session.RenamedLoad
import DexBrowser.Proofs.Files.Overwriting
import DexBrowser.Proofs.Files.SourcePlaces
import DexBrowser.Proofs.Session.SavingAll
import DexBrowser.Proofs.Session.Counting
import DexBrowser.Proofs.Session.Waking
import DexBrowser.Proofs.Session.Threads
import DexBrowser.Proofs.Session.Mildness
import DexBrowser.Proofs.Session.Guarding
import DexBrowser.Proofs.Session.Alone
import DexBrowser.Proofs.Session.Beside
import DexBrowser.Proofs.Session.Asking
import DexBrowser.Proofs.Session.Rows
import DexBrowser.Proofs.Session.Vouching
import DexBrowser.Proofs.Session.Following
import DexBrowser.Proofs.Session.AskingBeside
import DexBrowser.Proofs.Session.Searching
import DexBrowser.Proofs.Session.OneLoad
import DexBrowser.Proofs.Session.LoadFaults
import DexBrowser.Proofs.Session.FaithfulLoad
import DexBrowser.Proofs.Session.Requests
import DexBrowser.Proofs.Session.Parallel
import DexBrowser.Proofs.Session.LockDiscipline
import DexBrowser.Proofs.Session.Renumbering
import DexBrowser.Proofs.Session.Isolation
import DexBrowser.Proofs.Image.Respelling
import DexBrowser.Proofs.Files.Neighbours
import DexBrowser.Proofs.Session.ClassSaving
import DexBrowser.Proofs.Session.SavingOn
import DexBrowser.Proofs.Session.Equality
import DexBrowser.Managed.TypeTable
import DexBrowser.Proofs.Text.Escaping
import DexBrowser.Proofs.Image.Dimensions
import DexBrowser.Proofs.Managed.TypeTable
import DexBrowser.Proofs.Session.TypeViews
import DexBrowser.Proofs.Session.MethodEquality
import DexBrowser.Proofs.Image.RespelledTypes
import DexBrowser.Proofs.Session.RespelledLoads
import DexBrowser.Proofs.Image.SourcePaths
import DexBrowser.Proofs.Image.AccessBits
import DexBrowser.Proofs.Session.AccessViews
import DexBrowser.Proofs.Files.SourceWriting
import DexBrowser.Proofs.Managed.Blindness
import DexBrowser.Proofs.Image.HiddenBodies
import DexBrowser.Proofs.Files.Contents
import DexBrowser.Proofs.Session.Mirroring
import DexBrowser.Proofs.Session.MirroredDesks
import DexBrowser.Proofs.Session.TwinDesks
import DexBrowser.Proofs.Session.HiddenCode
import DexBrowser.Proofs.Files.Presence
import DexBrowser.Proofs.Files.SpelledPaths
import DexBrowser.Proofs.Machine.Patterns
import DexBrowser.Proofs.Machine.ClassPath
import DexBrowser.Proofs.Text.HexNumbers
import DexBrowser.Proofs.Session.Printing
import DexBrowser.Proofs.Files.Completion
import DexBrowser.Proofs.Session.SavingSelected
import DexBrowser.Proofs.Text.StyleTags
import DexBrowser.Proofs.Command.SaveExit

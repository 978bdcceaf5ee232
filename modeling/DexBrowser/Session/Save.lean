import DexBrowser.Files.Source
import DexBrowser.Session.Nodes

/-!
Saving code: a class into a file, a package into a directory.
-/

namespace DexBrowser.Session

open Files Managed

def writeSource (path : Path) (code : String) : Action Unit :=
    Action.ofRun fun workspace =>
      let (files, done) := workspace.files.writeSource path code
      (done, { workspace with files := files })

/-- Writes a source file and says why not where the files refuse it. -/
def tryWrite (path : Path) (code : String) : Action (Option String) :=
    Action.ofRun fun workspace =>
      match (writeSource path code).run workspace with
      | (.ok (), workspace) => (.ok none, workspace)
      | (.error (.notWritten refusal path), workspace) =>
          (.ok (some (Fault.notWritten refusal path).message), workspace)
      | (.error fault, workspace) => (.error fault, workspace)

namespace Handle

variable {m : Type → Type} [Monad m] [MonadLiftT Action m]

/-- Writes the code of a class, in one section. Why that failed is the answer. -/
def writeClass (h : Handle) (path : Path) : Action (Option String) :=
    Action.shared h.load do
      let failure ← tryWrite path (← h.code)
      if let some why := failure then
        let fullName ← h.fullName
        Action.log .warning .nodes ("Failed to save " ++ fullName ++ ": " ++ why)
      return failure

/-- Saves the code of a class. Whether the files took it is the answer. -/
def saveClass (h : Handle) (path : Path) : m Bool := do
    let failure ← h.writeClass path
    if failure.isSome then return false
    let fullName ← h.fullName
    Action.log .debug .nodes ("Saved " ++ fullName ++ " to " ++ path.text)
    return true

/-- Saves one class of a package below its directory; the name comes back if that failed. -/
def saveMember (directory : Path) (h : Handle) : Action (Option String) := do
    let fullName ← h.fullName
    let saved ← h.saveClass (directory.join (Path.ofString (ClassName.sourceFile fullName)))
    return if saved then none else some fullName

def saveMembers (h : Handle) (directory : Path) : Action (List (Option String)) :=
    Action.shared h.load do
      (← h.classes).mapM (saveMember directory)

/-- Saves every class of a package into a directory. One that fails does not stop the others. -/
def savePackage (h : Handle) (directory : Path) : m Bool := do
    let outcomes ← h.saveMembers directory
    let failures := outcomes.filterMap id
    if failures.isEmpty then return true
    let fullName ← h.fullName
    Action.log .warning .nodes
      ("Package " ++ fullName ++ ": " ++ toString failures.length ++ " of " ++
        toString outcomes.length ++ " classes not saved")
    return false

def save (h : Handle) (path : PathArgument) : m Bool := do
    let path ← Action.ofExcept path.toPath
    if h.kind = .package then h.savePackage path else h.saveClass path

end Handle

end DexBrowser.Session

import DexBrowser.Command.Words
import DexBrowser.Console.Plain
import DexBrowser.Validation.Lax

/-!
The program: it looks at the files that a command names, runs the command on what it saw, and
writes what has changed.
-/

namespace DexBrowser

open Files

def terminalWidth : Nat := 80

partial def observe (tree : Tree) (location : Location) : IO Tree := do
    let root ← IO.FS.realPath "/"
    let place := location.foldl (fun path name => path / name) root
    if ← place.isDir then
      let entries ← place.readDir
      let tree := if location.isEmpty then tree else tree.put location .directory
      entries.foldlM (fun tree entry => observe tree (location ++ [entry.fileName])) tree
    else if ← place.pathExists then
      return tree.put location (.file (← IO.FS.readBinFile place))
    else return tree

def observeWay (tree : Tree) (location : Location) : IO Tree := do
    let root ← IO.FS.realPath "/"
    (List.range location.length).foldlM
      (fun tree n => do
        let way := location.take n
        if ← (way.foldl (fun path name => path / name) root).isDir then
          return if way.isEmpty then tree else tree.put way .directory
        else return tree)
      tree

def placeOf (tree : Tree) (path : Path) : Location :=
    path.parts.foldl (fun here part => if part = ".." then here.dropLast else here ++ [part])
      (tree.start path.anchor)

def observeRequest (words : List String) : IO Tree := do
    let workingDirectory := (Path.ofString (← IO.currentDir).toString).parts
    let tree : Tree := { workingDirectory := workingDirectory }
    match Command.request words with
    | .run _ command =>
        command.paths.foldlM
          (fun tree text => do
            let place := placeOf tree (Path.ofString text)
            observe (← observeWay tree place) place)
          tree
    | _ => return tree

def writeChanges (before after : Tree) : IO Unit := do
    for (location, entry) in after.entries do
      if before.get? location ≠ some entry then
        let place := "/" ++ "/".intercalate location
        match entry with
        | .directory => IO.FS.createDirAll place
        | .file content => IO.FS.writeBinFile place content

end DexBrowser

open DexBrowser in
def main (words : List String) : IO UInt32 := do
    let before ← observeRequest words
    let (done, workspace) :=
      (Command.perform Command.request (Console.plainTerminal terminalWidth)
        (.memory .lax id) words).run { files := before }
    writeChanges before workspace.files
    match done with
    | .ok report =>
        IO.print report.output
        IO.eprint report.notice
    | .error fault => IO.eprintln fault.message
    return (Command.exitCode done).toUInt32

import DexBrowser.Fault
import DexBrowser.Files.Tree
import DexBrowser.Text.Blank
import DexBrowser.Text.Wildcard

/-!
The settings of the virtual machine, as the environment gives them: class path, library and
arguments.
-/

namespace DexBrowser.Machine

open Files Text

structure Environment where
  classPath : Option String := none
  home : Option String := none
  library : Option String := none
  arguments : Option String := none
  deriving DecidableEq, Repr

structure Settings where
  classPath : List String := []
  library : Option String := none
  arguments : List String := []
  deriving DecidableEq, Repr

/-! ## Class path entries -/

def sorted (texts : List String) : List String :=
    texts.mergeSort fun a b => !decide (b < a)

/-- The names on a spelled path. A slash at the end asks for a directory, as a dot does. -/
def spelledNames (spelling : String) : List String :=
    let pieces := pieces '/' spelling.toList
    let closing := if pieces.getLast? = some [] && 1 < pieces.length then ["."] else []
    ((pieces.filter (· ≠ [])).map String.ofList) ++ closing

def entryAt? (tree : Tree) (spelling : String) : Option (Location × Entry) :=
    let start := tree.start (Path.anchorOf spelling.toList)
    if Tree.pathLimit < spelling.utf8ByteSize || tree.bars start (spelledNames spelling) then none
    else
      match tree.walk start (some .directory) (spelledNames spelling) with
      | .ok (location, some entry) => some (location, entry)
      | _ => none

/-- The names in a spelled directory; an empty spelling is the working directory. -/
def namesAt (tree : Tree) (directory : String) (directoriesOnly : Bool) : List String :=
    match entryAt? tree directory with
    | some (location, .directory) =>
        (tree.namesIn location).filter fun name =>
          !directoriesOnly || (tree.get? (location ++ [name])).any (!·.isFile)
    | _ => []

/-- The names in a directory that fit a pattern. Names that start with a dot are passed over unless
the pattern starts with one. -/
def fittingNames (tree : Tree) (directory : String) (pattern : String)
    (directoriesOnly : Bool) : List String :=
    (namesAt tree directory directoriesOnly).filter fun name =>
      (name.toList.head? ≠ some '.' || pattern.toList.head? = some '.') &&
        matchesWildcard pattern name

def below (directory name : String) : String :=
    if directory = "" || directory.toList.getLast? = some '/' then directory ++ name
    else directory ++ "/" ++ name

def lastName (cs : List Char) : List Char :=
    (cs.reverse.takeWhile (· ≠ '/')).reverse

def directoryOf (cs : List Char) : List Char :=
    let reversed := cs.reverse.dropWhile (· ≠ '/')
    if reversed.all (· = '/') then reversed.reverse
    else (reversed.dropWhile (· = '/')).reverse

theorem not_isPattern_of_all_slash {cs : List Char} (slashes : cs.all (· = '/') = true) :
    Wildcard.isPattern cs = false := by
  rw [Wildcard.isPattern, List.any_eq_false]
  intro c member
  have := List.all_eq_true.1 slashes c member
  simp_all

theorem length_directoryOf_lt {cs : List Char}
    (pattern : Wildcard.isPattern (directoryOf cs) = true) :
    (directoryOf cs).length < cs.length := by
  have reversed_le := (List.dropWhile_sublist (l := cs.reverse) (· ≠ '/')).length_le
  have slash := List.head?_dropWhile_not (· ≠ '/') cs.reverse
  unfold directoryOf at pattern ⊢
  generalize cs.reverse.dropWhile (· ≠ '/') = reversed at *
  dsimp only at pattern ⊢
  split at pattern
  · rename_i slashes
    rw [not_isPattern_of_all_slash (by simpa using slashes)] at pattern
    contradiction
  · rename_i other
    simp only [if_neg other]
    cases reversed with
    | nil => simp at other
    | cons c rest =>
        have starts : c = '/' := by simpa using slash
        have rest_le := (List.dropWhile_sublist (l := rest) (· = '/')).length_le
        simp only [List.length_cons, List.length_reverse] at reversed_le
        simp only [starts, decide_true, List.dropWhile_cons_of_pos, List.length_reverse]
        omega

/-- All spelled paths that fit a pattern, the last name of which is looked up in every directory
that the names before it spell. -/
def expandPattern (tree : Tree) (directoriesOnly : Bool) (cs : List Char) : List String :=
    let directory := directoryOf cs
    let name := lastName cs
    let spelling := String.ofList cs
    if !Wildcard.isPattern cs then
      let found :=
        if name.isEmpty then (entryAt? tree (String.ofList directory)).any (!·.2.isFile)
        else (entryAt? tree spelling).isSome
      if found then [spelling] else []
    else if directory.isEmpty then
      fittingNames tree "" (String.ofList name) directoriesOnly
    else
      let directories :=
        if _pattern : Wildcard.isPattern (directoryOf cs) = true then
          expandPattern tree true (directoryOf cs)
        else [String.ofList directory]
      directories.flatMap fun directory =>
        let names :=
          if Wildcard.isPattern name then
            fittingNames tree directory (String.ofList name) directoriesOnly
          else if name.isEmpty then
            if (entryAt? tree directory).any (!·.2.isFile) then [""] else []
          else if (entryAt? tree (below directory (String.ofList name))).isSome then
            [String.ofList name]
          else []
        names.map (below directory)
termination_by cs.length
decreasing_by exact length_directoryOf_lt _pattern

def archives (tree : Tree) (directory : Path) : List String :=
    match tree.locate directory with
    | .ok (location, some .directory) =>
        sorted (((tree.namesIn location).filter (matchesWildcard "*.jar")).map fun name =>
          (directory.join (Path.ofString name)).text)
    | _ => []

/-- What an entry contributes: the paths that fit a pattern, the archives of a directory, or the
entry itself. -/
def expandEntry (tree : Tree) (entry : String) : Except Fault (List String) :=
    if Wildcard.isPattern entry.toList then
      .ok (sorted (expandPattern tree false entry.toList))
    else
      match tree.isDirectory (Path.ofString entry) with
      | .ok true => .ok (archives tree (Path.ofString entry))
      | .ok false => .ok [entry]
      | .error refusal => .error (.refused refusal)

def entriesOf (classPath : String) : List String :=
    ((pieces ':' classPath.toList).map strip |>.filter (· ≠ [])).map String.ofList

/-- The class path: what its entries contribute and then the archives of the home, each once. -/
def classPath (tree : Tree) (environment : Environment) : Except Fault (List String) := do
    let listed ← (entriesOf (environment.classPath.getD "")).mapM (expandEntry tree)
    let home ←
      match environment.home with
      | none | some "" => pure []
      | some home => expandEntry tree ((Path.ofString home).join (Path.ofString "lib")).text
    return (listed.flatten ++ home).eraseDups

def settings (tree : Tree) (environment : Environment) : Except Fault Settings := do
    let classPath ← classPath tree environment
    let library := environment.library.filter (· ≠ "")
    match shellWords (environment.arguments.getD "") with
    | .ok arguments => return ⟨classPath, library, arguments⟩
    | .error unfinished => throw (.value (.unfinishedWord unfinished))

end DexBrowser.Machine

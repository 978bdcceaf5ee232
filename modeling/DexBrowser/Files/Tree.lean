import DexBrowser.Path
import DexBrowser.Text.Printable

/-!
A tree of directories and files, and what can be done with it. Places are lists of names from the
root. Files that may not be read and directories that may not be entered are barred, which bears on
looking at an input and on the class path; everything may be written. Main statements: what is put
at a place is found there, and every other place keeps what it holds.
-/

namespace DexBrowser.Files

/-! ## Refusals -/

inductive Reason where
  | missing
  | denied
  | exists
  | notDirectory
  | isDirectory
  | nameTooLong
  | noSpace
  | fileTooLarge
  | brokenDevice
  deriving DecidableEq, Repr

namespace Reason

def number : Reason → Nat
  | missing => 2
  | denied => 13
  | .exists => 17
  | notDirectory => 20
  | isDirectory => 21
  | nameTooLong => 36
  | noSpace => 28
  | fileTooLarge => 27
  | brokenDevice => 5

def description : Reason → String
  | missing => "No such file or directory"
  | denied => "Permission denied"
  | .exists => "File exists"
  | notDirectory => "Not a directory"
  | isDirectory => "Is a directory"
  | nameTooLong => "File name too long"
  | noSpace => "No space left on device"
  | fileTooLarge => "File too large"
  | brokenDevice => "Input/output error"

/-- A path is found fault with, and not what is put into an open file. -/
def concernsPath : Reason → Bool
  | noSpace | fileTooLarge | brokenDevice => false
  | _ => true

end Reason

structure Refusal where
  reason : Reason
  path : Path
  deriving DecidableEq, Repr

namespace Refusal

def message (refusal : Refusal) : String :=
    "[Errno " ++ toString refusal.reason.number ++ "] " ++ refusal.reason.description ++
      if refusal.reason.concernsPath then ": " ++ Text.quoted refusal.path.text else ""

end Refusal

/-! ## Trees -/

inductive Entry where
  | file (content : ByteArray)
  | directory
  deriving Inhabited

namespace Entry

instance : DecidableEq Entry
  | file first, file second =>
      if same : first.data = second.data then isTrue (congrArg file (ByteArray.ext same))
      else isFalse fun equal => same (congrArg ByteArray.data (file.inj equal))
  | file _, directory => isFalse Entry.noConfusion
  | directory, file _ => isFalse Entry.noConfusion
  | directory, directory => isTrue rfl

def isFile : Entry → Bool
  | .file _ => true
  | .directory => false

end Entry

abbrev Location := List String

structure Tree where
  entries : List (Location × Entry) := []
  workingDirectory : Location := []
  barred : List Location := []
  deriving Inhabited

namespace Tree

/-- What stands at a place. The root is a directory. -/
def get? (tree : Tree) : Location → Option Entry
  | [] => some .directory
  | location => (tree.entries.find? (·.1 == location)).map (·.2)

def update (location : Location) (entry : Entry) :
    List (Location × Entry) → List (Location × Entry)
  | [] => [(location, entry)]
  | e :: rest =>
      if e.1 == location then (location, entry) :: rest else e :: update location entry rest

def put (tree : Tree) (location : Location) (entry : Entry) : Tree :=
    { tree with entries := update location entry tree.entries }

def nameLimit : Nat := 255
def pathLimit : Nat := 4095

/-- Goes from a place down a list of names. The last of them need not stand for anything; the
others must be directories. -/
def walk (tree : Tree) : (here : Location) → Option Entry → List String →
    Except Reason (Location × Option Entry)
  | here, entry, [] => .ok (here, entry)
  | _, none, _ :: _ => .error .missing
  | _, some (.file _), _ :: _ => .error .notDirectory
  | here, some .directory, name :: rest =>
      if name = "." then walk tree here (some .directory) rest
      else if name = ".." then walk tree here.dropLast (some .directory) rest
      else if nameLimit < name.utf8ByteSize then .error .nameTooLong
      else walk tree (here ++ [name]) (tree.get? (here ++ [name])) rest

def start (tree : Tree) (anchor : Anchor) : Location :=
    if anchor = .relative then tree.workingDirectory else []

def locate (tree : Tree) (path : Path) : Except Reason (Location × Option Entry) :=
    if pathLimit < path.text.utf8ByteSize then .error .nameTooLong
    else tree.walk (tree.start path.anchor) (some .directory) path.parts

/-- The reasons that say no more than that nothing is there. -/
def isAbsence (reason : Reason) : Bool :=
    reason = .missing || reason = .notDirectory

/-- What a path stands for; an overlong path is refused. -/
def stat (tree : Tree) (path : Path) : Except Refusal (Option Entry) :=
    match tree.locate path with
    | .ok (_, entry) => .ok entry
    | .error reason => if isAbsence reason then .ok none else .error ⟨reason, path⟩

/-- The names go through a directory that is barred, before anything else is in the way. -/
def bars (tree : Tree) (start : Location) (names : List String) : Bool :=
    (List.range names.length).any fun k =>
      match tree.walk start (some .directory) (names.take k) with
      | .ok (location, some .directory) => tree.barred.contains location
      | _ => false

/-- The names on a path as it is written out. -/
def writtenNames (path : Path) : List String :=
    if path.anchor = .relative ∧ path.parts = [] then ["."] else path.parts

def isBarred (tree : Tree) (path : Path) : Bool :=
    path.text.utf8ByteSize ≤ pathLimit && tree.bars (tree.start path.anchor) (writtenNames path)

/-- Looks at what a path stands for, on a way that may be gone. -/
def look (tree : Tree) (path : Path) (tell : Option Entry → Bool) : Except Refusal Bool :=
    if path.holdsNul then .ok false
    else if tree.isBarred path then .error ⟨.denied, path⟩
    else (tree.stat path).map tell

def isFile (tree : Tree) (path : Path) : Except Refusal Bool :=
    tree.look path (·.any Entry.isFile)

def isDirectory (tree : Tree) (path : Path) : Except Refusal Bool :=
    tree.look path (·.any (!·.isFile))

def isReadable (tree : Tree) (path : Path) : Bool :=
    match tree.locate path with
    | .ok (location, _) => !tree.barred.contains location
    | .error _ => false

def read (tree : Tree) (path : Path) : Except Refusal ByteArray :=
    match tree.locate path with
    | .ok (_, some (.file content)) => .ok content
    | .ok (_, some .directory) => .error ⟨.isDirectory, path⟩
    | .ok (_, none) => .error ⟨.missing, path⟩
    | .error reason => .error ⟨reason, path⟩

def fetch (tree : Tree) (path : Path) : Except Refusal ByteArray := do
    let content ← tree.read path
    if tree.isReadable path then return content else throw ⟨.denied, path⟩

def makeDirectory (tree : Tree) (path : Path) : Except Reason Tree :=
    match tree.locate path with
    | .ok (location, none) => .ok (tree.put location .directory)
    | .ok (_, some _) => .error .exists
    | .error reason => .error reason

/-- The outcome when a directory could not be made: it is no failure if one is there. -/
def acceptDirectory (tree : Tree) (path : Path) (reason : Reason) : Except Refusal Unit :=
    if path.holdsNul then .error ⟨reason, path⟩
    else
      match tree.stat path with
      | .ok (some .directory) => .ok ()
      | .ok _ => .error ⟨reason, path⟩
      | .error refusal => .error refusal

def ensureDirectory (tree : Tree) (path : Path) : Tree × Except Refusal Unit :=
    match tree.makeDirectory path with
    | .ok tree => (tree, .ok ())
    | .error reason => (tree, tree.acceptDirectory path reason)

/-- Makes sure that a directory and all on the way to it are there. The full path is tried
first. -/
def ensureDirectories (tree : Tree) (path : Path) : Tree × Except Refusal Unit :=
    match tree.makeDirectory path with
    | .ok tree => (tree, .ok ())
    | .error .missing =>
        if _shorter : path.parent.parts.length < path.parts.length then
          match tree.ensureDirectories path.parent with
          | (tree, .ok ()) => tree.ensureDirectory path
          | (tree, .error refusal) => (tree, .error refusal)
        else (tree, .error ⟨.missing, path⟩)
    | .error reason => (tree, tree.acceptDirectory path reason)
termination_by path.parts.length

/-- Opens a file for writing, at its place. It is there then, and empty. -/
def openEmpty (tree : Tree) (path : Path) : Except Refusal (Location × Tree) :=
    match tree.locate path with
    | .ok (_, some .directory) => .error ⟨.isDirectory, path⟩
    | .ok (location, _) => .ok (location, tree.put location (.file .empty))
    | .error reason => .error ⟨reason, path⟩

def namesIn (tree : Tree) (location : Location) : List String :=
    tree.entries.filterMap fun (place, _) =>
      if place.dropLast = location then place.getLast? else none

/-! ## Laws -/

theorem find?_update_same (location : Location) (entry : Entry)
    (entries : List (Location × Entry)) :
    (update location entry entries).find? (·.1 == location) = some (location, entry) := by
  induction entries with
  | nil => simp [update]
  | cons e rest ih =>
      by_cases same : e.1 = location
      · simp [update, same]
      · simp [update, same, ih]

theorem find?_update_other {location other : Location} (distinct : other ≠ location)
    (entry : Entry) (entries : List (Location × Entry)) :
    (update location entry entries).find? (·.1 == other) = entries.find? (·.1 == other) := by
  induction entries with
  | nil => simp [update, Ne.symm distinct]
  | cons e rest ih =>
      by_cases same : e.1 = location
      · simp [update, same, Ne.symm distinct]
      · by_cases found : e.1 = other
        · simp [update, found, distinct]
        · simp [update, same, found, ih]

theorem get?_put_same (tree : Tree) {location : Location} (entry : Entry)
    (below : location ≠ []) : (tree.put location entry).get? location = some entry := by
  cases location with
  | nil => contradiction
  | cons name rest => simp [get?, put, find?_update_same]

theorem get?_put_other (tree : Tree) {location other : Location} (entry : Entry)
    (distinct : other ≠ location) :
    (tree.put location entry).get? other = tree.get? other := by
  cases other with
  | nil => rfl
  | cons name rest => simp [get?, put, find?_update_other distinct]

theorem update_update (location : Location) (first second : Entry)
    (entries : List (Location × Entry)) :
    update location second (update location first entries) = update location second entries := by
  induction entries with
  | nil => simp [update]
  | cons e rest ih =>
      by_cases same : e.1 = location
      · simp [update, same]
      · simp [update, same, ih]

theorem put_put (tree : Tree) (location : Location) (first second : Entry) :
    (tree.put location first).put location second = tree.put location second := by
  rw [put, put, put, update_update]

end Tree

end DexBrowser.Files

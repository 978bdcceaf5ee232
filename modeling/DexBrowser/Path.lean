import DexBrowser.Text.Pieces

/-!
Paths as lists of parts. A path is relative, or starts at the root with one slash or with two.
Empty parts and single dots mean nothing and are dropped. Main statements: joining to an absolute
path gives that path, and joining a relative path appends its parts.
-/

namespace DexBrowser

inductive Anchor where
  | relative
  | root
  | doubleRoot
  deriving DecidableEq, Repr

def Anchor.text : Anchor → String
  | relative => ""
  | root => "/"
  | doubleRoot => "//"

/-- A part is not empty, is not a single dot and holds no slash. -/
def isPart (part : String) : Bool :=
    part != "" && part != "." && !part.toList.contains '/'

structure Path where
  anchor : Anchor
  parts : List String
  clean : ∀ part ∈ parts, isPart part = true
  deriving DecidableEq, Repr

namespace Path

/-- Three and more leading slashes count as one. -/
def anchorOf : List Char → Anchor
  | '/' :: '/' :: '/' :: _ => .root
  | '/' :: '/' :: _ => .doubleRoot
  | '/' :: _ => .root
  | _ => .relative

def ofPieces (anchor : Anchor) (pieces : List String) : Path :=
    ⟨anchor, pieces.filter isPart, fun _ member => (List.mem_filter.1 member).2⟩

def ofString (text : String) : Path :=
    ofPieces (anchorOf text.toList) ((Text.pieces '/' text.toList).map String.ofList)

/-- The path written out; one that has neither root nor parts is a dot. -/
def text (path : Path) : String :=
    match path.anchor, path.parts with
    | .relative, [] => "."
    | anchor, parts => anchor.text ++ "/".intercalate parts

def parent (path : Path) : Path :=
    ⟨path.anchor, path.parts.dropLast, fun part member =>
      path.clean part (List.dropLast_subset _ member)⟩

def name (path : Path) : String :=
    path.parts.getLastD ""

/-- The end of a name from its last dot on, unless that dot is its first or its last
character. -/
def suffixOf (name : List Char) : List Char :=
    let afterDot := name.reverse.takeWhile (· ≠ '.')
    let before := (name.reverse.dropWhile (· ≠ '.')).drop 1
    if afterDot.isEmpty || before.isEmpty then [] else '.' :: afterDot.reverse

def suffix (path : Path) : String :=
    String.ofList (suffixOf path.name.toList)

def isAbsolute (path : Path) : Bool :=
    path.anchor != .relative

/-- A path seen from another one; an absolute path stands for itself. -/
def join (path other : Path) : Path :=
    if other.isAbsolute then other
    else
      ⟨path.anchor, path.parts ++ other.parts, fun part member =>
        (List.mem_append.1 member).elim (path.clean part) (other.clean part)⟩

def holdsNul (path : Path) : Bool :=
    path.parts.any fun part => part.toList.contains (Char.ofNat 0)

@[simp] theorem join_absolute {path other : Path} (absolute : other.isAbsolute = true) :
    path.join other = other := by
  simp [join, absolute]

theorem parts_join {path other : Path} (relative : other.isAbsolute = false) :
    (path.join other).parts = path.parts ++ other.parts := by
  simp [join, relative]

theorem anchor_join {path other : Path} (relative : other.isAbsolute = false) :
    (path.join other).anchor = path.anchor := by
  simp [join, relative]

end Path

end DexBrowser

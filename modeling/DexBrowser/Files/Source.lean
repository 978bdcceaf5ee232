import DexBrowser.Fault
import DexBrowser.Files.Tree
import DexBrowser.Managed.Value

/-!
Where code is written: what a caller may name as a path, and the writing of a source file with the
directories it needs.
-/

namespace DexBrowser.Files

open Managed
open Text.Utf8 (CodePoint codePoints)

/-- What an object that stands for a path says when it is asked for it: a text, bytes or something
of another kind. -/
inductive PathAnswer where
  | text (text : String)
  | bytes
  | ofKind (kind : String)

/-- What may be named as a path. What stands for a path may throw when it is asked for it, and when
it is to show itself. -/
inductive PathArgument where
  | text (text : String)
  | path (path : Path)
  | pathLike (kind : String) (asked : Except String PathAnswer) (shown : Except String String)
  | other (value : Value)

namespace PathArgument

/-- A path, from a text or from what stands for one; bytes do not. -/
def toPath : PathArgument → Except Fault Path
  | text s => .ok (Path.ofString s)
  | path p => .ok p
  | pathLike kind asked shown =>
      match asked with
      | .ok (.text s) => .ok (Path.ofString s)
      | .ok .bytes =>
          match shown with
          | .ok shown => .error (.notPath shown)
          | .error what => .error (.thrown what)
      | .ok (.ofKind answer) => .error (.kind (.notPathText kind answer))
      | .error what => .error (.thrown what)
  | other value => (value.shown fun _ => .ok "").bind fun shown => .error (.notPath shown)

end PathArgument

/-! ## Writing -/

/-- How much of what is put into an open file is taken: all of it, or at most so many bytes from the
front, and there is a reason for taking no more. -/
inductive Room where
  | ample
  | upTo (count : Nat) (reason : Reason)

namespace Room

def take (room : Room) (content : ByteArray) : ByteArray × Except Reason Unit :=
    match room with
    | ample => (content, .ok ())
    | upTo count reason =>
        if content.size ≤ count then (content, .ok ())
        else (content.extract 0 count, .error reason)

end Room

namespace Tree

def fill (room : Room) (tree : Tree) (location : Location) (path : Path) (text : List CodePoint) :
    Tree × Except Fault Unit :=
    match Text.Utf8.encode text with
    | .error why => (tree, .error (.value (.notEncodable why)))
    | .ok content =>
        let (taken, ended) := room.take content
        (tree.put location (.file taken),
          ended.mapError fun reason => .notWritten ⟨reason, path⟩ path)

/-- Writes a text to a file, over what it may hold. Directories on the way are made. The file is
emptied first, so that it is lost if the text cannot be encoded or finds no room. -/
def writeText (room : Room) (tree : Tree) (path : Path) (text : List CodePoint) :
    Tree × Except Fault Unit :=
    if path.parent.holdsNul then (tree, .error (.value .nulCharacter))
    else
      match tree.ensureDirectories path.parent with
      | (tree, .error refusal) => (tree, .error (.notWritten refusal path))
      | (tree, .ok ()) =>
          if path.holdsNul then (tree, .error (.value .nulCharacter))
          else
            match tree.openEmpty path with
            | .error refusal => (tree, .error (.notWritten refusal path))
            | .ok (location, opened) => opened.fill room location path text

def writeSource (tree : Tree) (path : Path) (code : String) : Tree × Except Fault Unit :=
    tree.writeText .ample path (codePoints code)

end Tree

/-! ## Laws -/

/-- What is in an open file once a text was put into it, and how that ended. -/
def Room.leaves (room : Room) (path : Path) (text : List CodePoint) :
    ByteArray × Except Fault Unit :=
    match Text.Utf8.encode text with
    | .error why => (.empty, .error (.value (.notEncodable why)))
    | .ok content =>
        ((room.take content).1,
          (room.take content).2.mapError fun reason => .notWritten ⟨reason, path⟩ path)

namespace Tree

/-- Puts a whole content at the place of a file, over what it may hold. -/
def write (tree : Tree) (path : Path) (content : ByteArray) : Except Refusal Tree :=
    match tree.locate path with
    | .ok (_, some .directory) => .error ⟨.isDirectory, path⟩
    | .ok (location, _) => .ok (tree.put location (.file content))
    | .error reason => .error ⟨reason, path⟩

/-- To fill a file that was opened is to put there at once what it is left with. -/
theorem fill_openEmpty (room : Room) (tree : Tree) (path : Path)
    (text : List CodePoint) :
    (match tree.openEmpty path with
      | .error refusal => (tree, .error (.notWritten refusal path))
      | .ok (location, opened) => opened.fill room location path text) =
      match tree.write path (room.leaves path text).1 with
      | .ok after => (after, (room.leaves path text).2)
      | .error refusal => (tree, .error (.notWritten refusal path)) := by
  have filled (location : Location) :
      (tree.put location (.file .empty)).fill room location path text =
        (tree.put location (.file (room.leaves path text).1), (room.leaves path text).2) := by
    unfold fill Room.leaves
    split
    · rfl
    · dsimp only
      rw [put_put]
  unfold openEmpty write
  cases tree.locate path with
  | error reason => rfl
  | ok found =>
      obtain ⟨location, entry⟩ := found
      cases entry with
      | none => exact filled location
      | some entry =>
          cases entry with
          | directory => rfl
          | file content => exact filled location

theorem writeText_eq (room : Room) (tree : Tree) (path : Path)
    (text : List CodePoint) :
    tree.writeText room path text =
      if path.parent.holdsNul then (tree, .error (.value .nulCharacter))
      else
        match tree.ensureDirectories path.parent with
        | (tree, .error refusal) => (tree, .error (.notWritten refusal path))
        | (tree, .ok ()) =>
            if path.holdsNul then (tree, .error (.value .nulCharacter))
            else
              match tree.write path (room.leaves path text).1 with
              | .ok after => (after, (room.leaves path text).2)
              | .error refusal => (tree, .error (.notWritten refusal path)) := by
  unfold writeText
  simp only [fill_openEmpty]

theorem writeSource_eq (tree : Tree) (path : Path) (code : String) :
    tree.writeSource path code =
      if path.parent.holdsNul then (tree, .error (.value .nulCharacter))
      else
        match tree.ensureDirectories path.parent with
        | (tree, .error refusal) => (tree, .error (.notWritten refusal path))
        | (tree, .ok ()) =>
            if path.holdsNul then (tree, .error (.value .nulCharacter))
            else
              match tree.write path code.toUTF8 with
              | .ok after => (after, .ok ())
              | .error refusal => (tree, .error (.notWritten refusal path)) := by
  have whole : Room.ample.leaves path (codePoints code) = (code.toUTF8, .ok ()) := by
    rw [Room.leaves, Text.Utf8.encode_codePoints]
    rfl
  rw [writeSource, writeText_eq, whole]

end Tree

end DexBrowser.Files

import DexBrowser.Text.Hex

/-!
UTF-8. To decode it, a sequence is a leading byte and the continuation bytes it calls for; the
first sequence that is none is reported with its place, its bytes and what is wrong. A text in
which halves of surrogate pairs stand alone has no encoding.
-/

namespace DexBrowser.Text.Utf8

inductive Defect where
  | start
  | continuation
  | cut
  deriving DecidableEq, Repr

structure Malformed where
  position : Nat
  bytes : List UInt8
  defect : Defect
  deriving DecidableEq, Repr

def trailing? (lead : Nat) : Option Nat :=
    if lead < 0x80 then some 0
    else if lead < 0xC2 then none
    else if lead < 0xE0 then some 1
    else if lead < 0xF0 then some 2
    else if lead < 0xF5 then some 3
    else none

/-- The byte may come right after the leading byte. Overlong forms, surrogates and numbers past
the last character are kept out here. -/
def isSecond (lead : Nat) (b : UInt8) : Bool :=
    let low := if lead = 0xE0 then 0xA0 else if lead = 0xF0 then 0x90 else 0x80
    let high := if lead = 0xED then 0x9F else if lead = 0xF4 then 0x8F else 0xBF
    low ≤ b.toNat && b.toNat ≤ high

def isContinuation (b : UInt8) : Bool :=
    0x80 ≤ b.toNat && b.toNat ≤ 0xBF

/-- The bytes after a leading byte that go on with its sequence, at most `count`. -/
def continuations (lead count : Nat) : List UInt8 → List UInt8
  | [] => []
  | b :: rest =>
      if 0 < count && isSecond lead b then b :: (rest.take (count - 1)).takeWhile isContinuation
      else []

def leadBits (lead count : Nat) : Nat :=
    match count with
    | 0 => lead
    | 1 => lead - 0xC0
    | 2 => lead - 0xE0
    | _ => lead - 0xF0

def codePoint (lead : Nat) (tail : List UInt8) : Nat :=
    tail.foldl (fun acc b => acc * 64 + (b.toNat - 0x80)) (leadBits lead tail.length)

def decodeFrom (position : Nat) : List UInt8 → Except Malformed (List Char)
  | [] => .ok []
  | b :: rest =>
      match trailing? b.toNat with
      | none => .error ⟨position, [b], .start⟩
      | some count =>
          let tail := continuations b.toNat count rest
          if tail.length = count then
            (decodeFrom (position + 1 + count) (rest.drop count)).map
              (Char.ofNat (codePoint b.toNat tail) :: ·)
          else
            let defect := if tail.length = rest.length then .cut else .continuation
            .error ⟨position, b :: tail, defect⟩
termination_by bs => bs.length
decreasing_by
    simp only [List.length_drop, List.length_cons]
    omega

def decode (bytes : ByteArray) : Except Malformed String :=
    (decodeFrom 0 bytes.toList).map String.ofList

def Defect.description : Defect → String
  | start => "invalid start byte"
  | continuation => "invalid continuation byte"
  | cut => "unexpected end of data"

namespace Malformed

/-- The bytes by number if there is one, else by their positions. -/
def message (malformed : Malformed) : String :=
    let subject :=
      match malformed.bytes with
      | [b] =>
          "byte 0x" ++ String.ofList (hexFixed 2 b.toNat) ++ " in position " ++
            toString malformed.position
      | bytes =>
          "bytes in position " ++ toString malformed.position ++ "-" ++
            toString (malformed.position + bytes.length - 1)
    "'utf-8' codec can't decode " ++ subject ++ ": " ++ malformed.defect.description

end Malformed

/-! ## Encoding -/

/-- What texts are made of: characters, and halves of surrogate pairs that stand alone. -/
inductive CodePoint where
  | character (c : Char)
  | surrogate (half : Fin 0x800)
  deriving DecidableEq, Repr

/-- The first halves of surrogate pairs that stand together, and where. -/
structure Unencodable where
  position : Nat
  halves : List (Fin 0x800)
  deriving DecidableEq, Repr

namespace Unencodable

def message (unencodable : Unencodable) : String :=
    let subject :=
      match unencodable.halves with
      | [half] =>
          "character '\\u" ++ String.ofList (hexFixed 4 (0xD800 + half)) ++ "' in position " ++
            toString unencodable.position
      | halves =>
          "characters in position " ++ toString unencodable.position ++ "-" ++
            toString (unencodable.position + halves.length - 1)
    "'utf-8' codec can't encode " ++ subject ++ ": surrogates not allowed"

end Unencodable

def codePoints (text : String) : List CodePoint :=
    text.toList.map .character

def leadingHalves : List CodePoint → List (Fin 0x800)
  | .surrogate half :: rest => half :: leadingHalves rest
  | _ => []

def charactersFrom (position : Nat) : List CodePoint → Except Unencodable (List Char)
  | [] => .ok []
  | .character c :: rest => (charactersFrom (position + 1) rest).map (c :: ·)
  | .surrogate half :: rest => .error ⟨position, half :: leadingHalves rest⟩

def encode (text : List CodePoint) : Except Unencodable ByteArray :=
    (charactersFrom 0 text).map fun cs => (String.ofList cs).toUTF8

theorem charactersFrom_characters (position : Nat) (cs : List Char) :
    charactersFrom position (cs.map .character) = .ok cs := by
  induction cs generalizing position with
  | nil => rfl
  | cons c cs ih =>
      rw [List.map_cons, charactersFrom, ih]
      rfl

@[simp] theorem encode_codePoints (text : String) : encode (codePoints text) = .ok text.toUTF8 := by
  rw [encode, codePoints, charactersFrom_characters, Except.map, String.ofList_toList]

end DexBrowser.Text.Utf8

import DexBrowser.Text.Blank

/-!
Integers as text. Digits may be grouped by single underscores, and there is a limit to how many a
number may have that is read or written out.
-/

namespace DexBrowser.Number

open Text

@[irreducible]
def digitLimit : Nat := 4300

/-- An integer of more digits than are written out. -/
def isLong (i : Int) : Bool :=
    Nat.pow 10 digitLimit ≤ i.natAbs

theorem isLong_eq_false {i : Int} :
    isLong i = false ↔ i.natAbs < Nat.pow 10 digitLimit := by
  simp [isLong]

/-- The zeros of the decimal digit blocks of Unicode 14; each is followed by its nine others. -/
def digitZeros : List Nat :=
  [
    0x30, 0x660, 0x6F0, 0x7C0, 0x966, 0x9E6, 0xA66, 0xAE6, 0xB66, 0xBE6, 0xC66, 0xCE6, 0xD66,
    0xDE6, 0xE50, 0xED0, 0xF20, 0x1040, 0x1090, 0x17E0, 0x1810, 0x1946, 0x19D0, 0x1A80, 0x1A90,
    0x1B50, 0x1BB0, 0x1C40, 0x1C50, 0xA620, 0xA8D0, 0xA900, 0xA9D0, 0xA9F0, 0xAA50, 0xABF0,
    0xFF10, 0x104A0, 0x10D30, 0x11066, 0x110F0, 0x11136, 0x111D0, 0x112F0, 0x11450, 0x114D0,
    0x11650, 0x116C0, 0x11730, 0x118E0, 0x11950, 0x11C50, 0x11D50, 0x11DA0, 0x16A60, 0x16AC0,
    0x16B50, 0x1D7CE, 0x1D7D8, 0x1D7E2, 0x1D7EC, 0x1D7F6, 0x1E140, 0x1E2F0, 0x1E950, 0x1FBF0
  ]

def digitValue? (c : Char) : Option Nat :=
    (digitZeros.find? fun first => first ≤ c.toNat && c.toNat < first + 10).map (c.toNat - ·)

def asciiDigitValue? (c : Char) : Option Nat :=
    if '0' ≤ c ∧ c ≤ '9' then some (c.toNat - 48) else none

/-- Digits with single underscores between them, read into the number `acc` holds so far. The
flag says whether a digit comes right before. -/
def readDigits (digit? : Char → Option Nat) : (afterDigit : Bool) → (acc : Nat) → List Char →
    Option Nat
  | afterDigit, acc, [] => if afterDigit then some acc else none
  | afterDigit, acc, c :: rest =>
      if c = '_' then if afterDigit then readDigits digit? false acc rest else none
      else
        match digit? c with
        | some d => readDigits digit? true (acc * 10 + d) rest
        | none => none

def readSigned (magnitude? : List Char → Option Nat) : List Char → Option Int
  | '-' :: rest => (magnitude? rest).map fun n => -(n : Int)
  | '+' :: rest => (magnitude? rest).map Int.ofNat
  | cs => (magnitude? cs).map Int.ofNat

def dropSign : List Char → List Char
  | '-' :: rest => rest
  | '+' :: rest => rest
  | cs => cs

/-- How many digits a text starts with, if it starts with a number and they are too many to be
read. What follows them is not looked at. -/
def excessDigits? (s : String) : Option Nat :=
    let run :=
      (dropSign (stripSpacing s.toList)).takeWhile fun c => c = '_' || (digitValue? c).isSome
    let count := run.countP fun c => (digitValue? c).isSome
    if digitLimit < count ∧ (readDigits digitValue? false 0 run).isSome then some count else none

/-- An integer between spacing characters, in digits of any script. -/
def integer? (s : String) : Option Int :=
    if (excessDigits? s).isSome then none
    else readSigned (readDigits digitValue? false 0) (stripSpacing s.toList)

/-- The text without a fraction of zeros; a point needs at least one zero after it. -/
def dropZeroFraction (cs : List Char) : List Char :=
    let fraction := cs.dropWhile (· ≠ '.')
    if 2 ≤ fraction.length ∧ (fraction.drop 1).all (· = '0') then cs.takeWhile (· ≠ '.') else cs

/-- An integer in ASCII digits between spacing characters; a fraction of zeros may follow. -/
def settingInteger? (s : String) : Option Int :=
    readSigned (fun cs => readDigits asciiDigitValue? false 0 (dropZeroFraction cs))
      (stripSpacing s.toList)

end DexBrowser.Number

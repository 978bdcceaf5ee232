import DexBrowser.Text.Hex
import DexBrowser.Validation

/-!
The lax validator. Its reader takes what the grammar of JSON allows and besides it the three words
`NaN`, `Infinity` and `-Infinity`; it refuses raw control characters, lone surrogates, leading
zeros and nesting deeper than a given limit, for which empty lists and objects do not count. Single
values may be spelled otherwise than they are: booleans as numbers or words, integers as texts.
-/

namespace DexBrowser.Json

open Number Text

def isGap (c : Char) : Bool :=
    c = ' ' || c = '\t' || c = '\n' || c = '\r'

def dropGaps (cs : List Char) : List Char :=
    cs.dropWhile isGap

def dropWord? : (word : List Char) → List Char → Option (List Char)
  | [], cs => some cs
  | w :: word, c :: cs => if w = c then dropWord? word cs else none
  | _ :: _, [] => none

/-! ## Numbers -/

def isDigit (c : Char) : Bool :=
    '0' ≤ c && c ≤ '9'

def digitsValue (cs : List Char) : Nat :=
    cs.foldl (fun acc c => acc * 10 + (c.toNat - 48)) 0

def readFraction? : List Char → Option (List Char × List Char)
  | '.' :: cs =>
      let digits := cs.takeWhile isDigit
      if digits.isEmpty then none else some (digits, cs.dropWhile isDigit)
  | cs => some ([], cs)

def readExponent? (cs : List Char) : Option (Option Int × List Char) :=
    match cs with
    | c :: rest =>
        if c = 'e' ∨ c = 'E' then
          let (negative, rest) :=
            match rest with
            | '-' :: more => (true, more)
            | '+' :: more => (false, more)
            | _ => (false, rest)
          let digits := rest.takeWhile isDigit
          if digits.isEmpty then none
          else
            let power : Int := digitsValue digits
            some (some (if negative then -power else power), rest.dropWhile isDigit)
        else some (none, cs)
    | [] => some (none, [])

/-- A number after its sign: whole if it has neither point nor exponent. -/
def readMagnitude? (negative : Bool) (cs : List Char) : Option (Json × List Char) := do
    let whole := cs.takeWhile isDigit
    let rest := cs.dropWhile isDigit
    guard (!whole.isEmpty && (whole.length == 1 || whole.head? != some '0'))
    let (fraction, afterFraction) ← readFraction? rest
    let (power, afterPower) ← readExponent? afterFraction
    if fraction.isEmpty && power.isNone then
      let n : Int := digitsValue whole
      return (.int (if negative then -n else n), rest)
    else
      let scale : Int := power.getD 0 - fraction.length
      return (.real (Binary64.ofDecimal negative (digitsValue (whole ++ fraction)) scale),
        afterPower)

/-! ## Texts -/

/-- The characters that follow a backslash with a letter of their own. -/
def shortEscape? (c : Char) : Option Char :=
    match c with
    | '"' => some '"'
    | '\\' => some '\\'
    | '/' => some '/'
    | 'b' => some (Char.ofNat 8)
    | 'f' => some (Char.ofNat 12)
    | 'n' => some '\n'
    | 'r' => some '\r'
    | 't' => some '\t'
    | _ => none

/-- The rest of a text after its opening quote, read into `acc`, which holds what was read so far
in reverse. -/
def readText? (acc : List Char) : List Char → Option (String × List Char)
  | '"' :: rest => some (String.ofList acc.reverse, rest)
  | '\\' :: 'u' :: a :: b :: c :: d :: '\\' :: 'u' :: e :: f :: g :: h :: rest =>
      match hexUnit? a b c d with
      | some high =>
          if 0xD800 ≤ high ∧ high < 0xDC00 then
            match hexUnit? e f g h with
            | some low =>
                if 0xDC00 ≤ low ∧ low < 0xE000 then
                  readText? (Char.ofNat (0x10000 + (high - 0xD800) * 0x400 + (low - 0xDC00)) :: acc)
                    rest
                else none
            | none => none
          else if 0xDC00 ≤ high ∧ high < 0xE000 then none
          else readText? (Char.ofNat high :: acc) ('\\' :: 'u' :: e :: f :: g :: h :: rest)
      | none => none
  | '\\' :: 'u' :: a :: b :: c :: d :: rest =>
      match hexUnit? a b c d with
      | some u =>
          if 0xD800 ≤ u ∧ u < 0xE000 then none else readText? (Char.ofNat u :: acc) rest
      | none => none
  | '\\' :: c :: rest =>
      match shortEscape? c with
      | some escaped => readText? (escaped :: acc) rest
      | none => none
  | c :: rest => if c = '\\' ∨ c.toNat < 0x20 then none else readText? (c :: acc) rest
  | [] => none

/-! ## Values

Every reader takes one character at least, so the length of the text bounds the steps. -/

mutual

/-- A value at the start of the text, nested at most `depth` deep where it is not empty. -/
def readValue? : (fuel depth : Nat) → List Char → Option (Json × List Char)
  | 0, _, _ => none
  | fuel + 1, depth, cs =>
      match cs with
      | '"' :: rest => (readText? [] rest).map fun (s, rest) => (.text s, rest)
      | '[' :: rest =>
          match dropGaps rest, depth with
          | ']' :: rest, _ => some (.list [], rest)
          | _, 0 => none
          | rest, depth + 1 =>
              (readItems? fuel depth rest).map fun (xs, rest) => (.list xs, rest)
      | '\x7b' :: rest =>
          match dropGaps rest, depth with
          | '\x7d' :: rest, _ => some (.record [], rest)
          | _, 0 => none
          | rest, depth + 1 =>
              (readMembers? fuel depth rest).map fun (ms, rest) => (.record ms, rest)
      | 't' :: rest => (dropWord? ['r', 'u', 'e'] rest).map (.bool true, ·)
      | 'f' :: rest => (dropWord? ['a', 'l', 's', 'e'] rest).map (.bool false, ·)
      | 'n' :: rest => (dropWord? ['u', 'l', 'l'] rest).map (.null, ·)
      | 'N' :: rest => (dropWord? ['a', 'N'] rest).map (.real .notANumber, ·)
      | 'I' :: rest => (dropWord? "nfinity".toList rest).map (.real (.infinite false), ·)
      | '-' :: 'I' :: rest => (dropWord? "nfinity".toList rest).map (.real (.infinite true), ·)
      | '-' :: rest => readMagnitude? true rest
      | cs => readMagnitude? false cs

def readItems? : (fuel depth : Nat) → List Char → Option (List Json × List Char)
  | 0, _, _ => none
  | fuel + 1, depth, cs =>
      match readValue? fuel depth (dropGaps cs) with
      | none => none
      | some (x, rest) =>
          match dropGaps rest with
          | ',' :: rest => (readItems? fuel depth rest).map fun (xs, rest) => (x :: xs, rest)
          | ']' :: rest => some ([x], rest)
          | _ => none

def readMembers? : (fuel depth : Nat) → List Char →
    Option (List (String × Json) × List Char)
  | 0, _, _ => none
  | fuel + 1, depth, cs =>
      match dropGaps cs with
      | '"' :: rest =>
          match readText? [] rest with
          | none => none
          | some (name, rest) =>
              match dropGaps rest with
              | ':' :: rest =>
                  match readValue? fuel depth (dropGaps rest) with
                  | none => none
                  | some (x, rest) =>
                      match dropGaps rest with
                      | ',' :: rest =>
                          (readMembers? fuel depth rest).map fun (ms, rest) =>
                            ((name, x) :: ms, rest)
                      | '\x7d' :: rest => some ([(name, x)], rest)
                      | _ => none
              | _ => none
      | _ => none

end

/-- The value that a whole text spells, nested at most `depth` deep. -/
def read? (depth : Nat) (text : String) : Option Json :=
    let cs := text.toList
    match readValue? (2 * cs.length + 2) depth (dropGaps cs) with
    | some (x, rest) => if (dropGaps rest).isEmpty then some x else none
    | none => none

/-! ## Single values -/

def trueWords : List String := ["1", "on", "t", "true", "y", "yes"]
def falseWords : List String := ["0", "off", "f", "false", "n", "no"]

/-- A boolean may also be the number 0 or 1, or a word in any case. -/
def boolean : Json → Checked Bool
  | .bool b => .ok b
  | .int i => if i = 0 then .ok false else if i = 1 then .ok true else .fail .unreadableBoolean
  | .real x =>
      match x.toInt? with
      | some i => if i = 0 then .ok false else if i = 1 then .ok true else .fail .unreadableBoolean
      | none => .fail .notBoolean
  | .text s =>
      let word := String.ofList (s.toList.map Char.toLower)
      if trueWords.contains word then .ok true
      else if falseWords.contains word then .ok false
      else .fail .unreadableBoolean
  | _ => .fail .notBoolean

/-- An integer may also be a boolean, a number without a fraction or a text that spells one. Of
numbers that are no integers, only those of 64 bits are taken. -/
def integer : Json → Checked Int
  | .int i => .ok i
  | .bool b => .ok (if b then 1 else 0)
  | .real x =>
      match x with
      | .finite .. =>
          match x.toInt? with
          | some i => if i.natAbs < Nat.pow 2 63 then .ok i else .fail .oversized
          | none => .fail .fractional
      | _ => .fail .notFinite
  | .text s =>
      if Number.digitLimit < s.length then .fail .oversized
      else
        match Number.settingInteger? s with
        | some i => .ok i
        | none => .fail .unreadableInteger
  | _ => .fail .notInteger

def string : Json → Checked String
  | .text s => .ok s
  | _ => .fail .notText

mutual

/-- Some integer in a value has more digits than are read. -/
def holdsLong : Json → Bool
  | .int i => Number.isLong i
  | .list xs => holdsLongItem xs
  | .record ms => holdsLongMember ms
  | _ => false

def holdsLongItem : List Json → Bool
  | [] => false
  | x :: xs => x.holdsLong || holdsLongItem xs

def holdsLongMember : List (String × Json) → Bool
  | [] => false
  | m :: ms => m.2.holdsLong || holdsLongMember ms

end

def depthLimit : Nat := 200

end DexBrowser.Json

namespace DexBrowser.Validator

def lax : Validator where
  parse text := (Json.read? Json.depthLimit text).filter (!·.holdsLong)
  boolean := Json.boolean
  integer := Json.integer
  string := Json.string
  boolean_bool _ := rfl
  integer_int _ := rfl

end DexBrowser.Validator

/-!
Digits in base sixteen, written in lower case and read in either, and Unicode escapes, which are
spelled with them: a character past ASCII is written as the UTF-16 units of its encoding, each as a
backslash, the letter u and four digits. The reader of escapes takes them and plain characters apart
into units and pairs the surrogates again. Main statements: a digit that was written is read back,
escaping goes character by character, and the escape of a unit is read as that unit.
-/

namespace DexBrowser.Text

def hexDigit (n : Nat) : Char :=
    if n < 10 then Char.ofNat (48 + n) else Char.ofNat (87 + n)

def hexFixed : (width : Nat) → Nat → List Char
  | 0, _ => []
  | width + 1, n => hexFixed width (n / 16) ++ [hexDigit (n % 16)]

def hexNat (n : Nat) : List Char :=
    Nat.toDigits 16 n

def hexInt (i : Int) : String :=
    if i < 0 then "-" ++ String.ofList (hexNat i.natAbs) else String.ofList (hexNat i.natAbs)

def hexValue? (c : Char) : Option Nat :=
    if '0' ≤ c ∧ c ≤ '9' then some (c.toNat - 48)
    else if 'a' ≤ c ∧ c ≤ 'f' then some (c.toNat - 87)
    else if 'A' ≤ c ∧ c ≤ 'F' then some (c.toNat - 55)
    else none

def hexUnit? (a b c d : Char) : Option Nat := do
    let a ← hexValue? a
    let b ← hexValue? b
    let c ← hexValue? c
    let d ← hexValue? d
    return ((a * 16 + b) * 16 + c) * 16 + d

/-! Digits written and read -/

theorem hexValue?_hexDigit {n : Nat} (small : n < 16) : hexValue? (hexDigit n) = some n := by
  have every : ∀ k : Fin 16, hexValue? (hexDigit k) = some k.val := by decide
  exact every ⟨n, small⟩

theorem hexFixed_four (n : Nat) :
    hexFixed 4 n =
      [hexDigit (n / 16 / 16 / 16 % 16), hexDigit (n / 16 / 16 % 16), hexDigit (n / 16 % 16),
        hexDigit (n % 16)] := rfl

theorem hexUnit?_digits {n : Nat} (small : n < 0x10000) :
    hexUnit? (hexDigit (n / 16 / 16 / 16 % 16)) (hexDigit (n / 16 / 16 % 16))
      (hexDigit (n / 16 % 16)) (hexDigit (n % 16)) = some n := by
  simp only [hexUnit?, hexValue?_hexDigit (Nat.mod_lt _ (by decide : 0 < 16)), Option.bind_eq_bind,
    Option.bind_some, Option.pure_def, Option.some.injEq]
  omega

/-! ## Unicode escapes -/

def utf16 (c : Char) : List Nat :=
    if c.toNat < 0x10000 then [c.toNat]
    else
      let offset := c.toNat - 0x10000
      [0xD800 + offset / 0x400, 0xDC00 + offset % 0x400]

namespace UnicodeEscape

def unit (u : Nat) : List Char :=
    '\\' :: 'u' :: hexFixed 4 u

def character (c : Char) : List Char :=
    if c.toNat < 0x80 then [c] else (utf16 c).flatMap unit

def encode (cs : List Char) : List Char :=
    cs.flatMap character

@[simp] theorem encode_cons (c : Char) (cs : List Char) :
    encode (c :: cs) = character c ++ encode cs := rfl

@[simp] theorem encode_append (first second : List Char) :
    encode (first ++ second) = encode first ++ encode second := by
  simp [encode]

def units : List Char → List Nat
  | '\\' :: 'u' :: a :: b :: c :: d :: rest =>
      match hexUnit? a b c d with
      | some u => u :: units rest
      | none => utf16 '\\' ++ units ('u' :: a :: b :: c :: d :: rest)
  | c :: rest => utf16 c ++ units rest
  | [] => []

theorem units_unit_append {u : Nat} (small : u < 0x10000) (rest : List Char) :
    units (unit u ++ rest) = u :: units rest := by
  simp [unit, hexFixed_four, units, hexUnit?_digits small]

/-- The characters that a sequence of units encodes; a surrogate without its partner becomes the
replacement character. -/
def ofUnits : List Nat → List Char
  | high :: low :: rest =>
      if 0xD800 ≤ high ∧ high < 0xDC00 ∧ 0xDC00 ≤ low ∧ low < 0xE000 then
        Char.ofNat (0x10000 + (high - 0xD800) * 0x400 + (low - 0xDC00)) :: ofUnits rest
      else single high :: ofUnits (low :: rest)
  | [u] => [single u]
  | [] => []
where
  single (u : Nat) : Char :=
    if 0xD800 ≤ u ∧ u < 0xE000 then Char.ofNat 0xFFFD else Char.ofNat u

def decode (cs : List Char) : List Char :=
    ofUnits (units cs)

end UnicodeEscape

def escapeUnicode (s : String) : String :=
    String.ofList (UnicodeEscape.encode s.toList)

end DexBrowser.Text

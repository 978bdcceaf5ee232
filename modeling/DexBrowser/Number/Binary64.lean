/-!
Numbers of 53 significant bits. A decimal is rounded to the nearest of them, a tie to the even
one, and written with the fewest digits that read back.
-/

namespace DexBrowser.Number

/-- A finite number is `± mantissa · 2 ^ exponent`. -/
inductive Binary64 where
  | finite (negative : Bool) (mantissa : Nat) (exponent : Int)
  | infinite (negative : Bool)
  | notANumber
  deriving DecidableEq, Repr

/-- The quotient rounded to the nearest whole number, a tie to the even one. -/
def roundDiv (num den : Nat) : Nat :=
    let quotient := num / den
    let twice := 2 * (num % den)
    if twice < den then quotient
    else if den < twice then quotient + 1
    else if quotient % 2 = 0 then quotient else quotient + 1

/-- `num · 2 ^ -shift / den`, rounded. -/
def scaledDiv (num den : Nat) (shift : Int) : Nat :=
    if 0 ≤ shift then roundDiv num (den * Nat.pow 2 shift.toNat)
    else roundDiv (num * Nat.pow 2 (-shift).toNat) den

namespace Binary64

/-- Least exponent, and the bound of the mantissa. -/
def leastExponent : Int := -1074
def greatestExponent : Int := 971
def mantissaBound : Nat := Nat.pow 2 53

def ofQuotient (negative : Bool) (num den : Nat) : Binary64 :=
    let guess : Int := (num.log2 : Int) - (den.log2 : Int) - 53
    let start := max guess leastExponent
    let exponent := if scaledDiv num den start < mantissaBound then start else start + 1
    let mantissa := scaledDiv num den exponent
    let (mantissa, exponent) :=
      if mantissa < mantissaBound then (mantissa, exponent) else (mantissa / 2, exponent + 1)
    if greatestExponent < exponent then .infinite negative
    else .finite negative mantissa exponent

/-- The nearest number to `± digits · 10 ^ scale`. -/
def ofDecimal (negative : Bool) (digits : Nat) (scale : Int) : Binary64 :=
    let magnitude : Int := (Nat.toDigits 10 digits).length + scale
    if digits = 0 ∨ magnitude < -400 then .finite negative 0 leastExponent
    else if 400 < magnitude then .infinite negative
    else if 0 ≤ scale then ofQuotient negative (digits * Nat.pow 10 scale.toNat) 1
    else ofQuotient negative digits (Nat.pow 10 (-scale).toNat)

def toInt? : Binary64 → Option Int
  | .finite negative mantissa exponent =>
      let sign (n : Nat) : Int := if negative then -(n : Int) else n
      if 0 ≤ exponent then some (sign (mantissa * Nat.pow 2 exponent.toNat))
      else
        let den := Nat.pow 2 (-exponent).toNat
        if mantissa % den = 0 then some (sign (mantissa / den)) else none
  | _ => none

def isZero : Binary64 → Bool
  | .finite _ mantissa _ => mantissa == 0
  | _ => false

def truncate? : Binary64 → Option Int
  | .finite negative mantissa exponent =>
      let whole :=
        if 0 ≤ exponent then mantissa * Nat.pow 2 exponent.toNat
        else mantissa / Nat.pow 2 (-exponent).toNat
      some (if negative then -(whole : Int) else whole)
  | _ => none

def quotient (mantissa : Nat) (exponent : Int) : Nat × Nat :=
    if 0 ≤ exponent then (mantissa * Nat.pow 2 exponent.toNat, 1)
    else (mantissa, Nat.pow 2 (-exponent).toNat)

/-- The two neighbours of a quotient on the grid of multiples of `10 ^ scale`, the nearer one first,
of two as near the even one. -/
def neighbours (num den : Nat) (scale : Int) : List Nat :=
    let (num, den) :=
      if 0 ≤ scale then (num, den * Nat.pow 10 scale.toNat)
      else (num * Nat.pow 10 (-scale).toNat, den)
    let low := num / den
    if roundDiv num den = low then [low, low + 1] else [low + 1, low]

/-- The digits and the scale of the shortest decimal that reads back, trying scales downwards. -/
def shortest (mantissa : Nat) (exponent : Int) : (fuel : Nat) → (scale : Int) → Nat × Int
  | 0, scale => (0, scale)
  | fuel + 1, scale =>
      let (num, den) := quotient mantissa exponent
      let reads (digits : Nat) : Bool :=
        ofDecimal false digits scale == ofQuotient false num den
      match (neighbours num den scale).find? reads with
      | some digits => (digits, scale)
      | none => shortest mantissa exponent fuel (scale - 1)

/-- Digits without the zeros at their end, with the scale that makes up for them. -/
def dropZeros : (fuel : Nat) → Nat → Int → Nat × Int
  | 0, digits, scale => (digits, scale)
  | fuel + 1, digits, scale =>
      if digits ≠ 0 ∧ digits % 10 = 0 then dropZeros fuel (digits / 10) (scale + 1)
      else (digits, scale)

/-- Positional from a ten-thousandth up to below ten to the sixteenth, with a point always;
otherwise one digit before the point and an exponent of at least two digits. -/
def layout (digits : List Char) (scale : Int) : List Char :=
    let point : Int := digits.length + scale
    if -4 < point ∧ point ≤ 16 then
      if point ≤ 0 then '0' :: '.' :: (List.replicate (-point).toNat '0' ++ digits)
      else if (digits.length : Int) ≤ point then
        digits ++ List.replicate (point - digits.length).toNat '0' ++ ['.', '0']
      else digits.take point.toNat ++ '.' :: digits.drop point.toNat
    else
      let power := point - 1
      let sign := if power < 0 then '-' else '+'
      let powerDigits := Nat.toDigits 10 power.natAbs
      let padded := if powerDigits.length < 2 then '0' :: powerDigits else powerDigits
      let fraction := digits.drop 1
      digits.take 1 ++ (if fraction.isEmpty then [] else '.' :: fraction) ++ 'e' :: sign :: padded

def toText : Binary64 → String
  | .infinite negative => if negative then "-inf" else "inf"
  | .notANumber => "nan"
  | .finite negative mantissa exponent =>
      let body :=
        if mantissa = 0 then ['0', '.', '0']
        else
          let (digits, scale) := shortest mantissa exponent 700 309
          let (digits, scale) := dropZeros 320 digits scale
          layout (Nat.toDigits 10 digits) scale
      String.ofList (if negative then '-' :: body else body)

end Binary64

end DexBrowser.Number

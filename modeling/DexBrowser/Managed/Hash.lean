import DexBrowser.Managed.Value

/-!
Hashes of managed objects, as far as it shows when two are equal. Numbers are hashed modulo a prime,
whole or not; a list that may change has no hash.
-/

namespace DexBrowser.Managed

open Number

/-- What an object is hashed by: a number that it answers, its class and key, or where it is. -/
inductive HashCode where
  | number (i : Int)
  | keyed (className : String) (key : Value)
  | address (id : ObjectId)
  deriving Inhabited

def unhashable? : Value → Option String
  | .list _ => some (Value.list []).kindName
  | .record _ => some (Value.record []).kindName
  | .tuple xs => xs.attach.findSome? fun ⟨x, _⟩ => unhashable? x
  | _ => none
decreasing_by
    rename_i member
    have := List.sizeOf_lt_of_mem member
    simp only [Value.tuple.sizeOf_spec]
    omega

/-! ## Numbers -/

/-- The prime that numbers are hashed by, and the power of two above it. -/
def hashBits : Nat := 61
def hashModulus : Nat := Nat.pow 2 hashBits - 1

def avoidMinusOne (i : Int) : Int :=
    if i = -1 then -2 else i

def signedHash (negative : Bool) (remainder : Nat) : Int :=
    avoidMinusOne (if negative then -(remainder : Int) else remainder)

def wholeHash (i : Int) : Int :=
    signedHash (i < 0) (i.natAbs % hashModulus)

/-- The hash of a number; a power of two counts by its exponent modulo the bits of the prime. -/
def realHash? : Binary64 → Option Int
  | .finite negative mantissa exponent =>
      let power := Nat.pow 2 (exponent % hashBits).toNat
      some (signedHash negative (mantissa % hashModulus * power % hashModulus))
  | .infinite negative => some (if negative then -314159 else 314159)
  | .notANumber => none

/-- A number that an object answers as its hash stands for itself if it fits into 64 bits. -/
def answeredHash (i : Int) : Int :=
    let bound : Int := Nat.pow 2 63
    if -bound ≤ i ∧ i < bound then avoidMinusOne i else wholeHash i

/-! ## Keys -/

/-- A key with every number replaced by its hash; the empty text is hashed as zero is. -/
def hashForm : Value → Value
  | .bool b => .int (if b then 1 else 0)
  | .int i => .int (wholeHash i)
  | .real x => (realHash? x).elim (.real x) .int
  | .text s => if s = "" then .int 0 else .text s
  | .tuple xs => .tuple (xs.attach.map fun ⟨x, _⟩ => hashForm x)
  | v => v
decreasing_by
    rename_i member
    have := List.sizeOf_lt_of_mem member
    simp only [Value.tuple.sizeOf_spec]
    omega

namespace HashCode

/-- Two hashes of objects of one load are equal. An address belongs to one object only. -/
def same : HashCode → HashCode → Bool
  | number i, number j => answeredHash i == answeredHash j
  | keyed className key, keyed otherName otherKey =>
      className == otherName && (hashForm key).same (hashForm otherKey)
  | address id, address other => id == other
  | _, _ => false

/-- Where an object is tells it apart from the objects of other loads. -/
def isAddress : HashCode → Bool
  | address _ => true
  | _ => false

end HashCode

end DexBrowser.Managed

import DexBrowser.Fault

/-!
Access flags of classes and methods. Any integer is a set of flags; a negative one is folded onto
a natural number that agrees with it on every named flag. Main statement: an integer that can be
written out is read.
-/

namespace DexBrowser

/-- The set of flags whose bits are set. -/
structure AccessFlags where
  bits : Nat
  deriving DecidableEq, Repr, Inhabited

namespace AccessFlags

/-- A power of two above every named flag. -/
def unnamedBit : Nat := 0x20000

/-- The first unnamed bit for numbers up to it; for greater ones the least power of two above. -/
def modulus (n : Nat) : Nat :=
    if n ≤ unnamedBit then unnamedBit else Nat.pow 2 (n.log2 + 1)

/-- A negative number is counted from the modulus of its magnitude. -/
def ofInt : Int → AccessFlags
  | .ofNat n => ⟨n⟩
  | .negSucc n => ⟨modulus (n + 1) - (n + 1)⟩

def namedMask : Nat := 0x17FFF

def others (flags : AccessFlags) : Nat :=
    flags.bits ^^^ (flags.bits &&& namedMask)

/-- The flags that an integer stands for. Together with named flags the others are written out as a
number, which may have too many digits for that. -/
def read (i : Int) : Except Fault AccessFlags :=
    let flags := ofInt i
    if flags.bits &&& namedMask ≠ 0 ∧ Number.isLong flags.others then
      .error (.value (.tooManyDigits none))
    else .ok flags

theorem bits_ofInt_le (i : Int) : (ofInt i).bits ≤ max unnamedBit i.natAbs := by
  cases i with
  | ofNat n => exact Nat.le_max_right ..
  | negSucc n =>
      have doubled : Nat.pow 2 ((n + 1).log2 + 1) ≤ 2 * (n + 1) := by
        have floor : 2 ^ (n + 1).log2 ≤ n + 1 := Nat.log2_self_le (Nat.succ_ne_zero n)
        rw [Nat.pow_eq, Nat.pow_succ]
        omega
      simp only [ofInt, modulus, Int.natAbs_negSucc]
      split <;> omega

theorem others_le (flags : AccessFlags) : flags.others ≤ flags.bits := by
  have within : flags.others &&& flags.bits = flags.others := by
    apply Nat.eq_of_testBit_eq
    intro k
    simp only [others, Nat.testBit_and, Nat.testBit_xor]
    cases flags.bits.testBit k <;> simp
  rw [← within]
  exact Nat.and_le_right

theorem isLong_others_ofInt {i : Int} (short : Number.isLong i = false) :
    Number.isLong (ofInt i).others = false := by
  have few := bits_ofInt_le i
  have enough : unnamedBit < Nat.pow 10 Number.digitLimit :=
    Nat.lt_of_lt_of_le (by decide : unnamedBit < Nat.pow 10 6)
      (Nat.pow_le_pow_right (by decide) (by decide +kernel))
  rw [Number.isLong_eq_false] at short ⊢
  rw [Int.natAbs_natCast]
  have := (ofInt i).others_le
  omega

theorem read_of_others {i : Int} (short : Number.isLong (ofInt i).others = false) :
    read i = .ok (ofInt i) := by
  simp only [read, short, Bool.false_eq_true, and_false, if_false]

def value (flags : AccessFlags) : Int := flags.bits

def has (flags : AccessFlags) (bit : Nat) : Bool := flags.bits.testBit bit

def isPublic (flags : AccessFlags) : Bool := flags.has 0
def isPrivate (flags : AccessFlags) : Bool := flags.has 1
def isProtected (flags : AccessFlags) : Bool := flags.has 2
def isStatic (flags : AccessFlags) : Bool := flags.has 3
def isFinal (flags : AccessFlags) : Bool := flags.has 4
def isSynchronized (flags : AccessFlags) : Bool := flags.has 5

/-- Of a field; a method's bridge flag is the same bit. -/
def isVolatile (flags : AccessFlags) : Bool := flags.has 6
def isBridge (flags : AccessFlags) : Bool := flags.has 6

/-- Of a field; a method's flag for variable arguments is the same bit. -/
def isTransient (flags : AccessFlags) : Bool := flags.has 7
def isVarArgs (flags : AccessFlags) : Bool := flags.has 7
def isNative (flags : AccessFlags) : Bool := flags.has 8
def isInterface (flags : AccessFlags) : Bool := flags.has 9
def isAbstract (flags : AccessFlags) : Bool := flags.has 10
def isSynthetic (flags : AccessFlags) : Bool := flags.has 12
def isAnnotation (flags : AccessFlags) : Bool := flags.has 13
def isEnum (flags : AccessFlags) : Bool := flags.has 14
def isConstructor (flags : AccessFlags) : Bool := flags.has 16

def isPackagePrivate (flags : AccessFlags) : Bool :=
    !(flags.isPublic || flags.isPrivate || flags.isProtected)

def withConstructor (flags : AccessFlags) : AccessFlags :=
    ⟨flags.bits ||| Nat.pow 2 16⟩

def classModifiers (flags : AccessFlags) : List (Bool × String) :=
    [(flags.isPublic, "public"), (flags.isProtected, "protected"), (flags.isPrivate, "private"),
      (flags.isAbstract, "abstract"), (flags.isStatic, "static"), (flags.isFinal, "final")]

def methodModifiers (flags : AccessFlags) : List (Bool × String) :=
    flags.classModifiers ++ [(flags.isSynchronized, "synchronized"), (flags.isNative, "native")]

def present (words : List (Bool × String)) : List String :=
    (words.filter (·.1)).map (·.2)

def classWords (flags : AccessFlags) : List String := present flags.classModifiers

def methodWords (flags : AccessFlags) : List String := present flags.methodModifiers

def keyword (flags : AccessFlags) : String :=
    if flags.isAnnotation then "@interface"
    else if flags.isInterface then "interface"
    else if flags.isEnum then "enum"
    else "class"

end AccessFlags

end DexBrowser

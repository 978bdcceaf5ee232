import DexBrowser.Image.Source
import Mathlib.Data.Int.Bitwise

/-!
What flags say of the number that they are read from. Main statement: up to the last named flag they
have the bits of the number, whatever its sign and size, and read as a number again they are the
same.
-/

namespace DexBrowser.AccessFlags

/-! ## Negative numbers -/

/-- The bits below the last one of all flags that have a name. -/
def namedBits : Nat := 17

theorem modulus_eq (n : Nat) : ∃ e, namedBits ≤ e ∧ modulus n = 2 ^ e ∧ n ≤ 2 ^ e := by
  unfold modulus
  split
  case isTrue low => exact ⟨namedBits, le_rfl, rfl, low⟩
  case isFalse high =>
      have positive : n ≠ 0 := by
        intro zero
        subst zero
        exact high (Nat.zero_le _)
      have large : namedBits ≤ n.log2 := by
        rw [Nat.le_log2 positive]
        exact Nat.le_of_not_le high
      exact ⟨n.log2 + 1, by omega, rfl, Nat.lt_log2_self.le⟩

theorem has_ofInt (v : Int) {k : Nat} (named : k < namedBits) : (ofInt v).has k = v.testBit k := by
  cases v with
  | ofNat n => rfl
  | negSucc n =>
      obtain ⟨e, large, isPower, bound⟩ := modulus_eq (n + 1)
      have inside : k < e := by omega
      rw [ofInt, has, isPower, Nat.testBit_two_pow_sub_succ (by omega), decide_eq_true inside,
        Bool.true_and]
      rfl

theorem value_nonneg (flags : AccessFlags) : 0 ≤ flags.value :=
  Int.natCast_nonneg flags.bits

theorem read_value {flags : AccessFlags} (short : Number.isLong flags.others = false) :
    read flags.value = .ok flags :=
  read_of_others short

theorem testBit_value (flags : AccessFlags) (k : Nat) : flags.value.testBit k = flags.has k := rfl

theorem has_withConstructor (flags : AccessFlags) (k : Nat) :
    flags.withConstructor.has k = (flags.has k || decide (k = 16)) := by
  rw [has, withConstructor, Nat.testBit_or, has]
  congr 1
  rw [show Nat.pow 2 16 = 2 ^ 16 from rfl, Nat.testBit_two_pow]
  exact decide_eq_decide.mpr eq_comm

/-! ## Tests and words -/

/-- What can be asked of flags, each with the bit that answers. -/
def bitTests : List ((AccessFlags → Bool) × Nat) :=
    [(isPublic, 0), (isPrivate, 1), (isProtected, 2), (isStatic, 3), (isFinal, 4),
      (isSynchronized, 5), (isVolatile, 6), (isBridge, 6), (isTransient, 7), (isVarArgs, 7),
      (isNative, 8), (isInterface, 9), (isAbstract, 10), (isSynthetic, 12), ( isAnnotation, 13),
      (isEnum, 14), (isConstructor, 16)]

theorem bitTests_has {test : (AccessFlags → Bool) × Nat} (member : test ∈ bitTests)
    (flags : AccessFlags) : test.1 flags = flags.has test.2 := by
  revert test
  unfold bitTests
  simp only [List.forall_mem_cons, List.not_mem_nil, false_imp_iff, implies_true, and_true]
  exact ⟨rfl, rfl, rfl, rfl, rfl, rfl, rfl, rfl, rfl, rfl, rfl, rfl, rfl, rfl, rfl, rfl, rfl⟩

/-- The words that a class may be declared with, in order, each with its bit. -/
def classModifierBits : List (Nat × String) :=
    [(0, "public"), (2, "protected"), (1, "private"), (10, "abstract"), (3, "static"), (4, "final")]

def methodModifierBits : List (Nat × String) :=
    classModifierBits ++ [(5, "synchronized"), (8, "native")]

def wordsOf (modifiers : List (Nat × String)) (v : Int) : List String :=
    (modifiers.filter fun m => v.testBit m.1).map (·.2)

theorem present_map (flags : AccessFlags) (v : Int) {modifiers : List (Nat × String)}
    (same : ∀ m ∈ modifiers, flags.has m.1 = v.testBit m.1) :
    present (modifiers.map fun m => (flags.has m.1, m.2)) = wordsOf modifiers v := by
  rw [present, wordsOf, List.filter_map, List.map_map]
  apply congrArg
  exact List.filter_congr same

/-! ## Reading -/

/-- Flags say what the bits of a number say. Where they are marked, the constructor's bit is set in
addition. -/
structure Reads (flags : AccessFlags) (v : Int) (marked : Bool) : Prop where
  tests : ∀ test ∈ bitTests,
    test.1 flags = (v.testBit test.2 || marked && decide (test.2 = 16))
  packagePrivate : flags.isPackagePrivate = !(v.testBit 0 || v.testBit 1 || v.testBit 2)
  nonneg : 0 ≤ flags.value
  value : 0 ≤ v → flags.value = if marked then v.lor (2 ^ 16) else v
  low : ∀ k < namedBits, flags.value.testBit k = (v.testBit k || marked && decide (k = 16))
  again : read flags.value = .ok flags

def marking (marked : Bool) (flags : AccessFlags) : AccessFlags :=
    if marked then flags.withConstructor else flags

@[simp] theorem marking_false (flags : AccessFlags) : marking false flags = flags := rfl

theorem others_withConstructor (flags : AccessFlags) :
    flags.withConstructor.others = flags.others := by
  apply Nat.eq_of_testBit_eq
  intro k
  simp only [others, withConstructor, Nat.testBit_xor, Nat.testBit_and, Nat.testBit_or]
  by_cases marked : k = 16
  · subst marked
    have named : namedMask.testBit 16 = true := by decide
    simp [named]
  · have apart : (Nat.pow 2 16).testBit k = false := by
      rw [Nat.pow_eq, Nat.testBit_two_pow]
      exact decide_eq_false (Ne.symm marked)
    simp [apart]

theorem isLong_others_marking (marked : Bool) {v : Int} (short : Number.isLong v = false) :
    Number.isLong (marking marked (ofInt v)).others = false := by
  cases marked with
  | false => exact isLong_others_ofInt short
  | true =>
      rw [marking, if_pos rfl, others_withConstructor]
      exact isLong_others_ofInt short

theorem has_marking (marked : Bool) (v : Int) {k : Nat} (named : k < namedBits) :
    (marking marked (ofInt v)).has k = (v.testBit k || marked && decide (k = 16)) := by
  cases marked with
  | false => rw [Bool.false_and, Bool.or_false, ← has_ofInt v named]; rfl
  | true => rw [Bool.true_and, ← has_ofInt v named]; exact has_withConstructor _ k

theorem reads_marking (marked : Bool) {v : Int} (short : Number.isLong v = false) :
    (marking marked (ofInt v)).Reads v marked where
  tests test member := by
    have named : ∀ test ∈ bitTests, test.2 < namedBits := by
      simp [bitTests, namedBits]
    rw [bitTests_has member, has_marking marked v (named test member)]
  packagePrivate := by
    have visible (k : Nat) (low : k < 16) : (marking marked (ofInt v)).has k = v.testBit k := by
      rw [has_marking marked v (by unfold namedBits; omega), decide_eq_false (by omega),
        Bool.and_false, Bool.or_false]
    rw [isPackagePrivate, isPublic, isPrivate, isProtected, visible 0 (by decide),
      visible 1 (by decide), visible 2 (by decide)]
  nonneg := value_nonneg _
  value nonneg := by
    obtain ⟨n, rfl⟩ := Int.eq_ofNat_of_zero_le nonneg
    cases marked with
    | false => rfl
    | true => rfl
  low k named := (testBit_value _ k).trans (has_marking marked v named)
  again := read_value (isLong_others_marking marked short)

theorem words_marking (marked : Bool) (v : Int) :
    (marking marked (ofInt v)).classWords = wordsOf classModifierBits v ∧
      (marking marked (ofInt v)).methodWords = wordsOf methodModifierBits v := by
  have same : ∀ m ∈ methodModifierBits, (marking marked (ofInt v)).has m.1 = v.testBit m.1 := by
    have low : ∀ m ∈ methodModifierBits, m.1 < 16 := by decide
    intro m member
    have bound := low m member
    rw [has_marking marked v (by unfold namedBits; omega), decide_eq_false (by omega),
      Bool.and_false, Bool.or_false]
  constructor
  · exact present_map _ v fun m member => same m (List.mem_append_left _ member)
  · exact present_map _ v same

end DexBrowser.AccessFlags

import DexBrowser.Proofs.Image.Naming
import Mathlib.Algebra.Ring.Nat
import Mathlib.Data.List.Nodup

/-!
Names under renaming. Main statements: two different names go by one name after renaming exactly if
they clash, and classes whose full names differ have different full names after renaming exactly if
no two classes of a package clash.
-/

namespace DexBrowser.Image

/-! ## Numbers -/

theorem ofDigitChars_paddedNumber (width n : Nat) :
    Nat.ofDigitChars 10 (paddedNumber width n) 0 = n := by
  rw [paddedNumber, Nat.ofDigitChars_append, Nat.ofDigitChars_replicate_zero, Nat.mul_zero,
    Nat.ofDigitChars_ten_toDigits]

theorem paddedNumber_injective (width : Nat) : Function.Injective (paddedNumber width) := by
  intro n m same
  rw [← ofDigitChars_paddedNumber width n, same, ofDigitChars_paddedNumber]

theorem length_toDigits_mono {n m : Nat} (le : n ≤ m) :
    (Nat.toDigits 10 n).length ≤ (Nat.toDigits 10 m).length := by
  have positive := Nat.length_toDigits_pos (b := 10) (n := m)
  have bounded := (Nat.length_toDigits_le_iff (by decide) positive).mp (Nat.le_refl _)
  exact (Nat.length_toDigits_le_iff (by decide) positive).mpr (Nat.lt_of_le_of_lt le bounded)

theorem length_paddedNumber_mono (width : Nat) {n m : Nat} (le : n ≤ m) :
    (paddedNumber width n).length ≤ (paddedNumber width m).length := by
  have digits := length_toDigits_mono le
  simp only [paddedNumber, List.length_append, List.length_replicate]
  omega

/-! ## Two names -/

/-- What stands behind the number in the replacement of a name. -/
def remainder (options : LoadOptions) (name : List Char) : List Char :=
    if name.length < options.minLength then name else []

theorem replacement_eq (options : LoadOptions) (style : NameStyle) (number : Nat)
    (name : List Char) : replacement options style number name =
      style.letter :: (paddedNumber style.width number ++ remainder options name) := rfl

/-- Two different names get one name under renaming: one of them is kept and looks like the
replacement of the other, or the first one is short and starts with the digits that the number of
the second one has in addition. -/
inductive Clash (options : LoadOptions) (style : NameStyle) (n m : Nat) (first second : List Char) :
    Prop
  | firstKept (kept : keepsName options first = true) (replaced : keepsName options second = false)
      (same : first = replacement options style m second)
  | secondKept (replaced : keepsName options first = false) (kept : keepsName options second = true)
      (same : second = replacement options style n first)
  | bothReplaced (replacedFirst : keepsName options first = false)
      (replacedSecond : keepsName options second = false) (short : first.length < options.minLength)
      (digits : List Char) (isNumber : paddedNumber style.width m =
        paddedNumber style.width n ++ digits)
      (same : first = digits ++ remainder options second)

/-- Replacements with different numbers are the same exactly if the first name fills up the first
number to the second one. -/
theorem replacement_eq_iff {options : LoadOptions} {style : NameStyle} {n m : Nat} (earlier : n < m)
    {first second : List Char} :
    replacement options style n first = replacement options style m second ↔
      first.length < options.minLength ∧ ∃ digits,
        paddedNumber style.width m = paddedNumber style.width n ++ digits ∧
          first = digits ++ remainder options second := by
  rw [replacement_eq, replacement_eq, List.cons.injEq, and_iff_right rfl, List.append_eq_append_iff]
  have shorter := length_paddedNumber_mono style.width (Nat.le_of_lt earlier)
  constructor
  · rintro (⟨digits, isNumber, left⟩ | ⟨digits, isNumber, left⟩)
    · have extra : digits ≠ [] := by
        rintro rfl
        rw [List.append_nil] at isNumber
        exact Nat.ne_of_gt earlier (paddedNumber_injective _ isNumber)
      unfold remainder at left
      split at left
      case isTrue short => exact ⟨short, digits, isNumber, left⟩
      case isFalse => exact absurd (List.append_eq_nil_iff.mp left.symm).1 extra
    · obtain rfl : digits = [] := by
        have lengths := congrArg List.length isNumber
        rw [List.length_append] at lengths
        exact List.length_eq_zero_iff.mp (by omega)
      rw [List.append_nil] at isNumber
      exact absurd (paddedNumber_injective _ isNumber) (Nat.ne_of_lt earlier)
  · rintro ⟨short, digits, isNumber, left⟩
    refine .inl ⟨digits, isNumber, ?_⟩
    rw [remainder, if_pos short]
    exact left

theorem rename_kept {options : LoadOptions} {style : NameStyle} {count : Nat} {name : String}
    (kept : keepsName options name.toList = true) :
    rename options style count name = (name, count) := if_pos kept

theorem rename_replaced {options : LoadOptions} {style : NameStyle} {count : Nat} {name : String}
    (replaced : keepsName options name.toList = false) : rename options style count name =
      (String.ofList (replacement options style (count + 1) name.toList), count + 1) :=
  if_neg (by rw [replaced]; exact Bool.false_ne_true)

/-- Two different names, renamed one after the other, get one name exactly if they clash. -/
theorem rename_eq_iff {options : LoadOptions} {style : NameStyle} {n m : Nat}
    {first second : String} (later : (rename options style n first).2 ≤ m)
    (different : first ≠ second) :
    (rename options style n first).1 = (rename options style m second).1 ↔
      Clash options style (n + 1) (m + 1) first.toList second.toList := by
  cases keptFirst : keepsName options first.toList <;>
    cases keptSecond : keepsName options second.toList
  case true.true =>
    rw [rename_kept keptFirst, rename_kept keptSecond]
    refine ⟨fun same => absurd same different, fun clash => ?_⟩
    cases clash <;> simp_all
  case true.false =>
    rw [rename_kept keptFirst, rename_replaced keptSecond, ← String.toList_inj,
      String.toList_ofList]
    refine ⟨fun same => .firstKept keptFirst keptSecond same, fun clash => ?_⟩
    cases clash <;> simp_all
  case false.true =>
    rw [rename_replaced keptFirst, rename_kept keptSecond, ← String.toList_inj,
      String.toList_ofList]
    refine ⟨fun same => .secondKept keptFirst keptSecond same.symm, fun clash => ?_⟩
    cases clash <;> simp_all
  case false.false =>
    rw [rename_replaced keptFirst] at later ⊢
    rw [rename_replaced keptSecond, ← String.toList_inj, String.toList_ofList,
      String.toList_ofList, replacement_eq_iff (Nat.succ_le_succ later)]
    constructor
    · rintro ⟨short, digits, isNumber, same⟩
      exact .bothReplaced keptFirst keptSecond short digits isNumber same
    · rintro (⟨kept, -, -⟩ | ⟨-, kept, -⟩ | ⟨-, -, short, digits, isNumber, same⟩)
      · exact absurd (kept.symm.trans keptFirst) (by decide)
      · exact absurd (kept.symm.trans keptSecond) (by decide)
      · exact ⟨short, digits, isNumber, same⟩

/-- A name that a replacement can be mistaken for. -/
def LooksReplaced (style : NameStyle) (name : List Char) : Prop :=
    ∃ digit rest, name = style.letter :: digit :: rest ∧ digit.isDigit = true

theorem looksReplaced_replacement (options : LoadOptions) (style : NameStyle) (number : Nat)
    (name : List Char) : LooksReplaced style (replacement options style number name) := by
  obtain ⟨digit, rest, isNumber⟩ := List.exists_cons_of_ne_nil
    (paddedNumber_ne_nil style.width number)
  have member : digit ∈ paddedNumber style.width number := by simp [isNumber]
  refine ⟨digit, rest ++ remainder options name, ?_, isDigit_paddedNumber member⟩
  rw [replacement_eq, isNumber, List.cons_append]

/-- Where names clash, a name that is kept looks like a replacement, or a name starts with a
digit. -/
theorem Clash.cause {options : LoadOptions} {style : NameStyle} {n m : Nat} (earlier : n < m)
    {first second : List Char} (clash : Clash options style n m first second) :
    (∃ name ∈ [first, second], keepsName options name = true ∧ LooksReplaced style name) ∨
      ∃ digit rest, first = digit :: rest ∧ digit.isDigit = true := by
  cases clash with
  | firstKept kept replaced same =>
      exact .inl ⟨first, by simp, kept, same ▸ looksReplaced_replacement ..⟩
  | secondKept replaced kept same =>
      exact .inl ⟨second, by simp, kept, same ▸ looksReplaced_replacement ..⟩
  | bothReplaced _ _ _ digits isNumber same =>
      cases digits with
      | nil =>
          rw [List.append_nil] at isNumber
          exact absurd (paddedNumber_injective _ isNumber) (Nat.ne_of_gt earlier)
      | cons digit rest =>
          have member : digit ∈ paddedNumber style.width m := by simp [isNumber]
          exact .inr ⟨digit, _, same, isDigit_paddedNumber member⟩

/-! ## Counting -/

def replacedName (options : LoadOptions) (name : String) : Nat :=
    if keepsName options name.toList then 0 else 1

def shortName (entry : ClassEntry) : String :=
    ClassName.simple (ClassName.normalize entry.fullName)

def packageName (entry : ClassEntry) : String :=
    ClassName.package (ClassName.normalize entry.fullName)

def replacedMethods (options : LoadOptions) (methods : List MethodEntry) : Nat :=
    (methods.map fun method => replacedName options method.name).sum

def replacedNames (options : LoadOptions) (entries : List ClassEntry) : Nat :=
    (entries.map fun entry => replacedName options (shortName entry) +
      replacedMethods options entry.methods).sum

theorem rename_count (options : LoadOptions) (style : NameStyle) (count : Nat) (name : String) :
    (rename options style count name).2 = count + replacedName options name := by
  unfold rename replacedName
  split <;> rfl

theorem nameMethod_count (options : LoadOptions) (owner : String) (count : Nat)
    (method : MethodEntry) : (nameMethod options owner count method).2 =
      count + replacedName options method.name := rename_count ..

theorem nameMethods_count (options : LoadOptions) (owner : String) (count : Nat)
    (methods : List MethodEntry) :
    (nameMethods options owner count methods).2 = count + replacedMethods options methods := by
  induction methods generalizing count with
  | nil => rfl
  | cons method rest ih =>
      simp only [nameMethods, ih, nameMethod_count, replacedMethods, List.map_cons, List.sum_cons,
        Nat.add_assoc]

theorem length_nameMethods (options : LoadOptions) (owner : String) (count : Nat)
    (methods : List MethodEntry) :
    (nameMethods options owner count methods).1.length = methods.length := by
  induction methods generalizing count with
  | nil => rfl
  | cons method rest ih => simp [nameMethods, ih]

theorem nameClass_methods (options : LoadOptions) (count : Nat) (entry : ClassEntry) :
    (nameClass options count entry).1.methods =
      (nameMethods options (nameClass options count entry).1.fullName
        (count + replacedName options (shortName entry)) entry.methods).1 := by
  rw [← rename_count options classNames count (shortName entry)]
  rfl

theorem nameClass_count (options : LoadOptions) (count : Nat) (entry : ClassEntry) :
    (nameClass options count entry).2 = count + replacedNames options [entry] := by
  have methods := nameMethods_count options
    (packageName entry ++ "." ++ (rename options classNames count (shortName entry)).1)
    (rename options classNames count (shortName entry)).2 entry.methods
  rw [rename_count] at methods
  rw [replacedNames, List.map_singleton, List.sum_singleton, ← Nat.add_assoc, ← methods,
    ← rename_count options classNames]
  rfl

theorem nameMethods_getElem? (options : LoadOptions) (owner : String) (count : Nat)
    (methods : List MethodEntry) (j : Nat) :
    (nameMethods options owner count methods).1[j]? = methods[j]?.map fun method =>
      (nameMethod options owner (count + replacedMethods options (methods.take j)) method).1 := by
  induction methods generalizing count j with
  | nil => rfl
  | cons method rest ih =>
      cases j with
      | zero => rfl
      | succ j =>
          simp only [nameMethods, List.getElem?_cons_succ, ih, nameMethod_count, replacedMethods,
            List.take_succ_cons, List.map_cons, List.sum_cons, Nat.add_assoc]

theorem nameClasses_getElem? (options : LoadOptions) (count : Nat) (entries : List ClassEntry)
    (i : Nat) :
    (nameClasses options count entries)[i]? = entries[i]?.map fun entry =>
      (nameClass options (count + replacedNames options (entries.take i)) entry).1 := by
  induction entries generalizing count i with
  | nil => rfl
  | cons entry rest ih =>
      cases i with
      | zero => rfl
      | succ i =>
          simp only [nameClasses, List.getElem?_cons_succ, ih, nameClass_count, replacedNames,
            List.take_succ_cons, List.map_cons, List.sum_cons, List.map_nil, List.sum_nil,
            Nat.add_zero, Nat.add_assoc]

/-! ## All names of an artifact -/

def classNumber (options : LoadOptions) (entries : List ClassEntry) (i : Nat) : Nat :=
    replacedNames options (entries.take i) + 1

def methodNumber (options : LoadOptions) (entries : List ClassEntry) (i : Nat) (entry : ClassEntry)
    (j : Nat) : Nat :=
    replacedNames options (entries.take i) + replacedName options (shortName entry) +
      replacedMethods options (entry.methods.take j) + 1

/-- Two classes of one package get one name under renaming. -/
def ClassesClash (options : LoadOptions) (entries : List ClassEntry) : Prop :=
    ∃ (i j : Nat) (first second : ClassEntry), i < j ∧ entries[i]? = some first ∧
      entries[j]? = some second ∧ packageName first = packageName second ∧
        Clash options classNames (classNumber options entries i) (classNumber options entries j)
          (shortName first).toList (shortName second).toList

/-- The full names are distinct exactly if no two classes of one package get one name. -/
theorem nodup_nameClasses_iff {options : LoadOptions} {entries : List ClassEntry} :
    ((nameClasses options 0 entries).map NamedClass.fullName).Nodup ↔
      ∀ (i j : Nat) (first second : ClassEntry), i < j → entries[i]? = some first →
        entries[j]? = some second → packageName first = packageName second →
          (rename options classNames (replacedNames options (entries.take i)) (shortName first)).1 ≠
            (rename options classNames (replacedNames options (entries.take j))
              (shortName second)).1 := by
  rw [List.nodup_iff_getElem?_ne_getElem?]
  simp only [List.length_map, length_nameClasses, List.getElem?_map, nameClasses_getElem?,
    Option.map_map, Nat.zero_add]
  constructor
  · intro distinct i j first second before atFirst atSecond package same
    obtain ⟨bound, -⟩ := List.getElem?_eq_some_iff.mp atSecond
    refine distinct i j before bound ?_
    rw [atFirst, atSecond]
    refine congrArg some ?_
    exact ((proper_nameClass ..).fullName_eq_iff (proper_nameClass ..)).mpr ⟨package, same⟩
  · intro distinct i j before bound same
    have atSecond := List.getElem?_eq_getElem bound
    have atFirst := List.getElem?_eq_getElem (Nat.lt_trans before bound)
    rw [atFirst, atSecond] at same
    obtain ⟨package, name⟩ :=
      ((proper_nameClass ..).fullName_eq_iff (proper_nameClass ..)).mp (Option.some.inj same)
    exact distinct i j _ _ before atFirst atSecond package name

theorem replacedNames_take_succ {options : LoadOptions} {entries : List ClassEntry} {i : Nat}
    {entry : ClassEntry} (found : entries[i]? = some entry) :
    replacedNames options (entries.take (i + 1)) = replacedNames options (entries.take i) +
      (replacedName options (shortName entry) + replacedMethods options entry.methods) := by
  simp [replacedNames, List.take_add_one, found]

theorem replacedNames_take_mono (options : LoadOptions) (entries : List ClassEntry) {i j : Nat}
    (le : i ≤ j) :
    replacedNames options (entries.take i) ≤ replacedNames options (entries.take j) := by
  obtain ⟨more, rfl⟩ := Nat.exists_eq_add_of_le le
  rw [List.take_add]
  simp only [replacedNames, List.map_append, List.sum_append]
  omega

/-- Classes with distinct full names stay distinct under renaming exactly if no two clash. -/
theorem nodup_renamed_iff {options unchanged : LoadOptions} {entries : List ClassEntry}
    (off : unchanged.deobfuscate = false)
    (distinct : ((nameClasses unchanged 0 entries).map NamedClass.fullName).Nodup) :
    ((nameClasses options 0 entries).map NamedClass.fullName).Nodup ↔
      ¬ ClassesClash options entries := by
  have different := nodup_nameClasses_iff.mp distinct
  simp only [rename_of_off off] at different
  rw [nodup_nameClasses_iff, ClassesClash]
  simp only [not_exists, not_and]
  refine forall_congr' fun i => forall_congr' fun j => forall_congr' fun first =>
    forall_congr' fun second => forall_congr' fun before => forall_congr' fun atFirst =>
    forall_congr' fun atSecond => forall_congr' fun package => not_congr ?_
  refine rename_eq_iff ?_ (different i j first second before atFirst atSecond package)
  have through := replacedNames_take_mono options entries before
  rw [replacedNames_take_succ atFirst] at through
  rw [rename_count]
  omega

/-- Two methods of a class whose names differ have one name after renaming exactly if they clash. -/
theorem renamedMethods_eq_iff {options : LoadOptions} {entries : List ClassEntry} {i : Nat}
    {entry : ClassEntry} {j k : Nat} {first second : MethodEntry} (before : j < k)
    (atFirst : entry.methods[j]? = some first) (atSecond : entry.methods[k]? = some second)
    (different : first.name ≠ second.name) :
    let methods := (nameClass options (replacedNames options (entries.take i)) entry).1.methods
    (methods.map NamedMethod.name)[j]? = (methods.map NamedMethod.name)[k]? ↔
      Clash options methodNames (methodNumber options entries i entry j)
        (methodNumber options entries i entry k) first.name.toList second.name.toList := by
  intro methods
  have later : replacedMethods options (entry.methods.take (j + 1)) ≤
      replacedMethods options (entry.methods.take k) := by
    obtain ⟨more, rfl⟩ := Nat.exists_eq_add_of_le before
    rw [List.take_add (i := j + 1)]
    simp only [replacedMethods, List.map_append, List.sum_append]
    omega
  have through : replacedMethods options (entry.methods.take (j + 1)) =
      replacedMethods options (entry.methods.take j) + replacedName options first.name := by
    simp [replacedMethods, List.take_add_one, atFirst]
  have named : methods = _ := nameClass_methods ..
  rw [List.getElem?_map, List.getElem?_map, named, nameMethods_getElem?, nameMethods_getElem?,
    atFirst, atSecond]
  simp only [Option.map_some, Option.some_inj]
  refine rename_eq_iff ?_ different
  rw [rename_count]
  omega

end DexBrowser.Image

import DexBrowser.Proofs.Image.ClassName

/-!
The names of an image. Main statements: the full name of a class tells its package and its name
apart, and an image is built exactly if no two of its classes go by one full name.
-/

namespace DexBrowser

theorem bind_eq_ok {first : Except ε α} {next : α → Except ε β} {b : β} :
    first >>= next = .ok b ↔ ∃ a, first = .ok a ∧ next a = .ok b := by
  cases first <;> simp [bind, Except.bind]

theorem map_eq_ok {outcome : Except ε α} {f : α → β} {b : β} :
    outcome.map f = .ok b ↔ ∃ a, outcome = .ok a ∧ f a = b := by
  cases outcome <;> simp [Except.map]

namespace ClassName

open Text

theorem not_mem_afterLastDot (cs : List Char) : '.' ∉ afterLastDot cs := by
  intro member
  have every := List.all_takeWhile (p := fun c => decide (c ≠ '.')) (l := cs.reverse)
  have taken := List.all_eq_true.mp every '.' (List.mem_reverse.mp member)
  simp at taken

theorem afterLastDot_join (package : List Char) {name : List Char} (plain : '.' ∉ name) :
    afterLastDot (package ++ '.' :: name) = name := by
  have notDot : ∀ c ∈ name.reverse, (decide (c ≠ '.')) = true := by
    intro c member
    rw [decide_eq_true_iff]
    rintro rfl
    exact plain (List.mem_reverse.mp member)
  rw [afterLastDot, List.reverse_append, List.reverse_cons, List.append_assoc,
    List.takeWhile_append_of_pos notDot]
  simp

theorem beforeLastDot_join (package : List Char) {name : List Char} (plain : '.' ∉ name) :
    beforeLastDot (package ++ '.' :: name) = package := by
  have notDot : ∀ c ∈ name.reverse, (decide (c ≠ '.')) = true := by
    intro c member
    rw [decide_eq_true_iff]
    rintro rfl
    exact plain (List.mem_reverse.mp member)
  rw [beforeLastDot, List.reverse_append, List.reverse_cons, List.append_assoc,
    List.dropWhile_append_of_pos notDot]
  simp

end ClassName

namespace Image

open ClassName Text

/-! ## Full names -/

/-- A class whose full name tells its package and its name apart. -/
structure NamedClass.Proper (c : NamedClass) : Prop where
  package_ne : c.package ≠ ""
  normal : Normal c.fullName.toList
  plain : '.' ∉ c.name.toList

namespace NamedClass

theorem toList_fullName (c : NamedClass) :
    c.fullName.toList = c.package.toList ++ '.' :: c.name.toList := by
  rw [fullName, String.toList_append, String.toList_append, List.append_assoc]
  rfl

section Proper

variable {c d : NamedClass}

theorem Proper.normalize (proper : c.Proper) : ClassName.normalize c.fullName = c.fullName := by
  rw [ClassName.normalize, normalForm_normal proper.normal, String.ofList_toList]

theorem Proper.package_fullName (proper : c.Proper) : ClassName.package c.fullName = c.package := by
  rw [ClassName.package, normalForm_normal proper.normal, toList_fullName,
    beforeLastDot_join _ proper.plain]
  split
  case h_1 nothing => exact absurd (String.toList_eq_nil_iff.mp nothing) proper.package_ne
  case h_2 => exact String.ofList_toList

theorem Proper.simple_fullName (proper : c.Proper) : ClassName.simple c.fullName = c.name := by
  rw [ClassName.simple, toList_fullName, afterLastDot_join _ proper.plain, String.ofList_toList]

theorem Proper.fullName_eq_iff (proper : c.Proper) (other : d.Proper) :
    c.fullName = d.fullName ↔ c.package = d.package ∧ c.name = d.name := by
  constructor
  · intro same
    rw [← proper.package_fullName, ← other.package_fullName, ← proper.simple_fullName,
      ← other.simple_fullName, same]
    exact ⟨rfl, rfl⟩
  · rintro ⟨package, name⟩
    rw [fullName, fullName, package, name]

end Proper

end NamedClass

theorem Renamed.not_mem_dot {letter : Char} {old new : List Char} (renamed : Renamed letter old new)
    (notDot : letter ≠ '.') (plain : '.' ∉ old) : '.' ∉ new := by
  intro dot
  rcases renamed.mem '.' dot with isLetter | isDigit | isOld
  · exact notDot isLetter.symm
  · exact absurd isDigit (by decide)
  · exact plain isOld

theorem proper_nameClass (options : LoadOptions) (count : Nat) (entry : ClassEntry) :
    (nameClass options count entry).1.Proper := by
  obtain ⟨package_ne, normal⟩ := normal_nameClass options count entry
  refine ⟨package_ne, normal, ?_⟩
  have renamed := renamed_rename options classNames count
    (simple (ClassName.normalize entry.fullName))
  refine renamed.not_mem_dot (by decide) ?_
  rw [simple, String.toList_ofList]
  exact not_mem_afterLastDot _

/-! ## All classes -/

/-- The classes of an artifact under their new names, whether these were seen before or not. -/
def nameClasses (options : LoadOptions) : (count : Nat) → List ClassEntry → List NamedClass
  | _, [] => []
  | count, entry :: rest =>
      let (c, count) := nameClass options count entry
      c :: nameClasses options count rest

theorem proper_nameClasses {options : LoadOptions} {count : Nat} {entries : List ClassEntry}
    {c : NamedClass} (member : c ∈ nameClasses options count entries) : c.Proper := by
  induction entries generalizing count with
  | nil => contradiction
  | cons entry rest ih =>
      rcases List.mem_cons.mp member with rfl | member
      · exact proper_nameClass options count entry
      · exact ih member

theorem length_nameClasses (options : LoadOptions) (count : Nat) (entries : List ClassEntry) :
    (nameClasses options count entries).length = entries.length := by
  induction entries generalizing count with
  | nil => rfl
  | cons entry rest ih => simp [nameClasses, ih]

theorem buildClasses_eq_ok_iff {options : LoadOptions} {sourceName : String} {count : Nat}
    {seen : List String} {entries : List ClassEntry} {classes : List ClassImage} :
    buildClasses options sourceName count seen entries = .ok classes ↔
      ((nameClasses options count entries).map NamedClass.fullName).Nodup ∧
        (∀ c ∈ nameClasses options count entries, c.fullName ∉ seen) ∧
          (nameClasses options count entries).map (renderClass options sourceName) = classes := by
  induction entries generalizing count seen classes with
  | nil => simp [buildClasses, nameClasses]
  | cons entry rest ih =>
      simp only [buildClasses, nameClasses]
      generalize nameClass options count entry = named
      obtain ⟨c, count⟩ := named
      dsimp only
      by_cases known : c.fullName ∈ seen
      · simp [known]
      · rw [if_neg (by simpa using known), map_eq_ok]
        simp only [ih, List.map_cons, List.nodup_cons, List.mem_cons, List.mem_map,
          forall_eq_or_imp]
        constructor
        · rintro ⟨others, ⟨distinct, unseen, rfl⟩, rfl⟩
          refine ⟨⟨?_, distinct⟩, ⟨known, fun d member => ?_⟩, rfl⟩
          · rintro ⟨d, member, same⟩
            exact unseen d member (.inl same)
          · exact fun old => unseen d member (.inr old)
        · rintro ⟨⟨fresh, distinct⟩, ⟨-, unseen⟩, rfl⟩
          refine ⟨_, ⟨distinct, fun d member => ?_, rfl⟩, rfl⟩
          rintro (same | old)
          · exact fresh ⟨d, member, same⟩
          · exact unseen d member old

def ofNamed (options : LoadOptions) (sourceName : String) (named : List NamedClass) : Image :=
    ⟨named.map (renderClass options sourceName),
      packagesFrom 0 [] (named.map NamedClass.package)⟩

theorem ofNamed_classes_package (options : LoadOptions) (sourceName : String)
    (named : List NamedClass) :
    (named.map (renderClass options sourceName)).map ClassImage.package =
      named.map NamedClass.package := by
  simp [Function.comp_def, ClassImage.package, named_renderClass]

theorem ofNamed_classes_fullName (options : LoadOptions) (sourceName : String)
    (named : List NamedClass) :
    (named.map (renderClass options sourceName)).map ClassImage.fullName =
      named.map NamedClass.fullName := by
  simp [Function.comp_def, ClassImage.fullName, named_renderClass]

/-- An image is built exactly if no two classes go by one full name. -/
theorem build_eq_ok_iff {artifact : Artifact} {options : LoadOptions} {sourceName : String}
    {image : Image} :
    Image.build artifact options sourceName = .ok image ↔
      ((nameClasses options 0 artifact.classes).map NamedClass.fullName).Nodup ∧
        ofNamed options sourceName (nameClasses options 0 artifact.classes) = image := by
  unfold Image.build
  rw [bind_eq_ok]
  simp only [buildClasses_eq_ok_iff, pure, Except.pure, Except.ok.injEq]
  constructor
  · rintro ⟨_, ⟨distinct, -, rfl⟩, rfl⟩
    rw [ofNamed_classes_package]
    exact ⟨distinct, rfl⟩
  · rintro ⟨distinct, rfl⟩
    refine ⟨_, ⟨distinct, by simp, rfl⟩, ?_⟩
    rw [ofNamed_classes_package]
    rfl

end Image

end DexBrowser

import DexBrowser.Proofs.Image.Naming
import DexBrowser.Proofs.Image.Respelling

/-!
Names, packages and source paths. Main statement: a source path is another spelling of its name, so
that it says the normal form and nothing more, and a normal form is its package and its simple name
with a dot between them.
-/

namespace DexBrowser.ClassName

open Text

/-! ## Source paths as spellings -/

theorem dotted_slashed {c : Char} (notSlash : c ≠ '/') : dotted (slashed c) = c := by
  unfold slashed
  split
  case isTrue isDot => rw [isDot]; rfl
  case isFalse => rw [dotted, if_neg notSlash]

theorem slashed_eq_self {c d : Char} (slash : d ≠ '/') (same : slashed c = d) : c = d := by
  unfold slashed at same
  split at same
  · exact absurd same.symm slash
  · exact same

theorem isBlank_slashed (c : Char) (blank : isBlank c = false) : isBlank (slashed c) = false := by
  unfold slashed
  split
  · rfl
  · exact blank

/-- With slashes for its dots, a normal form has its ends as they are, and still no descriptor
around it. -/
theorem normalForm_map_slashed {cs : List Char} (normal : Normal cs) :
    normalForm (cs.map slashed) = cs := by
  have stripped : Stripped (cs.map slashed) :=
    stripped_map isBlank_slashed normal.stripped
  have bare : unwrap? (cs.map slashed) = none :=
    unwrap?_map (fun _ => slashed_eq_self (by decide)) (fun _ => slashed_eq_self (by decide))
      normal.bare
  have back : ∀ c ∈ cs, (dotted ∘ slashed) c = c := by
    intro c member
    refine dotted_slashed ?_
    rintro rfl
    exact normal.dotted member
  rw [normalForm, strip_eq_self stripped, unwrapAll_bare bare, List.map_map,
    List.map_congr_left back, List.map_id']

theorem normalize_sourcePath (name : String) : normalize (sourcePath name) = normalize name := by
  rw [normalize, sourcePath, String.toList_ofList,
    normalForm_map_slashed (normal_normalForm name.toList), normalize]

theorem sourcePath_eq_iff {name other : String} :
    sourcePath name = sourcePath other ↔ normalize name = normalize other := by
  constructor
  · intro same
    rw [← normalize_sourcePath name, same, normalize_sourcePath]
  · intro same
    rw [sourcePath, sourcePath, String.ofList_injective same]

theorem sourceFile_eq_iff {name other : String} :
    sourceFile name = sourceFile other ↔ sourcePath name = sourcePath other := by
  rw [sourceFile, sourceFile, String.append_left_inj]

/-! ## Packages and simple names -/

theorem package_normalize (name : String) : package (normalize name) = package name := by
  have same : normalForm (normalForm name.toList) = normalForm name.toList :=
    normalForm_normal (normal_normalForm name.toList)
  rw [package, normalize, String.toList_ofList, same]
  rfl

def HasPackage (form : String) : Prop :=
    ∃ before last, before ≠ "" ∧ '.' ∉ last.toList ∧ form = before ++ "." ++ last

theorem toList_dotted (before last : String) :
    (before ++ "." ++ last).toList = before.toList ++ '.' :: last.toList := by
  rw [String.toList_append, String.toList_append, List.append_assoc]
  rfl

theorem hasPackage_iff {form : String} : HasPackage form ↔ beforeLastDot form.toList ≠ [] := by
  constructor
  · rintro ⟨before, last, nonempty, plain, rfl⟩
    rw [toList_dotted, beforeLastDot_join _ plain]
    exact fun empty => nonempty (String.toList_eq_nil_iff.mp empty)
  · intro nonempty
    rcases cut_cases form.toList with ⟨nothing, -⟩ | parts
    · exact absurd nothing nonempty
    · refine ⟨String.ofList (beforeLastDot form.toList), String.ofList (afterLastDot form.toList),
        fun empty => nonempty (String.ofList_injective empty), ?_, ?_⟩
      · rw [String.toList_ofList]
        exact not_mem_afterLastDot _
      · rw [← String.toList_inj, toList_dotted, String.toList_ofList, String.toList_ofList]
        exact parts

/-- A name that has a package is the package and the simple name, any other one the simple name, if
need be with a dot in front. -/
theorem package_simple_cases {form : String} (normal : Normal form.toList) :
    HasPackage form ∧ package form ++ "." ++ simple form = form ∨
      ¬HasPackage form ∧ package form = defaultPackage ∧
        (form = simple form ∨ form = "." ++ simple form) := by
  have spelled : (simple form).toList = afterLastDot form.toList := String.toList_ofList
  rw [hasPackage_iff]
  cases package_normal normal with
  | inl unnamed =>
      obtain ⟨nothing, named⟩ := unnamed
      refine .inr ⟨fun some => some nothing, named, ?_⟩
      cases cut_cases form.toList with
      | inl undotted =>
          left
          rw [← String.toList_inj, spelled, undotted.2]
      | inr parts =>
          right
          rw [nothing] at parts
          rw [← String.toList_inj, String.toList_append, spelled]
          exact parts
  | inr named =>
      obtain ⟨nonempty, named⟩ := named
      refine .inl ⟨nonempty, ?_⟩
      have parts := (cut_cases form.toList).resolve_left fun undotted => nonempty undotted.1
      rw [← String.toList_inj, toList_dotted, named, spelled]
      exact parts.symm

/-- A source path is a spelling of its name, and says the normal form and no more; a name has the
package of its normal form; and a normal form is made of package and simple name, unless there is
nothing before its last dot. -/
theorem sourcePath_roundTrip (name : String) :
    let form := normalize name
    normalize (sourcePath name) = form ∧
      (∀ other, (sourcePath name = sourcePath other ↔ form = normalize other) ∧
        (sourceFile name = sourceFile other ↔ form = normalize other)) ∧
      package form = package name ∧
      (HasPackage form ∧ package name ++ "." ++ simple form = form ∨
        ¬HasPackage form ∧ package name = defaultPackage ∧
          (form = simple form ∨ form = "." ++ simple form)) := by
  intro form
  have normal : Normal form.toList := normalize_eq_self_iff.mp (normalize_normalize name)
  have cut := package_simple_cases normal
  rw [package_normalize] at cut
  refine ⟨normalize_sourcePath name, fun other => ?_, package_normalize name, cut⟩
  exact ⟨sourcePath_eq_iff, sourceFile_eq_iff.trans sourcePath_eq_iff⟩

end DexBrowser.ClassName

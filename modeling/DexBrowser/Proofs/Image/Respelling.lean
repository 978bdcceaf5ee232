import DexBrowser.Proofs.Image.ClassName
import Mathlib.Logic.Relation

/-!
Spellings of a name. A name is respelled by blanks around it, by a descriptor around it and by a
slash for a dot. Main statement: two names have one normal form exactly if respellings lead from one
to the other, and the normal forms are the names without a slash, with no blank at an end and with
no descriptor around them.
-/

namespace DexBrowser

namespace Text

variable {cs front back : List Char}

/-! ## Blanks around a text -/

def Blanks (cs : List Char) : Prop :=
    ∀ c ∈ cs, isBlank c = true

theorem blanks_takeWhile (cs : List Char) : Blanks (cs.takeWhile isBlank) :=
  List.all_eq_true.mp List.all_takeWhile

theorem dropBlanks_of_blanks (blanks : Blanks cs) : dropBlanks cs = [] := by
  have dropped : dropBlanks (cs ++ []) = dropBlanks [] := List.dropWhile_append_of_pos blanks
  rwa [List.append_nil] at dropped

theorem dropBlanks_front (blanks : Blanks front) (cs : List Char) :
    dropBlanks (front ++ cs) = dropBlanks cs :=
  List.dropWhile_append_of_pos blanks

theorem strip_back (blanks : Blanks back) (cs : List Char) : strip (cs ++ back) = strip cs := by
  have reversed : Blanks back.reverse := fun c member => blanks c (List.mem_reverse.mp member)
  unfold strip
  apply congrArg List.reverse
  have split : dropBlanks (cs ++ back) =
      if (dropBlanks cs).isEmpty then dropBlanks back else dropBlanks cs ++ back :=
    List.dropWhile_append
  rw [split]
  cases kept : dropBlanks cs with
  | nil =>
      rw [dropBlanks_of_blanks blanks]
      rfl
  | cons c rest =>
      rw [List.isEmpty_cons, if_neg Bool.false_ne_true, List.reverse_append]
      exact dropBlanks_front reversed _

theorem strip_pad (blankFront : Blanks front) (blankBack : Blanks back) (cs : List Char) :
    strip (front ++ cs ++ back) = strip cs := by
  rw [strip_back blankBack, strip, dropBlanks_front blankFront]
  rfl

theorem exists_pad (cs : List Char) :
    ∃ front back, Blanks front ∧ Blanks back ∧ cs = front ++ strip cs ++ back := by
  let rest := dropBlanks cs
  let back := (rest.reverse.takeWhile isBlank).reverse
  have whole : cs.takeWhile isBlank ++ rest = cs := List.takeWhile_append_dropWhile
  have inner : strip cs ++ back = rest := by
    have parts : rest.reverse.takeWhile isBlank ++ dropBlanks rest.reverse = rest.reverse :=
      List.takeWhile_append_dropWhile
    rw [strip, ← List.reverse_append, parts, List.reverse_reverse]
  refine ⟨cs.takeWhile isBlank, back, blanks_takeWhile cs, ?_, ?_⟩
  · intro c member
    exact blanks_takeWhile _ c (List.mem_reverse.mp member)
  · rw [List.append_assoc, inner, whole]

end Text

namespace ClassName

open Text

/-! ## Slashes and dots -/

theorem isBlank_dotted_eq (c : Char) : isBlank (dotted c) = isBlank c := by
  cases blank : isBlank c with
  | false => exact isBlank_dotted c blank
  | true =>
      have notSlash : c ≠ '/' := by
        intro slash
        subst slash
        contradiction
      rw [dotted, if_neg notSlash, blank]

theorem dotted_dotted (c : Char) : dotted (dotted c) = dotted c := by
  by_cases slash : c = '/'
  · rw [slash]
    rfl
  · have same : dotted c = c := if_neg slash
    rw [same, same]

theorem dropBlanks_map_dotted (cs : List Char) :
    dropBlanks (cs.map dotted) = (dropBlanks cs).map dotted := by
  have same : isBlank ∘ dotted = isBlank := funext isBlank_dotted_eq
  rw [dropBlanks, List.dropWhile_map, same]
  rfl

theorem strip_map_dotted (cs : List Char) : strip (cs.map dotted) = (strip cs).map dotted := by
  rw [strip, dropBlanks_map_dotted, ← List.map_reverse, dropBlanks_map_dotted, ← List.map_reverse]
  rfl

theorem unwrapAll_map_dotted (cs : List Char) :
    unwrapAll (cs.map dotted) = (unwrapAll cs).map dotted := by
  induction cs using unwrapAll.induct with
  | case1 cs inner unwrapped ih =>
      obtain ⟨layered, nonempty⟩ := unwrap?_eq_some unwrapped
      have mapped : unwrap? (cs.map dotted) = some (inner.map dotted) := by
        have spelled : cs.map dotted = 'L' :: (inner.map dotted ++ [';']) := by
          rw [layered, List.map_cons, List.map_append]
          rfl
        rw [spelled]
        apply unwrap?_layer
        intro empty
        exact nonempty (List.map_eq_nil_iff.mp empty)
      rw [unwrapAll_layer mapped, strip_map_dotted, ih, unwrapAll_layer unwrapped]
  | case2 cs bare => rw [unwrapAll_bare (unwrap?_map_dotted bare), unwrapAll_bare bare]

theorem normalForm_map_dotted (cs : List Char) : normalForm (cs.map dotted) = normalForm cs := by
  rw [normalForm, strip_map_dotted, unwrapAll_map_dotted, List.map_map]
  exact List.map_congr_left fun c _ => dotted_dotted c

/-! ## Respellings -/

/-- One step from a spelling of a name to a longer or a slashed one. -/
inductive Respells : String → String → Prop
  | pad {front back : String} (name : String) (blankFront : Blanks front.toList)
      (blankBack : Blanks back.toList) : Respells name (front ++ name ++ back)
  | wrap {name : String} (nonempty : name ≠ "") : Respells name ("L" ++ name ++ ";")
  | slash (front back : String) : Respells (front ++ "." ++ back) (front ++ "/" ++ back)

/-- Finitely many steps, forwards or backwards, lead from one spelling to the other. -/
abbrev Spells : String → String → Prop :=
    Relation.EqvGen Respells

theorem normalForm_wrap {inner : List Char} (nonempty : inner ≠ []) :
    normalForm ('L' :: (inner ++ [';'])) = normalForm inner := by
  have stripped : Stripped ('L' :: (inner ++ [';'])) := by
    constructor
    · intro c head
      obtain rfl := Option.some.inj head
      rfl
    · intro c last
      rw [← List.cons_append, List.getLast?_concat] at last
      obtain rfl := Option.some.inj last
      rfl
  rw [normalForm, strip_eq_self stripped, unwrapAll_layer (unwrap?_layer nonempty)]
  rfl

theorem Respells.normalForm {name other : String} (respells : Respells name other) :
    normalForm other.toList = ClassName.normalForm name.toList := by
  cases respells with
  | pad name blankFront blankBack =>
      rw [String.toList_append, String.toList_append, ClassName.normalForm,
        strip_pad blankFront blankBack]
      rfl
  | wrap nonempty =>
      rw [String.toList_append, String.toList_append]
      apply normalForm_wrap
      intro empty
      exact nonempty (String.toList_eq_nil_iff.mp empty)
  | slash front back =>
      rw [← normalForm_map_dotted, ← normalForm_map_dotted (front ++ "." ++ back).toList]
      simp only [String.toList_append, List.map_append]
      rfl

theorem Spells.normalForm {name other : String} (spells : Spells name other) :
    normalForm name.toList = ClassName.normalForm other.toList := by
  induction spells with
  | rel _ _ respells => exact respells.normalForm.symm
  | refl _ => rfl
  | symm _ _ _ ih => exact ih.symm
  | trans _ _ _ _ _ first second => exact first.trans second

/-! ## The way to the normal form -/

theorem spells_strip (cs : List Char) : Spells (String.ofList (strip cs)) (String.ofList cs) := by
  obtain ⟨front, back, blankFront, blankBack, whole⟩ := exists_pad cs
  have padded : Respells (String.ofList (strip cs))
      (String.ofList front ++ String.ofList (strip cs) ++ String.ofList back) := by
    apply Respells.pad
    · rwa [String.toList_ofList]
    · rwa [String.toList_ofList]
  rw [← String.ofList_append, ← String.ofList_append, ← whole] at padded
  exact .rel _ _ padded

theorem ofList_layer (inner : List Char) :
    String.ofList ('L' :: (inner ++ [';'])) = "L" ++ String.ofList inner ++ ";" := by
  apply String.toList_injective
  simp only [String.toList_append, String.toList_ofList]
  rfl

theorem spells_layer {inner : List Char} (nonempty : inner ≠ []) :
    Spells (String.ofList inner) (String.ofList ('L' :: (inner ++ [';']))) := by
  have wrapped : Respells (String.ofList inner) ("L" ++ String.ofList inner ++ ";") := by
    apply Respells.wrap
    intro empty
    exact nonempty (String.ofList_injective empty)
  rw [← ofList_layer] at wrapped
  exact .rel _ _ wrapped

theorem spells_unwrapAll (cs : List Char) :
    Spells (String.ofList (unwrapAll cs)) (String.ofList cs) := by
  induction cs using unwrapAll.induct with
  | case1 cs inner unwrapped ih =>
      obtain ⟨layered, nonempty⟩ := unwrap?_eq_some unwrapped
      rw [unwrapAll_layer unwrapped]
      have wrapped := spells_layer nonempty
      rw [← layered] at wrapped
      exact (ih.trans _ _ _ (spells_strip inner)).trans _ _ _ wrapped
  | case2 cs bare =>
      rw [unwrapAll_bare bare]
      exact .refl _

theorem spells_map_dotted (front cs : List Char) :
    Spells (String.ofList (front ++ cs.map dotted)) (String.ofList (front ++ cs)) := by
  induction cs generalizing front with
  | nil => exact .refl _
  | cons c rest ih =>
      have later := ih (front ++ [dotted c])
      rw [List.append_assoc, List.append_assoc, List.singleton_append, List.singleton_append]
        at later
      refine later.trans _ _ _ ?_
      by_cases slash : c = '/'
      case neg =>
          rw [dotted, if_neg slash]
          exact .refl _
      case pos =>
          subst slash
          have slashed := Respells.slash (String.ofList front) (String.ofList rest)
          have spelled (c : Char) : String.ofList front ++ String.ofList [c] ++ String.ofList rest =
              String.ofList (front ++ c :: rest) := by
            rw [← String.ofList_append, ← String.ofList_append, List.append_assoc,
              List.singleton_append]
          rw [show "." = String.ofList ['.'] from rfl, show "/" = String.ofList ['/'] from rfl,
            spelled, spelled] at slashed
          exact .rel _ _ slashed

theorem spells_normalize (name : String) : Spells (normalize name) name := by
  have dots := spells_map_dotted [] (unwrapAll (strip name.toList))
  have bare := spells_unwrapAll (strip name.toList)
  have padded := spells_strip name.toList
  rw [String.ofList_toList] at padded
  exact (dots.trans _ _ _ bare).trans _ _ _ padded

/-! ## Canonical forms -/

theorem normalize_eq_iff {name other : String} :
    normalize name = normalize other ↔ Spells name other := by
  constructor
  · intro same
    have back := spells_normalize name
    rw [same] at back
    exact (back.symm _ _).trans _ _ _ (spells_normalize other)
  · intro spells
    rw [normalize, normalize, spells.normalForm]

theorem normalize_eq_self_iff {name : String} : normalize name = name ↔ Normal name.toList := by
  constructor
  · intro same
    rw [← same, normalize, String.toList_ofList]
    exact normal_normalForm name.toList
  · intro normal
    rw [normalize, normalForm_normal normal, String.ofList_toList]

theorem normalize_normalize (name : String) : normalize (normalize name) = normalize name := by
  rw [normalize_eq_self_iff, normalize, String.toList_ofList]
  exact normal_normalForm name.toList

theorem normal_iff {name : String} :
    Normal name.toList ↔ '/' ∉ name.toList ∧ Stripped name.toList ∧
      ¬ ∃ inner, inner ≠ "" ∧ name = "L" ++ inner ++ ";" := by
  have bare : unwrap? name.toList = none ↔ ¬ ∃ inner, inner ≠ "" ∧ name = "L" ++ inner ++ ";" := by
    rw [unwrap?_eq_none]
    constructor
    · rintro none ⟨inner, nonempty, rfl⟩
      refine none inner.toList (fun empty => nonempty (String.toList_eq_nil_iff.mp empty)) ?_
      rw [String.toList_append, String.toList_append]
      rfl
    · intro none inner nonempty spelled
      refine none ⟨String.ofList inner, fun empty => ?_, ?_⟩
      · exact nonempty (String.ofList_injective empty)
      · rw [← ofList_layer, ← spelled, String.ofList_toList]
  rw [← bare]
  constructor
  · intro normal
    exact ⟨normal.dotted, normal.stripped, normal.bare⟩
  · intro facts
    exact ⟨facts.2.1, facts.2.2, facts.1⟩

/-- Names have one normal form exactly if respellings lead from one to the other. A normal form is
its own, and those are the names without a slash, without blanks at the ends and without a
descriptor around them. -/
theorem normalize_canonical :
    (∀ name other, normalize name = normalize other ↔ Spells name other) ∧
      (∀ name, normalize (normalize name) = normalize name) ∧
      ∀ form, (∃ name, normalize name = form) ↔ '/' ∉ form.toList ∧ Stripped form.toList ∧
        ¬ ∃ inner, inner ≠ "" ∧ form = "L" ++ inner ++ ";" := by
  refine ⟨fun name other => normalize_eq_iff, normalize_normalize, fun form => ?_⟩
  rw [← normal_iff, ← normalize_eq_self_iff]
  constructor
  · rintro ⟨name, rfl⟩
    exact normalize_normalize name
  · intro same
    exact ⟨form, same⟩

end ClassName

end DexBrowser

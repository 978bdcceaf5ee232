import DexBrowser.Proofs.Files.Neighbours

/-!
Paths and their spellings. Main statement: a path that is written out and read again is the same
path.
-/

namespace DexBrowser.Path

open Text

def partsOf (cs : List Char) : List String :=
    ((pieces '/' cs).map String.ofList).filter isPart

theorem parts_ofString (text : String) : (ofString text).parts = partsOf text.toList :=
  rfl

@[simp] theorem partsOf_nil : partsOf [] = [] := by
  decide

theorem partsOf_append_slash (front rest : List Char) :
    partsOf (front ++ '/' :: rest) = partsOf front ++ partsOf rest := by
  rw [partsOf, pieces_append, List.map_append, List.filter_append, partsOf, partsOf]

theorem partsOf_slash_cons (rest : List Char) : partsOf ('/' :: rest) = partsOf rest :=
  partsOf_append_slash [] rest

theorem partsOf_slashes_append {slashes : List Char} (all : ∀ c ∈ slashes, c = '/')
    (rest : List Char) : partsOf (slashes ++ rest) = partsOf rest := by
  induction slashes with
  | nil => rfl
  | cons c slashes ih =>
      obtain ⟨rfl, others⟩ := List.forall_mem_cons.mp all
      rw [List.cons_append, partsOf_slash_cons, ih others]

theorem partsOf_append_slashes (front : List Char) {slashes : List Char}
    (all : ∀ c ∈ slashes, c = '/') (some : slashes ≠ []) (rest : List Char) :
    partsOf (front ++ slashes ++ rest) = partsOf front ++ partsOf rest := by
  obtain ⟨c, slashes, rfl⟩ := List.exists_cons_of_ne_nil some
  obtain ⟨rfl, others⟩ := List.forall_mem_cons.mp all
  rw [List.append_assoc, List.cons_append, partsOf_append_slash, partsOf_slashes_append others]

theorem noSlash_of_isPart {part : String} (isPart : isPart part = true) : '/' ∉ part.toList := by
  simp only [DexBrowser.isPart, Bool.and_eq_true, Bool.not_eq_true', List.contains_eq_mem,
    decide_eq_false_iff_not] at isPart
  exact isPart.2

theorem ne_empty_of_isPart {part : String} (isPart : isPart part = true) : part ≠ "" := by
  rintro rfl
  exact absurd isPart (by decide)

theorem partsOf_part {part : String} (isPart : isPart part = true) :
    partsOf part.toList = [part] := by
  rw [partsOf, pieces_of_not_mem (noSlash_of_isPart isPart)]
  simp [isPart]

theorem partsOf_intercalate {parts : List String} (clean : ∀ part ∈ parts, isPart part = true) :
    partsOf ("/".intercalate parts).toList = parts := by
  induction parts with
  | nil => decide
  | cons part rest ih =>
      obtain ⟨isPart, others⟩ := List.forall_mem_cons.mp clean
      cases rest with
      | nil => exact partsOf_part isPart
      | cons next rest =>
          have slash : "/".toList = ['/'] := rfl
          rw [String.intercalate_cons_cons, String.toList_append, String.toList_append, slash,
            List.append_assoc, List.singleton_append, partsOf_append_slash, partsOf_part isPart,
            ih others, List.singleton_append]

theorem starts_with_part {parts : List String} (clean : ∀ part ∈ parts, isPart part = true)
    (some : parts ≠ []) :
    ∃ c rest, c ≠ '/' ∧ ("/".intercalate parts).toList = c :: rest := by
  obtain ⟨part, others, rfl⟩ := List.exists_cons_of_ne_nil some
  have isPart := clean part List.mem_cons_self
  obtain ⟨c, cs, spelled⟩ := List.exists_cons_of_ne_nil
    (mt String.toList_eq_nil_iff.mp (ne_empty_of_isPart isPart))
  have notSlash : c ≠ '/' := by
    rintro rfl
    exact noSlash_of_isPart isPart (by rw [spelled]; exact List.mem_cons_self)
  cases others with
  | nil => exact ⟨c, cs, notSlash, spelled⟩
  | cons next others =>
      refine ⟨c, cs ++ "/".toList ++ ("/".intercalate (next :: others)).toList, notSlash, ?_⟩
      rw [String.intercalate_cons_cons, String.toList_append, String.toList_append, spelled]
      rfl

theorem anchorOf_append (anchor : Anchor) {c : Char} (notSlash : c ≠ '/') (rest : List Char) :
    anchorOf (anchor.text.toList ++ c :: rest) = anchor := by
  cases anchor <;> simp [Anchor.text, anchorOf, notSlash]

theorem partsOf_anchor_append (anchor : Anchor) (cs : List Char) :
    partsOf (anchor.text.toList ++ cs) = partsOf cs := by
  apply partsOf_slashes_append
  cases anchor <;> simp [Anchor.text]

theorem ofString_text (path : Path) : ofString path.text = path := by
  obtain ⟨anchor, parts, clean⟩ := path
  by_cases some : parts = []
  case pos =>
      subst some
      change ofString (Path.mk anchor [] nofun).text = Path.mk anchor [] nofun
      cases anchor <;> decide
  case neg =>
      obtain ⟨c, rest, notSlash, spelled⟩ := starts_with_part clean some
      have text : (Path.mk anchor parts clean).text.toList =
          anchor.text.toList ++ ("/".intercalate parts).toList := by
        rw [text_of_parts some, String.toList_append]
      have sameAnchor : anchorOf (Path.mk anchor parts clean).text.toList = anchor := by
        rw [text, spelled, anchorOf_append anchor notSlash]
      have sameParts : partsOf (Path.mk anchor parts clean).text.toList = parts := by
        rw [text, partsOf_anchor_append, partsOf_intercalate clean]
      exact (Path.mk.injEq ..).mpr ⟨sameAnchor, sameParts⟩

theorem partsOf_text (path : Path) : partsOf path.text.toList = path.parts := by
  rw [← parts_ofString, ofString_text]

end DexBrowser.Path

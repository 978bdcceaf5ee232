import DexBrowser.Proofs.Image.Naming
import DexBrowser.Text.Pieces
import Mathlib.Data.List.Forall2

/-!
The lines that are reported for a class and its methods. Main statement: a reported line counts
the lines of source that the class is rendered from, so that the declaration stands there in the
code exactly if none of the lines before it holds a line break.
-/

namespace DexBrowser.Image

open Text

/-! ## Lines of source in the code -/

/-- A line of source as the code shows it. -/
def shownLine (options : LoadOptions) (line : String) : List Char :=
    if options.escapeUnicode then UnicodeEscape.encode line.toList else line.toList

def shownLines (options : LoadOptions) (sourceName : String) (c : NamedClass) :
    List (List Char) :=
    (sourceLines options sourceName c).map (shownLine options)

theorem toList_joinLines {lines : List String} (nonempty : lines ≠ []) :
    (joinLines lines).toList = (lines.map String.toList).flatMap (· ++ ['\n']) := by
  rw [joinLines, String.toList_append, String.toList_intercalate]
  induction lines with
  | nil => contradiction
  | cons line rest ih =>
      cases rest with
      | nil => simp
      | cons next rest =>
          have inner := ih (List.cons_ne_nil next rest)
          rw [List.map_cons, List.map_cons, List.intercalate_cons_cons, List.append_assoc,
            List.append_assoc, ← List.map_cons, inner]
          simp

theorem encode_flatMap (texts : List (List Char)) :
    UnicodeEscape.encode (texts.flatMap (· ++ ['\n'])) =
      (texts.map UnicodeEscape.encode).flatMap (· ++ ['\n']) := by
  induction texts with
  | nil => rfl
  | cons text rest ih =>
      rw [List.flatMap_cons, UnicodeEscape.encode_append, UnicodeEscape.encode_append, ih]
      rfl

theorem toList_code {c : NamedClass} (unready : c.entry.code = none) (options : LoadOptions)
    (sourceName : String) :
    (renderClass options sourceName c).code.toList =
      (shownLines options sourceName c).flatMap (· ++ ['\n']) := by
  have nonempty : sourceLines options sourceName c ≠ [] := by simp [sourceLines]
  unfold renderClass shownLines shownLine
  rw [unready]
  dsimp only
  split
  · rw [escapeUnicode, String.toList_ofList, toList_joinLines nonempty, encode_flatMap,
      List.map_map]
    rfl
  · rw [toList_joinLines nonempty]

/-! ## Where declarations stand -/

/-- A line that is reported for a declaration. The declaration is that line of source; in the code
it starts further down by as many lines as there are breaks inside the lines before it. -/
structure Declared (lines : List (List Char)) (code declaration : List Char) (line : Nat) :
    Prop where
  source : lines[line - 1]? = some declaration
  stands : ∃ later, pieces '\n' code =
    (lines.take (line - 1)).flatMap (pieces '\n') ++ (pieces '\n' declaration ++ later)
  right_iff : ((lines.take (line - 1)).flatMap (pieces '\n')).length + 1 = line ↔
    ∀ earlier ∈ lines.take (line - 1), '\n' ∉ earlier
  reads : (∀ earlier ∈ lines.take line, '\n' ∉ earlier) →
    (pieces '\n' code)[line - 1]? = some declaration

theorem length_flatMap_pieces (texts : List (List Char)) :
    (texts.flatMap (pieces '\n')).length = texts.length + texts.flatten.count '\n' := by
  induction texts with
  | nil => rfl
  | cons text rest ih =>
      rw [List.flatMap_cons, List.length_append, ih, length_pieces, List.flatten_cons,
        List.count_append, List.length_cons]
      omega

theorem flatMap_pieces_of_not_mem {texts : List (List Char)}
    (uncut : ∀ text ∈ texts, '\n' ∉ text) : texts.flatMap (pieces '\n') = texts := by
  induction texts with
  | nil => rfl
  | cons text rest ih =>
      rw [List.flatMap_cons, pieces_of_not_mem (uncut text (by simp)),
        ih fun other member => uncut other (by simp [member]), List.singleton_append]

theorem declared (earlier : List (List Char)) (declaration : List Char)
    (later : List (List Char)) :
    Declared (earlier ++ declaration :: later)
      ((earlier ++ declaration :: later).flatMap (· ++ ['\n'])) declaration
      (earlier.length + 1) := by
  have cut : pieces '\n' ((earlier ++ declaration :: later).flatMap (· ++ ['\n'])) =
      earlier.flatMap (pieces '\n') ++
        (pieces '\n' declaration ++ (later.flatMap (pieces '\n') ++ [[]])) := by
    have all := pieces_flatMap '\n' (earlier ++ declaration :: later) []
    rw [List.append_nil] at all
    rw [all, List.flatMap_append, List.flatMap_cons, List.append_assoc, List.append_assoc]
    rfl
  refine ⟨by simp, ⟨_, by simpa using cut⟩, ?_, fun uncut => ?_⟩
  · rw [Nat.add_sub_cancel, List.take_left, length_flatMap_pieces]
    have right : earlier.length + earlier.flatten.count '\n' + 1 = earlier.length + 1 ↔
        earlier.flatten.count '\n' = 0 := by omega
    rw [right, List.count_eq_zero, List.mem_flatten]
    simp
  · have whole : earlier ++ declaration :: later = (earlier ++ [declaration]) ++ later := by simp
    rw [whole, List.take_left' (by simp)] at uncut
    rw [cut, pieces_of_not_mem (uncut declaration (by simp)),
      flatMap_pieces_of_not_mem fun text member => uncut text (by simp [member])]
    simp

/-! ## The lines of methods -/

theorem forall₂_declarationLines (options : LoadOptions) (inconsistent : Bool) (className : String)
    (front back : List String) (first : Bool) (methods : List NamedMethod) :
    List.Forall₂ (fun method line => ∃ earlier later,
        front ++ (methodBlocks options inconsistent className first methods).flatten ++ back =
          earlier ++ declarationLine className method :: later ∧ line = earlier.length + 1)
      methods
      (declarationLines front.length first
        (methodBlocks options inconsistent className first methods)) := by
  induction methods generalizing front first with
  | nil => exact .nil
  | cons method rest ih =>
      let block := (if first then [] else [""]) ++ methodLines options inconsistent className method
      have blocks : methodBlocks options inconsistent className first (method :: rest) =
          block :: methodBlocks options inconsistent className false rest := by
        cases first <;> rfl
      have next := ih (front ++ block) false
      rw [List.length_append] at next
      rw [blocks, declarationLines, List.flatten_cons]
      refine .cons ⟨front ++ (if first then [] else [""]), ?_⟩ ?_
      · refine ⟨(methodLines options inconsistent className method).tail ++
          ((methodBlocks options inconsistent className false rest).flatten ++ back), ?_, ?_⟩
        · simp [block, methodLines]
        · cases first <;> simp
      · simpa using next

theorem mem_methodBlocks {options : LoadOptions} {inconsistent : Bool} {className : String}
    {first : Bool} {methods : List NamedMethod} {block : List String}
    (member : block ∈ methodBlocks options inconsistent className first methods) :
    ∃ method ∈ methods, ∃ separator : List String, separator ⊆ [""] ∧
      block = separator ++ methodLines options inconsistent className method := by
  induction methods generalizing first with
  | nil => contradiction
  | cons method rest ih =>
      rcases List.mem_cons.mp member with rfl | later
      · cases first
        · exact ⟨method, by simp, [""], by simp, rfl⟩
        · exact ⟨method, by simp, [], by simp, rfl⟩
      · obtain ⟨other, isMethod, found⟩ := ih later
        exact ⟨other, List.mem_cons_of_mem _ isMethod, found⟩

theorem le_declarationLines {before line : Nat} {first : Bool} {blocks : List (List String)}
    (member : line ∈ declarationLines before first blocks) :
    (if first then before + 1 else before + 2) ≤ line := by
  induction blocks generalizing before first with
  | nil => contradiction
  | cons block rest ih =>
      rcases List.mem_cons.mp member with rfl | later
      · exact Nat.le_refl _
      · have least := ih later
        rw [if_neg Bool.false_ne_true] at least
        split <;> omega

theorem pairwise_declarationLines {before : Nat} {first : Bool} {blocks : List (List String)}
    (nonempty : ∀ block ∈ blocks, block ≠ []) :
    (declarationLines before first blocks).Pairwise (· < ·) := by
  induction blocks generalizing before first with
  | nil => exact .nil
  | cons block rest ih =>
      have others : ∀ other ∈ rest, other ≠ [] :=
        fun other isOther => nonempty other (List.mem_cons_of_mem _ isOther)
      refine .cons (fun line member => ?_) (ih others)
      have length := List.length_pos_iff.mpr (nonempty block (by simp))
      have least := le_declarationLines member
      rw [if_neg Bool.false_ne_true] at least
      split <;> omega

/-! ## A class as it is rendered -/

section Rendered

variable {c : NamedClass} {options : LoadOptions} {sourceName : String}

theorem declared_of_source (unready : c.entry.code = none) {earlier later : List String}
    {declaration : String}
    (parts : sourceLines options sourceName c = earlier ++ declaration :: later) :
    Declared (shownLines options sourceName c) (renderClass options sourceName c).code.toList
      (shownLine options declaration) (earlier.length + 1) := by
  have shown := declared (earlier.map (shownLine options)) (shownLine options declaration)
    (later.map (shownLine options))
  rw [List.length_map, ← List.map_cons, ← List.map_append, ← parts] at shown
  rw [toList_code unready]
  exact shown

theorem declared_line (unready : c.entry.code = none) :
    Declared (shownLines options sourceName c) (renderClass options sourceName c).code.toList
      (shownLine options (headerLine c)) (renderClass options sourceName c).line := by
  have parts : sourceLines options sourceName c =
      ["package " ++ c.package ++ ";", "", "/* loaded from: " ++ sourceName ++ " */"] ++
        headerLine c :: ((blocksOf options c).flatten ++ ["\x7d"]) := rfl
  have line : (renderClass options sourceName c).line = 4 := by
    simp only [renderClass, unready]
    rfl
  rw [line]
  exact declared_of_source unready parts

theorem methodLines_renderClass (unready : c.entry.code = none) :
    (renderClass options sourceName c).methodLines =
      declarationLines (headLines sourceName c).length true (blocksOf options c) := by
  simp only [renderClass, unready]

theorem declared_methodLines (unready : c.entry.code = none) :
    List.Forall₂ (fun method line => Declared (shownLines options sourceName c)
        (renderClass options sourceName c).code.toList
        (shownLine options (declarationLine c.name method)) line)
      c.methods (renderClass options sourceName c).methodLines := by
  rw [methodLines_renderClass unready]
  refine (forall₂_declarationLines options c.entry.inconsistent c.name (headLines sourceName c)
    ["\x7d"] true c.methods).imp ?_
  rintro method _ ⟨earlier, later, parts, rfl⟩
  exact declared_of_source unready parts

/-- The lines of a class and its methods, in order, are those of different lines of source. -/
theorem pairwise_lines (unready : c.entry.code = none) :
    ((renderClass options sourceName c).line ::
      (renderClass options sourceName c).methodLines).Pairwise (· < ·) := by
  have line : (renderClass options sourceName c).line = (headLines sourceName c).length := by
    simp only [renderClass, unready]
  rw [line, methodLines_renderClass unready]
  refine .cons (fun line member => ?_) (pairwise_declarationLines fun block member => ?_)
  · have least := le_declarationLines member
    rw [if_pos rfl] at least
    exact least
  · obtain ⟨method, -, separator, -, rfl⟩ := mem_methodBlocks member
    simp [methodLines]

end Rendered

end DexBrowser.Image

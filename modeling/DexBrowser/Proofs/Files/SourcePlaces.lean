import DexBrowser.Proofs.Files.Confinement
import DexBrowser.Proofs.Image.ClassName

/-!
Where the source files of classes lie below a directory. Main statement: two classes have their
files at one place only if one of their names has an empty segment before its last.
-/

namespace DexBrowser

namespace Files

theorem resolve_plain (here : Location) {names : List String} (noDot : "." ∉ names)
    (down : ".." ∉ names) : resolve here names = here ++ names := by
  induction names generalizing here with
  | nil => rw [resolve, List.append_nil]
  | cons name rest ih =>
      obtain ⟨notDot, restNoDot⟩ := List.ne_and_not_mem_of_not_mem_cons noDot
      obtain ⟨notUp, restDown⟩ := List.ne_and_not_mem_of_not_mem_cons down
      rw [resolve, if_neg (Ne.symm notDot), if_neg (Ne.symm notUp), ih _ restNoDot restDown,
        List.append_assoc, List.singleton_append]

theorem place_join {tree : Tree} {directory other : Path} (relative : other.isAbsolute = false)
    (down : ".." ∉ other.parts) :
    tree.place (directory.join other) = tree.place directory ++ other.parts := by
  have noDot : "." ∉ other.parts := fun dot => absurd (other.clean "." dot) (by decide)
  rw [Tree.place, Path.anchor_join relative, Path.parts_join relative, resolve_append,
    resolve_plain _ noDot down]
  rfl

end Files

namespace ClassName

open Text

/-- A name with an empty segment before its last. -/
def HasGap (name : String) : Prop :=
    [] ∈ (pieces '.' name.toList).dropLast

instance (name : String) : Decidable (HasGap name) :=
    inferInstanceAs (Decidable ([] ∈ (pieces '.' name.toList).dropLast))

theorem isPart_ofList {cs : List Char} (nonempty : cs ≠ []) (noDot : cs ≠ ['.'])
    (noSlash : '/' ∉ cs) : isPart (String.ofList cs) = true := by
  simp only [isPart, Bool.and_eq_true, bne_iff_ne, ne_eq, Bool.not_eq_true', String.toList_ofList,
    List.contains_eq_mem, decide_eq_false_iff_not, ← String.toList_inj]
  exact ⟨⟨nonempty, noDot⟩, noSlash⟩

theorem pieces_map_slashed {cs : List Char} (dotted : '/' ∉ cs) :
    pieces '/' (cs.map slashed) = pieces '.' cs := by
  induction cs with
  | nil => rfl
  | cons c cs ih =>
      obtain ⟨notSlash, restDotted⟩ := List.ne_and_not_mem_of_not_mem_cons dotted
      rw [List.map_cons, pieces, pieces, ih restDotted]
      by_cases dot : c = '.'
      · rw [if_pos dot, if_pos ((slashed_eq (Ne.symm notSlash)).mpr dot)]
      · rw [if_neg dot, if_neg (mt (slashed_eq (Ne.symm notSlash)).mp dot), slashed, if_neg dot]

theorem pieces_sourceFile {name : String} (normal : Normal name.toList) :
    ∃ front last, pieces '.' name.toList = front ++ [last] ∧
      pieces '/' (sourceFile name).toList = front ++ [last ++ sourceExtension.toList] := by
  have uncut : '/' ∉ sourceExtension.toList := by decide
  obtain ⟨front, last, whole, longer⟩ := pieces_append_uncut (name.toList.map slashed) uncut
  rw [pieces_map_slashed normal.dotted] at whole
  rw [toList_sourceFile normal]
  exact ⟨front, last, whole, longer⟩

theorem parts_sourceFile {name : String} (normal : Normal name.toList) (gapless : ¬ HasGap name) :
    (Path.ofString (sourceFile name)).parts =
      (pieces '/' (sourceFile name).toList).map String.ofList := by
  obtain ⟨front, last, whole, longer⟩ := pieces_sourceFile normal
  rw [HasGap, whole, List.dropLast_concat] at gapless
  refine List.filter_eq_self.mpr fun part member => ?_
  obtain ⟨piece, isPiece, rfl⟩ := List.mem_map.mp member
  have noSlash := not_mem_of_mem_pieces isPiece
  have noDot : piece ≠ ['.'] := by
    rintro rfl
    rw [longer] at isPiece
    rcases List.mem_append.mp isPiece with inFront | isLast
    · have inName : ['.'] ∈ pieces '.' name.toList := by simp [whole, inFront]
      exact not_mem_of_mem_pieces inName List.mem_cons_self
    · have lengths := congrArg List.length (List.mem_singleton.mp isLast)
      rw [List.length_append] at lengths
      exact absurd lengths (by simp [sourceExtension])
  have nonempty : piece ≠ [] := by
    rintro rfl
    rw [longer] at isPiece
    rcases List.mem_append.mp isPiece with inFront | isLast
    · exact gapless inFront
    · have both := List.append_eq_nil_iff.mp (List.mem_singleton.mp isLast).symm
      exact absurd both.2 (by decide)
  exact isPart_ofList nonempty noDot noSlash

theorem undotted_of_gapless {name : String} (gapless : ¬ HasGap name) :
    name.toList.head? ≠ some '.' := by
  intro head
  obtain ⟨rest, shape⟩ := List.head?_eq_some_iff.mp head
  refine gapless ?_
  rw [HasGap, shape, pieces, if_pos rfl, List.dropLast_cons_of_ne_nil (pieces_ne_nil _ _)]
  exact List.mem_cons_self

theorem sourceFile_injective {name other : String} (normal : Normal name.toList)
    (otherNormal : Normal other.toList) (same : sourceFile name = sourceFile other) :
    name = other := by
  have spelled := congrArg String.toList same
  rw [toList_sourceFile normal, toList_sourceFile otherNormal, List.append_left_inj] at spelled
  have samePieces := congrArg (pieces '/') spelled
  rw [pieces_map_slashed normal.dotted, pieces_map_slashed otherNormal.dotted] at samePieces
  have joined := congrArg (['.'].intercalate ·) samePieces
  simp only [intercalate_pieces] at joined
  exact String.toList_inj.mp joined

/-- Source files below a directory lie at one place only if they are of one class, or of one with a
gap. -/
theorem eq_of_place_eq {tree : Files.Tree} {directory : Path} {name other : String}
    (normal : Normal name.toList) (otherNormal : Normal other.toList) (gapless : ¬ HasGap name)
    (otherGapless : ¬ HasGap other)
    (same : tree.place (directory.join (Path.ofString (sourceFile name))) =
      tree.place (directory.join (Path.ofString (sourceFile other)))) : name = other := by
  have relative {name : String} (normal : Normal name.toList) (gapless : ¬ HasGap name) :
      (Path.ofString (sourceFile name)).isAbsolute = false := by
    rw [Bool.eq_false_iff, Ne, isAbsolute_sourceFile normal]
    exact undotted_of_gapless gapless
  rw [Files.place_join (relative normal gapless) (down_sourceFile normal),
    Files.place_join (relative otherNormal otherGapless) (down_sourceFile otherNormal),
    List.append_right_inj, parts_sourceFile normal gapless,
    parts_sourceFile otherNormal otherGapless] at same
  have samePieces := List.map_inj_right (fun _ _ equal => String.ofList_injective equal) |>.mp same
  have joined := congrArg (['/'].intercalate ·) samePieces
  simp only [intercalate_pieces] at joined
  exact sourceFile_injective normal otherNormal (String.toList_inj.mp joined)

/-! ## The directory of a package -/

def packagePath (package : List Char) : Path :=
    Path.ofString (String.ofList (package.map slashed ++ ['/']))

/-- Of slashes at the start, no more than three are looked at, and the first two are enough if
another character comes third. -/
theorem anchorOf_append_slash (front : List Char) {last : List Char} (uncut : '/' ∉ last) :
    Path.anchorOf (front ++ '/' :: last) = Path.anchorOf (front ++ ['/']) := by
  have next : ∀ c rest, last = c :: rest → c ≠ '/' := by
    rintro c rest rfl rfl
    exact uncut List.mem_cons_self
  rcases front with _ | ⟨a, _ | ⟨b, _ | ⟨c, rest⟩⟩⟩
  · cases last with
    | nil => rfl
    | cons c rest => simp [Path.anchorOf, next c rest rfl]
  · cases last with
    | nil => rfl
    | cons c rest => by_cases slash : a = '/' <;> simp [Path.anchorOf, slash, next c rest rfl]
  · by_cases slash : a = '/' <;> by_cases second : b = '/' <;>
      simp [Path.anchorOf, slash, second]
  · by_cases slash : a = '/' <;> by_cases second : b = '/' <;> by_cases third : c = '/' <;>
      simp [Path.anchorOf, slash, second, third]

theorem ofString_sourceFile {name : String} (normal : Normal name.toList)
    {package simple : List Char} (spelled : name.toList = package ++ '.' :: simple)
    (plain : '.' ∉ simple) :
    (Path.ofString (sourceFile name)).anchor = (packagePath package).anchor ∧
      (Path.ofString (sourceFile name)).parts =
        (packagePath package).parts ++ [String.ofList (simple ++ sourceExtension.toList)] := by
  have noSlash : '/' ∉ simple ++ sourceExtension.toList := by
    have noneInName := normal.dotted
    rw [spelled] at noneInName
    simp only [List.mem_append, List.mem_cons, not_or] at noneInName ⊢
    exact ⟨noneInName.2.2, by decide⟩
  have dotless : simple.map slashed = simple := by
    refine (List.map_congr_left fun c member => ?_).trans (List.map_id simple)
    rw [slashed, if_neg fun dot : c = '.' => plain (dot ▸ member), id]
  have whole : (sourceFile name).toList =
      package.map slashed ++ '/' :: (simple ++ sourceExtension.toList) := by
    rw [toList_sourceFile normal, spelled, List.map_append, List.map_cons, dotless,
      List.append_assoc]
    rfl
  constructor
  · change Path.anchorOf (sourceFile name).toList = Path.anchorOf (String.toList _)
    rw [whole, String.toList_ofList, anchorOf_append_slash _ noSlash]
  · change ((pieces '/' (sourceFile name).toList).map String.ofList).filter isPart =
      ((pieces '/' (String.toList _)).map String.ofList).filter isPart ++ _
    have isFile : isPart (String.ofList (simple ++ sourceExtension.toList)) = true := by
      apply isPart_ofList _ _ noSlash
      · simp [sourceExtension]
      · intro dot
        have lengths := congrArg List.length dot
        simp [sourceExtension] at lengths
    have nothing : isPart (String.ofList []) = false := by decide
    rw [whole, String.toList_ofList, pieces_append, pieces_append, pieces_of_not_mem noSlash,
      List.map_append, List.filter_append, List.map_append, List.filter_append, pieces]
    simp only [List.map_cons, List.map_nil, List.filter_cons, isFile, nothing, List.filter_nil,
      if_true, Bool.false_eq_true, if_false, List.append_nil]

end ClassName

end DexBrowser

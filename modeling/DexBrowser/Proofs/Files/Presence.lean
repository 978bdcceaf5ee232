import DexBrowser.Files.Tree

/-!
Whether something stands at a path. Main statement: that can be told of any path, unless it goes
through a directory that may not be entered, or it or a name on its way is longer than the files
admit.
-/

namespace DexBrowser.Files.Tree

/-- What stands at a path cannot be told, for this reason. -/
inductive Hides (tree : Tree) (path : Path) : Reason → Prop
  /-- A directory on the way may not be entered. -/
  | barred (noNul : path.holdsNul = false) (stopped : tree.isBarred path = true) :
      Hides tree path .denied
  /-- Some name on the way, or the path as a whole, is longer than the files admit. -/
  | overlong (noNul : path.holdsNul = false) (enters : tree.isBarred path = false)
      (refused : tree.locate path = .error .nameTooLong) : Hides tree path .nameTooLong

theorem walk_refused {tree : Tree} {here : Location} {entry : Option Entry} {names : List String}
    {reason : Reason} (refused : tree.walk here entry names = .error reason) :
    isAbsence reason = true ∨ reason = .nameTooLong := by
  fun_induction walk tree here entry names with
  | case1 => contradiction
  | case2 =>
      obtain rfl := Except.error.inj refused
      exact .inl rfl
  | case3 =>
      obtain rfl := Except.error.inj refused
      exact .inl rfl
  | case4 _ _ ih => exact ih refused
  | case5 _ _ _ ih => exact ih refused
  | case6 =>
      obtain rfl := Except.error.inj refused
      exact .inr rfl
  | case7 _ _ _ _ _ _ ih => exact ih refused

theorem locate_refused {tree : Tree} {path : Path} {reason : Reason}
    (refused : tree.locate path = .error reason) :
    isAbsence reason = true ∨ reason = .nameTooLong := by
  unfold locate at refused
  split at refused
  · obtain rfl := Except.error.inj refused
    exact .inr rfl
  · exact walk_refused refused

theorem stat_eq_error_iff {tree : Tree} {path : Path} {refusal : Refusal} :
    tree.stat path = .error refusal ↔
      tree.locate path = .error .nameTooLong ∧ refusal = ⟨.nameTooLong, path⟩ := by
  unfold stat
  cases located : tree.locate path with
  | ok found => simp
  | error reason =>
      rcases locate_refused located with absent | rfl
      · have other : reason ≠ .nameTooLong := by
          rintro rfl
          contradiction
        simp [absent, other]
      · simp [isAbsence, eq_comm]

theorem look_eq_error_iff {tree : Tree} {path : Path} {refusal : Refusal}
    (tell : Option Entry → Bool) :
    tree.look path tell = .error refusal ↔
      tree.Hides path refusal.reason ∧ refusal = ⟨refusal.reason, path⟩ := by
  unfold look
  constructor
  · intro failed
    cases noNul : path.holdsNul with
    | true => simp [noNul] at failed
    | false =>
        cases stopped : tree.isBarred path with
        | true =>
            simp only [noNul, stopped, if_true, Bool.false_eq_true, if_false,
              Except.error.injEq] at failed
            obtain rfl := failed
            exact ⟨.barred noNul stopped, rfl⟩
        | false =>
            simp only [noNul, stopped, Bool.false_eq_true, if_false] at failed
            cases told : tree.stat path with
            | ok entry => simp [told, Except.map] at failed
            | error other =>
                simp only [told, Except.map, Except.error.injEq] at failed
                obtain rfl := failed
                obtain ⟨refused, rfl⟩ := stat_eq_error_iff.mp told
                exact ⟨.overlong noNul stopped refused, rfl⟩
  · rintro ⟨hides, same⟩
    generalize refusal.reason = reason at hides same
    obtain rfl := same
    cases hides with
    | barred noNul stopped => simp [noNul, stopped]
    | overlong noNul enters refused =>
        simp [noNul, enters, stat_eq_error_iff.mpr ⟨refused, rfl⟩, Except.map]

theorem isFile_eq_error_iff {tree : Tree} {path : Path} {refusal : Refusal} :
    tree.isFile path = .error refusal ↔
      tree.Hides path refusal.reason ∧ refusal = ⟨refusal.reason, path⟩ :=
  look_eq_error_iff _

theorem isDirectory_eq_error_iff {tree : Tree} {path : Path} {refusal : Refusal} :
    tree.isDirectory path = .error refusal ↔
      tree.Hides path refusal.reason ∧ refusal = ⟨refusal.reason, path⟩ :=
  look_eq_error_iff _

theorem isDirectory_eq_true_iff {tree : Tree} {path : Path} :
    tree.isDirectory path = .ok true ↔
      (path.holdsNul = false ∧ tree.isBarred path = false) ∧
        ∃ location, tree.locate path = .ok (location, some .directory) := by
  unfold isDirectory look
  cases path.holdsNul with
  | true => simp
  | false =>
    cases tree.isBarred path with
    | true => simp
    | false =>
      unfold stat
      cases located : tree.locate path with
      | error reason => cases absent : isAbsence reason <;> simp [absent, Except.map]
      | ok found =>
          obtain ⟨location, _ | _ | _⟩ := found <;> simp [Except.map, Entry.isFile]

/-! ## Names in a directory -/

theorem mem_namesIn {tree : Tree} {location : Location} {name : String} :
    name ∈ tree.namesIn location ↔ tree.get? (location ++ [name]) ≠ none := by
  have below : tree.get? (location ++ [name]) =
      (tree.entries.find? (·.1 == location ++ [name])).map (·.2) := by
    cases location <;> rfl
  have place (other : Location) :
      (if other.dropLast = location then other.getLast? else none) = some name ↔
        other = location ++ [name] := by
    rw [Option.ite_none_right_eq_some, List.getLast?_eq_some_iff]
    constructor
    · rintro ⟨rfl, front, rfl⟩
      rw [List.dropLast_concat]
    · rintro rfl
      exact ⟨List.dropLast_concat, location, rfl⟩
  simp [below, namesIn, List.mem_filterMap, place]

/-- The names in a tree are such as paths have. -/
def Named (tree : Tree) : Prop :=
    ∀ location, ∀ name ∈ tree.namesIn location, isPart name = true

theorem named_of_entries {tree : Tree}
    (parts : ∀ entry ∈ tree.entries, ∀ name ∈ entry.1, isPart name = true) : tree.Named := by
  intro location name member
  obtain ⟨entry, there, found⟩ := List.mem_filterMap.mp member
  obtain ⟨-, last⟩ := Option.ite_none_right_eq_some.mp found
  exact parts entry there name (List.mem_of_getLast? last)

end DexBrowser.Files.Tree

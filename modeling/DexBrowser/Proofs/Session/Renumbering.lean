import DexBrowser.Proofs.Session.Mirroring

/-!
Sessions that are the same but for numbers. Main statements: loading runs in parallel in both; after
a load has succeeded, a session is the same as a new one that made that load only.
-/

namespace DexBrowser.Session

open Managed Session.Action

variable {validator : Validator}

/-! ## Sessions that are the same -/

section Same

variable {e : Renumbering} {trees : Files.Tree → Files.Tree → Prop}
  (unchanged : ∀ files others, trees files others → files = others)
  {currents : Option Loaded → Option Loaded → Prop} {n m : Nat}

theorem mirroring_indexOrClose (same : e.SameLoad n m) (path : Path) :
    Mirroring e .exact trees currents
      (fun one other => e.SameNamed one.1 other.1 ∧ e.SameNamed one.2 other.2)
      (indexOrClose path n) (indexOrClose path m) := by
  refine mirroring_catch (mirroring_index same) fun cause => ?_
  refine mirroring_onward (mirroring_modifyLoad same fun _ _ => rfl) fun _ => ?_
  exact mirroring_onward (mirroring_closeDecompiler same) fun _ => mirroring_fail _

include unchanged

theorem mirroring_prepare (amend : Heap → Heap) (path : Path) (options : LoadOptions) :
    Mirroring e .exact trees currents (e.SameInput .exact)
        (prepare (.memory validator amend) path options)
      (prepare (.memory validator amend) path options) := by
  refine mirroring_prepared rfl (mirroring_openArtifact rfl ?_) fun n m same =>
    mirroring_indexOrClose same path
  intro files others same
  obtain rfl := unchanged _ _ same
  cases readImage validator files path options with
  | error fault => exact .error fault
  | ok read => exact .ok ⟨rfl, rfl⟩

theorem mirroring_checkLoad (path : Files.PathArgument) (given : Option LoadOptions)
    (changes : List (String × Json)) :
    Mirroring e .exact trees currents Eq (checkLoad validator path given changes)
      (checkLoad validator path given changes) := by
  refine mirroring_onward (mirroring_ofExcept (alike_refl _)) fun path => ?_
  have checked : Mirroring e .exact trees currents Eq
      (Action.ofChecked (LoadOptions.resolve validator given changes))
      (Action.ofChecked (LoadOptions.resolve validator given changes)) := by
    cases LoadOptions.resolve validator given changes with
    | ok options => exact mirroring_pure rfl
    | error issues => exact mirroring_fail _
  refine mirroring_onward checked fun options => ?_
  refine mirroring_bind mirroring_get fun one other mirrors => ?_
  rw [unchanged _ _ mirrors.files]
  exact mirroring_onward (mirroring_ofExcept (alike_refl _)) fun _ => mirroring_pure rfl

theorem mirroring_loadSame (amend : Heap → Heap) (path : Files.PathArgument)
    (given : Option LoadOptions) (changes : List (String × Json)) :
    Mirroring e .exact trees (e.SameCurrent .exact) Eq
      (load (.memory validator amend) path given changes)
      (load (.memory validator amend) path given changes) := by
  refine mirroring_load (mirroring_checkLoad unchanged path given changes) ?_
  rintro checked _ rfl
  exact ⟨rfl, mirroring_prepare unchanged amend checked.1 checked.2⟩

end Same

/-! ## The first load -/

section First

variable {e : Renumbering} {current : Option Loaded} {one other : Workspace}

/-- A session with some input in the place of which the second one has none. -/
abbrev Workspace.MirrorsBut (current : Option Loaded) (e : Renumbering) :
    Workspace → Workspace → Prop :=
    Workspace.Mirrors e .exact Eq fun one other => one = current ∧ other = none

variable (mirrors : one.MirrorsBut current e other)
  (before : ∀ previous, current = some previous → previous.load < e.loads)

include mirrors before

theorem mirrors_replace {loaded beside : Loaded} (same : e.SameInput .exact loaded beside) :
    ((replace (some beside)).run other).1 = .ok () ∧
      ((replace (some loaded)).run one).2.Mirrors e .exact Eq (e.SameCurrent .exact)
        ((replace (some beside)).run other).2 := by
  obtain ⟨isCurrent, empty⟩ := mirrors.state.current
  rw [run_replace_none empty]
  refine ⟨rfl, ?_⟩
  cases current with
  | none =>
      rw [run_replace_none isCurrent]
      exact ⟨{ mirrors.state with current := .some same }, mirrors.files, trivial⟩
  | some previous =>
      have bound : previous.load < one.state.loads.length := by
        have length := mirrors.state.length
        have older := before previous rfl
        omega
      have found := List.getElem?_eq_getElem bound
      obtain ⟨journal, replaced⟩ := run_replace_some isCurrent found (some loaded)
      rw [replaced]
      refine ⟨{ mirrors.state with current := .some same, length := ?_, loads := ?_ },
        mirrors.files, trivial⟩
      · simpa using mirrors.state.length
      · intro n
        have older := before previous rfl
        rw [List.getElem?_set_ne (by omega)]
        exact mirrors.state.loads n

theorem mirrors_takeOver (free : one.state.lock = {}) {amend : Heap → Heap} {path : Path}
    {options : LoadOptions} {loaded : Loaded} (ended : ((inSection .exclusive
      (takeOver (.memory validator amend) path options)).run one).1 = .ok loaded) :
    (∃ beside,
        ((inSection .exclusive (takeOver (.memory validator amend) path options)).run other).1 =
        .ok beside) ∧
      ((inSection .exclusive (takeOver (.memory validator amend) path options)).run one).2.Mirrors
          e .exact
        Eq (e.SameCurrent .exact)
        ((inSection .exclusive (takeOver (.memory validator amend) path options)).run other).2 := by
  have entered := mirrors.setLock (·.enter .exclusive)
  rw [run_exclusive free] at ended ⊢
  rw [run_exclusive (mirrors.state.lock ▸ free)]
  rw [takeOver_eq] at ended ⊢
  simp only [run_bind] at ended ⊢
  obtain ⟨alike, after⟩ := mirroring_prepare (fun _ _ => id) amend path options _ _ entered
  generalize (prepare (.memory validator amend) path options).run
      (setLock (·.enter .exclusive) one) = ran,
    (prepare (.memory validator amend) path options).run (setLock (·.enter .exclusive) other) =
        followed
    at alike after ended ⊢
  obtain ⟨outcome, one⟩ := ran
  obtain ⟨_, other⟩ := followed
  -- To prepare is the same for both. They differ in what they let go of, nothing in the second.
  cases alike with
  | error fault => contradiction
  | @ok loaded beside same =>
      obtain ⟨replaced, rest⟩ := mirrors_replace after before same
      dsimp only at ended ⊢
      generalize (replace (some loaded)).run one = ran, (replace (some beside)).run other = followed
        at replaced rest ended ⊢
      obtain ⟨outcome, one⟩ := ran
      obtain ⟨_, other⟩ := followed
      obtain rfl := replaced
      cases outcome with
      | error fault => contradiction
      | ok _ => exact ⟨⟨beside, rfl⟩, rest.setLock (·.leave .exclusive)⟩

/-- A load that succeeds makes a session the same as one that had nothing before. -/
theorem mirrors_firstLoad (free : one.state.lock = {}) {amend : Heap → Heap}
    {path : Files.PathArgument} {given : Option LoadOptions} {changes : List (String × Json)}
    (ended : ((load (.memory validator amend) path given changes).run one).1 = .ok ()) :
    ((load (.memory validator amend) path given changes).run other).1 = .ok () ∧
      ((load (.memory validator amend) path given changes).run one).2.Mirrors e .exact Eq
          (e.SameCurrent .exact)
        ((load (.memory validator amend) path given changes).run other).2 := by
  rw [load_eq] at ended ⊢
  simp only [run_bind, Engine.rules_memory] at ended ⊢
  obtain ⟨alike, -⟩ := mirroring_checkLoad (fun _ _ => id) path given changes one other mirrors
  obtain ⟨_, checking⟩ : ∃ outcome, (checkLoad validator path given changes).run one =
      (outcome, one) :=
    ⟨_, Prod.ext rfl (run_checkLoad validator path given changes one)⟩
  obtain ⟨_, following⟩ : ∃ outcome, (checkLoad validator path given changes).run other =
      (outcome, other) :=
    ⟨_, Prod.ext rfl (run_checkLoad validator path given changes other)⟩
  rw [checking] at alike ended ⊢
  rw [following] at alike ⊢
  cases alike with
  | error fault => contradiction
  | @ok checked _ same =>
      obtain rfl := same
      have taking (loaded : Loaded) :=
          @mirrors_takeOver validator e current one other mirrors before
        free amend checked.1 checked.2 loaded
      dsimp only at ended ⊢
      generalize (inSection .exclusive
          (takeOver (.memory validator amend) checked.1 checked.2)).run one = ran,
        (inSection .exclusive (takeOver (.memory validator amend) checked.1 checked.2)).run other =
            followed
        at taking ended ⊢
      obtain ⟨outcome, one⟩ := ran
      obtain ⟨_, other⟩ := followed
      cases outcome with
      | error fault => contradiction
      | ok loaded =>
          obtain ⟨⟨beside, rfl⟩, after⟩ := taking loaded rfl
          exact ⟨rfl, after.state, after.files, trivial⟩

end First

end DexBrowser.Session

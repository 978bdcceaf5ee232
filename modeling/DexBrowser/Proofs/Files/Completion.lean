import DexBrowser.Proofs.Files.SourceWriting

/-!
Whether all of a number of source files were written. Main statement: what is done for one item
after the other ends well for all exactly if the files of each were written, in order.
-/

namespace DexBrowser.Files.Tree

/-! ## Writing all -/

theorem written_singleton_iff {tree after : Tree} {source : Path × String} :
    Written tree [source] after ↔ tree.writeSource source.1 source.2 = (after, .ok ()) := by
  constructor
  · intro written
    cases written with
    | cons done others =>
        cases others
        exact done
  · exact fun done => .cons done (.nil after)

theorem written_append_iff {tree after : Tree} {writes more : List (Path × String)} :
    Written tree (writes ++ more) after ↔
      ∃ between, Written tree writes between ∧ Written between more after := by
  constructor
  · intro written
    induction writes generalizing tree with
    | nil => exact ⟨tree, .nil tree, written⟩
    | cons source writes ih =>
        cases written with
        | cons done others =>
            obtain ⟨between, first, second⟩ := ih others
            exact ⟨between, .cons done first, second⟩
  · rintro ⟨between, first, second⟩
    exact first.append second

/-- What is done to the files ends with a fine value exactly if source files were written one after
the other, and nothing else was done. -/
def Completes (writes : List (Path × String)) (fine : β → Prop)
    (effect : Tree → Except Fault β × Tree) : Prop :=
    ∀ tree after, (∃ b, effect tree = (.ok b, after) ∧ fine b) ↔ Written tree writes after

section Completes

variable {writes : List (Path × String)} {fine : β → Prop}
  {effect : Tree → Except Fault β × Tree}

theorem completes_attempt (source : Path × String) :
    Completes [source] (· = true) (·.attempt source) := by
  intro tree after
  rw [written_singleton_iff]
  constructor
  · rintro ⟨_, tried, rfl⟩
    have written := writeSource_of_attempt (congrArg Prod.fst tried)
    rwa [show (tree.attempt source).2 = after from congrArg Prod.snd tried] at written
  · exact fun written => ⟨true, attempt_of_written written, rfl⟩

theorem Completes.map (completes : Completes writes fine effect) {finer : γ → Prop} {say : β → γ}
    (same : ∀ b, finer (say b) ↔ fine b) :
    Completes writes finer fun tree => ((effect tree).1.map say, (effect tree).2) := by
  intro tree after
  rw [← completes tree after]
  dsimp only
  generalize effect tree = result
  obtain ⟨outcome, between⟩ := result
  cases outcome with
  | error fault => simp [Except.map]
  | ok b => simp [Except.map, same]

theorem completes_inTurn {step : γ → Tree → Except Fault β × Tree}
    {each : γ → List (Path × String)} {ks : List γ}
    (completes : ∀ k ∈ ks, Completes (each k) fine (step k)) :
    Completes (ks.flatMap each) (fun bs => ∀ b ∈ bs, fine b) (inTurn step ks) := by
  induction ks with
  | nil =>
      intro tree after
      constructor
      · rintro ⟨_, ended, -⟩
        obtain ⟨-, rfl⟩ := Prod.mk.inj ended
        exact .nil tree
      · intro written
        cases written
        exact ⟨[], rfl, by simp⟩
  | cons k ks ih =>
      have first := completes k List.mem_cons_self
      have rest := ih fun other member => completes other (List.mem_cons_of_mem k member)
      intro tree after
      rw [List.flatMap_cons, written_append_iff, inTurn]
      simp only [← first tree, ← rest _ after]
      cases ran : step k tree with
      | mk outcome between =>
          cases outcome with
          | error fault => simp
          | ok b =>
              cases others : inTurn step ks between with
              | mk outcome last =>
                  cases outcome with
                  | error fault => simp [others, Except.map]
                  | ok bs => simp [others, Except.map, and_assoc, and_left_comm, and_comm]

end Completes

end DexBrowser.Files.Tree

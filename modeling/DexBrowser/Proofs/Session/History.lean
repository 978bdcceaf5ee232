import DexBrowser.Proofs.Session.Step

/-!
Histories. Main statements: after any history every session is sound, every handle that was given
out belongs to an input that was loaded, and every load that was opened is still known.
-/

namespace DexBrowser.Session

open Managed

section Kept

variable {deed : Deed} {before after : Scene}

theorem Scene.Step.each (step : Scene.Step deed before after) {good : Nat → State → Prop}
    (fresh : ∀ seat, good seat { seat := seat })
    (kept : ∀ (seat : Nat) (old new : State), before.world.sessions[seat]? = some old →
      State.Step deed old new → good seat old → good seat new)
    (every : ∀ (seat : Nat) (state : State), before.world.sessions[seat]? = some state →
      good seat state) :
    ∀ (seat : Nat) (state : State), after.world.sessions[seat]? = some state →
      good seat state := by
  intro seat state found
  cases step with
  | stay sessions =>
      rw [sessions] at found
      exact every seat state found
  | openSession sessions =>
      rw [sessions] at found
      rcases concat_cases found with old | ⟨rfl, rfl⟩
      · exact every seat state old
      · exact fresh _
  | @move moved old _ _ atOld step sessions =>
      rw [sessions] at found
      rcases set_cases found with ⟨rfl, rfl⟩ | ⟨-, other⟩
      · exact kept seat old state atOld step (every seat old atOld)
      · exact every seat state other

theorem Scene.Step.held (step : Scene.Step deed before after) (sound : before.Sound) :
    ∀ h ∈ after.held, ∃ state : State, after.world.sessions[h.seat]? = some state ∧
      state.Issued h := by
  intro h member
  cases step with
  | stay sessions _ held =>
      rw [held] at member
      rw [sessions]
      exact sound.held h member
  | openSession sessions _ held =>
      rw [held] at member
      obtain ⟨state, found, issued⟩ := sound.held h member
      obtain ⟨bound, -⟩ := List.getElem?_eq_some_iff.mp found
      refine ⟨state, ?_, issued⟩
      rw [sessions, List.getElem?_append_left bound, found]
  | @move seat state new _ found step sessions _ held issued =>
      obtain ⟨bound, -⟩ := List.getElem?_eq_some_iff.mp found
      have atNew : after.world.sessions[seat]? = some new := by
        rw [sessions, List.getElem?_set_self bound]
      rw [held] at member
      rcases List.mem_append.mp member with old | given
      · obtain ⟨other, atOther, was⟩ := sound.held h old
        by_cases same : h.seat = seat
        · rw [same] at atOther ⊢
          obtain rfl := Option.some.inj (found.symm.trans atOther)
          exact ⟨new, atNew, step.grown.issued was⟩
        · exact ⟨other, by rw [sessions, List.getElem?_set_ne (Ne.symm same), atOther], was⟩
      · obtain ⟨same, now⟩ := issued h given
        exact ⟨new, by rw [same, atNew], now⟩

theorem Scene.Step.sound (step : Scene.Step deed before after) (sound : before.Sound) :
    after.Sound where
  sessions := step.each sound_fresh (fun _ _ _ _ step sound => step.sound sound) sound.sessions
  held := step.held sound

/-- Every load that was opened is known still. -/
def World.Recorded (world : World) : Prop :=
    ∀ id ∈ world.opened, ∃ load, world.load? id = some load

theorem Scene.Step.recorded (step : Scene.Step deed before after)
    (recorded : before.world.Recorded) : after.world.Recorded := by
  intro id member
  cases step with
  | stay sessions opened =>
      rw [opened] at member
      rw [World.load?, sessions]
      exact recorded id member
  | openSession sessions opened =>
      rw [opened] at member
      obtain ⟨load, found⟩ := recorded id member
      obtain ⟨state, atSeat, -⟩ := Option.bind_eq_some_iff.mp found
      obtain ⟨bound, -⟩ := List.getElem?_eq_some_iff.mp atSeat
      refine ⟨load, ?_⟩
      rw [World.load?, sessions, List.getElem?_append_left bound]
      exact found
  | @move seat state new _ found step sessions opened =>
      rw [opened] at member
      rcases List.mem_append.mp member with old | fresh
      · obtain ⟨load, atLoad⟩ := recorded id old
        by_cases same : id.seat = seat
        · obtain ⟨_, n⟩ := id
          subst same
          have atState : state.loads[n]? = some load := by simpa [World.load?, found] using atLoad
          obtain ⟨later, atLater, -⟩ := step.grown n load atState
          exact ⟨later, by rw [World.load?_set found sessions, atLater]⟩
        · exact ⟨load, by rw [World.load?_set_other sessions same, atLoad]⟩
      · obtain ⟨k, within, rfl⟩ := List.mem_map.mp fresh
        have bound : state.loads.length + k < new.loads.length := by
          have small := List.mem_range.mp within
          omega
        refine ⟨new.loads[state.loads.length + k], ?_⟩
        rw [World.load?_set found sessions, List.getElem?_eq_getElem bound]

end Kept

/-- What holds at first and is kept by every step of a sound scene holds after any history. -/
theorem Scene.after_induction (holds : Scene → Prop) (start : holds {}) {deeds : List Deed}
    (kept : ∀ deed ∈ deeds, ∀ before after : Scene, before.Sound → Scene.Step deed before after →
      holds before → holds after) : (Scene.after deeds).Sound ∧ holds (Scene.after deeds) := by
  have nothing : ({} : Scene).Sound := ⟨by simp, by simp⟩
  -- The steps exist in sound scenes only, so that soundness goes through the induction as well.
  suffices every : ∀ scene : Scene, scene.Sound → holds scene →
      (deeds.foldl Scene.perform scene).Sound ∧ holds (deeds.foldl Scene.perform scene) from
    every {} nothing start
  induction deeds with
  | nil => exact fun _ sound held => ⟨sound, held⟩
  | cons deed rest ih =>
      intro scene sound held
      have step := sound.step_perform deed
      refine ih (fun other member => kept other (by simp [member])) _ (step.sound sound) ?_
      exact kept deed (by simp) scene _ sound step held

/-- After any history, every session is sound and every handle is of a load that was installed. -/
theorem Scene.sound_after (deeds : List Deed) : (Scene.after deeds).Sound :=
  (Scene.after_induction (fun _ => True) trivial fun _ _ _ _ _ _ _ => trivial).1

end DexBrowser.Session

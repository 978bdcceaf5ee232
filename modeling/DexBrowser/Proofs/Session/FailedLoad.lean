import DexBrowser.Validation.Lax
import DexBrowser.Proofs.Session.History

/-!
Loads that fail. Main statement: after any history, a load that fails leaves everything as it was
exactly if it failed before the new input was opened and indexed; else the old decompiler could not
be closed, and the session holds the new input.
-/

namespace DexBrowser.Session

open Managed Session.Action

/-- A load changed nothing: the input is the one before, every load answers as it did, so that its
handles may be used if they might, and the decompiler of the input was not closed. -/
structure Unchanged (seat : Nat) (before after : World) : Prop where
  current : after.current seat = before.current seat
  loads : ∀ id load, before.load? id = some load → after.load? id = some load
  lives : ∀ h, before.lives (World.originOf h) = true → after.lives (World.originOf h) = true
  unclosed : ∀ loaded load, after.current seat = some loaded →
    after.load? ⟨seat, loaded.load⟩ = some load → load.alive = true ∧ load.closings = 0
  others : ∀ other, other ≠ seat → after.sessions[other]? = before.sessions[other]?
  files : after.files = before.files

/-- A new input is current, and the decompiler of the old one could not be closed. -/
structure Displaced (seat : Nat) (before after : World) (loaded : Loaded) (fault : Fault) :
    Prop where
  current : after.current seat = some loaded
  old : ∃ previous load, before.current seat = some previous ∧
    before.load? ⟨seat, previous.load⟩ = some load ∧ load.closing 0 = .error fault ∧
    after.load? ⟨seat, previous.load⟩ = some (load.shut 0)

section FailedLoad

variable {seat : Nat} {before after : World} {state new : State}

theorem unchanged_set (found : before.sessions[seat]? = some state)
    (sessions : after.sessions = before.sessions.set seat new)
    (files : after.files = before.files) (sound : new.Sound seat)
    (current : new.current = state.current)
    (loads : ∀ (n : Nat) (load : Load), state.loads[n]? = some load → new.loads[n]? = some load) :
    Unchanged seat before after := by
  have kept (id : LoadId) (load : Load) (atLoad : before.load? id = some load) :
      after.load? id = some load := by
    by_cases same : id.seat = seat
    · obtain ⟨_, n⟩ := id
      subst same
      rw [World.load?_set found sessions]
      exact loads n load (by simpa [World.load?, found] using atLoad)
    · rw [World.load?_set_other sessions same, atLoad]
  refine ⟨?_, kept, fun h lived => ?_, fun loaded load isCurrent atLoad => ?_, ?_, files⟩
  · rw [World.current_set found sessions, current, World.current, found]
    rfl
  · obtain ⟨load, atLoad, alive⟩ := World.lives_eq_true.mp lived
    exact World.lives_eq_true.mpr ⟨load, kept _ load atLoad, alive⟩
  · rw [World.current_set found sessions] at isCurrent
    rw [World.load?_set found sessions] at atLoad
    obtain ⟨other, atOther, attached, -⟩ := sound.current loaded isCurrent
    obtain rfl := Option.some.inj (atLoad.symm.trans atOther)
    have alive : load.alive = true := by
      rw [sound.lives loaded.load load atLoad attached, State.holds, isCurrent]
      simp
    exact ⟨alive, sound.unclosed loaded.load load atLoad alive⟩
  · intro other distinct
    rw [sessions, List.getElem?_set_ne (Ne.symm distinct)]

theorem Displaced.changed {loaded : Loaded} {fault : Fault}
    (displaced : Displaced seat before after loaded fault) : ¬ Unchanged seat before after := by
  intro unchanged
  obtain ⟨previous, load, current, atLoad, -, shut⟩ := displaced.old
  -- The old load would be current still, hence alive, but it is shut.
  have same := unchanged.loads _ load atLoad
  have alive := unchanged.unclosed previous load (unchanged.current.trans current) same
  have dead : (load.shut 0).alive = false := load.shut_alive 0
  rw [shut] at same
  rw [Option.some.inj same, alive.1] at dead
  contradiction

/-- A load that fails does so before the new input is ready, or when the old one is let go. -/
theorem unchanged_or_displaced {workspace : Workspace}
    (found : before.sessions[seat]? = some workspace.state)
    (sound : workspace.state.Sound seat)
    (sessions : after.sessions = before.sessions.set seat new)
    (files : after.files = before.files) {engine : Engine} {prepared : Except Fault Loaded}
    {outcome : Except Fault Unit} (loading : Loading engine workspace prepared outcome new)
    {fault : Fault} (failed : outcome = .error fault) :
    (Unchanged seat before after ∧ prepared = .error fault) ∨
      ∃ loaded, prepared = .ok loaded ∧ Displaced seat before after loaded fault := by
  have stillSound := sound.loading loading
  have unchanged := unchanged_set found sessions files stillSound
  cases loading with
  | refused other =>
      obtain rfl := Except.error.inj failed
      exact .inl ⟨unchanged rfl fun _ _ atLoad => atLoad, rfl⟩
  | failed ended =>
      obtain rfl := Except.error.inj failed
      refine .inl ⟨?_, rfl⟩
      cases ended with
      | refused => exact unchanged rfl fun _ _ atLoad => atLoad
      | broken | dropped => exact unchanged rfl fun _ _ atLoad => State.push_old atLoad
  | first => contradiction
  | @replaced _ _ loaded previous load old minted ready current atOld =>
      have isCurrent : after.current seat = some loaded := World.current_set found sessions
      have wasCurrent : before.current seat = some previous := by
        rw [World.current, found]
        exact current
      have wasThere : before.load? ⟨seat, previous.load⟩ = some old := by
        rw [World.load?, found]
        exact atOld
      have isShut : after.load? ⟨seat, previous.load⟩ = some (old.shut 0) := by
        rw [World.load?_set found sessions]
        exact State.push_old (State.letGo_found atOld)
      exact .inr ⟨loaded, rfl, isCurrent, previous, old, wasCurrent, wasThere, failed, isShut⟩

end FailedLoad

/-- A load that fails changes nothing exactly if opening and indexing the new input, which comes
first, fails too. If it does not, the new input has taken the place of the old one, whose decompiler
could not be closed. -/
theorem failed_load_unchanged_iff (deeds : List Deed) (seat : Nat) (engine : Engine)
    (path : Files.PathArgument) (given : Option LoadOptions) (changes : List (String × Json))
    {fault : Fault}
    (failed : ((Scene.after deeds).world.run seat (load engine path given changes)).1 =
      .error fault) :
    let before := (Scene.after deeds).world
    let after := (before.run seat (load engine path given changes)).2
    let prepared := (before.run seat (prepareLoad engine path given changes)).1
    (Unchanged seat before after ↔ ∀ loaded, prepared ≠ .ok loaded) ∧
      ∀ loaded, prepared = .ok loaded → Displaced seat before after loaded fault := by
  intro before after prepared
  cases found : before.sessions[seat]? with
  | none =>
      have stayed : after = before := congrArg Prod.snd (World.run_of_none found _)
      have refused : prepared = .error .notLoaded := congrArg Prod.fst (World.run_of_none found _)
      have unchanged : Unchanged seat before after := by
        rw [stayed]
        refine ⟨rfl, fun _ _ atLoad => atLoad, fun _ lived => lived, fun loaded load current => ?_,
          fun _ _ => rfl, rfl⟩
        simp [World.current, found] at current
      rw [refused]
      exact ⟨⟨fun _ _ same => by contradiction, fun _ => unchanged⟩, fun _ same => by contradiction⟩
  | some state =>
      have sound : (⟨state, before.files, before.journal⟩ : Workspace).state.Sound seat :=
        (Scene.sound_after deeds).sessions seat state found
      obtain ⟨loading, kept⟩ := loading_load sound.idle engine path given changes
      obtain ⟨outcome, sessions, files, -⟩ :=
        World.run_of_session found (load engine path given changes)
      obtain ⟨readied, -⟩ := World.run_of_session found (prepareLoad engine path given changes)
      rw [← readied] at loading
      have ended := outcome.symm.trans failed
      rcases unchanged_or_displaced found sound sessions (files.trans kept) loading ended with
        ⟨unchanged, refused⟩ | ⟨loaded, ready, displaced⟩
      · have refused : prepared = .error fault := refused
        rw [refused]
        exact ⟨⟨fun _ _ same => by contradiction, fun _ => unchanged⟩,
          fun _ same => by contradiction⟩
      · have ready : prepared = .ok loaded := ready
        rw [ready]
        refine ⟨⟨fun unchanged => absurd unchanged displaced.changed,
          fun refused => absurd rfl (refused loaded)⟩, fun other same => ?_⟩
        obtain rfl := Except.ok.inj same
        exact displaced

def unclosable : List Deed :=
    [.openSession,
      .replaceFiles twoArtifacts,
      .load 0 (.memory .lax id) (.path (Path.ofString "a.json")) none [],
      .amend 0 (·.change .decompiler "close" (some (.raises "boom")))]

theorem load_displaces_unclosable :
    let before := (Scene.after unclosable).world
    let run := before.run 0 (load (.memory .lax id) (.path (Path.ofString "b.json")) none [])
    run.1 = .error (.managed (.raised "jadx.api.JadxDecompiler" "close" "boom")) ∧
      ¬ Unchanged 0 before run.2 := by
  have failed := faultOf?_eq_some.mp (show faultOf? ((Scene.after unclosable).world.run 0
      (load (.memory .lax id) (.path (Path.ofString "b.json")) none [])).1 =
      some (.managed (.raised "jadx.api.JadxDecompiler" "close" "boom")) by decide +kernel)
  obtain ⟨loaded, ready⟩ := faultOf?_eq_none.mp (show faultOf? ((Scene.after unclosable).world.run 0
      (prepareLoad (.memory .lax id) (.path (Path.ofString "b.json")) none [])).1 = none by
    decide +kernel)
  refine ⟨failed, fun unchanged => ?_⟩
  have refused := (failed_load_unchanged_iff unclosable 0 _ _ none [] failed).1.mp unchanged
  exact refused loaded ready

end DexBrowser.Session

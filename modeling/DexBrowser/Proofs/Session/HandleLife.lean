import DexBrowser.Validation.Lax
import DexBrowser.Proofs.Session.StaleHandle

/-!
How long handles live. Main statement: after any history, a handle is alive exactly as long as its
load is that of its session's current input; from then on it is refused whatever would ask its
managed object, with nothing called or written, and still answers what can be told without it.
-/

namespace DexBrowser.Session

open Managed Session.Action

/-- A text is told of a handle: in memory always and without a trace, and in a virtual machine if
the object can be identified and the class be named. -/
structure Scene.Tells (scene : Scene) (h : Handle) (load : Load) (action : Action String) :
    Prop where
  memory : load.host = .memory → ∃ text, scene.world.run h.seat action = (.ok text, scene.world)
  machine : load.Names h.reflected → load.Identifies h.target →
    ∃ text, (scene.world.run h.seat action).1 = .ok text

/-- What comes of a handle that was let go. -/
structure Scene.Retired (scene : Scene) (h : Handle) : Prop where
  read : ∀ asked : Attribute, asked.callsManaged = true →
    scene.world.run h.seat (asked.read h) = (.error h.staleFault, scene.world)
  hash : scene.world.hash h = (.error h.staleFault, scene.world)
  compare : ∀ other ∈ scene.held, ∃ kind : Kind, (kind = h.kind ∨ kind = other.kind) ∧
    scene.world.compare h (.handle other) = (.error (.managed (.stale kind.name)), scene.world)
  compared : ∀ other ∈ scene.held, ∃ kind : Kind, (kind = other.kind ∨ kind = h.kind) ∧
    scene.world.compare other (.handle h) = (.error (.managed (.stale kind.name)), scene.world)
  save : ∀ argument path, Files.PathArgument.toPath argument = .ok path →
    scene.world.run h.seat (h.save argument : Action Bool) = (.error h.staleFault, scene.world)
  value : scene.world.compare h .value = (.ok false, scene.world)
  flag : ∀ test, scene.world.run h.seat ((Attribute.flag test).read h) =
    (.ok (.flag (test h.flags)), scene.world)
  text : ∀ load, scene.world.load? (World.originOf h) = some load → scene.Tells h load h.toText
  inspect : ∀ load, scene.world.load? (World.originOf h) = some load →
    scene.Tells h load h.inspect
  className : ∀ load, scene.world.load? (World.originOf h) = some load → load.host = .memory →
    ∃ name, scene.world.run h.seat h.managedClassName = (.ok name, scene.world)

section Scene

variable {scene : Scene} {h : Handle}

theorem Scene.Sound.load (sound : scene.Sound) (held : h ∈ scene.held) :
    ∃ (state : State) (load : Load), scene.world.sessions[h.seat]? = some state ∧
      state.Sound h.seat ∧ state.loads[h.load]? = some load ∧
      scene.world.load? (World.originOf h) = some load ∧ load.attached = true ∧
      h.Of (World.originOf h) load.host := by
  obtain ⟨state, found, load, atLoad, attached, own⟩ := sound.held h held
  refine ⟨state, load, found, sound.sessions h.seat state found, atLoad, ?_, attached, own⟩
  simp [World.load?, World.originOf, found, atLoad]

theorem Scene.Sound.lives_eq_holds (sound : scene.Sound) (held : h ∈ scene.held) :
    scene.world.lives (World.originOf h) = scene.world.holds (World.originOf h) := by
  obtain ⟨state, load, found, session, atLoad, inWorld, attached, -⟩ := sound.load held
  have alive := session.lives h.load load atLoad attached
  rw [World.lives, inWorld]
  simp [World.holds, World.originOf, found, alive]

theorem Scene.Sound.stale (sound : scene.Sound) (held : h ∈ scene.held)
    (ended : scene.world.lives (World.originOf h) = false) :
    ∃ state, scene.world.sessions[h.seat]? = some state ∧
      h.Stale ⟨state, scene.world.files, scene.world.journal⟩ := by
  obtain ⟨state, load, found, session, atLoad, inWorld, -, -⟩ := sound.load held
  have dead : load.alive = false := by simpa [World.lives, inWorld] using ended
  refine ⟨state, found, ⟨load, atLoad, dead⟩, ?_⟩
  rw [session.lock]

theorem Scene.Sound.run_refused (sound : scene.Sound) (held : h ∈ scene.held)
    (ended : scene.world.lives (World.originOf h) = false) {action : Action α}
    (refused : h.Refused action) :
    scene.world.run h.seat action = (.error h.staleFault, scene.world) := by
  obtain ⟨state, found, stale⟩ := sound.stale held ended
  exact World.run_of_still found (refused _ stale)

theorem Scene.Sound.equals_refused (sound : scene.Sound) {first second : Handle}
    (heldFirst : first ∈ scene.held) (heldSecond : second ∈ scene.held)
    (ended : scene.world.lives (World.originOf first) = false ∨
      scene.world.lives (World.originOf second) = false) :
    ∃ kind : Kind, (kind = first.kind ∨ kind = second.kind) ∧
      scene.world.equals first second =
        (.error (.managed (.stale kind.name)), scene.world) := by
  rcases ended with ended | ended
  · have refused := first.refused_equals (scene.world.peer (World.originOf first) second)
    exact ⟨first.kind, .inl rfl, sound.run_refused heldFirst ended refused⟩
  · obtain ⟨state, load, found, session, atLoad, -, -, -⟩ := sound.load heldFirst
    obtain ⟨-, other, -, -, -, inWorld, -, -⟩ := sound.load heldSecond
    have dead : other.alive = false := by simpa [World.lives, inWorld] using ended
    have peer : (scene.world.peer (World.originOf first) second).alive = false := by
      simp [World.peer, inWorld, dead]
    have kind : (scene.world.peer (World.originOf first) second).kind = second.kind := by
      simp [World.peer, inWorld]
    have free : (⟨state, scene.world.files, scene.world.journal⟩ : Workspace).state.lock.writer =
        false := by
      rw [session.lock]
    obtain ⟨named, either, refused⟩ := Handle.run_equals_stale (by exact atLoad) free peer
    rw [kind] at either
    exact ⟨named, either, World.run_of_still found refused⟩

theorem Scene.Sound.compare_refused (sound : scene.Sound) {first second : Handle}
    (heldFirst : first ∈ scene.held) (heldSecond : second ∈ scene.held)
    (ended : scene.world.lives (World.originOf first) = false ∨
      scene.world.lives (World.originOf second) = false) :
    ∃ kind : Kind, (kind = first.kind ∨ kind = second.kind) ∧
      scene.world.compare first (.handle second) =
        (.error (.managed (.stale kind.name)), scene.world) := by
  unfold World.compare World.same
  dsimp only
  split
  · obtain ⟨kind, either, refused⟩ := sound.equals_refused heldSecond heldFirst ended.symm
    exact ⟨kind, either.symm, refused⟩
  · exact sound.equals_refused heldFirst heldSecond ended

theorem Scene.Sound.hash_refused (sound : scene.Sound) (held : h ∈ scene.held)
    (ended : scene.world.lives (World.originOf h) = false) :
    scene.world.hash h = (.error h.staleFault, scene.world) := by
  have refused := sound.run_refused held ended h.refused_hash
  rw [World.hash, refused]
  rfl

theorem Scene.Sound.flag_told (sound : scene.Sound) (held : h ∈ scene.held)
    (test : AccessFlags → Bool) :
    scene.world.run h.seat ((Attribute.flag test).read h) =
      (.ok (.flag (test h.flags)), scene.world) := by
  obtain ⟨state, -, found, -⟩ := sound.load held
  exact World.run_of_still found rfl

theorem Scene.Sound.className_told (sound : scene.Sound) (held : h ∈ scene.held) {load : Load}
    (inWorld : scene.world.load? (World.originOf h) = some load) (memory : load.host = .memory) :
    ∃ name, scene.world.run h.seat h.managedClassName = (.ok name, scene.world) := by
  obtain ⟨state, other, found, -, atLoad, atOther, -, own⟩ := sound.load held
  obtain rfl := Option.some.inj (inWorld.symm.trans atOther)
  obtain ⟨cls, reflected⟩ := own.reflected memory
  have named := Handle.run_managedClassName
    (show (⟨state, scene.world.files, scene.world.journal⟩ : Workspace).state.loads[h.load]? =
      some load from atLoad)
  have told (readers : Nat) : load.className true readers h.reflected = (.ok cls.name, load) := by
    simp only [Load.className, memory, reflected]
  rw [told, Workspace.setLoad_self atLoad] at named
  exact ⟨cls.name, World.run_of_still found named⟩

theorem Scene.Sound.text_told (sound : scene.Sound) (held : h ∈ scene.held)
    (ended : scene.world.lives (World.originOf h) = false) {load : Load}
    (inWorld : scene.world.load? (World.originOf h) = some load) {action : Action String}
    (tells : ∀ workspace, h.Stale workspace → workspace.state.loads[h.load]? = some load →
      load.Names h.reflected → load.Identifies h.target →
        ∃ text, (action.run workspace).1 = .ok text ∧
        (load.host = .memory → (action.run workspace).2 = workspace)) :
    scene.Tells h load action := by
  obtain ⟨state, found, stale⟩ := sound.stale held ended
  obtain ⟨-, other, -, -, -, atOther, -, own⟩ := sound.load held
  obtain rfl := Option.some.inj (inWorld.symm.trans atOther)
  have atLoad : state.loads[h.load]? = some load := by
    simpa [World.load?, World.originOf, found] using inWorld
  have told := tells _ stale atLoad
  constructor
  case memory =>
      intro memory
      obtain ⟨cls, reflected⟩ := own.reflected memory
      obtain ⟨id, target⟩ := own.object memory
      obtain ⟨text, outcome, still⟩ := told (reflected ▸ Load.names_reflected memory cls)
        (target ▸ Load.identifies_object memory id)
      exact ⟨text, World.run_of_still found (Prod.ext outcome (still memory))⟩
  case machine =>
      intro names identifies
      obtain ⟨text, outcome, -⟩ := told names identifies
      exact ⟨text, (World.run_of_session found action).1.trans outcome⟩

end Scene

/-- After any history, a handle that was given out is alive exactly if its load is that of its
session's current input, and else it is retired. -/
theorem held_alive_iff_current (deeds : List Deed) :
    let scene := Scene.after deeds
    ∀ h ∈ scene.held,
      scene.world.lives (World.originOf h) = scene.world.holds (World.originOf h) ∧
        (scene.world.lives (World.originOf h) = false → scene.Retired h) := by
  intro scene h held
  have sound : scene.Sound := Scene.sound_after deeds
  refine ⟨sound.lives_eq_holds held, fun ended => ?_⟩
  exact
    { read := fun asked calls => sound.run_refused held ended (Handle.refused_read calls)
      hash := sound.hash_refused held ended
      compare := fun other heldOther => sound.compare_refused held heldOther (.inl ended)
      compared := fun other heldOther => sound.compare_refused heldOther held (.inr ended)
      save := fun argument path valid =>
        sound.run_refused held ended (Handle.refused_save valid)
      value := rfl
      flag := fun test => sound.flag_told held test
      text := fun load inWorld => sound.text_told held ended inWorld
        fun _ stale found names identifies => Handle.run_toText_stale stale found names identifies
      inspect := fun load inWorld => sound.text_told held ended inWorld
        fun _ stale found names identifies => Handle.run_inspect_stale stale found names identifies
      className := fun load inWorld memory => sound.className_told held inWorld memory }

def closedEarly : List Deed :=
    [.openSession, .replaceFiles twoArtifacts,
      .load 0 (.memory .lax id) (.path (Path.ofString "a.json")) none [],
      .search 0 (.classNamed "a.A"), .close 0]

theorem held_retires_on_close :
    ∃ h ∈ (Scene.after closedEarly).held,
      (Scene.after closedEarly).world.holds (World.originOf h) = false ∧
        (Scene.after closedEarly).Retired h := by
  have some_held : (Scene.after closedEarly).held.any (fun h =>
      !(Scene.after closedEarly).world.lives (World.originOf h)) = true := by
    decide +kernel
  obtain ⟨h, held, ended⟩ := List.any_eq_true.mp some_held
  have dead : (Scene.after closedEarly).world.lives (World.originOf h) = false := by
    simpa using ended
  obtain ⟨current, retired⟩ := held_alive_iff_current closedEarly h held
  exact ⟨h, held, current ▸ dead, retired dead⟩

/-- The flags are not all that a retired handle answers to: the class is still known by its name. -/
theorem retired_not_only_flags :
    ¬ ∀ deeds : List Deed, ∀ h ∈ (Scene.after deeds).held,
      (Scene.after deeds).world.lives (World.originOf h) = false →
        ∀ asked : Attribute, (∀ test, asked ≠ .flag test) →
          ((Scene.after deeds).world.run h.seat (asked.read h)).1 = .error h.staleFault := by
  intro only
  have answers : (Scene.after closedEarly).held.any (fun h =>
      !(Scene.after closedEarly).world.lives (World.originOf h) &&
        (faultOf? ((Scene.after closedEarly).world.run h.seat
          (Attribute.managedClassName.read h)).1).isNone) = true := by
    decide +kernel
  obtain ⟨h, held, answered⟩ := List.any_eq_true.mp answers
  rw [Bool.and_eq_true, Bool.not_eq_true', Option.isNone_iff_eq_none] at answered
  have refused := only closedEarly h held answered.1 .managedClassName (by simp)
  rw [faultOf?_eq_some.mpr refused] at answered
  simp at answered

end DexBrowser.Session

import DexBrowser.Proofs.Session.Saving
import DexBrowser.Proofs.Session.Scene

/-!
What a deed can do to a session. Main statements: each deed takes one session one step on, or opens
a new one; a step keeps the session sound and loses no load.
-/

namespace DexBrowser.Session

open Managed Session.Action

/-! ## One session -/

/-- A handle of a load that was put in its place, by the loads that its session has. -/
def State.Issued (state : State) (h : Handle) : Prop :=
    ∃ load, state.loads[h.load]? = some load ∧ load.attached = true ∧
      h.Of (World.originOf h) load.host

/-- A session in which no load was lost that was there before. -/
def State.Grown (before after : State) : Prop :=
    ∀ (n : Nat) (load : Load), before.loads[n]? = some load →
      ∃ later : Load, after.loads[n]? = some later ∧ later.host = load.host ∧
        (load.attached = true → later.attached = true)

section Grown

variable {before between after : State}

theorem grown_refl (state : State) : state.Grown state :=
  fun _ load found => ⟨load, found, rfl, id⟩

theorem State.Grown.trans (first : before.Grown between) (second : between.Grown after) :
    before.Grown after := by
  intro n load found
  obtain ⟨middle, atMiddle, host, attached⟩ := first n load found
  obtain ⟨later, atLater, laterHost, laterAttached⟩ := second n middle atMiddle
  exact ⟨later, atLater, laterHost.trans host, fun was => laterAttached (attached was)⟩

theorem State.Grown.issued (grown : before.Grown after) {h : Handle}
    (issued : before.Issued h) : after.Issued h := by
  obtain ⟨load, found, attached, own⟩ := issued
  obtain ⟨later, atLater, host, stillAttached⟩ := grown h.load load found
  exact ⟨later, atLater, stillAttached attached, host ▸ own⟩

theorem grown_used {n : Nat} (used : before.Used n after) : before.Grown after := by
  intro m load found
  obtain ⟨later, atLater, usedLoad⟩ := used.after? found
  exact ⟨later, atLater, usedLoad.host, usedLoad.attached.trans⟩

theorem grown_push (state : State) (load : Load) : state.Grown (state.push load) :=
  fun _ old found => ⟨old, State.push_old found, rfl, id⟩

theorem grown_letGo {n : Nat} {load : Load} (found : before.loads[n]? = some load) :
    before.Grown (before.letGo n load) := by
  intro m old atOld
  by_cases same : m = n
  · subst same
    obtain rfl := Option.some.inj (found.symm.trans atOld)
    exact ⟨_, State.letGo_found found, by simp, by simp⟩
  · exact ⟨old, by rw [State.letGo_other same, atOld], rfl, id⟩

theorem grown_loading {workspace : Workspace} {engine : Engine}
    {prepared : Except Fault Loaded} {outcome : Except Fault Unit}
    (loading : Loading engine workspace prepared outcome after) :
    workspace.state.Grown after := by
  cases loading with
  | refused => exact grown_refl _
  | failed prepared =>
      cases prepared with
      | refused => exact grown_refl _
      | broken | dropped => exact grown_push _ _
  | first => exact grown_push _ _
  | replaced minted ready current found => exact (grown_letGo found).trans (grown_push _ _)

theorem grown_closing {outcome : Except Fault Unit} (closing : Closing before outcome after) :
    before.Grown after := by
  cases closing with
  | idle => exact grown_refl _
  | closed current found => exact grown_letGo found

theorem grown_amend (state : State) (n : Nat) (change : Heap → Heap) :
    state.Grown { state with
      loads := state.loads.modify n fun load => { load with heap := change load.heap } } := by
  intro m load found
  refine ⟨_, by rw [List.getElem?_modify, found]; rfl, ?_⟩
  dsimp only
  split <;> exact ⟨rfl, id⟩

end Grown

inductive State.Step : Deed → State → State → Prop
  | stay (deed : Deed) (state : State) : State.Step deed state state
  | use {deed : Deed} {n : Nat} {before after : State} (used : before.Used n after)
      (lock : after.lock = before.lock) : State.Step deed before after
  | load {seat : Nat} {engine : Engine} {path : Files.PathArgument} {given : Option LoadOptions}
      {changes : List (String × Json)} {before : Workspace} {prepared : Except Fault Loaded}
      {outcome : Except Fault Unit} {after : State}
      (loading : Loading engine before prepared outcome after) :
      State.Step (.load seat engine path given changes) before.state after
  | close {seat : Nat} {before after : State} {outcome : Except Fault Unit}
      (closing : Closing before outcome after) : State.Step (.close seat) before after
  | amend {seat : Nat} {change : Heap → Heap} (n : Nat) (before : State) :
      State.Step (.amend seat change) before { before with
        loads := before.loads.modify n fun load => { load with heap := change load.heap } }

theorem State.Step.grown {deed : Deed} {before after : State}
    (step : State.Step deed before after) : before.Grown after := by
  cases step with
  | stay => exact grown_refl before
  | use used => exact grown_used used
  | load loading => exact grown_loading loading
  | close closing => exact grown_closing closing
  | amend n => exact grown_amend before n _

theorem State.Step.sound {deed : Deed} {seat : Nat} {before after : State}
    (step : State.Step deed before after) (sound : before.Sound seat) : after.Sound seat := by
  cases step with
  | stay => exact sound
  | use used lock => exact sound.used used lock
  | load loading => exact sound.loading loading
  | close closing => exact sound.closing closing
  | amend n => exact sound.amend n _

/-! ## Searches -/

section Searches

variable {seat : Nat} {before : Workspace}

/-- The workspace but for the lock. -/
def Workspace.Still (before workspace : Workspace) : Prop :=
    ∃ lock, workspace = setLock (fun _ => lock) before

theorem Workspace.Still.eq {before workspace : Workspace} (still : before.Still workspace)
    (lock : workspace.state.lock = before.state.lock) : workspace = before := by
  obtain ⟨other, rfl⟩ := still
  obtain rfl : other = before.state.lock := lock
  rfl

theorem sectioned_still (before : Workspace) : Sectioned before.Still where
  enter := by
    rintro _ ⟨lock, rfl⟩
    exact ⟨lock.enter .shared, rfl⟩
  leave := by
    rintro _ ⟨lock, rfl⟩
    exact ⟨lock.leave .shared, rfl⟩

theorem keeps_requireLoaded (before : Workspace) :
    requireLoaded.Keeps before.Still (fun loaded => before.state.current = some loaded)
      anyFault := by
  have current : Action.state.Keeps before.Still (·.current = before.state.current) anyFault :=
    keeps_state <| by
      rintro _ ⟨lock, rfl⟩
      rfl
  refine keeps_bind current fun state same => ?_
  split
  case h_1 loaded found => exact keeps_pure (by rw [← same, found])
  case h_2 => exact keeps_fail trivial

theorem keeps_section {good : α → Prop} {action : Action α}
    (keeps : action.Keeps before.Still good anyFault) :
    (inSection .shared action).Keeps before.Still good anyFault :=
  fun _ held => keeps_inSection (sectioned_still before) keeps held fun _ => trivial

theorem mem_of_lookup {named : List (String × Handle)} {name : String} {h : Handle}
    (found : named.lookup name = some h) : ∃ entry ∈ named, entry.2 = h := by
  obtain ⟨first, rest, rfl, -⟩ := List.lookup_eq_some_iff.mp found
  exact ⟨(name, h), by simp, rfl⟩

theorem keeps_lookup {named : List (String × Handle)} {good : Handle → Prop}
    (each : ∀ entry ∈ named, good entry.2) (name : String) (missing : Fault) :
    (match named.lookup name with
      | some h => pure h
      | none => fail missing : Action Handle).Keeps before.Still good anyFault := by
  split
  case h_1 h found =>
      obtain ⟨entry, listed, rfl⟩ := mem_of_lookup found
      exact keeps_pure (each entry listed)
  case h_2 => exact keeps_fail trivial

theorem State.Sound.issued {state : State} (sound : state.Sound seat) {loaded : Loaded}
    (current : state.current = some loaded) {entry : String × Handle}
    (member : entry ∈ loaded.classes ∨ entry ∈ loaded.packages) :
    entry.2.seat = seat ∧ state.Issued entry.2 := by
  obtain ⟨load, found, attached, classes, packages⟩ := sound.current loaded current
  have own : entry.2.Of ⟨seat, loaded.load⟩ load.host :=
    member.elim (classes entry) (packages entry)
  have origin := own.origin
  have atLoad : entry.2.load = loaded.load := congrArg LoadId.load origin
  exact ⟨congrArg LoadId.seat origin, load, by rw [atLoad, found], attached, rfl, own.reflected,
    own.object⟩

theorem keeps_search (sound : before.state.Sound seat) (asked : Search) :
    asked.run.Keeps before.Still
      (fun hs => ∀ h ∈ hs, h.seat = seat ∧ before.state.Issued h) anyFault := by
  cases asked with
  | classes =>
      refine keeps_section (keeps_bind (keeps_requireLoaded before) fun loaded current => ?_)
      refine keeps_pure fun h member => ?_
      obtain ⟨entry, listed, rfl⟩ := List.mem_map.mp member
      exact sound.issued current (.inl listed)
  | packages =>
      refine keeps_section (keeps_bind (keeps_requireLoaded before) fun loaded current => ?_)
      refine keeps_pure fun h member => ?_
      obtain ⟨entry, listed, rfl⟩ := List.mem_map.mp member
      exact sound.issued current (.inr listed)
  | classNamed name =>
      have named : (getClass name).Keeps before.Still
          (fun h => h.seat = seat ∧ before.state.Issued h) anyFault :=
        keeps_section <| keeps_bind (keeps_requireLoaded before) fun loaded current =>
          keeps_lookup (fun entry listed => sound.issued current (.inl listed)) _ _
      exact keeps_bind named fun h issued => keeps_pure (by simpa using issued)
  | packageNamed name =>
      have named : (getPackage name).Keeps before.Still
          (fun h => h.seat = seat ∧ before.state.Issued h) anyFault :=
        keeps_section <| keeps_bind (keeps_requireLoaded before) fun loaded current =>
          keeps_lookup (fun entry listed => sound.issued current (.inr listed)) _ _
      exact keeps_bind named fun h issued => keeps_pure (by simpa using issued)

end Searches

/-! ## Scenes -/

/-- What holds of a scene between any two deeds. -/
structure Scene.Sound (scene : Scene) : Prop where
  sessions : ∀ (seat : Nat) (state : State), scene.world.sessions[seat]? = some state →
    state.Sound seat
  held : ∀ h ∈ scene.held, ∃ state : State, scene.world.sessions[h.seat]? = some state ∧
    state.Issued h

/-- A deed leaves the sessions as they are, opens a new one, or takes one of them a step on. -/
inductive Scene.Step (deed : Deed) (before after : Scene) : Prop
  | stay (sessions : after.world.sessions = before.world.sessions)
      (opened : after.world.opened = before.world.opened) (held : after.held = before.held)
  | openSession
      (sessions : after.world.sessions =
        before.world.sessions ++ [{ seat := before.world.sessions.length }])
      (opened : after.world.opened = before.world.opened) (held : after.held = before.held)
  | move {seat : Nat} {state new : State} {given : List Handle}
      (found : before.world.sessions[seat]? = some state) (step : State.Step deed state new)
      (sessions : after.world.sessions = before.world.sessions.set seat new)
      (opened : after.world.opened =
        before.world.opened ++ World.newLoads seat state.loads.length new.loads.length)
      (held : after.held = before.held ++ given)
      (issued : ∀ h ∈ given, h.seat = seat ∧ new.Issued h)

section Steps

variable {scene : Scene} {deed : Deed} {seat : Nat}

theorem step_run {action : Action α}
    (step : ∀ state, scene.world.sessions[seat]? = some state →
      State.Step deed state
        (action.run ⟨state, scene.world.files, scene.world.journal⟩).2.state) :
    Scene.Step deed scene (scene.run seat action) := by
  cases found : scene.world.sessions[seat]? with
  | none =>
      rw [Scene.run, World.run_of_none found]
      exact .stay rfl rfl rfl
  | some state =>
      obtain ⟨-, sessions, -, opened⟩ := World.run_of_session found action
      exact .move found (step state found) sessions opened (List.append_nil _).symm
        (List.forall_mem_nil _)

theorem step_gain {action : Action (List Handle)}
    (step : ∀ state, scene.world.sessions[seat]? = some state →
      let run := action.run ⟨state, scene.world.files, scene.world.journal⟩
      State.Step deed state run.2.state ∧
        ∀ hs, run.1 = .ok hs → ∀ h ∈ hs, h.seat = seat ∧ run.2.state.Issued h) :
    Scene.Step deed scene (scene.gain seat action) := by
  cases found : scene.world.sessions[seat]? with
  | none =>
      have missing := World.run_of_none found action
      refine .stay ?_ ?_ ?_ <;> simp [Scene.gain, missing, Except.toOption]
  | some state =>
      obtain ⟨outcome, sessions, -, opened⟩ := World.run_of_session found action
      obtain ⟨step, issued⟩ := step state found
      have held : (scene.gain seat action).held =
          scene.held ++ (scene.world.run seat action).1.toOption.getD [] := rfl
      refine .move found step sessions opened held fun h member => ?_
      rw [outcome] at member
      cases given : (action.run ⟨state, scene.world.files, scene.world.journal⟩).1 with
      | error fault => simp [given, Except.toOption] at member
      | ok hs => exact issued hs given h (by simpa [given, Except.toOption] using member)

theorem step_withHeld (k : Nat) {use : Handle → Scene}
    (used : ∀ h ∈ scene.held, Scene.Step deed scene (use h)) :
    Scene.Step deed scene (scene.withHeld k use) := by
  unfold Scene.withHeld
  split
  case h_1 => exact .stay rfl rfl rfl
  case h_2 h found => exact used h (List.mem_of_getElem? found)

theorem Scene.Sound.useHeld (sound : scene.Sound) {h : Handle} (held : h ∈ scene.held)
    {action : Action α} {good : Host → α → Prop}
    (keeps : ∀ (state : State) (host : Host),
      Usable (World.originOf h) host (fun workspace => state.Used h.load workspace.state ∧ True)
        anyFault →
      action.Keeps (fun workspace => state.Used h.load workspace.state ∧ True) (good host)
        anyFault) (state : State) (found : scene.world.sessions[h.seat]? = some state) :
    let run := action.run ⟨state, scene.world.files, scene.world.journal⟩
    State.Step deed state run.2.state ∧
      ∀ a, run.1 = .ok a → ∃ load : Load, run.2.state.loads[h.load]? = some load ∧
        load.attached = true ∧ good load.host a := by
  intro run
  have before := sound.sessions h.seat state found
  obtain ⟨other, atOther, load, atLoad, attached, own⟩ := sound.held h held
  obtain rfl := Option.some.inj (found.symm.trans atOther)
  have use := usable_used atLoad fun _ => True
  rw [before.seated] at use
  obtain ⟨⟨used, -⟩, lock, ends⟩ := keeps state load.host use
    ⟨state, scene.world.files, scene.world.journal⟩ ⟨State.Used.refl _ _, trivial⟩
  refine ⟨.use used lock, fun a ended => ?_⟩
  obtain ⟨later, atLater, usedLoad⟩ := used.after? atLoad
  refine ⟨later, atLater, usedLoad.attached.trans attached, ?_⟩
  change Ends (good load.host) anyFault run.1 at ends
  rw [ended] at ends
  rw [usedLoad.host]
  exact ends

theorem Scene.Sound.step_runHeld (sound : scene.Sound) {h : Handle} (held : h ∈ scene.held)
    {action : Action α}
    (respects : ∀ (state : State) (host : Host),
      Usable (World.originOf h) host (fun workspace => state.Used h.load workspace.state ∧ True)
        anyFault →
      action.Respects (fun workspace => state.Used h.load workspace.state ∧ True) anyFault) :
    Scene.Step deed scene (scene.run h.seat action) :=
  step_run fun state found => (sound.useHeld held respects state found).1

theorem Scene.Sound.step_read (sound : scene.Sound) {h : Handle} (held : h ∈ scene.held)
    (asked : Attribute) :
    Scene.Step deed scene (scene.gain h.seat (do return (← asked.read h).given)) := by
  refine step_gain fun state found => ?_
  have keeps (state : State) (host : Host)
      (use : Usable (World.originOf h) host
        (fun workspace => state.Used h.load workspace.state ∧ True) anyFault) :
      (do return (← asked.read h).given : Action (List Handle)).Keeps
        (fun workspace => state.Used h.load workspace.state ∧ True)
        (fun hs => ∀ made ∈ hs, made.Of (World.originOf h) host) anyFault :=
    keeps_bind (use.keeps_read asked) fun _ own => keeps_pure own
  obtain ⟨step, given⟩ := sound.useHeld held keeps state found
  refine ⟨step, fun hs ended made member => ?_⟩
  obtain ⟨load, atLoad, attached, own⟩ := given hs ended
  have origin := (own made member).origin
  have sameLoad : made.load = h.load := congrArg LoadId.load origin
  refine ⟨congrArg LoadId.seat origin, load, by rw [sameLoad, atLoad], attached, rfl, ?_, ?_⟩
  · exact (own made member).reflected
  · exact (own made member).object

theorem Scene.Sound.step_search (sound : scene.Sound) (asked : Search) :
    Scene.Step deed scene (scene.gain seat asked.run) := by
  refine step_gain fun state found => ?_
  have before := sound.sessions seat state found
  let workspace : Workspace := ⟨state, scene.world.files, scene.world.journal⟩
  have searched : asked.run.Keeps workspace.Still
      (fun hs => ∀ h ∈ hs, h.seat = seat ∧ state.Issued h) anyFault := keeps_search before asked
  obtain ⟨still, lock, ends⟩ := searched workspace ⟨state.lock, rfl⟩
  have same : (asked.run.run workspace).2 = workspace := still.eq lock
  change State.Step deed state (asked.run.run workspace).2.state ∧
    ∀ hs, (asked.run.run workspace).1 = .ok hs → ∀ h ∈ hs, h.seat = seat ∧
      (asked.run.run workspace).2.state.Issued h
  rw [same]
  refine ⟨.stay deed state, fun hs ended => ?_⟩
  rw [ended] at ends
  exact ends

theorem step_amend (change : Heap → Heap) :
    Scene.Step (.amend seat change) scene
      { scene with world := scene.world.amend seat change } := by
  cases found : scene.world.sessions[seat]? with
  | none =>
      have beyond := List.getElem?_eq_none_iff.mp found
      refine .stay ?_ rfl rfl
      rw [World.amend, List.modify_eq_self beyond]
  | some state =>
      cases current : state.current with
      | none =>
          refine .move found (.stay _ state) ?_ ?_ (List.append_nil _).symm (List.forall_mem_nil _)
          · simp [World.amend, List.modify_eq_set, found, current]
          · simp [World.amend, World.newLoads]
      | some loaded =>
          refine .move found (.amend loaded.load state) ?_ ?_ (List.append_nil _).symm
            (List.forall_mem_nil _)
          · simp [World.amend, List.modify_eq_set, found, current]
          · simp [World.amend, World.newLoads]

theorem Scene.Sound.step_perform (sound : scene.Sound) (deed : Deed) :
    Scene.Step deed scene (scene.perform deed) := by
  cases deed with
  | openSession => exact .openSession rfl rfl rfl
  | load seat engine path given changes =>
      refine step_run fun state found => ?_
      let workspace : Workspace := ⟨state, scene.world.files, scene.world.journal⟩
      have before : workspace.state.Sound seat := sound.sessions seat state found
      obtain ⟨loading, -⟩ := loading_load before.idle engine path given changes
      exact .load loading
  | close seat =>
      refine step_run fun state found => ?_
      let workspace : Workspace := ⟨state, scene.world.files, scene.world.journal⟩
      have before : workspace.state.Sound seat := sound.sessions seat state found
      obtain ⟨closing, -⟩ := closing_close before.idle
      exact .close closing
  | search seat asked => exact sound.step_search asked
  | read k asked => exact step_withHeld k fun h held => sound.step_read held asked
  | text k =>
      exact step_withHeld k fun h held => sound.step_runHeld held fun _ _ use => use.respects_toText
  | inspect k =>
      exact step_withHeld k fun h held =>
        sound.step_runHeld held fun _ _ use => use.respects_inspect
  | hash k =>
      exact step_withHeld k fun h held => sound.step_runHeld held fun _ _ use => use.respects_hash
  | compare j k =>
      cases k with
      | none => exact step_withHeld j fun _ _ => .stay rfl rfl rfl
      | some k =>
          refine step_withHeld j fun first heldFirst => step_withHeld k fun second heldSecond => ?_
          unfold World.compare World.same
          dsimp only
          split
          · exact sound.step_runHeld heldSecond fun _ _ use => use.respects_equals _
          · exact sound.step_runHeld heldFirst fun _ _ use => use.respects_equals _
  | save k path =>
      refine step_withHeld k fun h held => sound.step_runHeld held fun _ _ use => ?_
      exact use.respects_save (fun _ _ _ held => held) path
  | amend seat change => exact step_amend change
  | replaceFiles files => exact .stay rfl rfl rfl

end Steps

end DexBrowser.Session

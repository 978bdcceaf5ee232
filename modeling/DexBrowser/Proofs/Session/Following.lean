import DexBrowser.Proofs.Session.Beside
import DexBrowser.Proofs.Session.Mildness
import DexBrowser.Proofs.Session.Rows
import DexBrowser.Proofs.Session.StaleHandle
import DexBrowser.Proofs.Session.Vouching

/-!
Asking a load beside others. Main statements: whatever others do, the load that was current once is
current still or was let go for good; and both an action by itself and a run beside others keep the
rules of asking, so that what is proved from these holds of both.
-/

namespace DexBrowser.Session

open Managed Session.Action

/-! ## A load that was current once -/

theorem World.holds_of_current {world : World} {seat : Nat} {loaded : Loaded}
    (current : world.current seat = some loaded) : world.holds ⟨seat, loaded.load⟩ = true := by
  obtain ⟨state, found, current⟩ := Option.bind_eq_some_iff.mp current
  rw [World.holds, found, Option.any_some, State.holds_eq_true]
  exact ⟨loaded, current, rfl⟩

theorem World.Presents.current {world : World} {seat : Nat} {loaded : Loaded} {artifact : Artifact}
    {image : Image} (presents : world.Presents seat loaded artifact image) :
    world.current seat = some loaded := by
  obtain ⟨state, found, current, -⟩ := presents.session
  rw [World.current, found, Option.bind_some, current]

theorem World.IsDead.lives {world : World} {id : LoadId} (dead : world.IsDead id) :
    world.lives id = false := by
  obtain ⟨load, found, isDead⟩ := dead
  rw [World.lives, found, Option.any_some, isDead]

theorem State.install_old {state : State} {old : Load} {n : Nat}
    (found : state.loads[n]? = some old) (loaded : Loaded) (load : Load) (minted : Nat) :
    (state.install loaded load minted).loads[n]? = some old :=
  State.push_old found

theorem State.Step.current_or_dead {deed : Deed} {before after : State}
    (step : State.Step deed before after) {loaded : Loaded}
    (current : before.current = some loaded) :
    after.current = some loaded ∨
      ∀ later, after.loads[loaded.load]? = some later → later.alive = false := by
  -- An input gives its place up to another one or to none, and is let go either way.
  cases step with
  | stay | amend => exact .inl current
  | use used => exact .inl (used.current.trans current)
  | load loading =>
      cases loading with
      | refused => exact .inl current
      | failed prepared => cases prepared <;> exact .inl current
      | first minted ready empty =>
          rw [empty] at current
          contradiction
      | @replaced _ _ newLoaded previous newLoad old minted ready now found =>
          obtain rfl := Option.some.inj (now.symm.trans current)
          refine .inr fun later atLater => ?_
          have gone := State.install_old (State.letGo_found found) newLoaded newLoad minted
          obtain rfl := Option.some.inj (atLater.symm.trans gone)
          exact old.shut_alive 0
  | close closing =>
      cases closing with
      | idle empty =>
          rw [empty] at current
          contradiction
      | @closed previous old now found =>
          obtain rfl := Option.some.inj (now.symm.trans current)
          refine .inr fun later atLater => ?_
          obtain rfl := Option.some.inj (atLater.symm.trans (State.letGo_found found))
          exact old.shut_alive 0

/-- A load that was let go, and shows an image still. -/
def World.LetGo (id : LoadId) (image : Image) (world : World) : Prop :=
    ∃ load, world.load? id = some load ∧ load.alive = false ∧ load.Shows image

theorem World.LetGo.dead {id : LoadId} {image : Image} {world : World}
    (gone : world.LetGo id image) : world.IsDead id := by
  obtain ⟨load, found, dead, -⟩ := gone
  exact ⟨load, found, dead⟩

section Follow

variable {seat : Nat} {loaded : Loaded} {artifact : Artifact} {image : Image} {deed : Deed}
  {before after : Scene} {id : LoadId}

theorem Scene.Step.load_aged (step : Scene.Step deed before after) (plain : deed.Plain)
    {load : Load} (found : before.world.load? id = some load) :
    ∃ later, after.world.load? id = some later ∧ load.Aged later := by
  obtain ⟨state, atSession, atLoad⟩ := Option.bind_eq_some_iff.mp found
  obtain ⟨new, atNew, step⟩ := step.session atSession
  obtain ⟨later, atLater, aged⟩ := step.ages plain id.load load atLoad
  exact ⟨later, Option.bind_eq_some_iff.mpr ⟨new, atNew, atLater⟩, aged⟩

theorem World.IsDead.follow (dead : before.world.IsDead id) (step : Scene.Step deed before after)
    (plain : deed.Plain) : after.world.IsDead id := by
  obtain ⟨load, found, isDead⟩ := dead
  obtain ⟨later, atLater, aged⟩ := step.load_aged plain found
  exact ⟨later, atLater, aged.alive isDead⟩

theorem World.LetGo.follow (gone : before.world.LetGo id image)
    (step : Scene.Step deed before after) (plain : deed.Plain) : after.world.LetGo id image := by
  obtain ⟨load, found, isDead, shown⟩ := gone
  obtain ⟨later, atLater, aged⟩ := step.load_aged plain found
  exact ⟨later, atLater, aged.alive isDead, aged.shows shown⟩

theorem World.Presents.follow (presents : before.world.Presents seat loaded artifact image)
    (step : Scene.Step deed before after) (plain : deed.Plain) (sound : after.Sound) :
    after.world.Presents seat loaded artifact image ∨
      after.world.LetGo ⟨seat, loaded.load⟩ image := by
  obtain ⟨state, found, current, -⟩ := presents.session
  obtain ⟨_, atState, live⟩ := presents.live
  obtain rfl := Option.some.inj (found.symm.trans atState)
  obtain ⟨load, atLoad, -, shown, -⟩ := live.load
  obtain ⟨new, atNew, step⟩ := step.session found
  obtain ⟨later, atLater, aged⟩ := step.ages plain loaded.load load atLoad
  rcases step.current_or_dead current with still | dead
  · exact .inl (World.presents_of atNew (sound.sessions seat new atNew) still atLater
      (aged.shows shown) presents.presents)
  · exact .inr ⟨later, Option.bind_eq_some_iff.mpr ⟨new, atNew, atLater⟩, dead later atLater,
      aged.shows shown⟩

end Follow

/-! ## Asking in a session by itself -/

theorem Live.keeps_toText {origin : LoadId} {image : Image} {files : Files.Tree → Prop} {h : Handle}
    {kind : Kind} {id : ObjectId} (wraps : h.Wraps origin kind id) {text : String}
    (tells : Tells image id "toString" (.text text)) :
    h.toText.Keeps (Live origin image files) (· = text) noFault := by
  obtain rfl := wraps.origin
  have asked : (Remote.toText h.load true h.target).Keeps (Live (World.originOf h) image files)
      (· = text) noFault := by
    rw [wraps.target]
    refine keeps_bind respects_readers fun readers _ => keeps_onLoad
      (fun load => load.asked_toText true readers _) fun load _ shown => ?_
    obtain ⟨object, known, member⟩ := tells
    have told : load.heap.member? id "toString" = some (.constant (.text text)) := by
      rw [shown.member? known, member]
    simp only [Load.toText, shown.host, Load.object?, shown.object? known, Option.map_some, told,
      Load.invoke, shown.answer ⟨object, known, member⟩]
    exact rfl
  have checked : h.checkAlive.Keeps (Live (World.originOf h) image files) (fun _ => True) noFault :=
    keeps_checkAlive rfl
  have guarded := keeps_shared (keeps_bind checked fun _ _ => asked)
  exact keeps_catchManaged guarded (fun _ impossible => impossible.elim)
    fun _ _ impossible => impossible

instance : LawfulMonad Action :=
    inferInstanceAs (LawfulMonad (ExceptT Fault (StateM Workspace)))

/-- An action by itself keeps the rules of asking a load that is alive. -/
def askingAlone (origin : LoadId) (image : Image) : Asking Action origin image where
  Gives s steps post := s = .kept →
    steps.Keeps (Live origin image fun _ => True) (post · .kept) noFault
  mono gives fine kept := (gives kept).mono (fun a => fine a .kept) fun _ impossible => impossible
  value fine kept := keeps_pure (kept ▸ fine)
  andThen gives rest kept := keeps_bind (gives kept) fun a fine => rest a .kept fine rfl
  calm {_ s action good} calm kept := by
    intro before live
    obtain ⟨a, minted, ran, fine⟩ := calm before live.shown
    have ended : Kept (Live origin image fun _ => True) (fun a => good a ∧ .kept = s) noFault before
        (action.run before) := by
      rw [ran]
      exact ⟨Live.usable.mint before minted live, rfl, fine, kept.symm⟩
    exact ended
  invoke wraps tells other kept := (Live.keeps_invoke wraps tells other).mono
    (fun _ same => ⟨by simp [kept], same, rfl⟩) fun _ impossible => impossible
  text wraps tells kept := (Live.keeps_toText wraps tells).mono
    (fun _ same _ => ⟨by simp [kept], same⟩) fun _ impossible => impossible

/-! ## Steps that use a load -/

theorem uses_invoke (h : Handle) {name : String} (other : name ≠ Load.closeMember) :
    Uses h.load (h.invoke name) := by
  intro before host use
  let own : Handle := { h with seat := before.seat }
  have ownUse : Usable (World.originOf own) host _ anyFault := use
  exact ownUse.respects_invoke other

theorem uses_toText (h : Handle) : Uses h.load h.toText := by
  intro before host use
  let own : Handle := { h with seat := before.seat }
  have ownUse : Usable (World.originOf own) host _ anyFault := use
  exact ownUse.respects_toText

theorem Uses.step {n : Nat} {action : Action α} (uses : Uses n action) (deed : Deed) (scene : Scene)
    (seat : Nat) : Scene.Step deed scene (scene.run seat action) :=
  step_run fun state _ =>
    have ⟨used, lock⟩ := uses.run ⟨state, scene.world.files, scene.world.journal⟩
    .use used lock

theorem Scene.Honest.run {scene : Scene} (honest : scene.Honest) {deed : Deed} (plain : deed.Plain)
    {seat : Nat} {action : Action α} (step : Scene.Step deed scene (scene.run seat action)) :
    (scene.run seat action).Honest where
  sound := step.sound honest.sound
  presents := step.presents plain honest.presents
  vouched h held := step.vouches plain (honest.vouched h held)

/-! ## Reads -/

theorem run_shared_waiting {workspace : Workspace} {n : Nat} {load : Load}
    (found : workspace.state.loads[n]? = some load) (attached : load.attached = true)
    (busy : workspace.state.lock.writer = true) (action : Action α) :
    (shared n action).run workspace = (.error .wouldWait, workspace) := by
  have refused : workspace.state.lock.admits .shared = false := by
    rw [Lock.admits, busy]
    rfl
  rw [shared, run_bind_ok (run_loadAt found), if_pos attached]
  simp only [inSection, run_ofRun, refused]
  rfl

section Reads

variable {world : World} {seat : Nat} {state : State} (found : world.sessions[seat]? = some state)

include found

theorem World.reads_iff {action : Action α} :
    world.reads seat action = action.waits ⟨state, world.files, world.journal⟩ := by
  rw [reads, found, Option.any_some]

/-- A section is waited for while another changes the session. -/
theorem World.reads_inSection (action : Action α) :
    world.reads seat (inSection .shared action) = true := by
  rw [reads_iff found]
  rfl

section Handles

variable {h : Handle} {load : Load} (atLoad : state.loads[h.load]? = some load)
  (attached : load.attached = true)

include atLoad attached

theorem World.reads_invoke (name : String) : world.reads seat (h.invoke name) = true := by
  let waiting := setLock (fun _ => { writer := true }) ⟨state, world.files, world.journal⟩
  have atWaiting : waiting.state.loads[h.load]? = some load := atLoad
  rw [reads_iff found, Action.waits, Handle.invoke, run_shared_waiting atWaiting attached rfl]

theorem World.reads_toText : world.reads seat h.toText = true := by
  let waiting := setLock (fun _ => { writer := true }) ⟨state, world.files, world.journal⟩
  have atWaiting : waiting.state.loads[h.load]? = some load := atLoad
  have waits := run_shared_waiting atWaiting attached rfl (do
    h.checkAlive
    Remote.toText h.load true h.target)
  rw [reads_iff found, Action.waits, Handle.toText, run_catchManaged_other (by simp) waits]

end Handles

end Reads

/-! ## A load that is asked and may be let go -/

/-- A load of one of the sessions shows an image, alive or not. -/
def World.Shown (origin : LoadId) (image : Image) (world : World) : Prop :=
    ∃ state, world.sessions[origin.seat]? = some state ∧
      Session.Shown origin image ⟨state, world.files, world.journal⟩

section Load

variable {scene : Scene} {seat : Nat} {loaded : Loaded} {artifact : Artifact} {image : Image}
  {id : LoadId}

theorem World.Presents.shown (presents : scene.world.Presents seat loaded artifact image) :
    scene.world.Shown ⟨seat, loaded.load⟩ image := by
  obtain ⟨state, found, live⟩ := presents.live
  exact ⟨state, found, live.shown⟩

theorem World.LetGo.shown (gone : scene.world.LetGo id image) (sound : scene.Sound) :
    scene.world.Shown id image := by
  obtain ⟨load, found, -, shown⟩ := gone
  obtain ⟨state, atSession, atLoad⟩ := Option.bind_eq_some_iff.mp found
  exact ⟨state, atSession, (sound.sessions id.seat state atSession).seated, load, atLoad, shown⟩

theorem World.Shown.calm (shown : scene.world.Shown id image) {action : Action α} {good : α → Prop}
    (calm : Calm id image good action) (deed : Deed) :
    scene.world.reads id.seat action = false ∧
      Scene.Step deed scene (scene.run id.seat action) ∧
        ∃ a, (scene.world.run id.seat action).1 = .ok a ∧ good a := by
  obtain ⟨state, found, shown⟩ := shown
  obtain ⟨a, minted, ran, fine⟩ := calm _ shown
  refine ⟨?_, step_run fun other atSession => ?_, a, ?_, fine⟩
  · obtain ⟨waiting, _, ran, -⟩ := calm (setLock (fun _ => { writer := true })
      ⟨state, scene.world.files, scene.world.journal⟩) ⟨shown.seat, shown.load⟩
    rw [reads_iff found, Action.waits, ran]
  · obtain rfl := Option.some.inj (found.symm.trans atSession)
    rw [ran]
    exact .use { State.Used.refl 0 state with seat := rfl } rfl
  · obtain ⟨outcome, -⟩ := World.run_of_session found action
    rw [outcome, ran]

theorem World.stale_of_dead (sound : scene.Sound) {load : Load}
    (found : scene.world.load? id = some load) (dead : load.alive = false) {h : Handle}
    (own : World.originOf h = id) :
    ∃ state, scene.world.sessions[id.seat]? = some state ∧ state.loads[h.load]? = some load ∧
      h.Stale ⟨state, scene.world.files, scene.world.journal⟩ := by
  subst own
  obtain ⟨state, atSession, atLoad⟩ := Option.bind_eq_some_iff.mp found
  have free : state.lock.writer = false := by
    rw [(sound.sessions h.seat state atSession).lock]
  exact ⟨state, atSession, atLoad, ⟨⟨load, atLoad, dead⟩, free⟩⟩

theorem World.IsDead.refuses (dead : scene.world.IsDead id) (sound : scene.Sound) {h : Handle}
    (own : World.originOf h = id) (name : String) :
    scene.world.run id.seat (h.invoke name) = (.error h.staleFault, scene.world) := by
  obtain ⟨load, found, isDead⟩ := dead
  obtain ⟨state, atSession, -, stale⟩ := stale_of_dead sound found isDead own
  exact World.run_of_still atSession (Handle.refused_invoke name _ stale)

theorem World.LetGo.tellsText (gone : scene.world.LetGo id image) (sound : scene.Sound) {h : Handle}
    (own : h.Of id .memory) :
    ∃ text, scene.world.run id.seat h.toText = (.ok text, scene.world) := by
  obtain ⟨load, found, isDead, shown⟩ := gone
  obtain ⟨state, atSession, atLoad, stale⟩ := stale_of_dead sound found isDead own.origin
  obtain ⟨cls, reflected⟩ := own.reflected rfl
  obtain ⟨object, target⟩ := own.object rfl
  obtain ⟨text, told, same⟩ := Handle.run_toText_stale stale atLoad
    (reflected ▸ Load.names_reflected shown.host cls)
    (target ▸ Load.identifies_object shown.host object)
  exact ⟨text, World.run_of_still atSession (Prod.ext told (same shown.host))⟩

end Load

end DexBrowser.Session

import DexBrowser.Proofs.Session.Unrevised

/-!
What sessions answer while their inputs present artifacts. Main statements: a search of a session is
answered from its index and changes nothing, handles of two classes are equal exactly if the classes
go by one name, and after any history without revisions the current inputs can be asked.
-/

namespace DexBrowser.Session

open Managed Session.Action

/-! ## Searches -/

section Searches

variable {workspace : Workspace} {loaded : Loaded}

theorem run_looking (free : workspace.state.lock.writer = false) {action : Action α}
    {outcome : Except Fault α}
    (looks : ∀ lock, action.run (setLock (fun _ => lock) workspace) =
      (outcome, setLock (fun _ => lock) workspace)) :
    (inSection .shared action).run workspace = (outcome, workspace) := by
  have admitted : workspace.state.lock.admits .shared = true := by
    rw [Lock.admits, free]
    rfl
  have inside : action.run (setLock (·.enter .shared) workspace) =
      (outcome, setLock (·.enter .shared) workspace) :=
    looks (workspace.state.lock.enter .shared)
  simp only [inSection, run_ofRun, admitted, if_true, inside]
  simp only [setLock, Lock.leave_enter admitted]

theorem run_requireLoaded (current : workspace.state.current = some loaded) (lock : Lock) :
    requireLoaded.run (setLock (fun _ => lock) workspace) =
      (.ok loaded, setLock (fun _ => lock) workspace) := by
  have still : (setLock (fun _ => lock) workspace).state.current = some loaded := current
  rw [requireLoaded, run_bind, run_state]
  simp only [still, run_pure]

variable (free : workspace.state.lock.writer = false)
  (current : workspace.state.current = some loaded)

include free current

theorem run_allClasses :
    allClasses.run workspace = (.ok (loaded.classes.map (·.2)), workspace) :=
  run_looking free fun lock => by rw [run_bind, run_requireLoaded current]; rfl

theorem run_allPackages :
    allPackages.run workspace = (.ok (loaded.packages.map (·.2)), workspace) :=
  run_looking free fun lock => by rw [run_bind, run_requireLoaded current]; rfl

theorem run_hasClass (name : String) :
    (hasClass name).run workspace =
      (.ok (loaded.classes.lookup (ClassName.normalize name)).isSome, workspace) := by
  refine run_looking free fun lock => ?_
  rw [run_bind, run_state]
  change (pure (workspace.state.current.any _) : Action Bool).run _ = _
  rw [current]
  rfl

theorem run_hasPackage (name : String) :
    (hasPackage name).run workspace =
      (.ok (loaded.packages.lookup name).isSome, workspace) := by
  refine run_looking free fun lock => ?_
  rw [run_bind, run_state]
  change (pure (workspace.state.current.any _) : Action Bool).run _ = _
  rw [current]
  rfl

theorem run_getClass (name : String) :
    (getClass name).run workspace =
      (match loaded.classes.lookup (ClassName.normalize name) with
        | some h => .ok h
        | none => .error (.noSuchClass name), workspace) := by
  refine run_looking free fun lock => ?_
  rw [run_bind, run_requireLoaded current]
  dsimp only
  cases loaded.classes.lookup (ClassName.normalize name) <;> rfl

theorem run_getPackage (name : String) :
    (getPackage name).run workspace =
      (match loaded.packages.lookup name with
        | some h => .ok h
        | none => .error (.noSuchPackage name), workspace) := by
  refine run_looking free fun lock => ?_
  rw [run_bind, run_requireLoaded current]
  dsimp only
  cases loaded.packages.lookup name <;> rfl

end Searches

/-! ## Equal handles -/

namespace Live

variable {origin : LoadId} {image : Image} {files : Files.Tree → Prop}

theorem keeps_equals {i j : Nat} {c d : Image.ClassImage} (atFirst : image.classes[i]? = some c)
    (atSecond : image.classes[j]? = some d) {h : Handle}
    (wraps : h.Wraps origin .classNode (.classNode i)) {peer : Handle.Peer}
    (alive : peer.alive = true) (target : peer.value = .object (.classNode j)) :
    (h.equals peer).Keeps (Live origin image files) (· = decide (c.fullName = d.fullName))
      noFault := by
  obtain rfl := wraps.origin
  refine keeps_shared (keeps_bind (keeps_checkAlive rfl) fun _ _ => ?_)
  simp only [alive, Bool.not_true, Bool.false_eq_true, if_false, target, wraps.target]
  refine keeps_bind respects_readers fun readers _ => keeps_onLoad
    (fun load => load.asked_equals true readers _ _) fun load _ shown => ?_
  have isFirst : imageObject? image (.classNode i) = some (classObject i c) := by
    rw [imageObject?, atFirst, Option.map_some]
  have isSecond : imageObject? image (.classNode j) = some (classObject j d) := by
    rw [imageObject?, atSecond, Option.map_some]
  have noMember : load.heap.member? (.classNode i) "equals" = none := by
    rw [shown.member? isFirst]
    rfl
  simp only [Load.equals, shown.host, Load.object?, shown.object? isFirst, Option.map_some,
    noMember]
  simp only [Load.sameObject, classObject, shown.object? isSecond, Value.same, Ends]
  simp [Bool.beq_eq_decide_eq]

end Live

/-! ## Worlds that can be asked -/

namespace World

/-- The action ends with a value, and so is what is said of the value and the world then. -/
def Gives (world : World) (seat : Nat) (action : Action α) (good : α → World → Prop) : Prop :=
    ∃ a after, world.run seat action = (.ok a, after) ∧ good a after

theorem Gives.mono {world : World} {seat : Nat} {action : Action α} {good other : α → World → Prop}
    (gives : world.Gives seat action good) (fine : ∀ a after, good a after → other a after) :
    world.Gives seat action other := by
  obtain ⟨a, after, ran, ended⟩ := gives
  exact ⟨a, after, ran, fine a after ended⟩

/-- One load of one of the sessions can be asked, and shows an image. -/
def Live (origin : LoadId) (image : Image) (world : World) : Prop :=
    ∃ state, world.sessions[origin.seat]? = some state ∧
      Session.Live origin image (fun _ => True) ⟨state, world.files, world.journal⟩

section Live

variable {origin : LoadId} {image : Image} {world : World}

/-- Asking a load that can be asked leaves the lock of its session alone, and all other sessions. -/
theorem gives_of_keeps {state : State} (found : world.sessions[origin.seat]? = some state)
    (ready : Session.Live origin image (fun _ => True) ⟨state, world.files, world.journal⟩)
    {action : Action α} {good : α → Prop}
    (keeps : action.Keeps (Session.Live origin image fun _ => True) good noFault) :
    world.Gives origin.seat action fun a after => good a ∧ ∃ new,
      after.sessions = world.sessions.set origin.seat new ∧ new.lock = state.lock ∧
        Session.Live origin image (fun _ => True) ⟨new, after.files, after.journal⟩ := by
  obtain ⟨outcome, sessions, -⟩ := run_of_session found action
  have kept := keeps _ ready
  generalize action.run ⟨state, world.files, world.journal⟩ = result at outcome sessions kept
  obtain ⟨done, workspace⟩ := result
  cases done with
  | error fault => exact kept.ends.elim
  | ok a =>
      exact ⟨a, _, Prod.ext outcome rfl, kept.ends, workspace.state, sessions, kept.lock,
        kept.holds.seat, kept.holds.load, trivial⟩

theorem Live.gives (live : world.Live origin image) {action : Action α} {good : α → Prop}
    (keeps : action.Keeps (Session.Live origin image fun _ => True) good noFault) :
    world.Gives origin.seat action fun a after => good a ∧ after.Live origin image := by
  obtain ⟨state, found, ready⟩ := live
  obtain ⟨bound, -⟩ := List.getElem?_eq_some_iff.mp found
  refine (gives_of_keeps found ready keeps).mono ?_
  rintro a after ⟨fine, new, sessions, -, kept⟩
  exact ⟨fine, new, by rw [sessions, List.getElem?_set_self bound], kept⟩

theorem Live.answers (live : world.Live origin image) {action : Action α} {a : α}
    (keeps : action.Keeps (Session.Live origin image fun _ => True) (· = a) noFault) :
    (world.run origin.seat action).1 = .ok a := by
  obtain ⟨_, after, ran, rfl, -⟩ := live.gives keeps
  rw [ran]

theorem Live.same (live : world.Live origin image) {i j : Nat} {c d : Image.ClassImage}
    (atFirst : image.classes[i]? = some c) (atSecond : image.classes[j]? = some d)
    {first second : Handle} (wrapsFirst : first.Wraps origin .classNode (.classNode i))
    (wrapsSecond : second.Wraps origin .classNode (.classNode j)) :
    (world.same first second).1 = .ok (decide (c.fullName = d.fullName)) := by
  obtain ⟨state, found, ready⟩ := live
  obtain ⟨load, atLoad, alive, -⟩ := ready.load
  have known : world.load? origin = some load := Option.bind_eq_some_iff.mpr ⟨state, found, atLoad⟩
  have peer : world.peer (originOf first) second = ⟨.classNode, true, .object (.classNode j)⟩ := by
    simp only [World.peer, wrapsFirst.origin, wrapsSecond.origin, known, alive, if_true,
      wrapsSecond.kind, wrapsSecond.target]
  have outward : second.kind.isWithin first.kind = false := by
    rw [wrapsFirst.kind, wrapsSecond.kind]
    rfl
  have sameSeat : first.seat = origin.seat := congrArg LoadId.seat wrapsFirst.origin
  rw [World.same, outward, if_neg Bool.false_ne_true, World.equals, peer, sameSeat]
  exact Live.answers ⟨state, found, ready⟩
    (Session.Live.keeps_equals atFirst atSecond wrapsFirst rfl rfl)

end Live

end World

/-! ## The current input -/

/-- A session's current input, which can be asked and presents an artifact. -/
structure World.Presents (world : World) (seat : Nat) (loaded : Loaded) (artifact : Artifact)
    (image : Image) : Prop where
  session : ∃ state, world.sessions[seat]? = some state ∧ state.current = some loaded ∧
    state.lock = {}
  live : world.Live ⟨seat, loaded.load⟩ image
  presents : loaded.Presents seat artifact image

theorem State.Sound.live {workspace : Workspace} {seat : Nat} (sound : workspace.state.Sound seat)
    {loaded : Loaded} (current : workspace.state.current = some loaded) {load : Load}
    (atLoad : workspace.state.loads[loaded.load]? = some load) {image : Image}
    (shown : load.Shows image) :
    Session.Live ⟨seat, loaded.load⟩ image (fun _ => True) workspace := by
  obtain ⟨other, atOther, attached, -⟩ := sound.current loaded current
  obtain rfl := Option.some.inj (atLoad.symm.trans atOther)
  have alive : load.alive = true := by
    rw [sound.lives loaded.load load atLoad attached, State.holds_eq_true]
    exact ⟨loaded, current, rfl⟩
  refine ⟨sound.seated, ⟨load, atLoad, alive, shown, fun _ => ?_⟩, trivial⟩
  rw [sound.lock]

theorem World.presents_of {world : World} {seat : Nat} {state : State}
    (found : world.sessions[seat]? = some state) (sound : state.Sound seat) {loaded : Loaded}
    (current : state.current = some loaded) {load : Load}
    (atLoad : state.loads[loaded.load]? = some load) {artifact : Artifact} {image : Image}
    (shown : load.Shows image) (presents : loaded.Presents seat artifact image) :
    world.Presents seat loaded artifact image where
  session := ⟨state, found, current, sound.lock⟩
  live := ⟨state, found, State.Sound.live sound current atLoad shown⟩
  presents := presents

theorem Scene.Sound.presents_current {scene : Scene} (sound : scene.Sound)
    (presents : scene.Presents) {seat : Nat} {loaded : Loaded}
    (current : scene.world.current seat = some loaded) :
    ∃ artifact image, scene.world.Presents seat loaded artifact image := by
  obtain ⟨state, found, current⟩ := Option.bind_eq_some_iff.mp current
  have soundState := sound.sessions seat state found
  obtain ⟨load, artifact, image, atLoad, shown, presented⟩ :=
    presents seat state found loaded current
  rw [soundState.seated] at presented
  exact ⟨artifact, image, World.presents_of found soundState current atLoad shown presented⟩

/-- After any history without revisions, a current input can be asked and presents an artifact. -/
theorem Scene.presents_current {deeds : List Deed} (plain : ∀ deed ∈ deeds, deed.Plain)
    {seat : Nat} {loaded : Loaded}
    (current : (Scene.after deeds).world.current seat = some loaded) :
    ∃ artifact image, (Scene.after deeds).world.Presents seat loaded artifact image := by
  obtain ⟨sound, presents⟩ := Scene.presents_after plain
  exact sound.presents_current presents current

section Presents

variable {world : World} {seat : Nat} {loaded : Loaded} {artifact : Artifact} {image : Image}

theorem World.Presents.looks (presents : world.Presents seat loaded artifact image)
    {action : Action α} {outcome : Except Fault α}
    (looks : ∀ workspace : Workspace, workspace.state.lock.writer = false →
      workspace.state.current = some loaded → action.run workspace = (outcome, workspace)) :
    world.run seat action = (outcome, world) := by
  obtain ⟨state, found, current, free⟩ := presents.session
  exact World.run_of_still found (looks ⟨state, world.files, world.journal⟩ (by rw [free]) current)

theorem World.Presents.run_bind (presents : world.Presents seat loaded artifact image)
    {first : Action α} {a : α}
    (looks : ∀ workspace : Workspace, workspace.state.lock.writer = false →
      workspace.state.current = some loaded → first.run workspace = (.ok a, workspace))
    {next : α → Action β} : world.run seat (first >>= next) = world.run seat (next a) := by
  obtain ⟨state, found, current, free⟩ := presents.session
  have still := looks ⟨state, world.files, world.journal⟩ (by rw [free]) current
  simp only [World.run, found, run_bind_ok still]

theorem World.Presents.forall₂_classes (presents : world.Presents seat loaded artifact image) :
    List.Forall₂ (fun c (entry : String × Handle) => entry.1 = c.fullName ∧
        ∃ i, image.classes[i]? = some (Image.renderClass loaded.options loaded.path.name c) ∧
          entry.2.Wraps ⟨seat, loaded.load⟩ .classNode (.classNode i))
      (Image.nameClasses loaded.options 0 artifact.classes) loaded.classes := by
  obtain ⟨-, whole⟩ := Image.build_eq_ok_iff.mp presents.presents.built
  have all := presents.presents.classes.forall₂
  subst whole
  refine (List.forall₂_map_left_iff.mp all).imp fun c entry ⟨named, rest⟩ => ⟨?_, rest⟩
  rw [named, Image.ClassImage.fullName, Image.named_renderClass]

end Presents

end DexBrowser.Session

import DexBrowser.Proofs.Session.Answers

/-!
Handles of objects of their kind. Main statement: after any history without revisions, the object of
every handle that was given out belongs to the class of the handle's kind, whether the handle was
found by a search or read off another handle.
-/

namespace DexBrowser.Managed.Load

open Session

/-! ## Later loads -/

/-- A load later on: its objects are what they were, and it does not come back to life. -/
structure Aged (before after : Load) : Prop where
  host : after.host = before.host
  heap : after.heap = { before.heap with closed := after.heap.closed }
  alive : before.alive = false → after.alive = false

section Aged

variable {before after : Load}

theorem aged_refl (load : Load) : load.Aged load :=
  ⟨rfl, rfl, id⟩

theorem Used.aged (used : before.Used after) : before.Aged after :=
  ⟨used.host, used.heap, used.alive.trans⟩

theorem aged_shut (load : Load) (readers : Nat) : load.Aged (load.shut readers) :=
  ⟨load.shut_host readers, load.shut_heap readers, fun _ => load.shut_alive readers⟩

theorem Aged.shows {image : Image} (aged : before.Aged after) (shown : before.Shows image) :
    after.Shows image :=
  ⟨aged.host.trans shown.host, by rw [aged.heap, shown.heap]⟩

theorem Aged.belongs (aged : before.Aged after) (target : Value) (className : String) :
    after.belongs target className = before.belongs target className := by
  unfold Load.belongs object?
  rw [aged.heap]
  cases target with
  | object id => cases id <;> rfl
  | _ => rfl

end Aged

/-- The object of a handle belongs to the class of the handle's kind. -/
def Vouches (load : Load) (h : Handle) : Prop :=
    ∀ required, h.kind.required? = some required → load.belongs h.target required = true

/-- In memory, the handle is one of an object that is there. -/
def Finds (load : Load) (h : Handle) : Prop :=
    load.host = .memory → ∃ id object, h.target = .object id ∧ load.heap.object? id = some object

theorem Aged.object? {before after : Load} (aged : before.Aged after) (id : ObjectId) :
    after.heap.object? id = before.heap.object? id := by
  rw [aged.heap]
  cases id <;> rfl

theorem Aged.finds {before after : Load} (aged : before.Aged after) {h : Handle}
    (finds : before.Finds h) : after.Finds h := by
  intro memory
  obtain ⟨id, object, target, found⟩ := finds (aged.host.symm.trans memory)
  exact ⟨id, object, target, by rw [aged.object?, found]⟩

theorem Aged.vouches {before after : Load} (aged : before.Aged after) {h : Handle}
    (vouches : before.Vouches h) : after.Vouches h := by
  intro required isRequired
  rw [aged.belongs]
  exact vouches required isRequired

theorem Shows.inImage {image : Image} {load : Load} (shown : load.Shows image) {id : ObjectId}
    {object : Object} (found : load.heap.object? id = some object) :
    imageObject? image id = some object := by
  rw [shown.heap] at found
  cases id with
  | given => contradiction
  | _ => exact found

/-! ## Kinds of objects -/

/-- The kind of the handles that are made of an object. -/
def kindOf : ObjectId → Kind
  | .decompiler | .given _ => .plain
  | .package _ => .package
  | .classNode _ => .classNode
  | .method _ _ => .method
  | .classAccess _ | .methodAccess _ _ => .access
  | .argType _ => .argType
  | .primitive _ => .primitive

def classesOf : Kind → List ObjectClass
  | .plain => [decompilerClass]
  | .node => []
  | .method => [methodClass]
  | .classNode => [classClass]
  | .package => [packageClass]
  | .access => [accessClass]
  | .argType => typeClasses
  | .primitive => [primitiveClass]

theorem cls_mem_classesOf {image : Image} {id : ObjectId} {object : Object}
    (known : imageObject? image id = some object) : object.cls ∈ classesOf (kindOf id) := by
  cases id with
  | given => contradiction
  | argType spelling =>
      obtain rfl := Option.some.inj known
      obtain ⟨cls, isType, _, _, _, _, same⟩ := typeObject_shape spelling
      rw [same]
      exact isType
  | decompiler | primitive =>
      obtain rfl := Option.some.inj known
      exact List.mem_singleton_self _
  | package | classNode | classAccess =>
      obtain ⟨_, -, rfl⟩ := Option.map_eq_some_iff.mp known
      exact List.mem_singleton_self _
  | method | methodAccess =>
      obtain ⟨_, -, known⟩ := Option.bind_eq_some_iff.mp known
      obtain ⟨_, -, known⟩ := Option.bind_eq_some_iff.mp known
      obtain rfl := Option.some.inj known
      exact List.mem_singleton_self _

theorem kind_eq_of_cls (kind other : Kind) :
    ∀ cls ∈ classesOf kind, ∀ required ∈ other.required?,
      cls.name = required ∨ required ∈ cls.supertypes → kind = other := by
  cases kind <;> cases other <;> decide

theorem kindOf_of_belongs {image : Image} {id : ObjectId} {object : Object} {kind : Kind}
    {required : String} (known : imageObject? image id = some object)
    (isRequired : kind.required? = some required)
    (belongs : object.cls.name = required ∨ required ∈ object.cls.supertypes) : kindOf id = kind :=
  kind_eq_of_cls _ kind _ (cls_mem_classesOf known) required isRequired belongs

theorem class_of_belongs {image : Image} {id : ObjectId} {object : Object}
    (known : imageObject? image id = some object)
    (belongs : object.cls.name = classClass.name ∨ classClass.name ∈ object.cls.supertypes) :
    ∃ i c, id = .classNode i ∧ image.classes[i]? = some c := by
  have kind : kindOf id = .classNode := kindOf_of_belongs known rfl belongs
  cases id with
  | classNode i =>
      obtain ⟨c, found, -⟩ := Option.map_eq_some_iff.mp known
      exact ⟨i, c, rfl, found⟩
  | _ => contradiction

theorem Shows.known {image : Image} {load : Load} (shown : load.Shows image) {h : Handle}
    (vouches : load.Vouches h) {required : String} (isRequired : h.kind.required? = some required) :
    ∃ id object, h.target = .object id ∧ imageObject? image id = some object ∧
      (object.cls.name = required ∨ required ∈ object.cls.supertypes) := by
  have belongs := vouches required isRequired
  unfold Load.belongs at belongs
  split at belongs
  case h_2 => contradiction
  case h_1 found =>
      unfold Load.object? at found
      split at found
      case h_2 => contradiction
      case h_1 id target =>
          obtain ⟨object, atId, same⟩ := Option.map_eq_some_iff.mp found
          obtain ⟨rfl, rfl⟩ := Prod.mk.inj same
          exact ⟨id, object, target, shown.inImage atId, by simpa using belongs⟩

theorem Shows.isClass {image : Image} {load : Load} (shown : load.Shows image) {h : Handle}
    (kind : h.kind = .classNode) (vouches : load.Vouches h) :
    ∃ i c, h.target = .object (.classNode i) ∧ image.classes[i]? = some c := by
  obtain ⟨id, object, target, inImage, belongs⟩ :=
    shown.known vouches (show h.kind.required? = some classClass.name by rw [kind]; rfl)
  obtain ⟨i, c, rfl, isClass⟩ := class_of_belongs inImage belongs
  exact ⟨i, c, target, isClass⟩

end DexBrowser.Managed.Load

namespace DexBrowser.Session

open Managed Session.Action

/-! ## Handles that are made -/

theorem Action.Keeps.and {holds : Workspace → Prop} {good other : α → Prop} {bad : Fault → Prop}
    {action : Action α} (keeps : action.Keeps holds good bad)
    (otherKeeps : action.Keeps holds other bad) :
    action.Keeps holds (fun a => good a ∧ other a) bad := by
  intro before held
  have kept := keeps before held
  have otherKept := (otherKeeps before held).ends
  refine ⟨kept.holds, kept.lock, ?_⟩
  have ends := kept.ends
  generalize (action.run before).1 = outcome at ends otherKept
  cases outcome with
  | error fault => exact ends
  | ok a => exact ⟨ends, otherKept⟩

section Making

variable {origin : LoadId} {host : Host} {holds : Workspace → Prop} {fresh : Load}

theorem Usable.keeps_checkClass (use : Usable origin host holds anyFault)
    (aged : ∀ workspace load, holds workspace →
      workspace.state.loads[origin.load]? = some load → fresh.Aged load)
    (kind : Kind) (target cls : Value) :
    (Handle.checkClass origin.load kind target cls).Keeps holds
      (fun _ => ∀ required, kind.required? = some required →
        fresh.belongs target required = true) anyFault := by
  unfold Handle.checkClass
  split
  case h_1 free =>
      refine keeps_pure fun required isRequired => ?_
      rw [free] at isRequired
      contradiction
  case h_2 required isRequired =>
      have checked : (Remote.isInstance origin.load target required).Keeps holds
          (fun b => b = true → fresh.belongs target required = true) anyFault := by
        refine use.keeps_onLoad (fun _ => .nothing) fun workspace load held found => ?_
        rw [← (aged workspace load held found).belongs]
        unfold Load.isInstance
        split
        · exact id
        · split
          · trivial
          · split
            · trivial
            · exact id
      refine keeps_bind checked fun isInstance belongs => ?_
      split
      case isTrue =>
          exact keeps_bind (use.respects_className true cls) fun _ _ => keeps_fail trivial
      case isFalse known =>
          refine keeps_pure fun other isOther => ?_
          obtain rfl := Option.some.inj (isRequired.symm.trans isOther)
          exact belongs (by simpa using known)

theorem Usable.keeps_classOfFound (use : Usable origin host holds anyFault)
    (aged : ∀ workspace load, holds workspace →
      workspace.state.loads[origin.load]? = some load → fresh.Aged load) (target : Value) :
    (Remote.classOf origin.load true target).Keeps holds
      (fun _ => fresh.host = .memory →
        ∃ id object, target = .object id ∧ fresh.heap.object? id = some object) anyFault := by
  apply keeps_bind respects_readers
  intro readers _
  apply use.keeps_onLoad fun load => load.asked_classOf true readers target
  intro workspace load held found
  have older := aged workspace load held found
  unfold Load.classOf
  split
  case h_1 running known machine =>
      have apart : fresh.host ≠ .memory := by
        rw [← older.host, machine]
        simp
      generalize (load.invoke true readers target "getClass" []).1 = outcome
      cases outcome with
      | ok v => exact fun memory => absurd memory apart
      | error fault => trivial
  case h_2 =>
      split
      case h_1 => trivial
      case h_2 id object atTarget =>
          unfold Load.object? at atTarget
          split at atTarget
          case h_2 => contradiction
          case h_1 id =>
              obtain ⟨object, isObject, -⟩ := Option.map_eq_some_iff.mp atTarget
              exact fun _ => ⟨id, object, rfl, by rw [← older.object?, isObject]⟩

theorem Usable.keeps_bareKnown (use : Usable origin host holds anyFault)
    (aged : ∀ workspace load, holds workspace →
      workspace.state.loads[origin.load]? = some load → fresh.Aged load)
    (kind : Kind) (target : Value) :
    (Handle.bare origin.load kind target none).Keeps holds
      (fun made => made.Of origin host ∧ fresh.Vouches made ∧ fresh.Finds made) anyFault := by
  have checked : (do
      let cls ← Remote.classOf origin.load true target
      Handle.checkClass origin.load kind target cls
      return (⟨(← Action.state).seat, origin.load, ← Handle.mint, kind, target, cls, ⟨0⟩⟩ : Handle)
        : Action Handle).Keeps holds
      (fun made => made.Of origin host ∧ fresh.Vouches made ∧ fresh.Finds made) anyFault := by
    have told := (use.keeps_classOf true target).and (use.keeps_classOfFound aged target)
    refine keeps_bind told fun cls ⟨reflected, finds⟩ => ?_
    refine keeps_bind (use.keeps_checkClass aged kind target cls) fun _ vouched => ?_
    have seated : Action.state.Keeps holds (·.seat = origin.seat) anyFault := keeps_state use.seat
    refine keeps_bind seated fun state seat => keeps_bind use.respects_mint fun serial _ => ?_
    exact keeps_pure ⟨⟨by rw [World.originOf, seat], fun memory => (reflected memory).1,
      fun memory => (reflected memory).2⟩, vouched, finds⟩
  have refused : (fail (.managed (.nullReference kind.name)) : Action Unit).Respects holds
      anyFault := keeps_fail trivial
  unfold Handle.bare
  dsimp only
  split
  · exact keeps_bind refused fun _ _ => checked
  · exact checked

theorem Usable.keeps_makeKnown (use : Usable origin host holds anyFault)
    (aged : ∀ workspace load, holds workspace →
      workspace.state.loads[origin.load]? = some load → fresh.Aged load)
    (kind : Kind) (target : Value) :
    (Handle.make origin.load kind target : Action Handle).Keeps holds
      (fun made => made.Of origin host ∧ fresh.Vouches made ∧ fresh.Finds made) anyFault := by
  refine keeps_bind (use.keeps_bareKnown aged kind target) fun made ⟨own, vouched, finds⟩ => ?_
  split
  case isTrue =>
      have origin := own.origin
      subst origin
      refine keeps_bind (use.respects_invoke (by decide)) fun raw _ => ?_
      refine keeps_bind (respects_ofExcept _) fun _ _ => keeps_pure ?_
      exact ⟨⟨own.origin, own.reflected, own.object⟩, vouched, finds⟩
  case isFalse => exact keeps_pure ⟨own, vouched, finds⟩

end Making

/-! ## What becomes of loads -/

section Aged

variable {before after : State}

/-- No load is lost, and each is there later on. -/
def State.Ages (before after : State) : Prop :=
    ∀ (n : Nat) (load : Load), before.loads[n]? = some load →
      ∃ later, after.loads[n]? = some later ∧ load.Aged later

theorem ages_refl (state : State) : state.Ages state :=
  fun _ load found => ⟨load, found, load.aged_refl⟩

theorem State.ages_push (state : State) (load : Load) (minted : Nat) :
    State.Ages state { state.push load with minted := minted } :=
  fun _ old found => ⟨old, State.push_old found, old.aged_refl⟩

theorem State.ages_letGo {n : Nat} {load : Load} (found : before.loads[n]? = some load) :
    before.Ages (before.letGo n load) := by
  intro m old atOld
  by_cases same : m = n
  · subst same
    obtain rfl := Option.some.inj (found.symm.trans atOld)
    exact ⟨_, State.letGo_found found, load.aged_shut 0⟩
  · exact ⟨old, by rw [State.letGo_other same, atOld], old.aged_refl⟩

theorem State.Ages.install (ages : before.Ages after) (loaded : Loaded) (load : Load)
    (minted : Nat) : before.Ages (after.install loaded load minted) := by
  intro n old found
  obtain ⟨later, atLater, aged⟩ := ages n old found
  exact ⟨later, State.push_old atLater, aged⟩

theorem State.Ages.loading {workspace : Workspace} {engine : Engine}
    {prepared : Except Fault Loaded} {outcome : Except Fault Unit}
    (loading : Loading engine workspace prepared outcome after) : workspace.state.Ages after := by
  cases loading with
  | refused => exact ages_refl _
  | failed prepared =>
      cases prepared with
      | refused => exact ages_refl _
      | broken minted | dropped minted => exact State.ages_push _ _ minted
  | first minted => exact (ages_refl _).install _ _ minted
  | replaced minted ready current found => exact (State.ages_letGo found).install _ _ minted

theorem State.Step.ages {deed : Deed} (plain : deed.Plain) (step : State.Step deed before after) :
    before.Ages after := by
  cases step with
  | stay => exact ages_refl before
  | use used =>
      intro n load found
      obtain ⟨later, atLater, usedLoad⟩ := used.after? found
      exact ⟨later, atLater, usedLoad.aged⟩
  | load loading => exact .loading loading
  | close closing =>
      cases closing with
      | idle => exact ages_refl before
      | closed current found => exact State.ages_letGo found
  | amend => exact plain.elim

end Aged

/-! ## Handles that were given out -/

/-- Something is so of the handle and of its load, as its session knows it. -/
def State.Has (P : Load → Handle → Prop) (state : State) (h : Handle) : Prop :=
    ∃ load, state.loads[h.load]? = some load ∧ P load h

def World.Has (P : Load → Handle → Prop) (world : World) (h : Handle) : Prop :=
    ∃ state, world.sessions[h.seat]? = some state ∧ state.Has P h

/-- What is so of every handle when it is made, and of handles in an index, and stays so while
nothing is revised. -/
structure Lasting (P : Load → Handle → Prop) : Prop where
  aged : ∀ {before after : Load} {h : Handle}, before.Aged after → P before h → P after h
  wrapped : ∀ {load : Load} {image : Image}, load.Shows image → ∀ {origin : LoadId} {kind : Kind}
    {id : ObjectId} {h : Handle}, h.Wraps origin kind id → Wrappable image kind id → P load h
  made : ∀ {origin : LoadId} {host : Host} {holds : Workspace → Prop} {fresh : Load},
    Usable origin host holds anyFault →
      (∀ workspace load, holds workspace →
        workspace.state.loads[origin.load]? = some load → fresh.Aged load) →
      ∀ kind target, (Handle.make origin.load kind target : Action Handle).Keeps holds
        (fun made => made.Of origin host ∧ P fresh made) anyFault

section Lasting

variable {P : Load → Handle → Prop} (lasting : Lasting P)
include lasting

theorem State.Ages.has {before after : State} (ages : before.Ages after) {h : Handle}
    (has : before.Has P h) : after.Has P h := by
  obtain ⟨load, found, holds⟩ := has
  obtain ⟨later, atLater, aged⟩ := ages h.load load found
  exact ⟨later, atLater, lasting.aged aged holds⟩

end Lasting

/-- The handle is one of an object of its kind, as its session knows it. -/
def State.Vouches (state : State) (h : Handle) : Prop :=
    ∃ load, state.loads[h.load]? = some load ∧ load.Vouches h

def World.Vouches (world : World) (h : Handle) : Prop :=
    ∃ state, world.sessions[h.seat]? = some state ∧ state.Vouches h

theorem Scene.Step.session {deed : Deed} {before after : Scene}
    (step : Scene.Step deed before after) {seat : Nat} {state : State}
    (found : before.world.sessions[seat]? = some state) :
    ∃ new, after.world.sessions[seat]? = some new ∧ State.Step deed state new := by
  obtain ⟨bound, -⟩ := List.getElem?_eq_some_iff.mp found
  cases step with
  | stay sessions => exact ⟨state, by rw [sessions, found], .stay deed state⟩
  | openSession sessions =>
      exact ⟨state, by rw [sessions, List.getElem?_append_left bound, found], .stay deed state⟩
  | @move moved old new _ atOld step sessions =>
      by_cases same : seat = moved
      · subst same
        obtain rfl := Option.some.inj (found.symm.trans atOld)
        exact ⟨new, by rw [sessions, List.getElem?_set_self bound], step⟩
      · exact ⟨state, by rw [sessions, List.getElem?_set_ne (Ne.symm same), found],
          .stay deed state⟩

theorem Scene.Step.has {P : Load → Handle → Prop} (lasting : Lasting P) {deed : Deed}
    {before after : Scene} (plain : deed.Plain) (step : Scene.Step deed before after) {h : Handle}
    (has : before.world.Has P h) : after.world.Has P h := by
  obtain ⟨state, found, holds⟩ := has
  obtain ⟨new, atNew, step⟩ := step.session found
  exact ⟨new, atNew, (step.ages plain).has lasting holds⟩

section Index

variable {state : State} {loaded : Loaded}

theorem State.Presents.has {P : Load → Handle → Prop} (lasting : Lasting P)
    (presents : state.Presents) (current : state.current = some loaded)
    {entry : String × Handle} (listed : entry ∈ loaded.classes ∨ entry ∈ loaded.packages) :
    entry.2.seat = state.seat ∧ state.Has P entry.2 := by
  obtain ⟨load, artifact, image, found, shown, presented⟩ := presents loaded current
  rcases listed with isClass | isPackage
  · obtain ⟨i, named, -, wraps⟩ := presented.classes.place isClass
    rw [List.getElem?_map] at named
    obtain ⟨c, atClass, -⟩ := Option.map_eq_some_iff.mp named
    have sameLoad : entry.2.load = loaded.load := congrArg LoadId.load wraps.origin
    refine ⟨congrArg LoadId.seat wraps.origin, load, by rw [sameLoad, found], ?_⟩
    exact lasting.wrapped shown wraps (wrappable_class atClass)
  · obtain ⟨i, named, -, wraps⟩ := presented.packages.place isPackage
    rw [List.getElem?_map] at named
    obtain ⟨p, atPackage, -⟩ := Option.map_eq_some_iff.mp named
    have sameLoad : entry.2.load = loaded.load := congrArg LoadId.load wraps.origin
    refine ⟨congrArg LoadId.seat wraps.origin, load, by rw [sameLoad, found], ?_⟩
    exact lasting.wrapped shown wraps (wrappable_package atPackage)

theorem keeps_searchListed (before : Workspace) (asked : Search) :
    asked.run.Keeps before.Still (fun hs => ∀ h ∈ hs, ∃ loaded, before.state.current = some loaded ∧
      ∃ entry, (entry ∈ loaded.classes ∨ entry ∈ loaded.packages) ∧ entry.2 = h) anyFault := by
  cases asked with
  | classes =>
      refine keeps_section (keeps_bind (keeps_requireLoaded before) fun loaded current => ?_)
      refine keeps_pure fun h member => ?_
      obtain ⟨entry, listed, same⟩ := List.mem_map.mp member
      exact ⟨loaded, current, entry, .inl listed, same⟩
  | packages =>
      refine keeps_section (keeps_bind (keeps_requireLoaded before) fun loaded current => ?_)
      refine keeps_pure fun h member => ?_
      obtain ⟨entry, listed, same⟩ := List.mem_map.mp member
      exact ⟨loaded, current, entry, .inr listed, same⟩
  | classNamed name =>
      have named : (getClass name).Keeps before.Still (fun h => ∃ loaded,
          before.state.current = some loaded ∧ ∃ entry,
            (entry ∈ loaded.classes ∨ entry ∈ loaded.packages) ∧ entry.2 = h) anyFault :=
        keeps_section <| keeps_bind (keeps_requireLoaded before) fun loaded current =>
          keeps_lookup (fun entry listed => ⟨loaded, current, entry, .inl listed, rfl⟩) _ _
      exact keeps_bind named fun h listed => keeps_pure (by simpa using listed)
  | packageNamed name =>
      have named : (getPackage name).Keeps before.Still (fun h => ∃ loaded,
          before.state.current = some loaded ∧ ∃ entry,
            (entry ∈ loaded.classes ∨ entry ∈ loaded.packages) ∧ entry.2 = h) anyFault :=
        keeps_section <| keeps_bind (keeps_requireLoaded before) fun loaded current =>
          keeps_lookup (fun entry listed => ⟨loaded, current, entry, .inr listed, rfl⟩) _ _
      exact keeps_bind named fun h listed => keeps_pure (by simpa using listed)

end Index

/-- What holds of a scene between any two deeds, as long as nothing is revised; something is so of
all handles that are held. -/
structure Scene.Holding (P : Load → Handle → Prop) (scene : Scene) : Prop where
  sound : scene.Sound
  presents : scene.Presents
  each : ∀ h ∈ scene.held, scene.world.Has P h

section Holding

variable {P : Load → Handle → Prop} {scene : Scene} {deed : Deed}

theorem has_gain {seat : Nat} {action : Action (List Handle)}
    (given : ∀ state, scene.world.sessions[seat]? = some state →
      let run := action.run ⟨state, scene.world.files, scene.world.journal⟩
      ∀ hs, run.1 = .ok hs → ∀ h ∈ hs, h.seat = seat ∧ run.2.state.Has P h)
    (old : ∀ h ∈ scene.held, (scene.gain seat action).world.Has P h) :
    ∀ h ∈ (scene.gain seat action).held, (scene.gain seat action).world.Has P h := by
  intro h member
  have held : (scene.gain seat action).held =
      scene.held ++ (scene.world.run seat action).1.toOption.getD [] := rfl
  rw [held] at member
  rcases List.mem_append.mp member with was | new
  · exact old h was
  · cases found : scene.world.sessions[seat]? with
    | none => simp [World.run_of_none found, Except.toOption] at new
    | some state =>
        obtain ⟨outcome, sessions, -⟩ := World.run_of_session found action
        obtain ⟨bound, -⟩ := List.getElem?_eq_some_iff.mp found
        rw [outcome] at new
        cases ended : (action.run ⟨state, scene.world.files, scene.world.journal⟩).1 with
        | error fault => simp [ended, Except.toOption] at new
        | ok hs =>
            obtain ⟨sameSeat, has⟩ :=
              given state found hs ended h (by simpa [ended, Except.toOption] using new)
            refine ⟨_, ?_, has⟩
            change (scene.world.run seat action).2.sessions[h.seat]? = _
            rw [sessions, sameSeat, List.getElem?_set_self bound]

theorem held_withHeld (k : Nat) {use : Handle → Scene}
    (same : ∀ h, (use h).held = scene.held) : (scene.withHeld k use).held = scene.held := by
  unfold Scene.withHeld
  split
  · rfl
  · exact same _

variable (lasting : Lasting P) (holding : scene.Holding P)
include lasting holding

theorem Scene.Holding.given_search {seat : Nat} (asked : Search)
    {state : State} (found : scene.world.sessions[seat]? = some state) :
    let run := asked.run.run ⟨state, scene.world.files, scene.world.journal⟩
    ∀ hs, run.1 = .ok hs → ∀ h ∈ hs, h.seat = seat ∧ run.2.state.Has P h := by
  intro run hs ended h member
  let workspace : Workspace := ⟨state, scene.world.files, scene.world.journal⟩
  obtain ⟨still, lock, ends⟩ := keeps_searchListed workspace asked workspace ⟨state.lock, rfl⟩
  have same : run.2 = workspace := still.eq lock
  change Ends _ anyFault run.1 at ends
  rw [ended] at ends
  obtain ⟨loaded, current, entry, listed, rfl⟩ := ends h member
  obtain ⟨sameSeat, has⟩ := (holding.presents seat state found).has lasting current listed
  rw [same]
  exact ⟨sameSeat.trans (holding.sound.sessions seat state found).seated, has⟩

theorem Scene.Holding.given_read {h : Handle} (held : h ∈ scene.held)
    (asked : Attribute) {state : State} (found : scene.world.sessions[h.seat]? = some state) :
    let run := (do return (← asked.read h).given : Action (List Handle)).run
      ⟨state, scene.world.files, scene.world.journal⟩
    ∀ hs, run.1 = .ok hs → ∀ made ∈ hs, made.seat = h.seat ∧ run.2.state.Has P made := by
  intro run hs ended given member
  obtain ⟨_, atSession, load, atLoad, -, own⟩ := holding.sound.held h held
  obtain rfl := Option.some.inj (found.symm.trans atSession)
  have use := usable_used atLoad fun _ => True
  rw [(holding.sound.sessions h.seat state found).seated] at use
  have aged (workspace : Workspace) (later : Load)
      (kept : state.Used h.load workspace.state ∧ True)
      (atLater : workspace.state.loads[h.load]? = some later) : load.Aged later :=
    (kept.1.load atLoad atLater).aged
  have made := lasting.made use aged
  have reads : (do return (← asked.read h).given : Action (List Handle)).Keeps
      (fun workspace => state.Used h.load workspace.state ∧ True)
      (fun hs => ∀ made ∈ hs, made.Of (World.originOf h) load.host ∧ P load made) anyFault :=
    keeps_bind (Usable.keeps_readMade use made asked) fun _ fine => keeps_pure fine
  obtain ⟨⟨used, -⟩, -, ends⟩ := reads ⟨state, scene.world.files, scene.world.journal⟩
    ⟨State.Used.refl _ _, trivial⟩
  change Ends _ anyFault run.1 at ends
  rw [ended] at ends
  obtain ⟨ownMade, holds⟩ := ends given member
  obtain ⟨later, atLater, usedLoad⟩ := used.after? atLoad
  have sameLoad : given.load = h.load := congrArg LoadId.load ownMade.origin
  exact ⟨congrArg LoadId.seat ownMade.origin, later, by rw [sameLoad, atLater],
    lasting.aged usedLoad.aged holds⟩

theorem Scene.Holding.each_perform (plain : deed.Plain) :
    ∀ h ∈ (scene.perform deed).held, (scene.perform deed).world.Has P h := by
  have step := holding.sound.step_perform deed
  have old : ∀ h ∈ scene.held, (scene.perform deed).world.Has P h :=
    fun h held => step.has lasting plain (holding.each h held)
  have none_given (same : (scene.perform deed).held = scene.held) :
      ∀ h ∈ (scene.perform deed).held, (scene.perform deed).world.Has P h :=
    fun h member => old h (same ▸ member)
  cases deed with
  | openSession | load | close | amend | replaceFiles => exact none_given rfl
  | text k | inspect k | hash k | save k => exact none_given (held_withHeld k fun _ => rfl)
  | compare j k =>
      cases k with
      | none => exact none_given (held_withHeld j fun _ => rfl)
      | some k => exact none_given (held_withHeld j fun _ => held_withHeld k fun _ => rfl)
  | search seat asked =>
      exact has_gain (fun state found => holding.given_search lasting asked found) old
  | read k asked =>
      cases found : scene.held[k]? with
      | none => exact none_given (by simp [Scene.perform, Scene.withHeld, found])
      | some h =>
          have reads : scene.perform (.read k asked) =
              scene.gain h.seat (do return (← asked.read h).given) := by
            simp only [Scene.perform, Scene.withHeld, found]
          rw [reads] at old ⊢
          exact has_gain (fun state atSession =>
            holding.given_read lasting (List.mem_of_getElem? found) asked atSession) old

theorem Scene.Holding.perform (plain : deed.Plain) : (scene.perform deed).Holding P where
  sound := (holding.sound.step_perform deed).sound holding.sound
  presents := (holding.sound.step_perform deed).presents plain holding.presents
  each := holding.each_perform lasting plain

end Holding

theorem Scene.holding_foldl {P : Load → Handle → Prop} (lasting : Lasting P) {deeds : List Deed}
    (plain : ∀ deed ∈ deeds, deed.Plain) {scene : Scene} (holding : scene.Holding P) :
    (deeds.foldl Scene.perform scene).Holding P := by
  induction deeds generalizing scene with
  | nil => exact holding
  | cons deed rest ih =>
      exact ih (fun other member => plain other (by simp [member]))
        (holding.perform lasting (plain deed (by simp)))

/-- After any history without revisions, what lasts is so of every handle that is held. -/
theorem Scene.holding_after {P : Load → Handle → Prop} (lasting : Lasting P) {deeds : List Deed}
    (plain : ∀ deed ∈ deeds, deed.Plain) : (Scene.after deeds).Holding P := by
  refine Scene.holding_foldl lasting plain ⟨⟨by simp, by simp⟩, ?_, by simp⟩
  exact fun _ _ found => by simp at found

/-! ## Objects of their kind -/

theorem vouches_wrapped {load : Load} {image : Image} (shown : load.Shows image) {origin : LoadId}
    {kind : Kind} {id : ObjectId} {h : Handle} (wraps : h.Wraps origin kind id)
    (wrappable : Wrappable image kind id) : load.Vouches h := by
  obtain ⟨-, object, known, belongs⟩ := wrappable
  intro required isRequired
  rw [wraps.kind] at isRequired
  simp only [Load.belongs, wraps.target, Load.object?, shown.object? known, Option.map_some]
  simpa using belongs required isRequired

theorem lasting_vouches : Lasting Load.Vouches where
  aged aged vouches := aged.vouches vouches
  wrapped := vouches_wrapped
  made use aged kind target :=
    (use.keeps_makeKnown aged kind target).mono (fun _ ⟨own, vouched, _⟩ => ⟨own, vouched⟩)
      fun _ any => any

theorem lasting_finds : Lasting Load.Finds where
  aged aged finds := aged.finds finds
  wrapped shown _ _ _ _ wraps wrappable := by
    obtain ⟨-, object, known, -⟩ := wrappable
    exact fun _ => ⟨_, object, wraps.target, shown.object? known⟩
  made use aged kind target :=
    (use.keeps_makeKnown aged kind target).mono (fun _ ⟨own, _, finds⟩ => ⟨own, finds⟩)
      fun _ any => any

theorem Scene.Step.vouches {deed : Deed} {before after : Scene} (plain : deed.Plain)
    (step : Scene.Step deed before after) {h : Handle} (vouches : before.world.Vouches h) :
    after.world.Vouches h :=
  step.has lasting_vouches plain vouches

/-- What holds of a scene between any two deeds, as long as nothing is revised. -/
structure Scene.Honest (scene : Scene) : Prop where
  sound : scene.Sound
  presents : scene.Presents
  vouched : ∀ h ∈ scene.held, scene.world.Vouches h

theorem Scene.Honest.holding {scene : Scene} (honest : scene.Honest) :
    scene.Holding Load.Vouches :=
  ⟨honest.sound, honest.presents, honest.vouched⟩

theorem Scene.Holding.honest {scene : Scene} (holding : scene.Holding Load.Vouches) :
    scene.Honest :=
  ⟨holding.sound, holding.presents, holding.each⟩

theorem Scene.Honest.perform {scene : Scene} (honest : scene.Honest) {deed : Deed}
    (plain : deed.Plain) : (scene.perform deed).Honest :=
  (honest.holding.perform lasting_vouches plain).honest

theorem Scene.honest_after {deeds : List Deed} (plain : ∀ deed ∈ deeds, deed.Plain) :
    (Scene.after deeds).Honest :=
  (Scene.holding_after lasting_vouches plain).honest

end DexBrowser.Session

import DexBrowser.Validation.Lax
import DexBrowser.Proofs.Session.HandleLife
import DexBrowser.Proofs.Session.Vouching

/-!
Equality of handles. Main statement: after any history without revisions, the handles that can be
used, of all sessions and kinds, are told apart by what their objects are known by. Hence to be
equal is an equivalence that hashes respect, and classes and packages are equal exactly if they go
by one name.
-/

namespace DexBrowser.Managed

/-! ## Keys -/

/-- A text, or what a method is known by: its owner, its name and its arguments. -/
inductive IsKey : Value → Prop
  | text (s : String) : IsKey (.text s)
  | method (owner name : String) (arguments : List String) :
      IsKey (.tuple [.text owner, .text name, .tuple (arguments.map .text)])

theorem same_text_iff {s t : String} : (Value.text s).same (.text t) = true ↔ s = t := by
  simp [Value.same]

theorem sameAll_texts_iff {ss ts : List String} :
    Value.sameAll (ss.map .text) (ts.map .text) = true ↔ ss = ts := by
  induction ss generalizing ts with
  | nil => cases ts <;> simp [Value.sameAll]
  | cons s ss ih =>
      cases ts with
      | nil => simp [Value.sameAll]
      | cons t ts =>
          rw [List.map_cons, List.map_cons, Value.sameAll, Bool.and_eq_true, same_text_iff, ih,
            List.cons.injEq]

theorem IsKey.same_iff {key other : Value} (isKey : IsKey key) (otherKey : IsKey other) :
    key.same other = true ↔ key = other := by
  cases isKey with
  | text s =>
      cases otherKey with
      | text t => rw [same_text_iff, Value.text.injEq]
      | method => simp [Value.same, Value.whole?]
  | method owner name arguments =>
      cases otherKey with
      | text t => simp [Value.same, Value.whole?]
      | method otherOwner otherName otherArguments =>
          have injective : Function.Injective (List.map Value.text) :=
            List.map_injective_iff.mpr fun _ _ same => Value.text.inj same
          simp [Value.same, Value.sameAll, sameAll_texts_iff, injective.eq_iff]

theorem IsKey.hashable {key : Value} (isKey : IsKey key) : unhashable? key = none := by
  cases isKey with
  | text s => simp [unhashable?]
  | method owner name arguments => simp [unhashable?]

theorem sameAll_self {xs : List Value} (each : ∀ x ∈ xs, x.same x = true) :
    Value.sameAll xs xs = true := by
  induction xs with
  | nil => rw [Value.sameAll]
  | cons x xs ih =>
      rw [Value.sameAll, Bool.and_eq_true]
      exact ⟨each x List.mem_cons_self, ih fun y member => each y (List.mem_cons_of_mem x member)⟩

theorem hashForm_text_self (s : String) :
    (hashForm (.text s)).same (hashForm (.text s)) = true := by
  rw [hashForm]
  split <;> simp [Value.same, Value.whole?]

theorem hashForm_tuple_self {xs : List Value}
    (each : ∀ x ∈ xs, (hashForm x).same (hashForm x) = true) :
    (hashForm (.tuple xs)).same (hashForm (.tuple xs)) = true := by
  rw [hashForm, Value.same]
  apply sameAll_self
  intro y member
  obtain ⟨⟨x, isItem⟩, -, rfl⟩ := List.mem_map.mp member
  exact each x isItem

theorem IsKey.hashForm_self {key : Value} (isKey : IsKey key) :
    (hashForm key).same (hashForm key) = true := by
  cases isKey with
  | text s => exact hashForm_text_self s
  | method owner name arguments =>
      have texts : ∀ x ∈ arguments.map Value.text, (hashForm x).same (hashForm x) = true := by
        rw [List.forall_mem_map]
        exact fun s _ => hashForm_text_self s
      apply hashForm_tuple_self
      rw [List.forall_mem_cons, List.forall_mem_cons, List.forall_mem_singleton]
      exact ⟨hashForm_text_self owner, hashForm_text_self name, hashForm_tuple_self texts⟩

structure Object.Keyed (object : Object) : Prop where
  equals : object.member? "equals" = none
  hashCode : object.member? "hashCode" = none
  key : ∀ key, object.key = some key → IsKey key

theorem keyed_typeObject (spelling : String) : (typeObject spelling).Keyed := by
  obtain ⟨cls, -, primitive, array, root, word, same⟩ := typeObject_shape spelling
  rw [same]
  exact ⟨rfl, rfl, fun key isKey => Option.some.inj isKey ▸ .text spelling⟩

theorem keyed_of_imageObject {image : Image} {id : ObjectId} {object : Object}
    (known : imageObject? image id = some object) : object.Keyed := by
  cases id with
  | given => contradiction
  | argType spelling =>
      obtain rfl := Option.some.inj known
      exact keyed_typeObject spelling
  | decompiler =>
      obtain rfl := Option.some.inj known
      exact ⟨rfl, rfl, fun _ => (nomatch ·)⟩
  | primitive word =>
      obtain rfl := Option.some.inj known
      exact ⟨rfl, rfl, fun key same => Option.some.inj same ▸ .text _⟩
  | package index =>
      obtain ⟨p, -, rfl⟩ := Option.map_eq_some_iff.mp known
      exact ⟨rfl, rfl, fun key same => Option.some.inj same ▸ .text p.1⟩
  | classNode index =>
      obtain ⟨c, -, rfl⟩ := Option.map_eq_some_iff.mp known
      exact ⟨rfl, rfl, fun key same => Option.some.inj same ▸ .text c.fullName⟩
  | classAccess index =>
      obtain ⟨c, -, rfl⟩ := Option.map_eq_some_iff.mp known
      exact ⟨rfl, rfl, fun _ => (nomatch ·)⟩
  | method classIndex index =>
      obtain ⟨c, -, known⟩ := Option.bind_eq_some_iff.mp known
      obtain ⟨method, -, known⟩ := Option.bind_eq_some_iff.mp known
      obtain rfl := Option.some.inj known
      exact ⟨rfl, rfl, fun key same => Option.some.inj same ▸ .method _ _ _⟩
  | methodAccess classIndex index =>
      obtain ⟨c, -, known⟩ := Option.bind_eq_some_iff.mp known
      obtain ⟨method, -, known⟩ := Option.bind_eq_some_iff.mp known
      obtain rfl := Option.some.inj known
      exact ⟨rfl, rfl, fun _ => (nomatch ·)⟩

/-! ## Classes and packages -/

theorem package_of_belongs {image : Image} {id : ObjectId} {object : Object}
    (known : imageObject? image id = some object)
    (belongs : object.cls.name = packageClass.name ∨ packageClass.name ∈ object.cls.supertypes) :
    ∃ i p, id = .package i ∧ image.packages[i]? = some p := by
  have kind : Load.kindOf id = .package := Load.kindOf_of_belongs known rfl belongs
  cases id with
  | package i =>
      obtain ⟨p, found, -⟩ := Option.map_eq_some_iff.mp known
      exact ⟨i, p, rfl, found⟩
  | _ => contradiction

/-- The class that a class or a package is of, by the kind of its handles. -/
def namedClass? : Session.Kind → Option ObjectClass
  | .classNode => some classClass
  | .package => some packageClass
  | _ => none

theorem required_of_named {kind : Session.Kind} {cls : ObjectClass}
    (isNamed : namedClass? kind = some cls) : kind.required? = some cls.name := by
  cases kind with
  | classNode | package =>
      obtain rfl := Option.some.inj isNamed
      rfl
  | _ => contradiction

theorem named_of_belongs {image : Image} {id : ObjectId} {object : Object}
    (known : imageObject? image id = some object) {kind : Session.Kind} {cls : ObjectClass}
    (isNamed : namedClass? kind = some cls)
    (belongs : object.cls.name = cls.name ∨ cls.name ∈ object.cls.supertypes) :
    ∃ name, object.cls = cls ∧ object.key = some (.text name) ∧
      Tells image id "getFullName" (.text name) := by
  cases kind with
  | classNode =>
      obtain rfl := Option.some.inj isNamed
      obtain ⟨i, c, rfl, found⟩ := Load.class_of_belongs known belongs
      obtain ⟨d, again, rfl⟩ := Option.map_eq_some_iff.mp known
      exact ⟨d.fullName, rfl, rfl, tells_class again rfl⟩
  | package =>
      obtain rfl := Option.some.inj isNamed
      obtain ⟨i, p, rfl, found⟩ := package_of_belongs known belongs
      obtain ⟨q, again, rfl⟩ := Option.map_eq_some_iff.mp known
      exact ⟨q.1, rfl, rfl, tells_package again rfl⟩
  | _ => contradiction

end DexBrowser.Managed

namespace DexBrowser.Session

open Managed Session.Action

/-! ## What handles are told apart by -/

/-- What an object is known by: its class and its key or, without a key, where it is. -/
inductive Token where
  | keyed (className : String) (key : Value)
  | alone (origin : LoadId) (id : ObjectId)

def tokenOf (origin : LoadId) (id : ObjectId) (object : Object) : Token :=
    match object.key with
    | some key => .keyed object.cls.name key
    | none => .alone origin id

/-- The handle can be used, and leads to an object of the image that its load shows. -/
structure World.Reaches (world : World) (h : Handle) (load : Load) (id : ObjectId)
    (object : Object) : Prop where
  session : ∃ state, world.sessions[h.seat]? = some state ∧ state.lock = {} ∧
    state.loads[h.load]? = some load
  alive : load.alive = true
  shown : ∃ image, load.Shows image ∧ imageObject? image id = some object
  target : h.target = .object id

section Reaches

variable {world : World} {h : Handle} {load : Load} {id : ObjectId} {object : Object}

theorem World.Reaches.load? (reaches : world.Reaches h load id object) :
    world.load? (World.originOf h) = some load := by
  obtain ⟨state, found, -, atLoad⟩ := reaches.session
  exact Option.bind_eq_some_iff.mpr ⟨state, found, atLoad⟩

theorem World.Reaches.host (reaches : world.Reaches h load id object) : load.host = .memory := by
  obtain ⟨image, shows, -⟩ := reaches.shown
  exact shows.host

theorem World.Reaches.found (reaches : world.Reaches h load id object) :
    load.heap.object? id = some object := by
  obtain ⟨image, shows, known⟩ := reaches.shown
  exact shows.object? known

theorem World.Reaches.member? (reaches : world.Reaches h load id object) (name : String) :
    load.heap.member? id name = object.member? name := by
  obtain ⟨image, shows, known⟩ := reaches.shown
  exact shows.member? known name

theorem World.Reaches.keyed (reaches : world.Reaches h load id object) : object.Keyed := by
  obtain ⟨image, -, known⟩ := reaches.shown
  exact keyed_of_imageObject known

theorem World.Reaches.looks (reaches : world.Reaches h load id object) {action : Action α}
    {outcome : Except Fault α}
    (looks : ∀ workspace : Workspace, workspace.state.loads[h.load]? = some load →
      action.run workspace = (outcome, workspace)) :
    world.run h.seat (shared h.load (h.checkAlive >>= fun _ => action)) = (outcome, world) := by
  obtain ⟨state, found, free, atLoad⟩ := reaches.session
  apply World.run_of_still found
  have checked (workspace : Workspace) (atLoad : workspace.state.loads[h.load]? = some load) :
      (h.checkAlive >>= fun _ => action).run workspace = (outcome, workspace) := by
    have alive : h.checkAlive.run workspace = (.ok (), workspace) := by
      rw [Handle.checkAlive, run_bind_ok (run_loadAt atLoad), reaches.alive]
      rfl
    rw [run_bind_ok alive]
    exact looks workspace atLoad
  rw [shared, run_bind_ok (run_loadAt atLoad)]
  split
  · exact run_looking (by rw [free]) fun lock => checked _ atLoad
  · exact checked _ atLoad

theorem World.Reaches.peer (reaches : world.Reaches h load id object) (origin : LoadId) :
    world.peer origin h = ⟨h.kind, true,
      if World.originOf h = origin then .object id
      else .stranger object.cls.name object.key⟩ := by
  simp only [World.peer, reaches.load?, reaches.alive, reaches.target, World.strangerOf,
    reaches.found]

theorem World.Reaches.equals (reaches : world.Reaches h load id object) {other : Handle}
    (alive : (world.peer (World.originOf h) other).alive = true) :
    world.equals h other =
      (.ok (load.sameObject id object (world.peer (World.originOf h) other).value), world) := by
  rw [World.equals]
  apply reaches.looks
  intro workspace atLoad
  rw [alive]
  change (onLoad h.load (·.equals true workspace.state.lock.readers h.target _)).run workspace = _
  have answered (readers : Nat) (value : Value) :
      load.equals true readers h.target value = (.ok (load.sameObject id object value), load) := by
    simp only [Load.equals, reaches.host, reaches.target, Load.object?, reaches.found,
      Option.map_some, reaches.member?, reaches.keyed.equals]
  rw [run_onLoad atLoad, answered, Workspace.setLoad_self atLoad]

def codeOf (id : ObjectId) (object : Object) : HashCode :=
    match object.key with
    | some key => .keyed object.cls.name key
    | none => .address id

theorem World.Reaches.hash (reaches : world.Reaches h load id object) :
    world.hash h = (.ok ⟨World.originOf h, codeOf id object⟩, world) := by
  have answered (readers : Nat) :
      load.hashCode true readers h.target = (.ok (codeOf id object), load) := by
    simp only [Load.hashCode, reaches.host, reaches.target, Load.object?, reaches.found,
      Option.map_some, reaches.member?, reaches.keyed.hashCode, codeOf]
    cases isKey : object.key with
    | none => rfl
    | some key =>
        dsimp only
        rw [(reaches.keyed.key key isKey).hashable]
  have hashed : world.run h.seat h.hash = (.ok (codeOf id object), world) := by
    apply reaches.looks
    intro workspace atLoad
    change (onLoad h.load (·.hashCode true workspace.state.lock.readers h.target)).run workspace = _
    rw [run_onLoad atLoad, answered, Workspace.setLoad_self atLoad]
  rw [World.hash, hashed]
  rfl

end Reaches

section Tokens

variable {world : World} {first second : Handle} {firstLoad secondLoad : Load}
  {firstId secondId : ObjectId} {firstObject secondObject : Object}
  (others : world.Reaches second secondLoad secondId secondObject)
include others

theorem same_alone_iff (noKey : firstObject.key = none) :
    firstLoad.sameObject firstId firstObject (world.peer (World.originOf first) second).value = true
      ↔ World.originOf second = World.originOf first ∧ secondId = firstId := by
  rw [others.peer, Load.sameObject, noKey]
  by_cases sameLoad : World.originOf second = World.originOf first
  case pos => simp [Value.same, sameLoad]
  case neg => simp [Value.same, Value.whole?, sameLoad]

variable (reaches : world.Reaches first firstLoad firstId firstObject)
include reaches

theorem same_keyed_iff {key : Value} (isKey : firstObject.key = some key) :
    firstLoad.sameObject firstId firstObject (world.peer (World.originOf first) second).value = true
      ↔ firstObject.cls.name = secondObject.cls.name ∧ secondObject.key = some key := by
  have compared : firstLoad.sameObject firstId firstObject
      (world.peer (World.originOf first) second).value =
        match secondObject.key with
        | some otherKey => firstObject.cls.name == secondObject.cls.name && key.same otherKey
        | none => false := by
    rw [others.peer, Load.sameObject, isKey]
    by_cases sameLoad : World.originOf second = World.originOf first
    case pos =>
        have load : secondLoad = firstLoad :=
          Option.some.inj (others.load?.symm.trans ((congrArg _ sameLoad).trans reaches.load?))
        have found := others.found
        rw [load] at found
        simp only [if_pos sameLoad, found]
        obtain ⟨cls, members, otherKey, nameless⟩ := secondObject
        cases otherKey <;> rfl
    case neg =>
        simp only [if_neg sameLoad]
        cases secondObject.key <;> rfl
  rw [compared]
  cases otherKey : secondObject.key with
  | none => simp
  | some other =>
      have sameKey := (reaches.keyed.key key isKey).same_iff (others.keyed.key other otherKey)
      rw [Bool.and_eq_true, beq_iff_eq, sameKey, Option.some.injEq, eq_comm (a := key)]

theorem same_iff_token :
    firstLoad.sameObject firstId firstObject (world.peer (World.originOf first) second).value = true
      ↔ tokenOf (World.originOf first) firstId firstObject =
        tokenOf (World.originOf second) secondId secondObject := by
  cases isKey : firstObject.key with
  | none =>
      rw [same_alone_iff others isKey, tokenOf, tokenOf, isKey]
      cases otherKey : secondObject.key with
      | none => simp [eq_comm]
      | some key =>
          constructor
          · rintro ⟨sameLoad, rfl⟩
            -- At one place of one load there is one object, which has a key or has none.
            have loads := reaches.load?.symm.trans ((congrArg _ sameLoad.symm).trans others.load?)
            obtain rfl := Option.some.inj loads
            obtain rfl := Option.some.inj (reaches.found.symm.trans others.found)
            rw [isKey] at otherKey
            contradiction
          · exact (nomatch ·)
  | some key =>
      rw [same_keyed_iff others reaches isKey, tokenOf, tokenOf, isKey]
      cases otherKey : secondObject.key with
      | none => simp
      | some other => simp [eq_comm]

end Tokens

/-! ## Laws -/

/-- What is asked if two handles differ: whether they are the same, the other way round. -/
def World.differ (world : World) (first second : Handle) : Except Fault Bool × World :=
    ((world.same first second).1.map (!·), (world.same first second).2)

def World.Same (world : World) (first second : Handle) : Prop :=
    (world.same first second).1 = .ok true

/-- What may be relied on when handles are compared, as long as they can be used. -/
structure World.LawfulEquality (world : World) (usable : Handle → Prop) : Prop where
  answers : ∀ first second, usable first → usable second →
    ∃ answer, world.same first second = (.ok answer, world) ∧
      world.equals first second = (.ok answer, world) ∧
      world.differ first second = (.ok !answer, world)
  refl : ∀ h, usable h → world.Same h h
  symm : ∀ first second, usable first → usable second → world.Same first second →
    world.Same second first
  trans : ∀ first second third, usable first → usable second → usable third →
    world.Same first second → world.Same second third → world.Same first third
  hash : ∀ first second, usable first → usable second → world.Same first second →
    ∃ code other, world.hash first = (.ok code, world) ∧ world.hash second = (.ok other, world) ∧
      World.sameHash code other = true
  object : ∀ first second, usable first → usable second →
    World.originOf first = World.originOf second → first.target = second.target →
      world.Same first second
  names : ∀ first second, usable first → usable second →
    first.kind = second.kind → (namedClass? first.kind).isSome →
      ∃ name other, (world.run first.seat (first.fullName : Action String)).1 = .ok name ∧
        (world.run second.seat (second.fullName : Action String)).1 = .ok other ∧
        (world.Same first second ↔ name = other)

section Laws

variable {world : World} {first second : Handle} {firstLoad secondLoad : Load}
  {firstId secondId : ObjectId} {firstObject secondObject : Object}

theorem World.Reaches.same (reaches : world.Reaches first firstLoad firstId firstObject)
    (others : world.Reaches second secondLoad secondId secondObject) :
    ∃ answer, world.same first second = (.ok answer, world) ∧
      world.equals first second = (.ok answer, world) ∧
      (answer = true ↔ tokenOf (World.originOf first) firstId firstObject =
        tokenOf (World.originOf second) secondId secondObject) := by
  have asked := reaches.equals (congrArg Handle.Peer.alive (others.peer _))
  -- If the second handle is of the narrower kind it is asked instead, to no other effect.
  have back := others.equals (congrArg Handle.Peer.alive (reaches.peer _))
  have isToken := same_iff_token others reaches
  have isTokenBack := (same_iff_token reaches others).trans eq_comm
  refine ⟨_, ?_, asked, isToken⟩
  rw [World.same]
  split
  case isFalse => exact asked
  case isTrue =>
      rw [back, Bool.eq_iff_iff.mpr (isTokenBack.trans isToken.symm)]

theorem World.Reaches.same_iff (reaches : world.Reaches first firstLoad firstId firstObject)
    (others : world.Reaches second secondLoad secondId secondObject) :
    world.Same first second ↔ tokenOf (World.originOf first) firstId firstObject =
      tokenOf (World.originOf second) secondId secondObject := by
  obtain ⟨answer, same, -, isToken⟩ := reaches.same others
  rw [World.Same, same, ← isToken]
  exact ⟨Except.ok.inj, congrArg Except.ok⟩

theorem sameHash_of_token (reaches : world.Reaches first firstLoad firstId firstObject)
    (same : tokenOf (World.originOf first) firstId firstObject =
      tokenOf (World.originOf second) secondId secondObject) :
    World.sameHash ⟨World.originOf first, codeOf firstId firstObject⟩
      ⟨World.originOf second, codeOf secondId secondObject⟩ = true := by
  unfold tokenOf at same
  unfold codeOf
  cases isKey : firstObject.key with
  | none =>
      cases otherKey : secondObject.key with
      | none =>
          rw [isKey, otherKey] at same
          obtain ⟨sameOrigin, rfl⟩ := Token.alone.inj same
          simp [World.sameHash, HashCode.same, sameOrigin]
      | some other =>
          rw [isKey, otherKey] at same
          contradiction
  | some key =>
      cases otherKey : secondObject.key with
      | none =>
          rw [isKey, otherKey] at same
          contradiction
      | some other =>
          rw [isKey, otherKey] at same
          obtain ⟨sameClass, rfl⟩ := Token.keyed.inj same
          have self := (reaches.keyed.key key isKey).hashForm_self
          simp [World.sameHash, HashCode.same, HashCode.isAddress, sameClass, self]

/-- The handle can be used and, if it is one of a class or a package, tells what it is known by. -/
def World.Ready (world : World) (h : Handle) : Prop :=
    ∃ load id object, world.Reaches h load id object ∧
      ∀ cls, namedClass? h.kind = some cls → object.cls = cls ∧ ∃ name,
        object.key = some (.text name) ∧
          (world.run h.seat (h.fullName : Action String)).1 = .ok name

theorem World.lawfulEquality {usable : Handle → Prop} (ready : ∀ h, usable h → world.Ready h) :
    world.LawfulEquality usable where
  answers first second isUsable otherUsable := by
    obtain ⟨_, _, _, reaches, -⟩ := ready first isUsable
    obtain ⟨_, _, _, others, -⟩ := ready second otherUsable
    obtain ⟨answer, same, equals, -⟩ := reaches.same others
    exact ⟨answer, same, equals, by rw [World.differ, same]; rfl⟩
  refl h isUsable := by
    obtain ⟨_, _, _, reaches, -⟩ := ready h isUsable
    exact (reaches.same_iff reaches).mpr rfl
  symm first second isUsable otherUsable same := by
    obtain ⟨_, _, _, reaches, -⟩ := ready first isUsable
    obtain ⟨_, _, _, others, -⟩ := ready second otherUsable
    exact (others.same_iff reaches).mpr ((reaches.same_iff others).mp same).symm
  trans first second third isUsable otherUsable lastUsable same next := by
    obtain ⟨_, _, _, reaches, -⟩ := ready first isUsable
    obtain ⟨_, _, _, others, -⟩ := ready second otherUsable
    obtain ⟨_, _, _, last, -⟩ := ready third lastUsable
    exact (reaches.same_iff last).mpr
      (((reaches.same_iff others).mp same).trans ((others.same_iff last).mp next))
  hash first second isUsable otherUsable same := by
    obtain ⟨_, _, _, reaches, -⟩ := ready first isUsable
    obtain ⟨_, _, _, others, -⟩ := ready second otherUsable
    exact ⟨_, _, reaches.hash, others.hash,
      sameHash_of_token reaches ((reaches.same_iff others).mp same)⟩
  object first second isUsable otherUsable sameLoad sameTarget := by
    obtain ⟨load, id, object, reaches, -⟩ := ready first isUsable
    obtain ⟨otherLoad, otherId, otherObject, others, -⟩ := ready second otherUsable
    rw [reaches.same_iff others]
    have loads := reaches.load?.symm.trans ((congrArg _ sameLoad).trans others.load?)
    have targets := reaches.target.symm.trans (sameTarget.trans others.target)
    obtain rfl := Option.some.inj loads
    obtain rfl := Value.object.inj targets
    obtain rfl := Option.some.inj (reaches.found.symm.trans others.found)
    rw [sameLoad]
  names first second isUsable otherUsable sameKind isNamed := by
    obtain ⟨_, _, object, reaches, named⟩ := ready first isUsable
    obtain ⟨_, _, otherObject, others, otherNamed⟩ := ready second otherUsable
    obtain ⟨cls, isNamed⟩ := Option.isSome_iff_exists.mp isNamed
    obtain ⟨isClass, name, key, told⟩ := named cls isNamed
    obtain ⟨otherClass, other, otherKey, otherTold⟩ := otherNamed cls (sameKind ▸ isNamed)
    refine ⟨name, other, told, otherTold, ?_⟩
    rw [reaches.same_iff others, tokenOf, tokenOf, key, otherKey, isClass, otherClass]
    simp

end Laws

/-! ## Handles that are held -/

def World.Idle (origin : LoadId) (image : Image) (world : World) : Prop :=
    ∃ state, world.sessions[origin.seat]? = some state ∧ state.lock = {} ∧
      Session.Live origin image (fun _ => True) ⟨state, world.files, world.journal⟩

section Idle

variable {world : World} {origin : LoadId} {image : Image}

theorem World.Idle.live (idle : world.Idle origin image) : world.Live origin image := by
  obtain ⟨state, found, -, live⟩ := idle
  exact ⟨state, found, live⟩

theorem World.Presents.idle {seat : Nat} {loaded : Loaded} {artifact : Artifact}
    (presents : world.Presents seat loaded artifact image) :
    world.Idle ⟨seat, loaded.load⟩ image := by
  obtain ⟨state, found, -, lock⟩ := presents.session
  obtain ⟨other, again, live⟩ := presents.live
  obtain rfl := Option.some.inj (found.symm.trans again)
  exact ⟨state, found, lock, live⟩

theorem World.Idle.reaches (idle : world.Idle origin image) {h : Handle} {kind : Kind}
    {id : ObjectId} {object : Object} (wraps : h.Wraps origin kind id)
    (known : imageObject? image id = some object) : ∃ load, world.Reaches h load id object := by
  obtain rfl := wraps.origin
  obtain ⟨state, found, lock, live⟩ := idle
  obtain ⟨load, atLoad, alive, shown, -⟩ := live.load
  exact ⟨load, ⟨state, found, lock, atLoad⟩, alive, ⟨image, shown, known⟩, wraps.target⟩

theorem World.Idle.gives (idle : world.Idle origin image) {action : Action α} {good : α → Prop}
    (keeps : action.Keeps (Session.Live origin image fun _ => True) good noFault) :
    world.Gives origin.seat action fun a after => good a ∧ after.Idle origin image ∧
      ∀ elsewhere shown, elsewhere.seat ≠ origin.seat → world.Idle elsewhere shown →
        after.Idle elsewhere shown := by
  obtain ⟨state, found, lock, ready⟩ := idle
  obtain ⟨bound, -⟩ := List.getElem?_eq_some_iff.mp found
  refine (gives_of_keeps found ready keeps).mono ?_
  rintro a after ⟨fine, new, sessions, sameLock, kept⟩
  refine ⟨fine, ⟨new, ?_, sameLock.trans lock, kept⟩, ?_⟩
  · rw [sessions, List.getElem?_set_self bound]
  · rintro elsewhere shown apart ⟨other, atOther, otherLock, live⟩
    refine ⟨other, ?_, otherLock, live.seat, live.load, trivial⟩
    rw [sessions, List.getElem?_set_ne apart.symm, atOther]

end Idle

/-- A handle of an object of the current input of its session. -/
structure World.Leads (world : World) (h : Handle) (loaded : Loaded) (artifact : Artifact)
    (image : Image) (id : ObjectId) (object : Object) : Prop where
  presents : world.Presents h.seat loaded artifact image
  load : loaded.load = h.load
  own : h.Of (World.originOf h) .memory
  target : h.target = .object id
  known : imageObject? image id = some object
  belongs : ∀ required, h.kind.required? = some required →
    object.cls.name = required ∨ required ∈ object.cls.supertypes

section Leads

variable {world : World} {h : Handle} {loaded : Loaded} {artifact : Artifact} {image : Image}
  {id : ObjectId} {object : Object} (leads : world.Leads h loaded artifact image id object)

include leads

theorem World.Leads.idle : world.Idle (World.originOf h) image := by
  have idle := leads.presents.idle
  rw [leads.load] at idle
  exact idle

theorem World.Leads.wraps {kind : Kind} (isKind : h.kind = kind) :
    h.Wraps (World.originOf h) kind id :=
  ⟨leads.own, isKind, leads.target⟩

theorem World.Leads.reaches : ∃ load, world.Reaches h load id object :=
  leads.idle.reaches (leads.wraps rfl) leads.known

end Leads

theorem Scene.leads_of_held {deeds : List Deed} (plain : ∀ deed ∈ deeds, deed.Plain) {h : Handle}
    (held : h ∈ (Scene.after deeds).held)
    (lives : (Scene.after deeds).world.lives (World.originOf h) = true) :
    ∃ loaded artifact image id object,
      (Scene.after deeds).world.Leads h loaded artifact image id object := by
  have honest := Scene.honest_after plain
  obtain ⟨state, load, found, sound, atLoad, inWorld, attached, own⟩ := honest.sound.load held
  have alive : load.alive = true := by
    obtain ⟨other, isOther, alive⟩ := World.lives_eq_true.mp lives
    obtain rfl := Option.some.inj (inWorld.symm.trans isOther)
    exact alive
  have current : state.holds h.load = true := by
    rw [← sound.lives h.load load atLoad attached, alive]
  obtain ⟨loaded, isCurrent, sameLoad⟩ := State.holds_eq_true.mp current
  obtain ⟨atCurrent, artifact, image, isAtCurrent, shown, presented⟩ :=
    honest.presents h.seat state found loaded isCurrent
  rw [sound.seated] at presented
  have presents := World.presents_of found sound isCurrent isAtCurrent shown presented
  rw [sameLoad] at isAtCurrent
  obtain rfl := Option.some.inj (atLoad.symm.trans isAtCurrent)
  obtain ⟨_, atSession, _, atFound, finds⟩ := (Scene.holding_after lasting_finds plain).each h held
  obtain rfl := Option.some.inj (found.symm.trans atSession)
  obtain rfl := Option.some.inj (atLoad.symm.trans atFound)
  obtain ⟨_, atSession, _, atVouched, vouched⟩ := honest.vouched h held
  obtain rfl := Option.some.inj (found.symm.trans atSession)
  obtain rfl := Option.some.inj (atLoad.symm.trans atVouched)
  obtain ⟨id, object, target, isObject⟩ := finds shown.host
  have known := shown.inImage isObject
  rw [shown.host] at own
  refine ⟨loaded, artifact, image, id, object, presents, sameLoad, own, target, known, ?_⟩
  intro required isRequired
  obtain ⟨_, _, again, inImage, belongs⟩ := shown.known vouched isRequired
  obtain rfl := Value.object.inj (target.symm.trans again)
  obtain rfl := Option.some.inj (known.symm.trans inImage)
  exact belongs

theorem World.Leads.ready {world : World} {h : Handle} {loaded : Loaded} {artifact : Artifact}
    {image : Image} {id : ObjectId} {object : Object}
    (leads : world.Leads h loaded artifact image id object) : world.Ready h := by
  obtain ⟨load, reaches⟩ := leads.reaches
  refine ⟨load, id, object, reaches, fun cls isNamed => ?_⟩
  obtain ⟨name, isClass, key, tells⟩ :=
    named_of_belongs leads.known isNamed (leads.belongs _ (required_of_named isNamed))
  exact ⟨isClass, name, key, leads.idle.live.answers (Live.keeps_fullName (leads.wraps rfl) tells)⟩

/-- After any history without revisions, handles that can be used compare lawfully. -/
theorem handles_compare_lawfully {deeds : List Deed} (plain : ∀ deed ∈ deeds, deed.Plain) :
    let scene := Scene.after deeds
    scene.world.LawfulEquality fun h =>
      h ∈ scene.held ∧ scene.world.lives (World.originOf h) = true :=
  World.lawfulEquality fun _ ⟨held, lives⟩ => by
    obtain ⟨_, _, _, _, _, leads⟩ := Scene.leads_of_held plain held lives
    exact leads.ready

def loadedTwice : List Deed :=
    [.openSession, .openSession, .replaceFiles twoArtifacts,
      .load 0 (.memory .lax id) (.path (Path.ofString "a.json")) none [],
      .load 1 (.memory .lax id) (.path (Path.ofString "a.json")) none [],
      .search 0 .classes, .search 1 .classes]

theorem classes_of_two_loads_equal :
    let world := (Scene.after loadedTwice).world
    ∃ first second, first.seat ≠ second.seat ∧ world.Same first second ∧
      ∃ code other, world.hash first = (.ok code, world) ∧ world.hash second = (.ok other, world) ∧
        World.sameHash code other = true := by
  intro world
  let told (h : Handle) : Option String :=
    (world.run h.seat (h.fullName : Action String)).1.toOption
  have searched : (Scene.after loadedTwice).held.any (fun first =>
      (Scene.after loadedTwice).held.any fun second =>
        first.seat != second.seat && first.kind == .classNode && second.kind == .classNode &&
          world.lives (World.originOf first) && world.lives (World.originOf second) &&
          told first == some "a.A" && told second == some "a.A") = true := by
    decide +kernel
  obtain ⟨first, held, rest⟩ := List.any_eq_true.mp searched
  obtain ⟨second, otherHeld, facts⟩ := List.any_eq_true.mp rest
  simp only [Bool.and_eq_true, bne_iff_ne, beq_iff_eq] at facts
  obtain ⟨⟨⟨⟨⟨⟨apart, isClass⟩, otherClass⟩, lives⟩, otherLives⟩, name⟩, otherName⟩ := facts
  have plain : ∀ deed ∈ loadedTwice, deed.Plain := by simp [loadedTwice, Deed.Plain]
  have laws := handles_compare_lawfully plain
  have same : world.Same first second := by
    obtain ⟨one, other, answer, otherAnswer, sameName⟩ := laws.names first second ⟨held, lives⟩
      ⟨otherHeld, otherLives⟩ (isClass.trans otherClass.symm) (by rw [isClass]; rfl)
    apply sameName.mpr
    have one_eq := (congrArg Except.toOption answer).symm.trans name
    have other_eq := (congrArg Except.toOption otherAnswer).symm.trans otherName
    exact Option.some.inj (one_eq.trans other_eq.symm)
  exact ⟨first, second, apart, same,
    laws.hash first second ⟨held, lives⟩ ⟨otherHeld, otherLives⟩ same⟩

end DexBrowser.Session

import DexBrowser.Proofs.Session.Mirroring

/-!
Desks that are alike as far as one session is concerned, but for its numbers. Main statement: what
is asked of the session at one desk is answered alike at the other.
-/

namespace DexBrowser.Session

open Managed Session.Action

variable {validator : Validator}

/-! ## Worlds -/

/-- One session of the first world is like one of the second but for numbers. -/
structure World.Mirrors (e : Renumbering) (like : Likeness) (trees : Files.Tree → Files.Tree → Prop)
    (one other : World) : Prop where
  sessions : Option.Rel (State.Mirrors e like (e.SameCurrent like)) one.sessions[e.first]?
    other.sessions[e.second]?
  files : trees one.files other.files
  journal : like.SameJournal one.journal other.journal

/-- Replies are the same but for the place of the current input. -/
inductive Reply.AtPaths (paths : Path → Path → Prop) : Reply → Reply → Prop
  | same (reply : Reply) : AtPaths paths reply reply
  | input {one other : Option (Path × LoadOptions)}
      (shown : Option.Rel (fun a b => paths a.1 b.1 ∧ a.2 = b.2) one other) :
      AtPaths paths (.input one) (.input other)

theorem Reply.atPaths_eq_iff {one other : Reply} : Reply.AtPaths Eq one other ↔ one = other := by
  constructor
  · intro same
    cases same with
    | same reply => rfl
    | input shown =>
        cases shown with
        | none => rfl
        | some here => rw [Prod.ext here.1 here.2]
  · rintro rfl
    exact .same one

theorem Reply.AtPaths.given {paths : Path → Path → Prop} {one other : Reply}
    (same : Reply.AtPaths paths one other) : one.given = other.given := by
  cases same <;> rfl

/-- Replies are alike but for the handles that are given out. -/
def Renumbering.SameReply (e : Renumbering) (like : Likeness) (one other : Reply) : Prop :=
    Reply.AtPaths like.SamePath one (other.map e.handle) ∧ ∀ g ∈ other.given, g.seat = e.second

section Worlds

theorem strangerOf_resembles {load twin : Load} (resembles : load.Resembles twin) (target : Value) :
    World.strangerOf load target = World.strangerOf twin target := by
  obtain ⟨image, same, rfl⟩ := resembles
  cases target with
  | object id => rw [World.strangerOf, World.strangerOf, Load.object?_withImage same]
  | _ => rfl

variable {e : Renumbering} {like : Likeness} {trees : Files.Tree → Files.Tree → Prop}
  {one other : World}

theorem World.journal_run {world : World} {seat : Nat} {state : State}
    (found : world.sessions[seat]? = some state) (action : Action α) :
    (world.run seat action).2.journal =
      (action.run ⟨state, world.files, world.journal⟩).2.journal := by
  simp [World.run, found]

theorem World.Mirrors.run (mirrors : one.Mirrors e like trees other) {related : α → β → Prop}
    {first : Action α} {second : Action β}
    (runs : Mirroring e like trees (e.SameCurrent like) related first second) :
    Alike related (one.run e.first first).1 (other.run e.second second).1 ∧
      (one.run e.first first).2.Mirrors e like trees (other.run e.second second).2 := by
  have sessions := mirrors.sessions
  generalize atFirst : one.sessions[e.first]? = a, atSecond : other.sessions[e.second]? = b
    at sessions
  cases sessions with
  | none =>
      rw [World.run_of_none atFirst, World.run_of_none atSecond]
      exact ⟨.error _, mirrors⟩
  | @some a b same =>
      obtain ⟨alike, after⟩ := runs ⟨a, one.files, one.journal⟩ ⟨b, other.files, other.journal⟩
        ⟨same, mirrors.files, mirrors.journal⟩
      obtain ⟨outcome, ran, files, -⟩ := World.run_of_session atFirst first
      obtain ⟨following, followed, others, -⟩ := World.run_of_session atSecond second
      obtain ⟨bound, -⟩ := List.getElem?_eq_some_iff.mp atFirst
      obtain ⟨within, -⟩ := List.getElem?_eq_some_iff.mp atSecond
      rw [outcome, following]
      refine ⟨alike, ?_, ?_, ?_⟩
      · rw [ran, followed, List.getElem?_set_self bound, List.getElem?_set_self within]
        exact .some after.state
      · rw [files, others]
        exact after.files
      · rw [World.journal_run atFirst, World.journal_run atSecond]
        exact after.journal

theorem World.Mirrors.replied (mirrors : one.Mirrors e like trees other) {related : α → β → Prop}
    {first : Action α} {second : Action β}
    (runs : Mirroring e like trees (e.SameCurrent like) related first second) {reply : α → Reply}
    {answer : β → Reply} (same : ∀ a b, related a b → e.SameReply like (reply a) (answer b)) :
    Alike (e.SameReply like) (Session.replied (one.run e.first first) reply).1
        (Session.replied (other.run e.second second) answer).1 ∧
      (Session.replied (one.run e.first first) reply).2.Mirrors e like trees
        (Session.replied (other.run e.second second) answer).2 := by
  obtain ⟨alike, after⟩ := mirrors.run runs
  refine ⟨?_, after⟩
  simp only [Session.replied]
  generalize (one.run e.first first).1 = ran, (other.run e.second second).1 = followed at alike
  cases alike with
  | ok here => exact .ok (same _ _ here)
  | error fault => exact .error fault

theorem World.Mirrors.replied_eq (mirrors : one.Mirrors e like trees other)
    {first second : Action α}
    (runs : Mirroring e like trees (e.SameCurrent like) Eq first second) {reply : α → Reply}
    (same : ∀ a, e.SameReply like (reply a) (reply a)) :
    Alike (e.SameReply like) (Session.replied (one.run e.first first) reply).1
        (Session.replied (other.run e.second second) reply).1 ∧
      (Session.replied (one.run e.first first) reply).2.Mirrors e like trees
        (Session.replied (other.run e.second second) reply).2 := by
  refine mirrors.replied runs ?_
  rintro a _ rfl
  exact same a

theorem World.Mirrors.peer (mirrors : one.Mirrors e like trees other) {h g : Handle}
    (own : h.seat = e.second) (ownToo : g.seat = e.second) :
    one.peer (World.originOf (e.handle h)) (e.handle g) = other.peer (World.originOf h) g := by
  have origins : World.originOf (e.handle g) = World.originOf (e.handle h) ↔
      World.originOf g = World.originOf h := by
    simp [World.originOf, Renumbering.handle, own, ownToo]
  have loads : Option.Rel like.SameContent (one.load? (World.originOf (e.handle g)))
      (other.load? (World.originOf g)) := by
    have sessions := mirrors.sessions
    simp only [World.load?, World.originOf, Renumbering.handle, ownToo]
    generalize one.sessions[e.first]? = a, other.sessions[e.second]? = b at sessions
    cases sessions with
    | none => exact .none
    | some same => exact same.getElem? rfl
  unfold World.peer
  generalize one.load? (World.originOf (e.handle g)) = a,
    other.load? (World.originOf g) = b at loads
  cases loads with
  | none => rfl
  | some alike =>
      have resembles := like.resembles alike
      simp only [origins, resembles.alive, strangerOf_resembles resembles]
      rfl

section Replies

variable (e like)

theorem sameReply_bare {reply : Reply} (unmapped : reply.map e.handle = reply)
    (bare : reply.given = []) : e.SameReply like reply reply := by
  refine ⟨?_, by simp [bare]⟩
  rw [unmapped]
  exact .same reply

theorem sameReply_flag (b : Bool) : e.SameReply like (.flag b) (.flag b) :=
  sameReply_bare e like rfl rfl

theorem sameReply_text (s : String) : e.SameReply like (.text s) (.text s) :=
  sameReply_bare e like rfl rfl

variable {e like}

theorem sameReply_input {one other : Option (Path × LoadOptions)}
    (shown : Option.Rel (fun a b => like.SamePath a.1 b.1 ∧ a.2 = b.2) one other) :
    e.SameReply like (.input one) (.input other) :=
  ⟨.input shown, by simp [Reply.given]⟩

theorem sameReply_handles {hs gs : List Handle} (all : List.Forall₂ e.SameHandle hs gs) :
    e.SameReply like (.answer (.handles hs)) (.answer (.handles gs)) := by
  obtain ⟨rfl, seats⟩ := e.forall₂_sameHandle.mp all
  exact ⟨.same _, seats⟩

theorem sameReply_answer {currents : Option Loaded → Option Loaded → Prop} {one other : Answer}
    (same : (mirroring e like trees currents).SameAnswer one other) :
    e.SameReply like (.answer one) (.answer other) := by
  cases same with
  | text s => exact sameReply_text e like s
  | flag b => exact sameReply_flag e like b
  | number i => exact sameReply_bare e like rfl rfl
  | handles all => exact sameReply_handles all

end Replies

theorem World.Mirrors.equals (mirrors : one.Mirrors e like trees other) {h g : Handle}
    (own : h.seat = e.second) (ownToo : g.seat = e.second) :
    Alike (e.SameReply like) (Session.replied (one.equals (e.handle h) (e.handle g)) .flag).1
        (Session.replied (other.equals h g) .flag).1 ∧
      (Session.replied (one.equals (e.handle h) (e.handle g)) .flag).2.Mirrors e like trees
        (Session.replied (other.equals h g) .flag).2 := by
  have same : e.SameHandle (e.handle h) h := ⟨own, rfl⟩
  unfold World.equals
  rw [mirrors.peer own ownToo, own]
  have runs (peer : Handle.Peer) :
      (mirroring e like trees (e.SameCurrent like)).Runs Eq ((e.handle h).equals peer)
        (h.equals peer) := Parallel.equals same peer
  exact mirrors.replied_eq (runs _) (sameReply_flag e like)

theorem World.Mirrors.same (mirrors : one.Mirrors e like trees other) {h g : Handle}
    (own : h.seat = e.second) (ownToo : g.seat = e.second) :
    Alike (e.SameReply like) (Session.replied (one.same (e.handle h) (e.handle g)) .flag).1
        (Session.replied (other.same h g) .flag).1 ∧
      (Session.replied (one.same (e.handle h) (e.handle g)) .flag).2.Mirrors e like trees
        (Session.replied (other.same h g) .flag).2 := by
  by_cases within : g.kind.isWithin h.kind = true
  · have first : one.same (e.handle h) (e.handle g) = one.equals (e.handle g) (e.handle h) :=
      if_pos within
    have second : other.same h g = other.equals g h := if_pos within
    rw [first, second]
    exact mirrors.equals ownToo own
  · have first : one.same (e.handle h) (e.handle g) = one.equals (e.handle h) (e.handle g) :=
      if_neg within
    have second : other.same h g = other.equals h g := if_neg within
    rw [first, second]
    exact mirrors.equals own ownToo

/-- To load, loads must run in parallel; to save, files must stay related. -/
def Request.Mirrored (e : Renumbering) (like : Likeness) (trees : Files.Tree → Files.Tree → Prop) :
    Request ρ → Prop
  | .load validator amend path given changes => Mirroring e like trees (e.SameCurrent like) Eq
      (Session.load (.memory validator amend) path given changes)
      (Session.load (.memory validator amend) path given changes)
  | .save .. => Rewrites trees
  | _ => True

theorem World.Mirrors.ask (mirrors : one.Mirrors e like trees other) (request : Request Handle)
    (own : ∀ g ∈ request.handles, g.seat = e.second)
    (allowed : request.Mirrored e like trees) :
    Alike (e.SameReply like) (one.ask e.first (request.map e.handle)).1
        (other.ask e.second request).1 ∧
      (one.ask e.first (request.map e.handle)).2.Mirrors e like trees
        (other.ask e.second request).2 := by
  have looks : (mirroring e like trees (e.SameCurrent like)).Looks := mirroring_looks
  have twin {g : Handle} (seat : g.seat = e.second) :
      (mirroring e like trees (e.SameCurrent like)).SameHandle (e.handle g) g := ⟨seat, rfl⟩
  cases request with
  | load validator amend path given changes =>
      exact mirrors.replied_eq allowed fun _ => sameReply_bare e like rfl rfl
  | close => exact mirrors.replied_eq mirroring_close fun _ => sameReply_bare e like rfl rfl
  | isLoaded => exact mirrors.replied_eq (Parallel.isLoaded looks) (sameReply_flag e like)
  | input =>
      exact mirrors.replied (Parallel.currentInput looks) fun _ _ shown => sameReply_input shown
  | search asked =>
      exact mirrors.replied (Parallel.search looks asked) fun _ _ all => sameReply_handles all
  | hasClass name => exact mirrors.replied_eq (Parallel.hasClass looks name) (sameReply_flag e like)
  | hasPackage name =>
      exact mirrors.replied_eq (Parallel.hasPackage looks name) (sameReply_flag e like)
  | classRows package limit =>
      exact mirrors.replied_eq (Parallel.classRows looks package limit) fun _ =>
        sameReply_bare e like rfl rfl
  | packageRows =>
      exact mirrors.replied_eq (Parallel.packageRows looks) fun _ => sameReply_bare e like rfl rfl
  | methodRows className =>
      exact mirrors.replied_eq (Parallel.methodRows looks className) fun _ =>
        sameReply_bare e like rfl rfl
  | compare h operand =>
      have seat : h.seat = e.second := own h List.mem_cons_self
      cases operand with
      | none => exact ⟨.ok (sameReply_flag e like false), mirrors⟩
      | some g => exact mirrors.same seat (own g (by simp [Request.handles]))
  | equals h g =>
      have seat : h.seat = e.second := own h List.mem_cons_self
      exact mirrors.equals seat (own g (by simp [Request.handles]))
  | classDetail g =>
      have seat : g.seat = e.second := own g (List.mem_singleton_self g)
      simp only [World.ask, seat]
      exact mirrors.replied_eq (Parallel.classDetail (twin seat)) fun _ =>
        sameReply_bare e like rfl rfl
  | read g asked =>
      have seat : g.seat = e.second := own g (List.mem_singleton_self g)
      simp only [World.ask, seat]
      exact mirrors.replied (Parallel.read (twin seat) asked) fun _ _ here => sameReply_answer here
  | text g =>
      have seat : g.seat = e.second := own g (List.mem_singleton_self g)
      simp only [World.ask, seat]
      exact mirrors.replied_eq (Parallel.toText (twin seat)) (sameReply_text e like)
  | inspect g =>
      have seat : g.seat = e.second := own g (List.mem_singleton_self g)
      simp only [World.ask, seat]
      exact mirrors.replied_eq (Parallel.inspect (twin seat)) (sameReply_text e like)
  | hash g =>
      have seat : g.seat = e.second := own g (List.mem_singleton_self g)
      simp only [World.ask, seat]
      exact mirrors.replied_eq (Parallel.hash (twin seat)) fun _ => sameReply_bare e like rfl rfl
  | save g path =>
      have seat : g.seat = e.second := own g (List.mem_singleton_self g)
      have saves : (mirroring e like trees (e.SameCurrent like)).Saves :=
        mirroring_saves allowed
      simp only [World.ask, seat]
      exact mirrors.replied_eq (Parallel.save saves (twin seat) path) (sameReply_flag e like)

end Worlds

/-! ## Desks -/

theorem Request.mem_handles_resolve {held : List Handle} {request : Request Nat}
    {resolved : Request Handle} (stands : request.resolve held = some resolved) {h : Handle}
    (member : h ∈ resolved.handles) : h ∈ held := by
  have single {make : Handle → Request Handle} {k : Nat} (asks : ∀ g, (make g).handles = [g])
      (stands : held[k]?.map make = some resolved) : h ∈ held := by
    obtain ⟨g, found, rfl⟩ := Option.map_eq_some_iff.mp stands
    obtain rfl := List.mem_singleton.mp (asks g ▸ member)
    exact List.mem_of_getElem? found
  have both {make : Handle → Handle → Request Handle} {j k : Nat}
      (asks : ∀ g other, (make g other).handles = [g, other])
      (stands : (do return make (← held[j]?) (← held[k]?)) = some resolved) : h ∈ held := by
    simp only [Option.bind_eq_bind, Option.bind_eq_some_iff, Option.pure_def,
      Option.some.injEq] at stands
    obtain ⟨g, atJ, other, atK, rfl⟩ := stands
    cases List.mem_cons.mp (asks g other ▸ member) with
    | inl same => exact same ▸ List.mem_of_getElem? atJ
    | inr rest => exact List.mem_singleton.mp rest ▸ List.mem_of_getElem? atK
  cases request with
  | classDetail k | read k asked | text k | inspect k | hash k | save k path =>
      exact single (fun _ => rfl) stands
  | compare j operand =>
      cases operand with
      | none => exact single (fun _ => rfl) stands
      | some k => exact both (fun _ _ => rfl) stands
  | equals j k => exact both (fun _ _ => rfl) stands
  | _ =>
      obtain rfl := Option.some.inj stands
      simp [handles] at member

theorem Request.resolve_map (f : Handle → Handle) (held : List Handle) (request : Request Nat) :
    request.resolve (held.map f) = (request.resolve held).map (Request.map f) := by
  have both (make : Handle → Handle → Request Handle)
      (maps : ∀ g other, make (f g) (f other) = (make g other).map f) (j k : Nat) :
      (do return make (← (held.map f)[j]?) (← (held.map f)[k]?)) =
        (do return make (← held[j]?) (← held[k]?) : Option (Request Handle)).map
          (Request.map f) := by
    simp only [List.getElem?_map]
    cases held[j]? with
    | none => rfl
    | some g =>
        cases held[k]? with
        | none => rfl
        | some other => exact congrArg some (maps g other)
  cases request with
  | classDetail k | read k asked | text k | inspect k | hash k | save k path =>
      simp only [resolve, List.getElem?_map, Option.map_map]
      rfl
  | compare j operand =>
      cases operand with
      | none =>
          simp only [resolve, List.getElem?_map, Option.map_map]
          rfl
      | some k => exact both (fun g other => compare g (some other)) (fun _ _ => rfl) j k
  | equals j k => exact both equals (fun _ _ => rfl) j k
  | _ => rfl

theorem Request.mirrored_resolve {e : Renumbering} {like : Likeness}
    {trees : Files.Tree → Files.Tree → Prop} {held : List Handle} {request : Request Nat}
    {resolved : Request Handle} (stands : request.resolve held = some resolved)
    (allowed : request.Mirrored e like trees) : resolved.Mirrored e like trees := by
  have single {make : Handle → Request Handle} {k : Nat}
      (asks : ∀ g, (make g).Mirrored e like trees) (stands : held[k]?.map make = some resolved) :
      resolved.Mirrored e like trees := by
    obtain ⟨g, -, rfl⟩ := Option.map_eq_some_iff.mp stands
    exact asks g
  have both {make : Handle → Handle → Request Handle} {j k : Nat}
      (asks : ∀ g other, (make g other).Mirrored e like trees)
      (stands : (do return make (← held[j]?) (← held[k]?)) = some resolved) :
      resolved.Mirrored e like trees := by
    simp only [Option.bind_eq_bind, Option.bind_eq_some_iff, Option.pure_def,
      Option.some.injEq] at stands
    obtain ⟨g, -, other, -, rfl⟩ := stands
    exact asks g other
  cases request with
  | classDetail k | read k asked | text k | inspect k | hash k =>
      exact single (fun _ => by trivial) stands
  | save k path => exact single (fun _ => allowed) stands
  | load validator amend path given changes =>
      obtain rfl := Option.some.inj stands
      exact allowed
  | compare j operand =>
      cases operand with
      | none => exact single (fun _ => by trivial) stands
      | some k => exact both (fun _ _ => by trivial) stands
  | equals j k => exact both (fun _ _ => by trivial) stands
  | _ =>
      obtain rfl := Option.some.inj stands
      trivial

/-- One session of the first desk is like one of the second but for numbers, and has given out the
like. -/
structure Desk.Mirrors (e : Renumbering) (like : Likeness) (trees : Files.Tree → Files.Tree → Prop)
    (one other : Desk) : Prop where
  world : one.world.Mirrors e like trees other.world
  held : one.held e.first = (other.held e.second).map e.handle
  seated : ∀ g ∈ other.held e.second, g.seat = e.second

section Desks

variable {e : Renumbering} {like : Likeness} {trees : Files.Tree → Files.Tree → Prop}
  {one other : Desk}

theorem Desk.Mirrors.withFiles {later : Files.Tree → Files.Tree → Prop}
    (mirrors : Desk.Mirrors e like trees one other)
    (files : later one.world.files other.world.files) :
    Desk.Mirrors e like later one other :=
  ⟨⟨mirrors.world.sessions, files, mirrors.world.journal⟩, mirrors.held, mirrors.seated⟩

theorem Desk.Mirrors.hold (mirrors : Desk.Mirrors e like trees one other)
    {reply answer : Except Fault Reply × World} (alike : Alike (e.SameReply like) reply.1 answer.1)
    (after : reply.2.Mirrors e like trees answer.2) :
    Desk.Mirrors e like trees (one.hold e.first reply) (other.hold e.second answer) := by
  obtain ⟨reply, world⟩ := reply
  obtain ⟨answer, beside⟩ := answer
  cases alike with
  | error fault =>
      refine ⟨after, ?_, ?_⟩
      · simpa [Desk.hold, Except.toOption] using mirrors.held
      · simpa [Desk.hold, Except.toOption] using mirrors.seated
  | @ok reply answer same =>
      obtain ⟨same, seats⟩ := same
      refine ⟨after, ?_, ?_⟩
      · simp [Desk.hold, Except.toOption, mirrors.held, same.given, Reply.given_map]
      · intro g member
        simp only [Desk.hold, Function.update_self, Except.toOption, Option.elim_some,
          List.mem_append] at member
        cases member with
        | inl old => exact mirrors.seated g old
        | inr new => exact seats g new

theorem Desk.Mirrors.ask (mirrors : Desk.Mirrors e like trees one other) (request : Request Nat)
    (allowed : request.Mirrored e like trees) :
    Option.Rel (Alike (e.SameReply like)) (one.ask e.first request).1
        (other.ask e.second request).1 ∧
      Desk.Mirrors e like trees (one.ask e.first request).2 (other.ask e.second request).2 := by
  unfold Desk.ask
  rw [mirrors.held, Request.resolve_map]
  cases stands : request.resolve (other.held e.second) with
  | none => exact ⟨.none, mirrors⟩
  | some resolved =>
      have own (g : Handle) (member : g ∈ resolved.handles) : g.seat = e.second :=
        mirrors.seated g (Request.mem_handles_resolve stands member)
      obtain ⟨alike, after⟩ := mirrors.world.ask resolved own
        (Request.mirrored_resolve stands allowed)
      exact ⟨.some alike, mirrors.hold alike after⟩

end Desks

end DexBrowser.Session

import DexBrowser.Validation.Lax
import DexBrowser.Proofs.Session.LockDiscipline
import DexBrowser.Proofs.Session.MirroredDesks
import DexBrowser.Proofs.Session.Renumbering

/-!
Sessions by themselves. Main statement: what a session replies does not depend on what others are
asked in between, and after a load that succeeded it does not depend on what was before.
-/

namespace DexBrowser.Session

open Managed Session.Action

variable {validator : Validator}

theorem Request.mirrored_exact {e : Renumbering} {trees : Files.Tree → Files.Tree → Prop}
    (unchanged : ∀ files others, trees files others → files = others) {request : Request ρ}
    (allowed : request.SavesNothing ∨ Rewrites trees) : request.Mirrored e .exact trees := by
  cases request with
  | load validator amend path given changes =>
      exact mirroring_loadSame unchanged amend path given changes
  | save h path => exact allowed.resolve_left id
  | _ => trivial

theorem Request.mirrored_eq {e : Renumbering} (request : Request ρ) :
    request.Mirrored e .exact Eq := by
  refine mirrored_exact (fun _ _ => id) (.inr ?_)
  rintro files _ rfl path code
  exact ⟨rfl, rfl⟩

section Desks

variable {e : Renumbering} {one other : Desk}

/-! ## Tidy desks -/

def Renumbering.same (seat : Nat) : Renumbering where
  first := seat
  second := seat

/-- Each session is itself, with its seat and with handles of its own. -/
def Desk.Tidy (desk : Desk) : Prop :=
    ∀ seat, Desk.Mirrors (.same seat) .exact Eq desk desk

theorem World.sessions_run (world : World) (seat : Nat) (action : Action α) :
    ∃ state, (world.run seat action).2.sessions = world.sessions.set seat state := by
  cases found : world.sessions[seat]? with
  | none =>
      rw [World.run_of_none found]
      exact ⟨{}, (List.set_eq_of_length_le (List.getElem?_eq_none_iff.mp found)).symm⟩
  | some state => exact ⟨_, (World.run_of_session found action).2.1⟩

theorem World.run_pure (world : World) (seat : Nat) (a : α) :
    (world.run seat (pure a)).2 = world := by
  cases found : world.sessions[seat]? with
  | none => rw [World.run_of_none found]
  | some state => rw [World.run_of_still found (Action.run_pure a _)]

theorem World.ask_run (world : World) {seat : Nat} {request : Request Handle}
    (own : ∀ g ∈ request.handles, g.seat = seat) :
    ∃ (α : Type) (action : Action α),
      (world.ask seat request).2 = (world.run seat action).2 := by
  have single {α : Type} {asked : Nat} (action : Action α) (reply : α → Reply)
      (seated : asked = seat) : ∃ (β : Type) (ran : Action β),
        (replied (world.run asked action) reply).2 = (world.run seat ran).2 :=
    ⟨α, action, by rw [seated]; rfl⟩
  cases request with
  | classDetail g | read g asked | text g | inspect g | hash g | save g path =>
      exact single _ _ (own g (List.mem_singleton_self g))
  | compare h operand =>
      have seated : h.seat = seat := own h List.mem_cons_self
      cases operand with
      | none => exact ⟨Unit, pure (), (world.run_pure seat ()).symm⟩
      | some g =>
          change ∃ (β : Type) (ran : Action β),
            (replied (world.same h g) .flag).2 = (world.run seat ran).2
          unfold World.same
          split
          · exact single _ _ (own g (by simp [Request.handles]))
          · exact single _ _ seated
  | equals h g => exact single _ _ (own h List.mem_cons_self)
  | _ => exact single _ _ rfl

/-- Something was done in one session, and no other one gave out anything. -/
structure Desk.Follows (seat : Nat) (desk later : Desk) : Prop where
  world : ∃ (α : Type) (action : Action α), later.world = (desk.world.run seat action).2
  held : ∀ beside, seat ≠ beside → later.held beside = desk.held beside

theorem Desk.follows_ask {desk : Desk} {seat : Nat} (seated : ∀ g ∈ desk.held seat, g.seat = seat)
    (request : Request Nat) : Desk.Follows seat desk (desk.ask seat request).2 := by
  unfold Desk.ask
  cases stands : request.resolve (desk.held seat) with
  | none => exact ⟨⟨Unit, pure (), (desk.world.run_pure seat ()).symm⟩, fun _ _ => rfl⟩
  | some resolved =>
      have own (g : Handle) (member : g ∈ resolved.handles) : g.seat = seat :=
        seated g (Request.mem_handles_resolve stands member)
      exact ⟨desk.world.ask_run own, fun _ distinct => Function.update_of_ne distinct.symm _ _⟩

theorem Desk.Follows.sessions {seat : Nat} {desk later : Desk}
    (follows : Desk.Follows seat desk later) :
    later.world.sessions.length = desk.world.sessions.length ∧
      ∀ beside, seat ≠ beside → later.world.sessions[beside]? = desk.world.sessions[beside]? := by
  obtain ⟨_, action, ran⟩ := follows.world
  obtain ⟨state, sessions⟩ := desk.world.sessions_run seat action
  rw [ran, sessions]
  exact ⟨List.length_set, fun _ distinct => List.getElem?_set_ne distinct⟩

theorem Desk.Tidy.follows_ask {desk : Desk} (tidy : desk.Tidy) (seat : Nat)
    (request : Request Nat) : Desk.Follows seat desk (desk.ask seat request).2 :=
  Desk.follows_ask (tidy seat).seated request

theorem Desk.Tidy.files_ask {desk : Desk} (tidy : desk.Tidy) (seat : Nat) {request : Request Nat}
    (saves : request.SavesNothing) : (desk.ask seat request).2.world.files = desk.world.files := by
  have still : Desk.Mirrors (.same seat) .exact (fun files others => files = others ∧
      files = desk.world.files) desk desk := (tidy seat).withFiles ⟨rfl, rfl⟩
  have allowed : request.Mirrored (.same seat) .exact fun files others => files = others ∧
      files = desk.world.files := Request.mirrored_exact (fun _ _ same => same.1) (.inl saves)
  exact (still.ask request allowed).2.world.files.2

theorem Desk.Mirrors.still {seat : Nat} {desk after : Desk}
    (mirrors : Desk.Mirrors (.same seat) .exact Eq desk desk)
    (sessions : after.world.sessions[seat]? = desk.world.sessions[seat]?)
    (held : after.held seat = desk.held seat) :
    Desk.Mirrors (.same seat) .exact Eq after after := by
  obtain ⟨⟨own, -, -⟩, given, seated⟩ := mirrors
  dsimp only [Renumbering.same] at own given seated
  rw [← sessions] at own
  rw [← held] at given seated
  exact ⟨⟨own, rfl, trivial⟩, given, seated⟩

theorem Desk.Tidy.ask {desk : Desk} (tidy : desk.Tidy) (seat : Nat) (request : Request Nat) :
    (desk.ask seat request).2.Tidy := by
  intro beside
  by_cases same : seat = beside
  · subst same
    exact ((tidy seat).ask request request.mirrored_eq).2
  · have follows := tidy.follows_ask seat request
    exact (tidy beside).still (follows.sessions.2 beside same) (follows.held beside same)

theorem Desk.Tidy.forget {desk : Desk} (tidy : desk.Tidy) (seat : Nat) :
    (desk.forget seat).Tidy := by
  intro beside
  by_cases same : beside = seat
  · subst same
    have nothing : (desk.forget beside).held beside = [] := Function.update_self _ _ _
    exact ⟨(tidy beside).world, by simp [nothing, Renumbering.same],
      by simp [nothing, Renumbering.same]⟩
  · exact (tidy beside).still rfl (Function.update_of_ne same _ _)

theorem Desk.Tidy.change {desk : Desk} (tidy : desk.Tidy) {world : World}
    (kept : ∀ seat state, world.sessions[seat]? = some state →
      State.Mirrors (.same seat) .exact ((Renumbering.same seat).SameCurrent .exact) state state) :
    Desk.Tidy { desk with world := world } := by
  intro seat
  refine ⟨⟨?_, rfl, trivial⟩, (tidy seat).held, (tidy seat).seated⟩
  change Option.Rel _ world.sessions[seat]? world.sessions[seat]?
  cases found : world.sessions[seat]? with
  | none => exact .none
  | some state => exact .some (kept seat state found)

theorem Desk.Tidy.session {desk : Desk} (tidy : desk.Tidy) {seat : Nat} {state : State}
    (found : desk.world.sessions[seat]? = some state) :
    State.Mirrors (.same seat) .exact ((Renumbering.same seat).SameCurrent .exact) state state := by
  have sessions : Option.Rel _ desk.world.sessions[seat]? desk.world.sessions[seat]? :=
    (tidy seat).world.sessions
  rw [found] at sessions
  cases sessions with
  | some same => exact same

theorem Desk.Tidy.perform {desk : Desk} (tidy : desk.Tidy) (event : Event) :
    (desk.perform event).Tidy := by
  cases event with
  | ask seat request => exact tidy.ask seat request
  | replaceFiles files => exact tidy.change fun seat state found => tidy.session found
  | openSession =>
      refine tidy.change fun seat state found => ?_
      cases concat_cases found with
      | inl old => exact tidy.session old
      | inr new =>
          obtain ⟨rfl, rfl⟩ := new
          exact ⟨rfl, rfl, rfl, rfl, fun _ => .none, rfl, .none⟩
  | amend beside change =>
      refine tidy.change fun seat state found => ?_
      rw [World.amend, List.getElem?_modify] at found
      obtain ⟨before, atSeat, rfl⟩ := Option.map_eq_some_iff.mp found
      have own := tidy.session atSeat
      split
      · split
        · exact own
        · exact { own with length := rfl, loads := fun _ => rel_eq.mpr rfl }
      · exact own

theorem Desk.tidy_after (events : List Event) : (Desk.after events).Tidy := by
  have nothing : ({} : Desk).Tidy := fun seat => ⟨⟨.none, rfl, trivial⟩, rfl, by simp⟩
  exact Desk.after_induction nothing (fun _ event tidy => tidy.perform event) events

/-! ## Runs -/

theorem World.Mirrors.amend {one other : World} (mirrors : one.Mirrors e .exact trees other)
    (change : Heap → Heap) :
    (one.amend e.first change).Mirrors e .exact trees (other.amend e.second change) := by
  refine ⟨?_, mirrors.files, trivial⟩
  have sessions := mirrors.sessions
  simp only [World.amend, List.getElem?_modify, if_true]
  generalize one.sessions[e.first]? = a, other.sessions[e.second]? = b at sessions ⊢
  cases sessions with
  | none => exact .none
  | @some a b same =>
      refine .some ?_
      have current := same.current
      generalize sameFirst : a.current = c, sameSecond : b.current = d at current
      cases current with
      | none =>
          simp only [sameFirst, sameSecond]
          exact same
      | some here =>
          simp only [sameFirst, sameSecond]
          rw [List.modify_eq_set, List.modify_eq_set, rel_eq.mp (same.getElem? here.load)]
          exact sameFirst ▸ sameSecond ▸ same.set here.load rfl

theorem Desk.Tidy.length_perform (tidy : one.Tidy) (event : Event) :
    one.world.sessions.length ≤ (one.perform event).world.sessions.length := by
  cases event with
  | openSession => simp [Desk.perform, World.addSession]
  | ask seat request => exact Nat.le_of_eq (tidy.follows_ask seat request).sessions.1.symm
  | amend seat change => simp [Desk.perform, World.amend]
  | replaceFiles files => exact le_rfl

/-- What happens at the first desk happens at the second one, as far as the session is concerned. -/
theorem Desk.Mirrors.perform (mirrors : Desk.Mirrors e .exact Eq one other) (tidy : one.Tidy)
    (opened : e.first < one.world.sessions.length) {event : Event} (saves : event.SavesNothing) :
    List.Forall₂ (Option.Rel (Alike (e.SameReply .exact))) (one.reply e.first event)
        (other.replies e.second (event.alone e.first e.second).toList) ∧
      Desk.Mirrors e .exact Eq (one.perform event)
        ((event.alone e.first e.second).toList.foldl Desk.perform other) := by
  -- Only the session and the files matter of the first desk.
  have untouched {world : World} {held : Nat → List Handle}
      (sessions : world.sessions[e.first]? = one.world.sessions[e.first]?)
      (files : world.files = one.world.files) (same : held e.first = one.held e.first) :
      Desk.Mirrors e .exact Eq ⟨world, held⟩ other :=
    ⟨⟨sessions ▸ mirrors.world.sessions, files.trans mirrors.world.files, trivial⟩,
      same.trans mirrors.held, mirrors.seated⟩
  cases event with
  | openSession =>
      exact ⟨.nil, untouched (List.getElem?_append_left opened) rfl rfl⟩
  | replaceFiles files =>
      exact ⟨.nil, ⟨⟨mirrors.world.sessions, rfl, trivial⟩, mirrors.held, mirrors.seated⟩⟩
  | amend asked change =>
      by_cases same : asked = e.first
      · subst same
        simp only [Event.alone, if_true]
        exact ⟨.nil, mirrors.world.amend change, mirrors.held, mirrors.seated⟩
      · simp only [Event.alone, if_neg same]
        refine ⟨.nil, untouched ?_ rfl rfl⟩
        simp [World.amend, same]
  | ask asked request =>
      by_cases same : asked = e.first
      · subst same
        obtain ⟨alike, after⟩ := mirrors.ask request request.mirrored_eq
        simp only [Event.alone, if_true, Desk.reply]
        refine ⟨?_, after⟩
        simpa [Desk.replies, Desk.reply] using alike
      · simp only [Event.alone, if_neg same, Desk.reply]
        have follows := tidy.follows_ask asked request
        exact ⟨.nil, untouched (follows.sessions.2 e.first same) (tidy.files_ask asked saves)
          (follows.held e.first same)⟩

theorem Desk.replies_append (desk : Desk) (seat : Nat) (events rest : List Event) :
    desk.replies seat (events ++ rest) =
      desk.replies seat events ++ (events.foldl Desk.perform desk).replies seat rest := by
  induction events generalizing desk with
  | nil => rfl
  | cons event events ih =>
      rw [List.cons_append, Desk.replies, Desk.replies, ih, List.foldl_cons, List.append_assoc]

/-- The replies of a session among others are those of the session that mirrors it and is alone. -/
theorem Desk.Mirrors.replies {events : List Event}
    (mirrors : Desk.Mirrors e .exact Eq one other) (tidy : one.Tidy)
    (opened : e.first < one.world.sessions.length) (saves : ∀ event ∈ events, event.SavesNothing) :
    List.Forall₂ (Option.Rel (Alike (e.SameReply .exact))) (one.replies e.first events)
      (other.replies e.second (events.filterMap (·.alone e.first e.second))) := by
  -- The second desk stays behind where something happens to other sessions of the first one only.
  induction events generalizing one other with
  | nil => exact .nil
  | cons event rest ih =>
      obtain ⟨alike, after⟩ := mirrors.perform tidy opened (saves event List.mem_cons_self)
      have split : (event :: rest).filterMap (·.alone e.first e.second) =
          (event.alone e.first e.second).toList ++ rest.filterMap (·.alone e.first e.second) := by
        cases left : event.alone e.first e.second <;> simp [left]
      rw [split, Desk.replies_append, Desk.replies]
      refine List.rel_append alike (ih after (tidy.perform event) ?_ ?_)
      · exact Nat.lt_of_lt_of_le opened (tidy.length_perform event)
      · exact fun event member => saves event (List.mem_cons_of_mem _ member)

theorem replies_eq {f : Reply → Reply} {related : Reply → Reply → Prop}
    (same : ∀ reply answer, related reply answer → reply = f answer)
    {replies answers : List (Option (Except Fault Reply))}
    (alike : List.Forall₂ (Option.Rel (Alike related)) replies answers) :
    replies = answers.map (Option.map (Except.map f)) := by
  induction alike with
  | nil => rfl
  | cons here _ ih =>
      rw [List.map_cons, ← ih]
      congr 1
      cases here with
      | none => rfl
      | some alike =>
          cases alike with
          | ok here => rw [same _ _ here]; rfl
          | error fault => rfl

theorem Reply.map_same {seat : Nat} {answer : Reply} (seats : ∀ g ∈ answer.given, g.seat = seat) :
    answer.map (Renumbering.same seat).handle = answer := by
  have self (g : Handle) (seated : g.seat = seat) : (Renumbering.same seat).handle g = g := by
    subst seated
    rfl
  cases answer with
  | answer a =>
      cases a with
      | handles hs =>
          have unmoved : hs.map (Renumbering.same seat).handle = hs :=
            (List.map_congr_left fun g member => self g (seats g member)).trans (List.map_id hs)
          simp [Reply.map, Answer.map, unmoved]
      | _ => rfl
  | _ => rfl

theorem sameReply_same {seat : Nat} {like : Likeness} {reply answer : Reply}
    (same : (Renumbering.same seat).SameReply like reply answer) :
    Reply.AtPaths like.SamePath reply answer := by
  obtain ⟨alike, seats⟩ := same
  have unmoved : answer.map (Renumbering.same seat).handle = answer := Reply.map_same seats
  rwa [unmoved] at alike

end Desks

theorem done_iff {outcome : Except Fault Unit} :
    (outcome.map fun _ => Reply.done) = .ok .done ↔ outcome = .ok () := by
  cases outcome <;> simp [Except.map]

/-- A load that succeeds makes a session the same as one that is alone and new. -/
theorem World.mirrors_loaded {world fresh : World} (resting : world.Resting) {seat : Nat}
    (alone : fresh.sessions = [{}]) (files : world.files = fresh.files) {amend : Heap → Heap}
    {path : Files.PathArgument} {given : Option LoadOptions} {changes : List (String × Json)}
    (ended : (world.run seat (load (.memory validator amend) path given changes)).1 = .ok ()) :
    (fresh.run 0 (load (.memory validator amend) path given changes)).1 = .ok () ∧
      ∃ e : Renumbering, e.first = seat ∧ e.second = 0 ∧
        World.Mirrors e .exact Eq
            (world.run seat (load (.memory validator amend) path given changes)).2
          (fresh.run 0 (load (.memory validator amend) path given changes)).2 := by
  cases found : world.sessions[seat]? with
  | none => simp [World.run_of_none found] at ended
  | some state =>
      have idle := (resting seat state found).toIdle
      have foundFresh : fresh.sessions[0]? = some ({} : State) := by
        rw [alone]
        rfl
      -- The new session has what the old one opens from now on.
      let e : Renumbering := ⟨seat, 0, state.loads.length, state.minted⟩
      have older (n : Nat) : Option.Rel Eq state.loads[n + state.loads.length]? none :=
        rel_eq.mpr (List.getElem?_eq_none (Nat.le_add_left _ n))
      have mirrors : Workspace.MirrorsBut state.current e
          ⟨state, world.files, world.journal⟩ ⟨{}, fresh.files, fresh.journal⟩ :=
        ⟨⟨idle.seated, rfl, idle.lock, (Nat.zero_add _).symm, older,
          (Nat.zero_add _).symm, rfl, rfl⟩, files, trivial⟩
      have before (previous : Loaded) (current : state.current = some previous) :
          previous.load < e.loads := by
        obtain ⟨load, atLoad, -⟩ := idle.anchored previous current
        exact (List.getElem?_eq_some_iff.mp atLoad).1
      obtain ⟨outcome, ran, written, -⟩ :=
        World.run_of_session found (load (.memory validator amend) path given changes)
      obtain ⟨following, followed, writtenToo, -⟩ :=
        World.run_of_session foundFresh (load (.memory validator amend) path given changes)
      obtain ⟨succeeds, after⟩ := mirrors_firstLoad mirrors before idle.lock (outcome ▸ ended)
      obtain ⟨bound, -⟩ := List.getElem?_eq_some_iff.mp found
      obtain ⟨within, -⟩ := List.getElem?_eq_some_iff.mp foundFresh
      refine ⟨following.trans succeeds, e, rfl, rfl, ?_, ?_, trivial⟩
      · rw [ran, followed, List.getElem?_set_self bound, List.getElem?_set_self within]
        exact .some after.state
      · rw [written, writtenToo, after.files]

theorem Desk.mirrors_loaded {desk fresh : Desk} (resting : desk.world.Resting) {seat : Nat}
    (alone : fresh.world.sessions = [{}]) (files : desk.world.files = fresh.world.files)
    (nothing : fresh.held 0 = []) {amend : Heap → Heap} {path : Files.PathArgument}
    {given : Option LoadOptions} {changes : List (String × Json)}
    (ended : (desk.ask seat (.load validator amend path given changes)).1 = some (.ok .done)) :
    (fresh.ask 0 (.load validator amend path given changes)).1 = some (.ok .done) ∧
      ∃ e : Renumbering, e.first = seat ∧ e.second = 0 ∧
        Desk.Mirrors e .exact Eq
          ((desk.ask seat (.load validator amend path given changes)).2.forget seat)
          (fresh.ask 0 (.load validator amend path given changes)).2 := by
  obtain ⟨succeeds, e, rfl, second, mirrors⟩ :=
    World.mirrors_loaded resting alone files (done_iff.mp (Option.some.inj ended))
  have done : (fresh.ask 0 (.load validator amend path given changes)).1 = some (.ok .done) :=
    congrArg some (done_iff.mpr succeeds)
  have gaveNothing :
      (fresh.ask 0 (.load validator amend path given changes)).2.held e.second = [] := by
    have reply := Option.some.inj done
    rw [second]
    change Function.update fresh.held 0 (fresh.held 0 ++ _) 0 = []
    rw [Function.update_self, nothing, reply]
    rfl
  refine ⟨done, e, rfl, second, mirrors, ?_, ?_⟩
  · rw [gaveNothing]
    exact Function.update_self _ _ _
  · simp [gaveNothing]

/-- After whatever happened before, what a session replies while things happen, of which none saves
anything, is what it replies if no other session is opened or asked. After a load that succeeded,
it is what a new session replies that made this load only, up to the numbers of its seat, its loads
and its handles. -/
theorem replies_alone (events : List Event) {seat : Nat}
    (opened : seat < (Desk.after events).world.sessions.length) {turns : List Event}
    (saves : ∀ event ∈ turns, event.SavesNothing) :
    let desk := Desk.after events
    desk.replies seat turns = desk.replies seat (turns.filterMap (·.alone seat seat)) ∧
      ∀ validator amend path given changes,
        let request : Request Nat := .load validator amend path given changes
        let fresh := Desk.after [.openSession, .replaceFiles desk.world.files]
        (desk.ask seat request).1 = some (.ok .done) →
          (fresh.ask 0 request).1 = some (.ok .done) ∧
            ∃ e : Renumbering, e.first = seat ∧ e.second = 0 ∧
              ((desk.ask seat request).2.forget seat).replies seat turns =
                ((fresh.ask 0 request).2.replies 0 (turns.filterMap (·.alone seat 0))).map
                  (Option.map (Except.map (Reply.map e.handle))) := by
  intro desk
  have tidy := Desk.tidy_after events
  have resting := Desk.resting_after events
  constructor
  · have alike := (tidy seat).replies tidy opened saves
    have same : desk.replies seat turns =
        (desk.replies seat (turns.filterMap (·.alone seat seat))).map
          (Option.map (Except.map id)) :=
      replies_eq (fun _ _ same => Reply.atPaths_eq_iff.mp (sameReply_same same)) alike
    rw [same, Except.map_id, Option.map_id_fun, List.map_id]
  · intro validator amend path given changes request fresh ended
    obtain ⟨succeeds, e, rfl, second, mirrors⟩ :=
      @Desk.mirrors_loaded validator desk fresh resting seat rfl rfl rfl amend path given changes
          ended
    refine ⟨succeeds, e, rfl, second, ?_⟩
    have stillOpened :
        e.first < ((desk.ask e.first request).2.forget e.first).world.sessions.length :=
      Nat.lt_of_lt_of_le opened (tidy.length_perform (.ask e.first request))
    have alike := mirrors.replies ((tidy.ask e.first request).forget e.first) stillOpened saves
    rw [second] at alike
    exact replies_eq (fun _ _ same => Reply.atPaths_eq_iff.mp same.1) alike

def oneInUse : List Event :=
    [.openSession, .openSession, .replaceFiles twoArtifacts,
      .ask 0 (.load .lax id (.path (Path.ofString "a.json")) none []),
      .ask 0 (.search (.classNamed "a.A"))]

def inTurn : List Event :=
    [.ask 0 (.search .classes), .ask 1 (.load .lax id (.path (Path.ofString "a.json")) none []),
      .ask 0 (.read 0 .code), .openSession, .ask 1 .close, .ask 0 (.compare 0 (some 0)),
      .ask 0 .input]

theorem replies_alone_inTurn :
    let desk := Desk.after oneInUse
    let request : Request Nat := .load .lax id (.path (Path.ofString "b.json")) none []
    let fresh := Desk.after [.openSession, .replaceFiles desk.world.files]
    desk.replies 0 inTurn = desk.replies 0 (inTurn.filterMap (·.alone 0 0)) ∧
      (desk.ask 0 request).1 = some (.ok .done) ∧ (fresh.ask 0 request).1 = some (.ok .done) ∧
        ∃ e : Renumbering, e.first = 0 ∧ e.second = 0 ∧
          ((desk.ask 0 request).2.forget 0).replies 0 inTurn =
            ((fresh.ask 0 request).2.replies 0 (inTurn.filterMap (·.alone 0 0))).map
              (Option.map (Except.map (Reply.map e.handle))) := by
  have saves : ∀ event ∈ inTurn, event.SavesNothing := by
    simp [inTurn, Event.SavesNothing, Request.SavesNothing]
  have opened : 0 < (Desk.after oneInUse).world.sessions.length := by decide +kernel
  obtain ⟨alone, reloaded⟩ := replies_alone oneInUse opened saves
  obtain ⟨⟨⟩, succeeded⟩ := faultOf?_eq_none.mp (show faultOf? ((Desk.after oneInUse).world.run 0
    (load (.memory .lax id) (.path (Path.ofString "b.json")) none [])).1 = none by decide +kernel)
  have ended : ((Desk.after oneInUse).ask 0
      (.load .lax id (.path (Path.ofString "b.json")) none [])).1 = some (.ok .done) :=
    congrArg some (done_iff.mpr succeeded)
  exact ⟨alone, ended, reloaded .lax id _ none [] ended⟩

end DexBrowser.Session

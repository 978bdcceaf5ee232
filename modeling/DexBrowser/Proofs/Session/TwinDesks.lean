import DexBrowser.Proofs.Session.Isolation

/-!
Desks of which each session is like the one that has the same seat at the other. Main statements:
what is asked is answered alike at both, whatever else happened since, and the same inputs are
closed.
-/

namespace DexBrowser.Session

open Managed Session.Action

variable {validator : Validator}

/-- Each session is like the one with its seat at the other desk, and inputs were opened in one
order. -/
structure Desk.Twins (like : Likeness) (trees : Files.Tree → Files.Tree → Prop)
    (one other : Desk) : Prop where
  each : ∀ seat, Desk.Mirrors (.same seat) like trees one other
  opened : one.world.opened = other.world.opened

/-! ## Loads that are opened -/

def World.loadCount (world : World) (seat : Nat) : Nat :=
    (world.sessions[seat]?).elim 0 (·.loads.length)

theorem World.opened_run (world : World) (seat : Nat) (action : Action α) :
    (world.run seat action).2.opened = world.opened ++
      newLoads seat (world.loadCount seat) ((world.run seat action).2.loadCount seat) := by
  cases found : world.sessions[seat]? with
  | none =>
      rw [World.run_of_none found]
      simp [newLoads]
  | some state =>
      obtain ⟨bound, -⟩ := List.getElem?_eq_some_iff.mp found
      obtain ⟨-, sessions, -, opened⟩ := World.run_of_session found action
      rw [opened]
      simp only [loadCount, sessions, found, List.getElem?_set_self bound, Option.elim_some]

section Twins

variable {like : Likeness} {trees : Files.Tree → Files.Tree → Prop} {one other : Desk}

theorem World.Mirrors.loadCount {seat : Nat} {one other : World}
    (mirrors : one.Mirrors (.same seat) like trees other) :
    one.loadCount seat = other.loadCount seat := by
  have sessions : Option.Rel _ one.sessions[seat]? other.sessions[seat]? := mirrors.sessions
  unfold World.loadCount
  generalize one.sessions[seat]? = a, other.sessions[seat]? = b at sessions
  cases sessions with
  | none => rfl
  | some same => exact same.length

theorem Desk.Twins.sessions_length (twins : Desk.Twins like trees one other) :
    one.world.sessions.length = other.world.sessions.length := by
  have within (xs ys : List State) (missing : ∀ n, ys[n]? = none → xs[n]? = none) :
      xs.length ≤ ys.length :=
    List.getElem?_eq_none_iff.mp (missing _ (List.getElem?_eq_none le_rfl))
  have sessions (n : Nat) : Option.Rel (State.Mirrors (.same n) like
      ((Renumbering.same n).SameCurrent like)) one.world.sessions[n]? other.world.sessions[n]? :=
    (twins.each n).world.sessions
  apply Nat.le_antisymm
  · refine within _ _ fun n missing => ?_
    have here := sessions n
    rw [missing] at here
    generalize one.world.sessions[n]? = a at here
    cases here
    rfl
  · refine within _ _ fun n missing => ?_
    have here := sessions n
    rw [missing] at here
    generalize other.world.sessions[n]? = b at here
    cases here
    rfl

theorem Desk.Twins.load? (twins : Desk.Twins like trees one other) (id : LoadId) :
    Option.Rel like.SameContent (one.world.load? id) (other.world.load? id) := by
  have sessions : Option.Rel _ one.world.sessions[id.seat]? other.world.sessions[id.seat]? :=
    (twins.each id.seat).world.sessions
  unfold World.load?
  generalize one.world.sessions[id.seat]? = a, other.world.sessions[id.seat]? = b at sessions
  cases sessions with
  | none => exact .none
  | some same => exact same.getElem? rfl

theorem Desk.Twins.closed (twins : Desk.Twins like trees one other) :
    one.world.closed = other.world.closed := by
  unfold World.closed
  rw [twins.opened]
  refine List.filterMap_congr fun id _ => ?_
  have found := twins.load? id
  generalize one.world.load? id = a, other.world.load? id = b at found
  cases found with
  | none => rfl
  | some alike =>
      obtain ⟨image, same, rfl⟩ := like.resembles alike
      simp only [Option.map_some, Load.answer_withImage same]

theorem Desk.Twins.withFiles {later : Files.Tree → Files.Tree → Prop}
    (twins : Desk.Twins like trees one other) (files : later one.world.files other.world.files) :
    Desk.Twins like later one other :=
  ⟨fun seat => (twins.each seat).withFiles files, twins.opened⟩

/-! ## What happens -/

theorem Desk.Twins.seated (twins : Desk.Twins like trees one other) (seat : Nat) :
    (∀ h ∈ one.held seat, h.seat = seat) ∧ ∀ g ∈ other.held seat, g.seat = seat := by
  have held : one.held seat = (other.held seat).map (Renumbering.same seat).handle :=
    (twins.each seat).held
  refine ⟨?_, (twins.each seat).seated⟩
  rw [held]
  intro h member
  obtain ⟨g, -, rfl⟩ := List.mem_map.mp member
  rfl

theorem Desk.Twins.follow (twins : Desk.Twins like trees one other) {seat : Nat}
    {later beside : Desk} (after : Desk.Mirrors (.same seat) like trees later beside)
    (follows : Desk.Follows seat one later) (followsToo : Desk.Follows seat other beside) :
    Desk.Twins like trees later beside := by
  refine ⟨fun place => ?_, ?_⟩
  · by_cases here : seat = place
    · exact here ▸ after
    · have still := twins.each place
      refine ⟨⟨?_, after.world.files, after.world.journal⟩, ?_, ?_⟩
      · change Option.Rel _ later.world.sessions[place]? beside.world.sessions[place]?
        rw [follows.sessions.2 place here, followsToo.sessions.2 place here]
        exact still.world.sessions
      · change later.held place = (beside.held place).map _
        rw [follows.held place here, followsToo.held place here]
        exact still.held
      · change ∀ g ∈ beside.held place, _
        rw [followsToo.held place here]
        exact still.seated
  · obtain ⟨_, action, ran⟩ := follows.world
    obtain ⟨_, following, followed⟩ := followsToo.world
    have counts := after.world.loadCount
    rw [ran, followed] at counts ⊢
    rw [World.opened_run, World.opened_run, twins.opened, (twins.each seat).world.loadCount, counts]

theorem Desk.Twins.ask (twins : Desk.Twins like trees one other) {seat : Nat}
    {request : Request Nat} (allowed : request.Mirrored (.same seat) like trees) :
    Option.Rel (Alike (Reply.AtPaths like.SamePath)) (one.ask seat request).1
        (other.ask seat request).1 ∧
      Desk.Twins like trees (one.ask seat request).2 (other.ask seat request).2 := by
  obtain ⟨alike, after⟩ := (twins.each seat).ask request allowed
  obtain ⟨seated, seatedToo⟩ := twins.seated seat
  refine ⟨?_, twins.follow after (follows_ask seated _) (follows_ask seatedToo _)⟩
  change Option.Rel _ (one.ask seat request).1 (other.ask seat request).1 at alike
  generalize (one.ask seat request).1 = reply, (other.ask seat request).1 = answer at alike
  cases alike with
  | none => exact .none
  | some alike =>
      cases alike with
      | ok same => exact .some (.ok (sameReply_same same))
      | error fault => exact .some (.error fault)

/-- Two loads that run in parallel, of what need not be at one path. -/
theorem Desk.Twins.load (twins : Desk.Twins like trees one other) {seat : Nat} {amend : Heap → Heap}
    {path twin : Files.PathArgument} {given : Option LoadOptions} {changes : List (String × Json)}
    (runs : Mirroring (.same seat) like trees ((Renumbering.same seat).SameCurrent like) Eq
      (Session.load (.memory validator amend) path given changes)
      (Session.load (.memory validator amend) twin given changes)) :
    (one.ask seat (.load validator amend path given changes)).1 =
        (other.ask seat (.load validator amend twin given changes)).1 ∧
      Desk.Twins like trees (one.ask seat (.load validator amend path given changes)).2
        (other.ask seat (.load validator amend twin given changes)).2 := by
  obtain ⟨seated, seatedToo⟩ := twins.seated seat
  have outcome : (one.world.run seat _).1 = (other.world.run seat _).1 :=
    alike_eq.mp ((twins.each seat).world.run runs).1
  have done : (Renumbering.same seat).SameReply like .done .done := sameReply_bare _ like rfl rfl
  obtain ⟨alike, after⟩ := (twins.each seat).world.replied_eq runs fun _ => done
  have held := (twins.each seat).hold alike after
  refine ⟨?_, twins.follow held (follows_ask seated _) (follows_ask seatedToo _)⟩
  exact congrArg (fun ended => some (ended.map fun _ => Reply.done)) outcome

/-- What may happen at both desks alike. -/
def Event.Mirrored (like : Likeness) (trees : Files.Tree → Files.Tree → Prop) : Event → Prop
  | .ask seat request => request.Mirrored (.same seat) like trees
  | .replaceFiles files => trees files files
  | .openSession => True
  | .amend .. => False

theorem Desk.Twins.perform (twins : Desk.Twins like trees one other) {event : Event}
    (allowed : event.Mirrored like trees) :
    (∀ seat, List.Forall₂ (Option.Rel (Alike (Reply.AtPaths like.SamePath))) (one.reply seat event)
        (other.reply seat event)) ∧
      Desk.Twins like trees (one.perform event) (other.perform event) := by
  cases event with
  | amend seat change => exact allowed.elim
  | replaceFiles files =>
      refine ⟨fun _ => .nil, fun seat => ?_, twins.opened⟩
      have still := twins.each seat
      exact ⟨⟨still.world.sessions, allowed, still.world.journal⟩, still.held, still.seated⟩
  | openSession =>
      refine ⟨fun _ => .nil, fun seat => ?_, twins.opened⟩
      have still := twins.each seat
      refine ⟨⟨?_, still.world.files, still.world.journal⟩, still.held, still.seated⟩
      have sessions : Option.Rel _ one.world.sessions[seat]? other.world.sessions[seat]? :=
        still.world.sessions
      simp only [Desk.perform, World.addSession, Renumbering.same, List.getElem?_append,
        twins.sessions_length]
      split
      · exact sessions
      · by_cases newest : seat = other.world.sessions.length
        · subst newest
          simp only [Nat.sub_self, List.getElem?_cons_zero]
          exact .some ⟨rfl, rfl, rfl, rfl, fun _ => .none, rfl, .none⟩
        · rw [List.getElem?_eq_none (by simp; omega)]
          exact .none
  | ask asked request =>
      obtain ⟨alike, after⟩ := twins.ask allowed
      refine ⟨fun seat => ?_, after⟩
      simp only [Desk.reply]
      split
      · exact .cons alike .nil
      · exact .nil

/-- What each session replies while one thing after another happens is alike, and so is what is
left. -/
theorem Desk.Twins.happen (twins : Desk.Twins like trees one other) {events : List Event}
    (allowed : ∀ event ∈ events, event.Mirrored like trees) :
    (∀ seat, List.Forall₂ (Option.Rel (Alike (Reply.AtPaths like.SamePath)))
        (one.replies seat events) (other.replies seat events)) ∧
      Desk.Twins like trees (events.foldl Desk.perform one) (events.foldl Desk.perform other) := by
  induction events generalizing one other with
  | nil => exact ⟨fun _ => .nil, twins⟩
  | cons event rest ih =>
      obtain ⟨first, after⟩ := twins.perform (allowed event List.mem_cons_self)
      obtain ⟨later, done⟩ := ih after fun event member =>
        allowed event (List.mem_cons_of_mem _ member)
      exact ⟨fun seat => List.rel_append (first seat) (later seat), done⟩

end Twins

end DexBrowser.Session

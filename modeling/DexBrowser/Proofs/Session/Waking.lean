import DexBrowser.Proofs.Session.Counting
import DexBrowser.Session.Lock
import Mathlib.Data.List.Nodup

/-!
Actors that share the lock of a session. Main statements: after any moves the lock counts the open
sections, and an exclusive one is open by itself; once all who were woken have looked, whoever waits
does so because of an open section; with considerate actors somebody who holds a section can go on;
and the settled course of `Contention` is one of the courses that the moves allow.
-/

namespace DexBrowser.Session

/-! ## What the lock refuses -/

namespace Lock

variable {lock : Lock} {s other : Section}

theorem refuses_enter (admitted : lock.admits s = true) (refused : lock.admits other = false) :
    (lock.enter s).admits other = false := by
  cases s <;> cases other <;> simp_all [admits, enter]

theorem refuses_leave (quiet : (lock.leave s).wakes s = false)
    (refused : lock.admits other = false) : (lock.leave s).admits other = false := by
  cases s <;> cases other <;> simp_all [admits, leave, wakes]

end Lock

namespace Crowd

variable {Actor : Type}

/-- The lock counts the open sections, every actor waits for one section at most, and those asleep
have nothing to wake up for. -/
structure Sound (crowd : Crowd Actor) : Prop where
  counts : crowd.lock.Counts (crowd.opened.map (·.2))
  single : (crowd.waiting.map (·.1)).Nodup
  refused : ∀ request ∈ crowd.asleep, crowd.lock.admits request.2 = false

theorem sound_start : ({} : Crowd Actor).Sound :=
  ⟨Lock.counts_nil, List.nodup_nil, by simp⟩

/-- Who waits holds no exclusive section, and nothing at all if waiting for an exclusive one. -/
def Modest (crowd : Crowd Actor) (request : Actor × Section) : Prop :=
    (request.1, Section.exclusive) ∉ crowd.opened ∧
      (request.2 = .exclusive → (request.1, Section.shared) ∉ crowd.opened)

section Reading

variable {crowd : Crowd Actor}

theorem count_opened (crowd : Crowd Actor) (s : Section) :
    (crowd.opened.map (·.2)).count s = crowd.opened.countP (·.2 = s) := by
  rw [List.count, List.countP_map]
  rfl

theorem mem_sections {s : Section} :
    s ∈ crowd.opened.map (·.2) ↔ ∃ actor, (actor, s) ∈ crowd.opened := by
  simp

theorem settled_iff : crowd.settled = true ↔ crowd.waiting = crowd.asleep := by
  simp [settled, waiting]

theorem Sound.writer_of_waiting (sound : crowd.Sound) (settled : crowd.settled = true)
    {actor : Actor} (waits : (actor, .shared) ∈ crowd.waiting) :
    ∃ holder, (holder, .exclusive) ∈ crowd.opened := by
  rw [settled_iff.mp settled] at waits
  have refused : crowd.lock.admits .shared = false := sound.refused _ waits
  by_contra unwritten
  rw [sound.counts.admits_shared_iff.mpr (by rwa [mem_sections])] at refused
  contradiction

theorem Sound.holder_of_waiting (sound : crowd.Sound) (settled : crowd.settled = true)
    {actor : Actor} (waits : (actor, .exclusive) ∈ crowd.waiting) :
    ∃ holder s, (holder, s) ∈ crowd.opened := by
  rw [settled_iff.mp settled] at waits
  have refused : crowd.lock.admits .exclusive = false := sound.refused _ waits
  by_contra none
  have empty : crowd.opened = [] :=
    List.eq_nil_iff_forall_not_mem.mpr fun entry member => none ⟨entry.1, entry.2, member⟩
  rw [sound.counts.admits_exclusive_iff.mpr (by rw [empty]; rfl)] at refused
  contradiction

end Reading

/-! ## One request -/

section Attempt

variable {crowd : Crowd Actor} {request : Actor × Section}

theorem Sound.attempt (sound : crowd.Sound) (idle : request.1 ∉ crowd.waiting.map (·.1)) :
    (crowd.attempt request).Sound := by
  unfold Crowd.attempt
  split
  · rename_i admitted
    exact ⟨sound.counts.enter admitted, sound.single,
      fun other member => Lock.refuses_enter admitted (sound.refused other member)⟩
  · rename_i refused
    refine ⟨sound.counts, ?_, ?_⟩
    · have joined : (crowd.asleep ++ [request] ++ crowd.awake).Perm (request :: crowd.waiting) := by
        simp [waiting, List.perm_middle]
      rw [(show waiting _ = crowd.asleep ++ [request] ++ crowd.awake from rfl),
        (joined.map _).nodup_iff]
      exact List.nodup_cons.mpr ⟨idle, sound.single⟩
    · intro other member
      rcases List.mem_append.mp member with old | new
      · exact sound.refused other old
      · rw [List.mem_singleton.mp new]
        exact Bool.eq_false_iff.mpr refused

theorem modest_attempt (modest : ∀ other ∈ crowd.waiting, crowd.Modest other)
    (idle : request.1 ∉ crowd.waiting.map (·.1)) (itself : crowd.Modest request) :
    ∀ other ∈ (crowd.attempt request).waiting, (crowd.attempt request).Modest other := by
  unfold Crowd.attempt
  split
  · intro other member
    -- The section that is opened is not one of those who wait.
    have distinct : other.1 ≠ request.1 := fun same =>
      idle (same ▸ List.mem_map_of_mem member)
    have before := modest other member
    simp_all [Modest, Prod.ext_iff]
  · intro other member
    have either : other ∈ crowd.waiting ∨ other = request := by
      simp only [waiting, List.mem_append, List.mem_singleton] at member ⊢
      tauto
    rcases either with old | rfl
    · exact modest other old
    · exact itself

end Attempt

/-! ## One move -/

section Moves

variable [DecidableEq Actor] {crowd : Crowd Actor}

theorem isWaiting_eq_false_iff {actor : Actor} :
    crowd.isWaiting actor = false ↔ actor ∉ crowd.waiting.map (·.1) := by
  rw [isWaiting, List.any_eq_false, List.mem_map]
  constructor
  · rintro none ⟨request, member, asks⟩
    exact none request member (decide_eq_true asks)
  · intro none request member asks
    exact none ⟨request, member, of_decide_eq_true asks⟩

theorem Sound.dismiss (sound : crowd.Sound) (actor : Actor) : (crowd.dismiss actor).Sound where
  counts := sound.counts
  single := by
    refine sound.single.sublist (List.Sublist.map _ ?_)
    exact (List.filter_sublist).append List.filter_sublist
  refused request member := sound.refused request (List.mem_of_mem_filter member)

theorem waiting_close (entry : Actor × Section) :
    (crowd.close entry).waiting.Perm crowd.waiting := by
  unfold Crowd.close waiting wakeAll
  dsimp only
  split
  · simpa using List.perm_append_comm
  · exact List.Perm.refl _

@[simp] theorem lock_close (entry : Actor × Section) :
    (crowd.close entry).lock = crowd.lock.leave entry.2 := by
  unfold Crowd.close wakeAll
  dsimp only
  split <;> rfl

@[simp] theorem opened_close (entry : Actor × Section) :
    (crowd.close entry).opened = crowd.opened.erase entry := by
  unfold Crowd.close wakeAll
  dsimp only
  split <;> rfl

theorem mem_asleep_close {entry request : Actor × Section}
    (member : request ∈ (crowd.close entry).asleep) :
    request ∈ crowd.asleep ∧ (crowd.lock.leave entry.2).wakes entry.2 = false := by
  unfold Crowd.close wakeAll at member
  dsimp only at member
  split at member
  · simp at member
  · rename_i quiet
    exact ⟨member, Bool.eq_false_iff.mpr quiet⟩

theorem Sound.close (sound : crowd.Sound) {entry : Actor × Section}
    (found : entry ∈ crowd.opened) : (crowd.close entry).Sound where
  counts := by
    rw [lock_close, opened_close]
    exact (sound.counts.perm ((List.perm_cons_erase found).map (·.2))).leave
  single := (((waiting_close entry).map _).nodup_iff).mpr sound.single
  refused request member := by
    obtain ⟨still, quiet⟩ := mem_asleep_close member
    rw [lock_close]
    exact Lock.refuses_leave quiet (sound.refused request still)

theorem Sound.looks (sound : crowd.Sound) {request : Actor × Section}
    (found : request ∈ crowd.awake) :
    let rest := { crowd with awake := crowd.awake.erase request }
    rest.Sound ∧ request.1 ∉ rest.waiting.map (·.1) := by
  have parted : crowd.waiting.Perm
      (request :: waiting { crowd with awake := crowd.awake.erase request }) :=
    ((List.perm_cons_erase found).append_left crowd.asleep).trans List.perm_middle
  have single := ((parted.map (·.1)).nodup_iff).mp sound.single
  obtain ⟨idle, rest⟩ := List.nodup_cons.mp single
  exact ⟨⟨sound.counts, rest, sound.refused⟩, idle⟩

theorem Sound.perform (sound : crowd.Sound) (move : Move Actor) : (crowd.perform move).Sound := by
  cases move with
  | request actor s =>
      simp only [Crowd.perform]
      split
      · exact sound
      · rename_i idle
        exact sound.attempt (isWaiting_eq_false_iff.mp (Bool.eq_false_iff.mpr idle))
  | look actor =>
      simp only [Crowd.perform]
      split
      · exact sound
      · rename_i request found
        obtain ⟨rest, idle⟩ := sound.looks (List.mem_of_find?_eq_some found)
        exact rest.attempt idle
  | giveUp actor => exact sound.dismiss actor
  | leave actor s =>
      simp only [Crowd.perform]
      split
      · rename_i allowed
        obtain ⟨-, found⟩ : _ ∧ (actor, s) ∈ crowd.opened := by simpa using allowed
        exact sound.close found
      · exact sound

theorem modest_perform (sound : crowd.Sound) (modest : ∀ other ∈ crowd.waiting, crowd.Modest other)
    {move : Move Actor} (considerate : crowd.isConsiderate move = true) :
    ∀ other ∈ (crowd.perform move).waiting, (crowd.perform move).Modest other := by
  cases move with
  | request actor s =>
      simp only [Crowd.perform]
      split
      · exact modest
      · rename_i idle
        refine modest_attempt modest
          (isWaiting_eq_false_iff.mp (Bool.eq_false_iff.mpr idle)) ?_
        cases s <;> simp_all [isConsiderate, Modest]
  | look actor =>
      simp only [Crowd.perform]
      split
      · exact modest
      · rename_i request found
        have woken := List.mem_of_find?_eq_some found
        refine modest_attempt (fun other member => modest other ?_) (sound.looks woken).2
          (modest request (List.mem_append_right _ woken))
        exact (List.Sublist.append_left List.erase_sublist _).subset member
  | giveUp actor =>
      refine fun other member => modest other ?_
      exact ((List.filter_sublist).append List.filter_sublist).subset member
  | leave actor s =>
      simp only [Crowd.perform]
      split
      · intro other member
        obtain ⟨writes, reads⟩ := modest other ((waiting_close _).mem_iff.mp member)
        simp only [Modest, opened_close]
        exact ⟨fun still => writes (List.mem_of_mem_erase still),
          fun wants still => reads wants (List.mem_of_mem_erase still)⟩
      · exact modest

/-! ## Many moves -/

theorem sound_after (moves : List (Move Actor)) : (after moves).Sound :=
  List.foldlRecOn moves perform sound_start fun _ sound move _ => sound.perform move

theorem modest_after {moves : List (Move Actor)}
    (considerate : ({} : Crowd Actor).areConsiderate moves = true) :
    ∀ request ∈ (after moves).waiting, (after moves).Modest request := by
  suffices every : ∀ crowd : Crowd Actor, crowd.Sound →
      (∀ request ∈ crowd.waiting, crowd.Modest request) → crowd.areConsiderate moves = true →
      ∀ request ∈ (moves.foldl perform crowd).waiting,
        (moves.foldl perform crowd).Modest request from
    every {} sound_start (by simp [waiting]) considerate
  clear considerate
  induction moves with
  | nil => exact fun _ _ modest _ => modest
  | cons move rest ih =>
      intro crowd sound modest considerate
      obtain ⟨first, others⟩ : crowd.isConsiderate move = true ∧ _ := by
        simpa [areConsiderate] using considerate
      exact ih _ (sound.perform move) (modest_perform sound modest first) others

/-- After any moves, the readers of the lock are the open shared sections, its writer is set
exactly if an exclusive section is open, and that one is alone. A shared section that is left was
counted. -/
theorem lock_counts_sections (moves : List (Move Actor)) :
    let crowd := after moves
    crowd.lock.readers = crowd.opened.countP (·.2 = .shared) ∧
      (crowd.lock.writer = true ↔ crowd.opened.countP (·.2 = .exclusive) = 1) ∧
      crowd.opened.countP (·.2 = .exclusive) ≤ 1 ∧
      (∀ writer reader, (writer, .exclusive) ∈ crowd.opened → (reader, .shared) ∉ crowd.opened) ∧
      ∀ actor, (actor, .shared) ∈ crowd.opened → 0 < crowd.lock.readers := by
  intro crowd
  have counts : crowd.lock.Counts _ := (sound_after moves).counts
  have noted := counts.writer
  rw [count_opened] at noted
  refine ⟨by rw [counts.readers, count_opened], ?_, ?_, ?_, ?_⟩
  · rw [noted]
    cases crowd.lock.writer <;> decide
  · rw [noted]
    exact Bool.toNat_le _
  · intro writer reader writes reads
    exact counts.not_mem_shared (mem_sections.mpr ⟨writer, writes⟩)
      (mem_sections.mpr ⟨reader, reads⟩)
  · intro actor reads
    exact counts.readers_pos_iff.mpr (mem_sections.mpr ⟨actor, reads⟩)

theorem Sound.perform_shared (sound : crowd.Sound) {actor : Actor}
    (idle : crowd.isWaiting actor = false)
    (unwritten : ∀ other, (other, .exclusive) ∉ crowd.opened) :
    crowd.perform (.request actor .shared) =
      { crowd with
        lock := crowd.lock.enter .shared
        opened := (actor, .shared) :: crowd.opened } := by
  have admitted : crowd.lock.admits .shared = true := by
    rw [sound.counts.admits_shared_iff, mem_sections]
    exact fun ⟨other, writes⟩ => unwritten other writes
  simp [Crowd.perform, idle, Crowd.attempt, admitted]

theorem Sound.holder_goes_on (sound : crowd.Sound) (settled : crowd.settled = true)
    (modest : ∀ request ∈ crowd.waiting, crowd.Modest request) (somebody : crowd.waiting ≠ []) :
    ∃ holder s, (holder, s) ∈ crowd.opened ∧ crowd.isWaiting holder = false := by
  have writer_goes_on : ∀ holder, (holder, .exclusive) ∈ crowd.opened →
      crowd.isWaiting holder = false := by
    intro holder writes
    rw [isWaiting_eq_false_iff, List.mem_map]
    rintro ⟨request, member, rfl⟩
    exact (modest request member).1 writes
  by_cases written : ∃ holder, (holder, Section.exclusive) ∈ crowd.opened
  · obtain ⟨holder, writes⟩ := written
    exact ⟨holder, _, writes, writer_goes_on holder writes⟩
  · obtain ⟨⟨actor, s⟩, waits⟩ := List.exists_mem_of_ne_nil _ somebody
    cases s with
    | shared => exact absurd (sound.writer_of_waiting settled waits) written
    | exclusive =>
        obtain ⟨holder, s, holds⟩ := sound.holder_of_waiting settled waits
        refine ⟨holder, s, holds, ?_⟩
        rw [isWaiting_eq_false_iff, List.mem_map]
        -- With no exclusive section open, all who wait want one, and they hold nothing.
        rintro ⟨⟨_, wanted⟩, member, rfl⟩
        cases wanted with
        | shared => exact written (sound.writer_of_waiting settled member)
        | exclusive =>
            cases s with
            | shared => exact (modest _ member).2 rfl holds
            | exclusive => exact written ⟨_, holds⟩

/-- Once all who were woken have looked, who waits for a shared section does so because an
exclusive one is open, and who waits for an exclusive one because some section is. Who waits keeps
nobody from a shared section, so that these nest. If all are considerate, not everybody who holds a
section waits. -/
theorem waits_for_holders (moves : List (Move Actor)) :
    let crowd := after moves
    (crowd.settled = true →
      (∀ actor, (actor, .shared) ∈ crowd.waiting → ∃ holder, (holder, .exclusive) ∈ crowd.opened) ∧
      ∀ actor, (actor, .exclusive) ∈ crowd.waiting → ∃ holder s, (holder, s) ∈ crowd.opened) ∧
    (∀ actor, crowd.isWaiting actor = false →
      (actor, .shared) ∈ crowd.opened ∨ (∀ other, (other, .exclusive) ∉ crowd.opened) →
      (crowd.perform (.request actor .shared)).opened = (actor, .shared) :: crowd.opened) ∧
    (({} : Crowd Actor).areConsiderate moves = true → crowd.settled = true → crowd.waiting ≠ [] →
      ∃ holder s, (holder, s) ∈ crowd.opened ∧ crowd.isWaiting holder = false) := by
  intro crowd
  have sound : crowd.Sound := sound_after moves
  refine ⟨fun settled => ⟨fun _ => sound.writer_of_waiting settled,
    fun _ => sound.holder_of_waiting settled⟩, ?_, ?_⟩
  · intro actor idle room
    have unwritten : ∀ other, (other, .exclusive) ∉ crowd.opened := by
      rcases room with reads | unwritten
      · exact fun other writes => sound.counts.not_mem_shared
          (mem_sections.mpr ⟨other, writes⟩) (mem_sections.mpr ⟨actor, reads⟩)
      · exact unwritten
    rw [sound.perform_shared idle unwritten]
  · exact fun considerate settled somebody =>
      sound.holder_goes_on settled (modest_after considerate) somebody

/-- A reader who reads again while another actor waits to write. -/
def rereading : List (Move Nat) :=
    [.request 0 .shared, .request 1 .exclusive, .request 0 .shared]

theorem waits_for_holders_rereading :
    (after rereading).settled = true ∧ (after rereading).waiting = [(1, .exclusive)] ∧
      ({} : Crowd Nat).areConsiderate rereading = true ∧
      (∃ holder s, (holder, s) ∈ (after rereading).opened) ∧
      ((after rereading).perform (.request 0 .shared)).opened.length = 3 ∧
      ∃ holder s, (holder, s) ∈ (after rereading).opened ∧
        (after rereading).isWaiting holder = false :=
  have main := waits_for_holders rereading
  ⟨by decide, by decide, by decide, (main.1 (by decide)).2 1 (by decide),
    by rw [main.2.1 0 (by decide) (.inl (by decide))]; decide,
    main.2.2 (by decide) (by decide) (by decide)⟩

end Moves

end Crowd

/-! ## The settled course -/

namespace Contention

variable {Actor : Type}

def crowd (state : Contention Actor) : Crowd Actor :=
    ⟨state.lock, state.opened, state.waiting, []⟩

theorem attempt_crowd (state : Contention Actor) (rest : List (Actor × Section))
    (request : Actor × Section) :
    { state.crowd with awake := rest }.attempt request =
      { (state.request request).crowd with awake := rest } := by
  unfold Crowd.attempt Contention.request crowd enter
  dsimp only
  split <;> rfl

theorem settle_of_refused {state : Contention Actor}
    (refused : ∀ request ∈ state.waiting, state.lock.admits request.2 = false) :
    state.settle = state := by
  suffices every : ∀ (rest before : List (Actor × Section)),
      (∀ request ∈ rest, state.lock.admits request.2 = false) →
      rest.foldl Contention.request { state with waiting := before } =
        { state with waiting := before ++ rest } from
    every state.waiting [] refused
  intro rest
  induction rest with
  | nil => simp
  | cons request rest ih =>
      intro before refused
      have first := refused request List.mem_cons_self
      rw [List.foldl_cons, show Contention.request _ request =
        { state with waiting := before ++ [request] } by simp [Contention.request, first],
        ih _ fun other member => refused other (List.mem_cons_of_mem _ member)]
      simp

variable [DecidableEq Actor]

/-- If all who are awake look in turn, they open what they may as their requests would. -/
theorem foldl_look (state : Contention Actor) (awake : List (Actor × Section)) :
    (awake.map fun request => Crowd.Move.look request.1).foldl Crowd.perform
        { state.crowd with awake := awake } =
      (awake.foldl Contention.request state).crowd := by
  induction awake generalizing state with
  | nil => rfl
  | cons request rest ih =>
      have looked : { state.crowd with awake := request :: rest }.perform (.look request.1) =
          { (state.request request).crowd with awake := rest } := by
        simp only [Crowd.perform, List.find?_cons, decide_true, List.erase_cons_head]
        exact attempt_crowd state rest request
      rw [List.map_cons, List.foldl_cons, looked, ih, List.foldl_cons]

theorem crowd_request {state : Contention Actor} {actor : Actor} (s : Section)
    (idle : state.crowd.isWaiting actor = false) :
    state.crowd.perform (.request actor s) = (state.request (actor, s)).crowd := by
  simp only [Crowd.perform, idle, Bool.false_eq_true, if_false]
  exact attempt_crowd state [] (actor, s)

/-- Leaving as the settled course has it is to leave, and then all who are woken look in turn. -/
theorem crowd_leave {state : Contention Actor} (sound : state.crowd.Sound) {actor : Actor}
    (idle : state.crowd.isWaiting actor = false) :
    ∃ moves : List (Crowd.Move Actor),
      moves.foldl Crowd.perform state.crowd = (state.leave actor).crowd := by
  unfold Contention.leave
  cases last : state.opened.find? (·.1 = actor) with
  | none => exact ⟨[], rfl⟩
  | some entry =>
      obtain ⟨holder, s⟩ := entry
      have found := List.mem_of_find?_eq_some last
      obtain rfl : holder = actor := by simpa using List.find?_some last
      have left : state.crowd.perform (.leave holder s) = state.crowd.close (holder, s) := by
        have present : (holder, s) ∈ state.crowd.opened := found
        simp [Crowd.perform, idle, present]
      cases told : (state.lock.leave s).wakes s with
      | false =>
          refine ⟨[.leave holder s], ?_⟩
          have still : Contention.settle
              { state with
                lock := state.lock.leave s
                opened := state.opened.erase (holder, s) } = _ :=
            settle_of_refused fun request member =>
              Lock.refuses_leave told (sound.refused request member)
          simp only [List.foldl_cons, List.foldl_nil, left, still]
          simp [Crowd.close, crowd, told]
      | true =>
          refine ⟨.leave holder s :: state.waiting.map fun request => .look request.1, ?_⟩
          rw [List.foldl_cons, left]
          have woken : state.crowd.close (holder, s) = _ :=
            show _ = { (crowd
                { state with
                  lock := state.lock.leave s
                  opened := state.opened.erase (holder, s)
                  waiting := [] }) with awake := state.waiting } by
              simp [Crowd.close, Crowd.wakeAll, crowd, told]
          rw [woken]
          exact foldl_look _ state.waiting

/-- The states that come about when actors who do not wait ask and leave, and all who are woken look
before anybody asks or leaves again. -/
inductive Reached : Contention Actor → Prop
  | start : Reached {}
  | request {state : Contention Actor} {actor : Actor} (s : Section) (reached : Reached state)
      (idle : state.crowd.isWaiting actor = false) : Reached (state.request (actor, s))
  | leave {state : Contention Actor} {actor : Actor} (reached : Reached state)
      (idle : state.crowd.isWaiting actor = false) : Reached (state.leave actor)

theorem Reached.exists_moves {state : Contention Actor} (reached : Reached state) :
    ∃ moves, Crowd.after moves = state.crowd := by
  induction reached with
  | start => exact ⟨[], rfl⟩
  | @request state actor s _ idle ih =>
      obtain ⟨moves, same⟩ := ih
      refine ⟨moves ++ [.request actor s], ?_⟩
      rw [Crowd.after, List.foldl_append, ← Crowd.after, same]
      exact crowd_request s idle
  | @leave state actor _ idle ih =>
      obtain ⟨moves, same⟩ := ih
      obtain ⟨more, left⟩ := crowd_leave (same ▸ Crowd.sound_after moves) idle
      exact ⟨moves ++ more, by rw [Crowd.after, List.foldl_append, ← Crowd.after, same, left]⟩

end Contention

end DexBrowser.Session

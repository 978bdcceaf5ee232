import DexBrowser.Proofs.Session.Threads

/-!
What the steps of threads do to the loads of a world. Main statements: all but one of them end the
life of no load, forget none and leave the locks alone, and that one ends the life of one load
only.
-/

namespace DexBrowser.Session

open Managed Session.Action

/-! ## What is done to a session -/

/-- The loads that are alive were not closed, and the current input has a load. -/
structure State.Firm (state : State) : Prop where
  unclosed : ∀ (n : Nat) (load : Load), state.loads[n]? = some load → load.alive = true →
    load.closings = 0
  anchored : ∀ loaded, state.current = some loaded → loaded.load < state.loads.length

/-- A session after something that ends the life of no load and leaves the lock alone. -/
structure State.Mild (before after : State) : Prop where
  lock : after.lock = before.lock
  later : ∀ (n : Nat) (load : Load), before.loads[n]? = some load →
    ∃ later, after.loads[n]? = some later ∧ later.alive = load.alive
  firm : before.Firm → after.Firm

section Mild

variable {before after : State} {n : Nat}

theorem State.Used.mild (used : before.Used n after) (lock : after.lock = before.lock) :
    before.Mild after where
  lock := lock
  later m load found := by
    obtain ⟨later, atLater, usedLoad⟩ := used.after? found
    exact ⟨later, atLater, usedLoad.alive⟩
  firm firm := by
    refine ⟨fun m later found alive => ?_, fun loaded current => ?_⟩
    · obtain ⟨load, atLoad, usedLoad⟩ := used.before? found
      rw [usedLoad.closings]
      exact firm.unclosed m load atLoad (usedLoad.alive ▸ alive)
    · rw [used.length]
      exact firm.anchored loaded (used.current ▸ current)

theorem State.mild_push (state : State) {load : Load}
    (unclosed : load.alive = true → load.closings = 0) (minted : Nat) :
    State.Mild state { state.push load with minted := minted } where
  lock := rfl
  later _ _ found := ⟨_, State.push_old found, rfl⟩
  firm firm := by
    refine ⟨fun m other found alive => ?_, fun loaded current => ?_⟩
    · rcases State.push_getElem_cases found with old | ⟨-, rfl⟩
      · exact firm.unclosed m other old alive
      · exact unclosed alive
    · have old := firm.anchored loaded current
      simp only [State.push, List.length_append, List.length_singleton]
      omega

theorem Prepared.mild {engine : Engine} {path : Path} {options : LoadOptions}
    {before : Workspace} {outcome : Except Fault Loaded} {after : State}
    (prepared : Prepared engine path options before outcome after) :
    before.state.Mild after := by
  cases prepared with
  | refused => exact (State.Used.refl 0 _).mild rfl
  | broken minted within opens used =>
      exact before.state.mild_push (fun _ => by rw [used.closings, opens.closings]) minted
  | dropped minted => exact before.state.mild_push (fun alive => by simp at alive) minted
  | @ready _ load minted ready =>
      have unclosed : ({ load with attached := true } : Load).closings = 0 := ready.closings
      exact before.state.mild_push (fun _ => unclosed) minted

theorem State.mild_current (state : State) {loaded : Option Loaded}
    (anchored : ∀ one, loaded = some one → one.load < state.loads.length) :
    State.Mild state { state with current := loaded } where
  lock := rfl
  later _ load found := ⟨load, found, rfl⟩
  firm firm := ⟨firm.unclosed, anchored⟩

theorem State.mild_set_dead {load later : Load} (found : before.loads[n]? = some load)
    (dead : load.alive = false) (still : later.alive = false) :
    State.Mild before { before with loads := before.loads.set n later } where
  lock := rfl
  later m other atOther := by
    obtain ⟨bound, -⟩ := List.getElem?_eq_some_iff.mp found
    by_cases same : m = n
    · subst same
      obtain rfl := Option.some.inj (found.symm.trans atOther)
      exact ⟨later, by simp [bound], by rw [still, dead]⟩
    · exact ⟨other, by simp [Ne.symm same, atOther], rfl⟩
  firm firm := by
    refine ⟨fun m other atOther alive => ?_, fun loaded current => ?_⟩
    · rcases set_cases atOther with ⟨-, rfl⟩ | ⟨-, old⟩
      · rw [still] at alive
        contradiction
      · exact firm.unclosed m other old alive
    · simpa using firm.anchored loaded current

theorem State.mild_amend (state : State) (n : Nat) (change : Heap → Heap) :
    State.Mild state { state with
      loads := state.loads.modify n fun load => { load with heap := change load.heap } } where
  lock := rfl
  later m load found := by
    refine ⟨_, by rw [List.getElem?_modify, found]; rfl, ?_⟩
    dsimp only
    split <;> rfl
  firm firm := by
    refine ⟨fun m later found alive => ?_, fun loaded current => ?_⟩
    · simp only [List.getElem?_modify] at found
      obtain ⟨load, atLoad, rfl⟩ := Option.map_eq_some_iff.mp found
      split at alive <;> split <;> exact firm.unclosed m load atLoad alive
    · simpa using firm.anchored loaded current

end Mild

/-! ## What is done to the world -/

namespace World

def lockAt (world : World) (seat : Nat) : Lock :=
    (world.sessions[seat]?).elim {} (·.lock)

def Firm (world : World) : Prop :=
    ∀ (seat : Nat) (state : State), world.sessions[seat]? = some state → state.Firm

structure Mild (before after : World) : Prop where
  locks : ∀ seat, after.lockAt seat = before.lockAt seat
  later : ∀ id load, before.load? id = some load →
    ∃ later, after.load? id = some later ∧ later.alive = load.alive
  firm : before.Firm → after.Firm

section

variable {world before after : World} {seat : Nat} {state new : State}

theorem lockAt_set (found : before.sessions[seat]? = some state)
    (sessions : after.sessions = before.sessions.set seat new) (other : Nat) :
    after.lockAt other = if other = seat then new.lock else before.lockAt other := by
  obtain ⟨bound, -⟩ := List.getElem?_eq_some_iff.mp found
  unfold lockAt
  rw [sessions]
  split
  · rename_i same
    subst same
    simp [bound]
  · rename_i distinct
    simp [Ne.symm distinct]

theorem lockAt_of_session (found : world.sessions[seat]? = some state) :
    world.lockAt seat = state.lock := by
  simp [lockAt, found]

theorem mild_set (found : before.sessions[seat]? = some state) (mild : state.Mild new)
    (sessions : after.sessions = before.sessions.set seat new) : before.Mild after where
  locks other := by
    rw [lockAt_set found sessions]
    split
    · rename_i same
      rw [same, lockAt_of_session found, mild.lock]
    · rfl
  later id load atLoad := by
    by_cases same : id.seat = seat
    · obtain ⟨_, n⟩ := id
      subst same
      have atState : state.loads[n]? = some load := by simpa [load?, found] using atLoad
      obtain ⟨later, atLater, alive⟩ := mild.later n load atState
      exact ⟨later, by rw [load?_set found sessions, atLater], alive⟩
    · exact ⟨load, by rw [load?_set_other sessions same, atLoad], rfl⟩
  firm firm other state' atState := by
    rw [sessions] at atState
    rcases set_cases atState with ⟨-, rfl⟩ | ⟨-, old⟩
    · exact mild.firm (firm seat state found)
    · exact firm other state' old

theorem mild_refl (world : World) : world.Mild world :=
  ⟨fun _ => rfl, fun _ load found => ⟨load, found, rfl⟩, id⟩

theorem mild_run {action : Action α} (mild : ∀ state, world.sessions[seat]? = some state →
      state.Mild (action.run ⟨state, world.files, world.journal⟩).2.state) :
    world.Mild (world.run seat action).2 := by
  cases found : world.sessions[seat]? with
  | none =>
      rw [run_of_none found]
      exact mild_refl world
  | some state => exact mild_set found (mild state found) (run_of_session found action).2.1

theorem Mild.lives (mild : before.Mild after) {id : LoadId} (alive : before.lives id = true) :
    after.lives id = true := by
  obtain ⟨load, found, isAlive⟩ := lives_eq_true.mp alive
  obtain ⟨later, atLater, same⟩ := mild.later id load found
  exact lives_eq_true.mpr ⟨later, atLater, same.trans isAlive⟩

theorem mild_addSession (world : World) : world.Mild world.addSession.1 where
  locks seat := by
    unfold lockAt addSession
    rcases Nat.lt_trichotomy seat world.sessions.length with old | new | beyond
    · rw [List.getElem?_append_left old]
    · subst new
      simp
    · rw [List.getElem?_eq_none (by simp only [List.length_append, List.length_singleton]; omega),
        List.getElem?_eq_none (by omega)]
  later id load found := by
    obtain ⟨state, atSeat, atLoad⟩ := Option.bind_eq_some_iff.mp found
    obtain ⟨bound, -⟩ := List.getElem?_eq_some_iff.mp atSeat
    refine ⟨load, ?_, rfl⟩
    rw [load?, addSession, List.getElem?_append_left bound, atSeat]
    exact atLoad
  firm firm seat state found := by
    rcases concat_cases found with old | ⟨-, rfl⟩
    · exact firm seat state old
    · exact ⟨by simp, by simp⟩

theorem mild_amend (world : World) (seat : Nat) (change : Heap → Heap) :
    world.Mild (world.amend seat change) := by
  cases found : world.sessions[seat]? with
  | none =>
      have beyond := List.getElem?_eq_none_iff.mp found
      rw [amend, List.modify_eq_self beyond]
      exact mild_refl world
  | some state =>
      cases current : state.current with
      | none =>
          refine mild_set found ((State.Used.refl 0 state).mild rfl) ?_
          simp [amend, List.modify_eq_set, found, current]
      | some loaded =>
          refine mild_set found (state.mild_amend loaded.load change) ?_
          simp [amend, List.modify_eq_set, found, current]

end

section Turned

variable (world : World) (seat : Nat) (change : Lock → Lock)

theorem sessions_turned {state : State} (found : world.sessions[seat]? = some state) :
    (world.run seat (turnLock change)).2.sessions =
      world.sessions.set seat { state with lock := change state.lock } :=
  (run_of_session found (turnLock change)).2.1

theorem load?_turned (id : LoadId) :
    (world.run seat (turnLock change)).2.load? id = world.load? id := by
  cases found : world.sessions[seat]? with
  | none => rw [run_of_none found]
  | some state =>
      have sessions := sessions_turned world seat change found
      by_cases same : id.seat = seat
      · obtain ⟨_, n⟩ := id
        subst same
        rw [load?_set found sessions]
        simp [load?, found]
      · exact load?_set_other sessions same

theorem lives_turned (id : LoadId) :
    (world.run seat (turnLock change)).2.lives id = world.lives id :=
  congrArg _ (world.load?_turned seat change id)

theorem current_turned (other : Nat) :
    (world.run seat (turnLock change)).2.current other = world.current other := by
  cases found : world.sessions[seat]? with
  | none => rw [run_of_none found]
  | some state =>
      have sessions := sessions_turned world seat change found
      by_cases same : other = seat
      · subst same
        rw [current_set found sessions]
        simp [current, found]
      · simp [current, sessions, Ne.symm same]

end Turned

/-- A load that is known and may not be used any more. -/
def IsDead (world : World) (id : LoadId) : Prop :=
    ∃ load, world.load? id = some load ∧ load.alive = false

theorem Mild.isDead {before after : World} (mild : before.Mild after) {id : LoadId}
    (dead : before.IsDead id) : after.IsDead id := by
  obtain ⟨load, found, isDead⟩ := dead
  obtain ⟨later, atLater, same⟩ := mild.later id load found
  exact ⟨later, atLater, same.trans isDead⟩

/-- One load dies, and nothing else happens to the loads. -/
structure Cut (id : LoadId) (before after : World) : Prop where
  locks : ∀ seat, after.lockAt seat = before.lockAt seat
  firm : before.Firm → after.Firm
  dead : after.IsDead id
  kept : ∀ other, other ≠ id → after.load? other = before.load? other

theorem cut_invalidate {world : World} {seat n : Nat} {load : Load}
    (known : world.load? ⟨seat, n⟩ = some load) :
    World.Cut ⟨seat, n⟩ world (world.run seat (invalidate n)).2 := by
  obtain ⟨state, found, atLoad⟩ := Option.bind_eq_some_iff.mp known
  let before : Workspace := ⟨state, world.files, world.journal⟩
  have atBefore : before.state.loads[n]? = some load := atLoad
  obtain ⟨bound, -⟩ := List.getElem?_eq_some_iff.mp atLoad
  have sessions := (run_of_session found (invalidate n)).2.1
  rw [run_invalidate atBefore] at sessions
  refine ⟨fun other => ?_, fun firm other state' atState => ?_, ?_, fun other distinct => ?_⟩
  · rw [lockAt_set found sessions]
    split
    · rename_i same
      rw [same, lockAt_of_session found]
      rfl
    · rfl
  · rw [sessions] at atState
    rcases set_cases atState with ⟨-, rfl⟩ | ⟨-, old⟩
    · refine ⟨fun m one atOne alive => ?_, fun loaded current => ?_⟩
      · rcases set_cases atOne with ⟨-, rfl⟩ | ⟨-, old⟩
        · contradiction
        · exact (firm seat state found).unclosed m one old alive
      · have anchored := (firm seat state found).anchored loaded current
        simpa [Workspace.setLoad] using anchored
    · exact firm other state' old
  · refine ⟨{ load with alive := false }, ?_, rfl⟩
    rw [load?_set found sessions]
    exact List.getElem?_set_self bound
  · by_cases same : other.seat = seat
    · obtain ⟨_, m⟩ := other
      subst same
      have apart : n ≠ m := fun equal => distinct (by rw [equal])
      rw [load?_set found sessions]
      simp [Workspace.setLoad, load?, found, apart, before]
    · exact load?_set_other sessions same

end World

/-! ## The steps of one thread -/

theorem usable_any (before : State) (n : Nat) :
    ∃ host, Usable ⟨before.seat, n⟩ host
      (fun workspace => before.Used n workspace.state ∧ True) anyFault := by
  cases found : before.loads[n]? with
  | some fresh => exact ⟨fresh.host, usable_used found fun _ => True⟩
  | none =>
      have absent : ∀ workspace : Workspace, before.Used n workspace.state ∧ True →
          workspace.state.loads[n]? = none := by
        rintro workspace ⟨used, -⟩
        rw [List.getElem?_eq_none_iff, used.length]
        exact List.getElem?_eq_none_iff.mp found
      exact ⟨.memory,
        { enter := fun _ held => ⟨{ held.1 with writer := held.1.writer }, trivial⟩
          leave := fun _ held => ⟨{ held.1 with writer := held.1.writer }, trivial⟩
          seat := fun _ held => held.1.seat
          hosted := fun workspace load held atLoad => by simp [absent workspace held] at atLoad
          call := fun workspace load _ _ _ _ held atLoad =>
              by simp [absent workspace held] at atLoad
          mint := fun _ _ held => ⟨{ held.1 with seat := held.1.seat }, trivial⟩
          journal := fun _ _ held => held
          managed := fun _ => trivial
          unshown := .inl fun _ _ => trivial
          missing := fun _ _ _ => trivial
          waits := fun _ _ _ _ _ _ => trivial
          engine := .inr trivial }⟩

section Actions

variable {world : World} {seat : Nat}

/-- An action that uses a load of whatever session it runs in. -/
def Uses (n : Nat) (action : Action α) : Prop :=
    ∀ (before : State) (host : Host), Usable ⟨before.seat, n⟩ host
        (fun workspace => before.Used n workspace.state ∧ True) anyFault →
      action.Respects (fun workspace => before.Used n workspace.state ∧ True) anyFault

theorem Uses.run {n : Nat} {action : Action α} (uses : Uses n action) (before : Workspace) :
    before.state.Used n (action.run before).2.state ∧
      (action.run before).2.state.lock = before.state.lock := by
  obtain ⟨host, use⟩ := usable_any before.state n
  obtain ⟨⟨used, -⟩, lock, -⟩ := uses before.state host use before ⟨State.Used.refl n _, trivial⟩
  exact ⟨used, lock⟩

theorem Uses.mild {n : Nat} {action : Action α} (uses : Uses n action) :
    world.Mild (world.run seat action).2 :=
  World.mild_run fun state _ =>
    have ⟨used, lock⟩ := uses.run ⟨state, world.files, world.journal⟩
    used.mild lock

theorem uses_call (world : World) (h : Handle) {asked : Question} (plain : asked.isPlain = true) :
    Uses h.load (asked.call world h) := by
  intro before host use
  cases asked with
  | member name arguments =>
      have other : name ≠ Load.closeMember := by simpa [Question.isPlain] using plain
      exact keeps_bind (use.keeps_call true h.target other arguments fun _ _ _ _ _ _ _ => trivial)
        fun _ _ => respects_pure _
  | text => exact keeps_bind (use.respects_remoteText true h.target) fun _ _ => respects_pure _
  | hash => exact keeps_bind (use.respects_remoteHash true h.target) fun _ _ => respects_pure _
  | equals other =>
      exact keeps_bind (use.respects_remoteEquals true h.target _) fun _ _ => respects_pure _

theorem uses_aside (h : Handle) (asked : Aside) : Uses h.load (asked.ask h) := by
  intro before host use
  -- What is asked aside does not look at the session that the handle belongs to.
  let own : Handle := { h with seat := before.seat }
  have ownUse : Usable (World.originOf own) host _ anyFault := use
  cases asked with
  | fallback =>
      have text : h.fallbackText.Respects _ anyFault := ownUse.respects_fallbackText
      exact keeps_bind text fun _ _ => respects_pure _
  | className =>
      have name : h.managedClassName.Respects _ anyFault := ownUse.respects_managedClassName
      exact keeps_bind name fun _ _ => respects_pure _
  | wrap kind target => exact keeps_bind (use.keeps_bare kind target) fun _ _ => respects_pure _

theorem mild_prepare (engine : Engine) (path : Path) (options : LoadOptions) :
    world.Mild (world.run seat (prepare engine path options)).2 :=
  World.mild_run fun state _ =>
    (prepared_prepare engine path options ⟨state, world.files, world.journal⟩).1.mild

theorem mild_replaceCurrent {loaded : Option Loaded}
    (anchored : ∀ one, loaded = some one → ∃ load, world.load? ⟨seat, one.load⟩ = some load) :
    world.Mild (world.run seat (replaceCurrent loaded)).2 := by
  refine World.mild_run fun state found => state.mild_current fun one isOne => ?_
  obtain ⟨load, atLoad⟩ := anchored one isOne
  rw [World.load?, found] at atLoad
  exact (List.getElem?_eq_some_iff.mp atLoad).1

theorem mild_closePrevious {previous : Loaded} (dead : world.IsDead ⟨seat, previous.load⟩) :
    world.Mild (world.run seat (closePrevious previous)).2 := by
  refine World.mild_run fun state found => ?_
  obtain ⟨load, atLoad, isDead⟩ := dead
  let before : Workspace := ⟨state, world.files, world.journal⟩
  have atBefore : before.state.loads[previous.load]? = some load := by
    simpa [World.load?, found] using atLoad
  obtain ⟨journal, closed⟩ := run_closeDecompiler atBefore
  let later := load.record false state.lock.readers (.object .decompiler) Load.closeMember
  have after : ((closePrevious previous).run before).2.state =
      { state with loads := state.loads.set previous.load later } := by
    rw [closePrevious, run_bind, closed]
    cases load.closing before.state.lock.readers <;> rfl
  change state.Mild ((closePrevious previous).run before).2.state
  rw [after]
  exact State.mild_set_dead atBefore isDead (by rw [Load.record_alive, isDead])

end Actions

end DexBrowser.Session

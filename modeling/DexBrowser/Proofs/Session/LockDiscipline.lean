import DexBrowser.Proofs.Session.LoadFaults
import DexBrowser.Proofs.Session.Mildness
import DexBrowser.Proofs.Session.Parallel

/-!
How requests keep to the lock. Main statement: nobody who asks one thing after another waits for
the lock, every request gives it back as it was, however it ends, and what handles of a loaded
input run on managed objects, they run in a section and while the input is alive.
-/

namespace DexBrowser.Managed

variable {validator : Validator}

/-- A member is run through a handle in a section only, and while the load is alive. -/
def Call.Orderly (call : Call) : Prop :=
    call.byHandle = true → 1 ≤ call.readers ∧ call.alive = true

namespace Load

/-- A load on which calls were made since, in good order if the load is attached to the lock. -/
structure Tended (before after : Load) : Prop where
  host : after.host = before.host
  attached : after.attached = before.attached
  calls : ∃ made, after.calls = made ++ before.calls ∧
    (before.attached = true → ∀ call ∈ made, call.Orderly)

theorem tended_refl (load : Load) : load.Tended load :=
  ⟨rfl, rfl, [], rfl, by simp⟩

theorem Tended.trans {first second third : Load} (before : first.Tended second)
    (after : second.Tended third) : first.Tended third where
  host := after.host.trans before.host
  attached := after.attached.trans before.attached
  calls := by
    obtain ⟨made, calls, orderly⟩ := before.calls
    obtain ⟨later, laterCalls, laterOrderly⟩ := after.calls
    refine ⟨later ++ made, ?_, fun attached call member => ?_⟩
    · rw [laterCalls, calls, List.append_assoc]
    · cases List.mem_append.mp member with
      | inl new => exact laterOrderly (before.attached.trans attached) call new
      | inr old => exact orderly attached call old

theorem tended_record {load : Load} {byHandle : Bool} {readers : Nat}
    (orderly : load.attached = true → byHandle = true → 1 ≤ readers ∧ load.alive = true)
    (target : Value) (name : String) :
    load.Tended (load.record byHandle readers target name) where
  host := load.record_host byHandle readers target name
  attached := load.record_attached byHandle readers target name
  calls := by
    unfold record
    split
    case h_1 _ _ id _ _ =>
        refine ⟨[⟨id, name, byHandle, readers, load.alive⟩], rfl, fun attached call isCall => ?_⟩
        obtain rfl := List.mem_singleton.mp isCall
        exact orderly attached
    case h_2 => exact ⟨[], rfl, by simp⟩

theorem tended_shut (load : Load) (readers : Nat) : load.Tended (load.shut readers) :=
  have dead : load.Tended { load with alive := false } := ⟨rfl, rfl, [], rfl, by simp⟩
  dead.trans (tended_record (by simp) _ _)

end Load

end DexBrowser.Managed

namespace DexBrowser.Session

open Managed Session.Action

/-! ## Sessions and worlds -/

/-- A session in memory that nobody is at work in. -/
structure State.Resting (seat : Nat) (state : State) : Prop extends State.Idle seat state where
  hosts : ∀ load ∈ state.loads, load.host = .memory

/-- All loads that were there are tended. -/
def State.Tends (before after : State) : Prop :=
    ∀ (n : Nat) (load : Load), before.loads[n]? = some load →
      ∃ later, after.loads[n]? = some later ∧ load.Tended later

theorem tends_refl (state : State) : state.Tends state :=
  fun _ load found => ⟨load, found, load.tended_refl⟩

theorem State.Tends.trans {first second third : State} (before : first.Tends second)
    (after : second.Tends third) : first.Tends third := by
  intro n load found
  obtain ⟨middle, atMiddle, tended⟩ := before n load found
  obtain ⟨later, atLater, rest⟩ := after n middle atMiddle
  exact ⟨later, atLater, tended.trans rest⟩

theorem tends_set {state : State} {n : Nat} {load later : Load}
    (found : state.loads[n]? = some load)
    (tended : load.Tended later) : state.Tends { state with loads := state.loads.set n later } := by
  obtain ⟨bound, -⟩ := List.getElem?_eq_some_iff.mp found
  intro m other atOther
  by_cases same : m = n
  · subst same
    obtain rfl := Option.some.inj (found.symm.trans atOther)
    exact ⟨later, by simp [bound], tended⟩
  · exact ⟨other, by simp [Ne.symm same, atOther], other.tended_refl⟩

theorem tends_push (state : State) (load : Load) : state.Tends (state.push load) :=
  fun _ old found => ⟨old, State.push_old found, old.tended_refl⟩

structure State.Attended (before : State) (workspace : Workspace) : Prop where
  seat : workspace.state.seat = before.seat
  current : workspace.state.current = before.current
  writer : workspace.state.lock.writer = false
  hosts : ∀ load ∈ workspace.state.loads, load.host = .memory
  tends : before.Tends workspace.state

section Attended

variable {before : State} {workspace : Workspace} {seat n : Nat} {load later : Load}

theorem State.Resting.attended (resting : before.Resting seat) (files : Files.Tree)
    (journal : List Line) : before.Attended ⟨before, files, journal⟩ :=
  ⟨rfl, rfl, by rw [resting.lock], resting.hosts, tends_refl before⟩

theorem State.Attended.resting (held : before.Attended workspace) (resting : before.Resting seat)
    (lock : workspace.state.lock = before.lock) : workspace.state.Resting seat where
  seated := held.seat.trans resting.seated
  lock := lock.trans resting.lock
  anchored loaded current := by
    obtain ⟨load, found, attached⟩ := resting.anchored loaded (held.current ▸ current)
    obtain ⟨later, atLater, tended⟩ := held.tends loaded.load load found
    exact ⟨later, atLater, tended.attached.trans attached⟩
  hosts := held.hosts

theorem State.Attended.host (held : before.Attended workspace)
    (found : workspace.state.loads[n]? = some load) : load.host = .memory :=
  held.hosts load (List.mem_of_getElem? found)

theorem State.Attended.setLoad (held : before.Attended workspace)
    (found : workspace.state.loads[n]? = some load) (tended : load.Tended later) :
    before.Attended (workspace.setLoad n later) where
  seat := held.seat
  current := held.current
  writer := held.writer
  hosts other member := by
    cases List.mem_or_eq_of_mem_set member with
    | inl old => exact held.hosts other old
    | inr new => rw [new, tended.host, held.host found]
  tends := held.tends.trans (tends_set found tended)

theorem sectioned_attended (before : State) : Sectioned before.Attended where
  enter _ held := ⟨held.seat, held.current, held.writer, held.hosts, held.tends⟩
  leave _ held := ⟨held.seat, held.current, held.writer, held.hosts, held.tends⟩

end Attended

/-! ## Reading -/

theorem ends_ne_iff {outcome : Except Fault α} {fault : Fault} :
    Ends (fun _ => True) (· ≠ fault) outcome ↔ outcome ≠ .error fault := by
  cases outcome <;> simp [Ends]

theorem run_asking {h : Handle} {workspace : Workspace} {load : Load}
    (found : workspace.state.loads[h.load]? = some load)
    (free : workspace.state.lock.writer = false) (check : Except Fault Unit)
    (step : Nat → Load → Except Fault α × Load) :
    let readers := workspace.state.lock.readers + if load.attached then 1 else 0
    (h.asking check step).run workspace =
      if load.alive then
        match check with
        | .error fault => (.error fault, workspace)
        | .ok () => ((step readers load).1, workspace.setLoad h.load (step readers load).2)
      else (.error (.managed (.stale h.kind.name)), workspace) := by
  have inside {within : Workspace} (there : within.state.loads[h.load]? = some load) :
      (do h.checkAlive
          Action.ofExcept check
          onLoad h.load (step (← Remote.readers)) : Action α).run within =
        if load.alive then
          match check with
          | .error fault => (.error fault, within)
          | .ok () => ((step within.state.lock.readers load).1,
              within.setLoad h.load (step within.state.lock.readers load).2)
        else (.error (.managed (.stale h.kind.name)), within) := by
    have readers : Remote.readers.run within = (.ok within.state.lock.readers, within) := rfl
    have checked : h.checkAlive.run within =
        if load.alive then (.ok (), within)
        else (.error (.managed (.stale h.kind.name)), within) := by
      rw [Handle.checkAlive, run_bind_ok (run_loadAt there)]
      cases load.alive <;> rfl
    rw [run_bind, checked]
    cases load.alive with
    | false => rfl
    | true =>
        simp only [if_true]
        rw [run_bind, run_ofExcept]
        cases check with
        | error fault => rfl
        | ok _ => exact (run_bind_ok readers _).trans (run_onLoad there _)
  have admitted : workspace.state.lock.admits .shared = true := by
    rw [Lock.admits, free]
    rfl
  intro readers
  rw [Handle.asking, shared, run_bind_ok (run_loadAt found)]
  cases attached : load.attached with
  | false => simpa [readers, attached] using inside found
  | true =>
      have there : (setLock (·.enter .shared) workspace).state.loads[h.load]? = some load := found
      have left : (workspace.state.lock.enter .shared).leave .shared = workspace.state.lock :=
        Lock.leave_enter admitted
      have same : readers = (workspace.state.lock.enter .shared).readers := by
        simp [readers, attached, Lock.enter]
      simp only [if_true, inSection, run_ofRun, admitted]
      rw [inside there, same]
      cases load.alive with
      | false => simp [setLock, left]
      | true =>
          cases check with
          | error fault => simp [setLock, left]
          | ok _ => simp [setLock, left, Workspace.setLoad]

theorem keeps_asking (before : State) {h : Handle} {check : Except Fault Unit}
    (fine : check ≠ .error .wouldWait) {step : Nat → Load → Except Fault α × Load}
    (isCall : Load.IsCall step) :
    (h.asking check step).Respects before.Attended (· ≠ .wouldWait) := by
  intro workspace held
  cases found : workspace.state.loads[h.load]? with
  | none =>
      have missing : (h.asking check step).run workspace = (.error .notLoaded, workspace) := by
        rw [Handle.asking, shared, run_bind, loadAt, run_onLoad_none found]
      rw [missing]
      exact ⟨held, rfl, ends_ne_iff.mpr (by simp)⟩
  | some load =>
      rw [run_asking found held.writer]
      cases alive : load.alive with
      | false => exact ⟨held, rfl, ends_ne_iff.mpr (by simp)⟩
      | true =>
          cases check with
          | error fault => exact ⟨held, rfl, ends_ne_iff.mpr (by simpa using fine)⟩
          | ok _ =>
              refine ⟨held.setLoad found ?_, rfl, ends_ne_iff.mpr (isCall.fine _ load)⟩
              cases isCall.effect (workspace.state.lock.readers + if load.attached then 1 else 0)
                load with
              | inl same =>
                  rw [same]
                  exact load.tended_refl
              | inr recorded =>
                  obtain ⟨target, name, recorded⟩ := recorded
                  rw [recorded]
                  refine Load.tended_record (fun attached _ => ⟨?_, alive⟩) target name
                  simp [attached]

theorem keeps_unmoved (before : State) {n : Nat} {step : Load → Except Fault α × Load}
    (stays : ∀ load : Load, load.host = .memory →
      (step load).2 = load ∧ (step load).1 ≠ .error .wouldWait) :
    (onLoad n step).Respects before.Attended (· ≠ .wouldWait) := by
  refine keeps_onLoad (by simp) fun workspace load held found => ?_
  obtain ⟨same, fine⟩ := stays load (held.host found)
  rw [same, Workspace.setLoad_self found]
  exact ⟨held, ends_ne_iff.mpr fine⟩

theorem paired_attended {before : State} {action : Action α}
    (keeps : action.Respects before.Attended (· ≠ .wouldWait)) :
    action.Keeps before.Attended (fun a => ∃ b, a = b) (· ≠ .wouldWait) :=
  keeps.mono (fun a _ => ⟨a, rfl⟩) fun _ fine => fine

theorem keeps_remote (before : State) {n : Nat} {step : Nat → Load → Except Fault α × Load}
    (stays : ∀ readers (load : Load), load.host = .memory →
      (step readers load).2 = load ∧ (step readers load).1 ≠ .error .wouldWait) :
    (do onLoad n (step (← Remote.readers)) : Action α).Keeps before.Attended (fun a => ∃ b, a = b)
      (· ≠ .wouldWait) := by
  have readers : Remote.readers.Respects before.Attended (· ≠ .wouldWait) :=
    keeps_bind respects_state fun _ _ => respects_pure _
  refine keeps_bind readers fun readers _ => ?_
  exact paired_attended (keeps_unmoved before (stays readers))

/-- What is asked of one session only: it runs in parallel with anything, and is well attended. -/
def attending (before : State) : Parallel where
  SamePath := Eq
  SameLoad n m := n = m
  SameHandle h g := h = g
  Runs related first _ := first.Keeps before.Attended (fun a => ∃ b, related a b) (· ≠ .wouldWait)
  twin := by
    rintro h _ rfl
    exact ⟨rfl, rfl, rfl, rfl⟩
  load same := congrArg Handle.load same
  flagged flags same := congrArg (fun h : Handle => { h with flags := flags }) same
  given := by
    intro α β related one other alike fine
    refine keeps_ofExcept ?_
    cases alike with
    | @ok a b same => exact ⟨b, same⟩
    | error fault => simpa [Ends] using fine
  andThen := by
    intro α β γ δ related last first second next other runs nextRuns
    refine keeps_bind runs ?_
    rintro a ⟨b, same⟩
    exact nextRuns a b same
  caught := by
    intro α β related first second handler other runs handled
    exact keeps_catchManaged runs (fun cause _ => handled cause) fun _ _ fine => fine
  asked := by
    intro α h g check step _ fine isCall
    exact paired_attended (keeps_asking before fine isCall)
  looked := by
    intro α n m look _ _ fine
    exact paired_attended (keeps_unmoved before fun load _ => ⟨rfl, fine load⟩)
  classOf := by
    intro n m target _
    refine keeps_remote before fun readers load memory => ?_
    simp only [Load.classOf, memory]
    cases load.object? target with
    | none => simpa using load.notObject_ne_wouldWait target
    | some known => simp
  className := by
    intro n m cls _
    refine keeps_remote before fun readers load memory => ?_
    simp only [Load.className, memory]
    split
    · simp
    · simpa using Load.blame_ne_wouldWait ManagedCause.notClass fun _ => load.shown_fails
  issued := by
    intro n m kind target cls same
    have seat : state.Respects before.Attended (· ≠ .wouldWait) := respects_state
    have minted : Handle.mint.Respects before.Attended (· ≠ .wouldWait) := fun _ held =>
      ⟨⟨held.seat, held.current, held.writer, held.hosts, held.tends⟩, rfl, trivial⟩
    refine keeps_bind seat fun state _ => ?_
    exact keeps_bind minted fun serial _ => keeps_pure ⟨_, rfl⟩

theorem attending_looks (before : State) : (attending before).Looks := by
  have sameInput (loaded : Loaded) : (attending before).SameInput loaded loaded :=
    ⟨rfl, rfl, rfl, List.forall₂_same.mpr fun _ _ => ⟨rfl, rfl⟩,
      List.forall₂_same.mpr fun _ _ => ⟨rfl, rfl⟩⟩
  have sameCurrent (current : Option Loaded) :
      Option.Rel (attending before).SameInput current current := by
    cases current with
    | none => exact .none
    | some loaded => exact .some (sameInput loaded)
  constructor
  case looking =>
      intro α β related one other alike fine workspace held
      -- Nobody writes while a session is asked, so that the section is admitted.
      refine keeps_inSection (sectioned_attended before) ?_ held fun writer => ?_
      · refine keeps_bind respects_state fun state _ => ?_
        exact (attending before).given (alike _ _ (sameCurrent state.current)) (fine _)
      · rw [held.writer] at writer
        contradiction
  case told =>
      intro α β related tell other alike
      refine keeps_bind respects_state fun state _ => ?_
      exact keeps_pure ⟨_, alike _ _ (sameCurrent state.current)⟩

theorem writeSource_ne_wouldWait (files : Files.Tree) (path : Path) (code : String) :
    (files.writeSource path code).2 ≠ .error .wouldWait := by
  rw [Files.Tree.writeSource_eq]
  split
  · simp
  · split
    · simp
    · split
      · simp
      · split <;> simp

theorem keeps_tryWrite (before : State) (path : Path) (code : String) :
    (tryWrite path code).Respects before.Attended (· ≠ .wouldWait) := by
  intro workspace held
  refine ⟨?_, ?_, ?_⟩
  · rw [run_tryWrite_after]
    exact ⟨held.seat, held.current, held.writer, held.hosts, held.tends⟩
  · rw [run_tryWrite_after]
  · have fine := writeSource_ne_wouldWait workspace.files path code
    simp only [tryWrite, run_ofRun, writeSource]
    generalize workspace.files.writeSource path code = written at fine ⊢
    obtain ⟨files, outcome⟩ := written
    cases outcome with
    | ok _ => trivial
    | error fault =>
        cases fault with
        | notWritten refusal path => trivial
        | wouldWait => contradiction
        | _ => simp [Ends]

theorem attending_saves (before : State) : (attending before).Saves := by
  constructor
  case shared =>
      intro α β related n m first second _ runs
      refine keeps_shared (sectioned_attended before) (by simp) (fun _ _ held _ _ writer => ?_) runs
      rw [held.writer] at writer
      contradiction
  case tryWrite =>
      intro path code
      exact paired_attended (keeps_tryWrite before path code)
  case log =>
      intro level channel text
      exact keeps_log ⟨_, rfl⟩ (fun _ _ held =>
        ⟨held.seat, held.current, held.writer, held.hosts, held.tends⟩) level channel text

/-! ## Loading and closing -/

section Turnover

variable {seat : Nat} {state : State} {load : Load} {loaded : Loaded}

theorem State.Resting.push (resting : state.Resting seat) (host : load.host = .memory)
    (minted : Nat) :
    State.Resting seat { state.push load with minted := minted } where
  seated := resting.seated
  lock := resting.lock
  anchored loaded current := by
    obtain ⟨old, found, attached⟩ := resting.anchored loaded current
    exact ⟨old, State.push_old found, attached⟩
  hosts other member := by
    cases List.mem_append.mp member with
    | inl old => exact resting.hosts other old
    | inr new => rw [List.mem_singleton.mp new, host]

theorem State.Resting.install (resting : state.Resting seat)
    (newest : loaded.load = state.loads.length)
    (host : load.host = .memory) (minted : Nat) :
    (state.install loaded load minted).Resting seat where
  seated := resting.seated
  lock := resting.lock
  anchored other current := by
    obtain rfl := Option.some.inj current
    refine ⟨{ load with attached := true }, ?_, rfl⟩
    rw [newest]
    exact State.push_getElem state _
  hosts := by
    have attached : ({ load with attached := true } : Load).host = .memory := host
    exact (resting.push attached minted).hosts

theorem State.Resting.letGo (resting : state.Resting seat) {n : Nat}
    (found : state.loads[n]? = some load) : (state.letGo n load).Resting seat where
  seated := resting.seated
  lock := resting.lock
  anchored other current := by simp [State.letGo] at current
  hosts other member := by
    cases List.mem_or_eq_of_mem_set member with
    | inl old => exact resting.hosts other old
    | inr new => rw [new, Load.shut_host, resting.hosts load (List.mem_of_getElem? found)]

theorem tends_letGo {n : Nat} (found : state.loads[n]? = some load) :
    state.Tends (state.letGo n load) :=
  tends_set found (load.tended_shut 0)

theorem Engine.Opens.host_memory {files : Files.Tree} {path : Path} {options : LoadOptions}
    {amend : Heap → Heap} (opens : (Engine.memory validator amend).Opens files path options load) :
    load.host = .memory := by
  cases opens
  rfl

theorem Ready.host_memory {amend : Heap → Heap} {path : Path} {options : LoadOptions}
    {before : Workspace} (ready : Ready (.memory validator amend) path options before loaded load) :
    load.host = .memory := by
  obtain ⟨fresh, opens, used, -⟩ := ready.opened
  rw [used.host, opens.host_memory]

theorem State.Resting.loading {before : Workspace} (resting : before.state.Resting seat)
    {amend : Heap → Heap} {prepared : Except Fault Loaded} {outcome : Except Fault Unit}
    {after : State} (loading : Loading (.memory validator amend) before prepared outcome after) :
    after.Resting seat ∧ before.state.Tends after := by
  cases loading with
  | refused => exact ⟨resting, tends_refl _⟩
  | failed prepared =>
      cases prepared with
      | refused => exact ⟨resting, tends_refl _⟩
      | broken minted within opens used =>
          exact ⟨resting.push (used.host.trans opens.host_memory) minted, tends_push _ _⟩
      | dropped minted opens used =>
          have host := (Load.shut_host _ before.state.lock.readers).trans
            (used.host.trans opens.host_memory)
          exact ⟨resting.push host minted, tends_push _ _⟩
  | first minted ready =>
      exact ⟨resting.install ready.newest ready.host_memory minted, tends_push _ _⟩
  | @replaced _ _ _ previous _ old minted ready current found =>
      have newest := ready.newest.trans (before.state.letGo_length previous.load old).symm
      exact ⟨(resting.letGo found).install newest ready.host_memory minted,
        (tends_letGo found).trans (tends_push _ _)⟩

theorem State.Resting.closing {after : State} (resting : state.Resting seat)
    {outcome : Except Fault Unit} (closing : Closing state outcome after) :
    outcome ≠ .error .wouldWait ∧ after.Resting seat ∧ state.Tends after := by
  cases closing with
  | idle => exact ⟨by simp, resting, tends_refl _⟩
  | closed current found =>
      refine ⟨fun waits => ?_, resting.letGo found, tends_letGo found⟩
      obtain ⟨_, impossible⟩ :=
        Load.closing_memory (resting.hosts _ (List.mem_of_getElem? found)) waits
      contradiction

theorem admits_memory (amend : Heap → Heap) :
    (Engine.memory validator amend).Admits (· ≠ .wouldWait) where
  ofInput fault ofInput := by
    rintro rfl
    exact ofInput
  lists _ _ _ _ _ v _ := ends_ne_iff.mpr (Load.itemsOf_ne_wouldWait v)
  unshown := .inl fun fault unshown => by
    rintro rfl
    exact nomatch unshown
  closes load serves readers fault failed := by
    obtain ⟨files, path, options, fresh, opens, used⟩ := serves
    obtain ⟨cause, rfl⟩ := load.closing_memory (used.host.trans opens.host_memory) failed
    simp

variable (validator) in
theorem prepareLoad_ne_wouldWait (amend : Heap → Heap) {before : Workspace}
    (free : before.state.lock = {}) (argument : Files.PathArgument) (given : Option LoadOptions)
    (changes : List (String × Json)) :
    ((prepareLoad (.memory validator amend) argument given changes).run before).1 ≠
      .error .wouldWait := by
  cases isPath : argument.toPath with
  | error refused =>
      have fine := Parallel.toPath_ne_wouldWait argument
      rw [isPath] at fine
      rw [run_prepareLoad_notPath isPath]
      simpa using fine
  | ok path =>
      cases valid : LoadOptions.resolve (Engine.memory validator amend).rules given changes with
      | error issues =>
          rw [run_prepareLoad_invalid isPath valid]
          simp
      | ok options =>
          rw [run_prepareLoad_checked isPath valid free]
          cases checked : checkInput before.files path with
          | error refused =>
              rintro ⟨⟩
              obtain ⟨reason, -, impossible⟩ := checkInput_fails checked id
              contradiction
          | ok _ => exact fun waits => ((admits_memory amend).prepare_fails waits).elim (· rfl) id

end Turnover

/-! ## Requests -/

namespace World

/-- All sessions are in memory, and nobody is at work in any of them. -/
def Resting (world : World) : Prop :=
    ∀ (seat : Nat) (state : State), world.sessions[seat]? = some state → state.Resting seat

/-- Something is over: nobody waited for it, nobody is at work, and the loads were tended. -/
structure Serves (before : World) (result : Except Fault α × World) : Prop where
  fine : result.1 ≠ .error .wouldWait
  resting : result.2.Resting
  tends : ∀ id load, before.load? id = some load →
    ∃ later, result.2.load? id = some later ∧ load.Tended later

section Serves

variable {world : World} {seat : Nat}

theorem Resting.lockAt (resting : world.Resting) (seat : Nat) : world.lockAt seat = {} := by
  unfold World.lockAt
  cases found : world.sessions[seat]? with
  | none => rfl
  | some state => exact (resting seat state found).lock

theorem Serves.replied {result : Except Fault α × World} (serves : world.Serves result)
    (reply : α → Reply) : world.Serves (replied result reply) :=
  ⟨Load.map_ne_wouldWait reply serves.fine, serves.resting, serves.tends⟩

theorem Resting.serves (resting : world.Resting) {action : Action α}
    (serves : ∀ state, state.Resting seat → ∀ files journal,
      let run := action.run ⟨state, files, journal⟩
      run.1 ≠ .error .wouldWait ∧ run.2.state.Resting seat ∧ state.Tends run.2.state) :
    world.Serves (world.run seat action) := by
  cases found : world.sessions[seat]? with
  | none =>
      rw [run_of_none found]
      exact ⟨by simp, resting, fun _ load atLoad => ⟨load, atLoad, load.tended_refl⟩⟩
  | some state =>
      obtain ⟨fine, after, tends⟩ :=
          serves state (resting seat state found) world.files world.journal
      obtain ⟨outcome, sessions, -⟩ := run_of_session found action
      refine ⟨outcome ▸ fine, fun other state' atOther => ?_, fun id load atLoad => ?_⟩
      · rw [sessions] at atOther
        cases set_cases atOther with
        | inl new =>
            obtain ⟨rfl, rfl⟩ := new
            exact after
        | inr old => exact resting other state' old.2
      · by_cases same : id.seat = seat
        · obtain ⟨_, n⟩ := id
          subst same
          have atState : state.loads[n]? = some load := by simpa [load?, found] using atLoad
          rw [load?_set found sessions]
          exact tends n load atState
        · exact ⟨load, by rw [load?_set_other sessions same, atLoad], load.tended_refl⟩

theorem Resting.serves_attended (resting : world.Resting) {action : Action α}
    (keeps : ∀ before : State, action.Respects before.Attended (· ≠ .wouldWait)) :
    world.Serves (world.run seat action) := by
  refine resting.serves fun state stateResting files journal => ?_
  have kept := keeps state ⟨state, files, journal⟩ (stateResting.attended files journal)
  exact ⟨ends_ne_iff.mp kept.ends, kept.holds.resting stateResting kept.lock, kept.holds.tends⟩

theorem Resting.serves_load (resting : world.Resting) (amend : Heap → Heap)
    (argument : Files.PathArgument) (given : Option LoadOptions) (changes : List (String × Json)) :
    world.Serves (world.run seat (load (.memory validator amend) argument given changes)) := by
  refine resting.serves fun state stateResting files journal => ?_
  have idle : (⟨state, files, journal⟩ : Workspace).state.Idle seat := stateResting.toIdle
  obtain ⟨loading, -⟩ := loading_load idle (.memory validator amend) argument given changes
  have prepared := prepareLoad_ne_wouldWait validator amend idle.lock argument given changes
  have releases : state.Releases := fun _ load _ found =>
    .inl (stateResting.hosts load (List.mem_of_getElem? found))
  -- What follows once the input is prepared fails on the managed side only.
  refine ⟨fun waits => prepared ?_, stateResting.loading loading⟩
  exact (loading.fault_iff releases (by simp [Fault.IsOfInput])).mp waits

theorem Resting.serves_close (resting : world.Resting) : world.Serves (world.run seat close) := by
  refine resting.serves fun state stateResting files journal => ?_
  have idle : (⟨state, files, journal⟩ : Workspace).state.Idle seat := stateResting.toIdle
  obtain ⟨closing, -⟩ := closing_close idle
  exact stateResting.closing closing

theorem Resting.serves_equals (resting : world.Resting) (h other : Handle) :
    world.Serves (world.equals h other) :=
  resting.serves_attended fun before =>
    have same : (attending before).SameHandle h h := rfl
    Keeps.respects (Parallel.equals same _)

theorem Resting.serves_compare (resting : world.Resting) (h : Handle) (operand : Operand) :
    world.Serves (world.compare h operand) := by
  cases operand with
  | value =>
      have unmoved : world.compare h .value = (.ok false, world) := rfl
      rw [unmoved]
      exact ⟨by simp, resting, fun _ load found => ⟨load, found, load.tended_refl⟩⟩
  | handle other =>
      change world.Serves (world.same h other)
      unfold same
      split
      · exact resting.serves_equals other h
      · exact resting.serves_equals h other

theorem Resting.serves_ask (resting : world.Resting) (seat : Nat) (request : Request Handle) :
    world.Serves (world.ask seat request) := by
  have same (before : State) (h : Handle) : (attending before).SameHandle h h := rfl
  have walked {α β : Type} {own : Nat} {related : State → α → β → Prop} {first : Action α}
      {second : Action β} (runs : ∀ before, (attending before).Runs (related before) first second)
      (reply : α → Reply) : world.Serves (replied (world.run own first) reply) :=
    (resting.serves_attended fun before => Keeps.respects (runs before)).replied reply
  cases request with
  | load validator amend path given changes =>
      exact (resting.serves_load amend path given changes).replied _
  | close => exact resting.serves_close.replied _
  | isLoaded => exact walked (fun before => Parallel.isLoaded (attending_looks before)) _
  | input => exact walked (fun before => Parallel.currentInput (attending_looks before)) _
  | search asked => exact walked (fun before => Parallel.search (attending_looks before) asked) _
  | hasClass name => exact walked (fun before => Parallel.hasClass (attending_looks before) name) _
  | hasPackage name =>
      exact walked (fun before => Parallel.hasPackage (attending_looks before) name) _
  | classRows package limit =>
      exact walked (fun before => Parallel.classRows (attending_looks before) package limit) _
  | packageRows => exact walked (fun before => Parallel.packageRows (attending_looks before)) _
  | methodRows className =>
      exact walked (fun before => Parallel.methodRows (attending_looks before) className) _
  | classDetail h => exact walked (fun before => Parallel.classDetail (h := h) (same before h)) _
  | read h asked => exact walked (fun before => Parallel.read (same before h) asked) _
  | text h => exact walked (fun before => Parallel.toText (same before h)) _
  | inspect h => exact walked (fun before => Parallel.inspect (same before h)) _
  | hash h => exact walked (fun before => Parallel.hash (same before h)) _
  | compare h other => exact (resting.serves_compare h _).replied _
  | equals h other => exact (resting.serves_equals h other).replied _
  | save h path =>
      exact walked (fun before => Parallel.save (attending_saves before) (same before h) path) _

end Serves

theorem Resting.addSession {world : World} (resting : world.Resting) :
    world.addSession.1.Resting := by
  intro seat state found
  cases concat_cases found with
  | inl old => exact resting seat state old
  | inr new =>
      obtain ⟨rfl, rfl⟩ := new
      exact ⟨⟨rfl, rfl, by simp⟩, by simp⟩

theorem Resting.amend {world : World} (resting : world.Resting) (seat : Nat)
    (change : Heap → Heap) :
    (world.amend seat change).Resting := by
  intro other state found
  rw [World.amend, List.getElem?_modify] at found
  obtain ⟨before, atOther, rfl⟩ := Option.map_eq_some_iff.mp found
  have own := resting other before atOther
  split
  · split
    · exact own
    · refine ⟨⟨own.seated, own.lock, fun loaded current => ?_⟩, fun load member => ?_⟩
      · obtain ⟨load, atLoad, attached⟩ := own.anchored loaded current
        refine ⟨_, by rw [List.getElem?_modify, atLoad]; rfl, ?_⟩
        dsimp only
        split <;> exact attached
      · obtain ⟨n, atLoad⟩ := List.mem_iff_getElem?.mp member
        rw [List.getElem?_modify] at atLoad
        obtain ⟨old, atOld, rfl⟩ := Option.map_eq_some_iff.mp atLoad
        have host := own.hosts old (List.mem_of_getElem? atOld)
        split <;> exact host
  · exact own

end World

theorem Desk.resting_after (events : List Event) : (Desk.after events).world.Resting := by
  have nothing : ({} : World).Resting := by simp [World.Resting]
  refine @Desk.after_induction (fun desk => desk.world.Resting) nothing ?_ events
  intro desk event resting
  cases event with
  | openSession => exact resting.addSession
  | amend seat change => exact resting.amend seat change
  | replaceFiles files => exact resting
  | ask seat request =>
      rw [Desk.perform, Desk.ask]
      split
      · exact resting
      · exact (resting.serves_ask seat _).resting

/-- After whatever happened before, nobody waits for the lock when one thing more is asked, all
locks are as they were when it is over, and every member that a handle of a loaded input ran was
run in a section, while the input was alive. What is loaded has a load that is attached, and stays
so. -/
theorem ask_keeps_discipline (events : List Event) (seat : Nat) (request : Request Handle) :
    let world := (Desk.after events).world
    let reply := world.ask seat request
    reply.1 ≠ .error .wouldWait ∧
      (∀ other, reply.2.lockAt other = world.lockAt other) ∧
      (∀ other loaded, reply.2.current other = some loaded →
        ∃ load, reply.2.load? ⟨other, loaded.load⟩ = some load ∧ load.attached = true) ∧
      ∀ id load, world.load? id = some load → load.attached = true →
        ∃ later made, reply.2.load? id = some later ∧ later.attached = true ∧
          later.calls = made ++ load.calls ∧
          ∀ call ∈ made, call.byHandle = true → 1 ≤ call.readers ∧ call.alive = true := by
  intro world reply
  have resting := Desk.resting_after events
  have serves : world.Serves reply := resting.serves_ask seat request
  refine ⟨serves.fine, fun other => ?_, fun other loaded current => ?_, ?_⟩
  · rw [serves.resting.lockAt, resting.lockAt]
  · obtain ⟨state, atSeat, current⟩ := Option.bind_eq_some_iff.mp current
    obtain ⟨load, found, attached⟩ := (serves.resting other state atSeat).anchored loaded current
    exact ⟨load, by rw [World.load?, atSeat]; exact found, attached⟩
  · intro id load found attached
    obtain ⟨later, atLater, tended⟩ := serves.tends id load found
    obtain ⟨made, calls, orderly⟩ := tended.calls
    exact ⟨later, made, atLater, tended.attached.trans attached, calls, orderly attached⟩

end DexBrowser.Session

import DexBrowser.Proofs.Session.Opening

/-!
Loading and closing. A session is sound if its lock is free, those of its attached loads are alive
that it holds, and no load that is alive was closed. Main statements: what loading and closing come
to in a sound session, and that the session is sound afterwards, however they end.
-/

namespace DexBrowser.Session

open Managed Session.Action

/-! ## Sound sessions -/

def State.holds (state : State) (n : Nat) : Bool :=
    state.current.any (·.load = n)

/-- What holds of a session between any two things that are done with it. -/
structure State.Sound (seat : Nat) (state : State) : Prop where
  seated : state.seat = seat
  lock : state.lock = {}
  lives : ∀ (n : Nat) (load : Load), state.loads[n]? = some load → load.attached = true →
    load.alive = state.holds n
  unclosed : ∀ (n : Nat) (load : Load), state.loads[n]? = some load → load.alive = true →
    load.closings = 0
  current : ∀ loaded, state.current = some loaded → ∃ load : Load,
    state.loads[loaded.load]? = some load ∧ load.attached = true ∧
      Owned ⟨seat, loaded.load⟩ load.host loaded.classes ∧
      Owned ⟨seat, loaded.load⟩ load.host loaded.packages

structure State.Idle (seat : Nat) (state : State) : Prop where
  seated : state.seat = seat
  lock : state.lock = {}
  anchored : ∀ loaded, state.current = some loaded → ∃ load : Load,
    state.loads[loaded.load]? = some load ∧ load.attached = true

theorem State.Sound.idle {seat : Nat} {state : State} (sound : state.Sound seat) :
    state.Idle seat where
  seated := sound.seated
  lock := sound.lock
  anchored loaded current := by
    obtain ⟨load, found, attached, -⟩ := sound.current loaded current
    exact ⟨load, found, attached⟩

theorem State.holds_eq_true {state : State} {n : Nat} :
    state.holds n = true ↔ ∃ loaded, state.current = some loaded ∧ loaded.load = n := by
  simp [State.holds, Option.any_eq_true]

theorem sound_fresh (seat : Nat) : ({ seat := seat } : State).Sound seat where
  seated := rfl
  lock := rfl
  lives _ _ found := by simp at found
  unclosed _ _ found := by simp at found
  current _ found := by simp at found

theorem concat_cases {xs : List α} {last x : α} {n : Nat}
    (found : (xs ++ [last])[n]? = some x) : xs[n]? = some x ∨ n = xs.length ∧ x = last := by
  by_cases old : n < xs.length
  · rw [List.getElem?_append_left old] at found
    exact .inl found
  · rw [List.getElem?_append_right (by omega)] at found
    obtain ⟨bound, same⟩ := List.getElem?_eq_some_iff.mp found
    have newest : n = xs.length := by
      simp only [List.length_singleton] at bound
      omega
    exact .inr ⟨newest, by simpa using same.symm⟩

theorem set_cases {xs : List α} {new x : α} {n m : Nat} (found : (xs.set n new)[m]? = some x) :
    m = n ∧ x = new ∨ m ≠ n ∧ xs[m]? = some x := by
  by_cases same : m = n
  · subst same
    obtain ⟨bound, equal⟩ := List.getElem?_eq_some_iff.mp found
    exact .inl ⟨rfl, by simpa using equal.symm⟩
  · rw [List.getElem?_set_ne (Ne.symm same)] at found
    exact .inr ⟨same, found⟩

theorem State.push_getElem_cases {state : State} {load other : Load} {n : Nat}
    (found : (state.push load).loads[n]? = some other) :
    state.loads[n]? = some other ∨ n = state.loads.length ∧ other = load :=
  concat_cases found

section Sound

variable {seat : Nat} {state : State}

theorem State.Sound.holds_newest (sound : state.Sound seat) :
    state.holds state.loads.length = false := by
  rw [Bool.eq_false_iff, Ne, State.holds_eq_true]
  rintro ⟨loaded, current, newest⟩
  obtain ⟨load, found, -⟩ := sound.current loaded current
  obtain ⟨bound, -⟩ := List.getElem?_eq_some_iff.mp found
  omega

theorem State.Sound.push (sound : state.Sound seat) {load : Load}
    (attached : load.attached = false) (unclosed : load.alive = true → load.closings = 0)
    (minted : Nat) : State.Sound seat { state.push load with minted := minted } where
  seated := sound.seated
  lock := sound.lock
  lives n other found isAttached := by
    rcases State.push_getElem_cases found with old | ⟨-, rfl⟩
    · exact sound.lives n other old isAttached
    · rw [attached] at isAttached
      contradiction
  unclosed n other found alive := by
    rcases State.push_getElem_cases found with old | ⟨-, rfl⟩
    · exact sound.unclosed n other old alive
    · exact unclosed alive
  current loaded current := by
    obtain ⟨load, found, rest⟩ := sound.current loaded current
    exact ⟨load, State.push_old found, rest⟩

/-- A session that a new load takes the place in. -/
def State.install (state : State) (loaded : Loaded) (load : Load) (minted : Nat) : State :=
    { state.push { load with attached := true } with current := some loaded, minted := minted }

theorem State.install_holds_old {loaded : Loaded} {load other : Load} {n : Nat}
    (newest : loaded.load = state.loads.length) (empty : state.current = none)
    (old : state.loads[n]? = some other) (minted : Nat) :
    (state.install loaded load minted).holds n = state.holds n := by
  obtain ⟨bound, -⟩ := List.getElem?_eq_some_iff.mp old
  have apart : state.loads.length ≠ n := by omega
  simp [State.holds, State.install, empty, newest, apart]

theorem State.install_holds_newest {loaded : Loaded} (newest : loaded.load = state.loads.length)
    (load : Load) (minted : Nat) :
    (state.install loaded load minted).holds state.loads.length = true := by
  simp [State.holds, State.install, newest]

theorem State.Sound.install (sound : state.Sound seat) (empty : state.current = none)
    {loaded : Loaded} {load : Load} (newest : loaded.load = state.loads.length)
    (alive : load.alive = true) (unclosed : load.closings = 0)
    (classes : Owned ⟨seat, loaded.load⟩ load.host loaded.classes)
    (packages : Owned ⟨seat, loaded.load⟩ load.host loaded.packages) (minted : Nat) :
    (state.install loaded load minted).Sound seat where
  seated := sound.seated
  lock := sound.lock
  lives n other found isAttached := by
    rcases State.push_getElem_cases found with old | ⟨rfl, rfl⟩
    · rw [State.install_holds_old newest empty old]
      exact sound.lives n other old isAttached
    · rw [State.install_holds_newest newest]
      exact alive
  unclosed n other found isAlive := by
    rcases State.push_getElem_cases found with old | ⟨-, rfl⟩
    · exact sound.unclosed n other old isAlive
    · exact unclosed
  current other current := by
    obtain rfl := Option.some.inj current
    refine ⟨{ load with attached := true }, ?_, rfl, classes, packages⟩
    rw [newest]
    exact State.push_getElem state _

def State.letGo (state : State) (n : Nat) (load : Load) : State :=
    { state with loads := state.loads.set n (load.shut 0), current := none }

theorem State.letGo_found {n : Nat} {load : Load} (found : state.loads[n]? = some load) :
    (state.letGo n load).loads[n]? = some (load.shut 0) := by
  obtain ⟨bound, -⟩ := List.getElem?_eq_some_iff.mp found
  simp [State.letGo, bound]

theorem State.letGo_other {n m : Nat} (distinct : m ≠ n) (load : Load) :
    (state.letGo n load).loads[m]? = state.loads[m]? := by
  simp [State.letGo, Ne.symm distinct]

theorem State.letGo_cases {n m : Nat} {load other : Load}
    (found : (state.letGo n load).loads[m]? = some other) :
    m = n ∧ other = load.shut 0 ∨ m ≠ n ∧ state.loads[m]? = some other :=
  set_cases found

theorem State.letGo_length (state : State) (n : Nat) (load : Load) :
    (state.letGo n load).loads.length = state.loads.length := by
  simp [State.letGo]

theorem State.letGo_holds (state : State) (n : Nat) (load : Load) (m : Nat) :
    (state.letGo n load).holds m = false := rfl

theorem State.holds_other {loaded : Loaded} (current : state.current = some loaded) {n : Nat}
    (distinct : n ≠ loaded.load) : state.holds n = false := by
  simp [State.holds, current, Ne.symm distinct]

theorem State.Sound.letGo (sound : state.Sound seat) {loaded : Loaded}
    (current : state.current = some loaded) (load : Load) :
    (state.letGo loaded.load load).Sound seat where
  seated := sound.seated
  lock := sound.lock
  lives n other atOther isAttached := by
    rw [State.letGo_holds]
    rcases State.letGo_cases atOther with ⟨-, rfl⟩ | ⟨distinct, old⟩
    · exact Load.shut_alive load 0
    · rw [sound.lives n other old isAttached, State.holds_other current distinct]
  unclosed n other atOther isAlive := by
    rcases State.letGo_cases atOther with ⟨-, rfl⟩ | ⟨-, old⟩
    · simp at isAlive
    · exact sound.unclosed n other old isAlive
  current other current := by simp [State.letGo] at current

theorem State.Sound.used (sound : state.Sound seat) {n : Nat} {after : State}
    (used : state.Used n after) (lock : after.lock = state.lock) : after.Sound seat where
  seated := used.seat.trans sound.seated
  lock := lock.trans sound.lock
  lives m load found attached := by
    obtain ⟨first, atFirst, usedLoad⟩ := used.before? found
    rw [usedLoad.attached] at attached
    rw [usedLoad.alive, sound.lives m first atFirst attached, State.holds, State.holds,
      used.current]
  unclosed m load found alive := by
    obtain ⟨first, atFirst, usedLoad⟩ := used.before? found
    rw [usedLoad.alive] at alive
    rw [usedLoad.closings, sound.unclosed m first atFirst alive]
  current loaded current := by
    rw [used.current] at current
    obtain ⟨first, atFirst, attached, classes, packages⟩ := sound.current loaded current
    obtain ⟨load, found, usedLoad⟩ := used.after? atFirst
    rw [← usedLoad.host] at classes packages
    exact ⟨load, found, usedLoad.attached.trans attached, classes, packages⟩

theorem State.Sound.amend (sound : state.Sound seat) (n : Nat) (change : Heap → Heap) :
    State.Sound seat { state with
      loads := state.loads.modify n fun load => { load with heap := change load.heap } } where
  seated := sound.seated
  lock := sound.lock
  lives m load found attached := by
    simp only [List.getElem?_modify] at found
    obtain ⟨first, atFirst, rfl⟩ := Option.map_eq_some_iff.mp found
    split at attached <;> split <;> exact sound.lives m first atFirst attached
  unclosed m load found alive := by
    simp only [List.getElem?_modify] at found
    obtain ⟨first, atFirst, rfl⟩ := Option.map_eq_some_iff.mp found
    split at alive <;> split <;> exact sound.unclosed m first atFirst alive
  current loaded current := by
    obtain ⟨load, found, attached, classes, packages⟩ := sound.current loaded current
    refine ⟨_, by rw [List.getElem?_modify, found]; rfl, ?_⟩
    dsimp only
    split <;> exact ⟨attached, classes, packages⟩

end Sound

/-! ## Loading -/

/-- What loading asks of its arguments, which may be refused. -/
def checkLoad (validator : Validator) (path : Files.PathArgument)
    (given : Option LoadOptions) (changes : List (String × Json)) :
    Action (Path × LoadOptions) := do
    let path ← Action.ofExcept path.toPath
    let options ← Action.ofChecked (LoadOptions.resolve validator given changes)
    Action.ofExcept (checkInput (← get).files path)
    return (path, options)

/-- What loading does before the new input takes the place of the old one. -/
def prepareLoad (engine : Engine) (path : Files.PathArgument) (given : Option LoadOptions)
    (changes : List (String × Json)) : Action Loaded := do
    let (path, options) ← checkLoad engine.rules path given changes
    Action.inSection .exclusive (prepare engine path options)

/-- Puts an input, or none, in the place of the old one, which is let go. -/
def replace (loaded : Option Loaded) : Action Unit := do
    if let some previous ← replaceCurrent loaded then release previous

theorem takeOver_eq (engine : Engine) (path : Path) (options : LoadOptions) :
    takeOver engine path options = (do
      let loaded ← prepare engine path options
      replace (some loaded)
      return loaded) := by
  simp only [takeOver, prepare, replace, bind_assoc, pure_bind]
  refine bind_congr fun n => bind_congr fun named => bind_congr fun _ => ?_
  refine bind_congr fun previous => ?_
  cases previous <;> rfl

theorem close_eq : close = inSection .exclusive (replace none) := rfl

section Replace

variable {workspace : Workspace}

theorem run_replace_none (empty : workspace.state.current = none) (loaded : Option Loaded) :
    (replace loaded).run workspace =
      (.ok (), { workspace with state := { workspace.state with current := loaded } }) := by
  have replaced : (replaceCurrent loaded).run workspace = (.ok workspace.state.current,
      { workspace with state := { workspace.state with current := loaded } }) := rfl
  rw [replace, run_bind, replaced, empty]
  rfl

theorem run_replace_some {previous : Loaded} {old : Load}
    (current : workspace.state.current = some previous)
    (found : workspace.state.loads[previous.load]? = some old) (loaded : Option Loaded) :
    ∃ journal, (replace loaded).run workspace =
      (old.closing workspace.state.lock.readers,
        { workspace with
          state := { workspace.state with
            loads := workspace.state.loads.set previous.load
              (old.shut workspace.state.lock.readers)
            current := loaded }
          journal := journal }) := by
  have replaced : (replaceCurrent loaded).run workspace = (.ok workspace.state.current,
      { workspace with state := { workspace.state with current := loaded } }) := rfl
  have kept : ({ workspace with state := { workspace.state with current := loaded } } :
      Workspace).state.loads[previous.load]? = some old := found
  obtain ⟨journal, released⟩ := run_release kept
  refine ⟨journal, ?_⟩
  rw [replace, run_bind, replaced, current]
  exact released

end Replace

/-- What loading comes to, by what opening and indexing came to. -/
inductive Loading (engine : Engine) (before : Workspace) :
    Except Fault Loaded → Except Fault Unit → State → Prop
  | refused (fault : Fault) : Loading engine before (.error fault) (.error fault) before.state
  | failed {path : Path} {options : LoadOptions} {fault : Fault} {after : State}
      (prepared : Prepared engine path options before (.error fault) after) :
      Loading engine before (.error fault) (.error fault) after
  | first {path : Path} {options : LoadOptions} {loaded : Loaded} {load : Load} (minted : Nat)
      (ready : Ready engine path options before loaded load)
      (empty : before.state.current = none) :
      Loading engine before (.ok loaded) (.ok ()) (before.state.install loaded load minted)
  | replaced {path : Path} {options : LoadOptions} {loaded previous : Loaded} {load old : Load}
      (minted : Nat) (ready : Ready engine path options before loaded load)
      (current : before.state.current = some previous)
      (found : before.state.loads[previous.load]? = some old) :
      Loading engine before (.ok loaded) (old.closing 0)
        ((before.state.letGo previous.load old).install loaded load minted)

theorem Ready.leave {engine : Engine} {path : Path} {options : LoadOptions} {before : Workspace}
    {loaded : Loaded} {load : Load}
    (ready : Ready engine path options (setLock (·.enter .exclusive) before) loaded load) :
    Ready engine path options before loaded load :=
  ⟨ready.opened, ready.newest, ready.path, ready.options, ready.classes, ready.packages⟩

theorem Prepared.leave {engine : Engine} {path : Path} {options : LoadOptions}
    {before : Workspace} {outcome : Except Fault Loaded} {state : State}
    (prepared : Prepared engine path options (setLock (·.enter .exclusive) before) outcome state) :
    Prepared engine path options before outcome { state with lock := before.state.lock } := by
  cases prepared with
  | refused fault => exact .refused fault
  | broken minted within opens used found failed other =>
      exact .broken minted within opens used found failed other
  | dropped minted opens used ended => exact .dropped minted opens used ended
  | ready minted ready =>
      exact .ready minted ready.leave

theorem run_exclusive {before : Workspace} (free : before.state.lock = {}) (action : Action α) :
    (inSection .exclusive action).run before =
      ((action.run (setLock (·.enter .exclusive) before)).1,
        setLock (·.leave .exclusive) (action.run (setLock (·.enter .exclusive) before)).2) := by
  simp [inSection, Lock.admits, free]

theorem Prepared.lock {engine : Engine} {path : Path} {options : LoadOptions}
    {before : Workspace} {outcome : Except Fault Loaded} {state : State}
    (prepared : Prepared engine path options before outcome state) :
    state.lock = before.state.lock := by
  cases prepared <;> rfl

theorem Prepared.ready? {engine : Engine} {path : Path} {options : LoadOptions}
    {before : Workspace} {loaded : Loaded} {state : State}
    (prepared : Prepared engine path options before (.ok loaded) state) :
    ∃ load minted, Ready engine path options before loaded load ∧
      state = { before.state.push { load with attached := true } with minted := minted } := by
  cases prepared with
  | ready minted ready => exact ⟨_, minted, ready, rfl⟩

theorem loading_replace {seat : Nat} {before between : Workspace} {engine : Engine} {path : Path}
    {options : LoadOptions} {loaded : Loaded} {load : Load} {minted : Nat}
    (idle : before.state.Idle seat) (ready : Ready engine path options before loaded load)
    (pushed : between.state = { before.state.push { load with attached := true } with
      lock := before.state.lock.enter .exclusive, minted := minted }) :
    let run := (replace (some loaded)).run between
    Loading engine before (.ok loaded) run.1 { run.2.state with lock := before.state.lock } ∧
      run.2.state.lock = between.state.lock ∧ run.2.files = between.files := by
  have current : between.state.current = before.state.current := by
    rw [pushed]
    rfl
  cases empty : before.state.current with
  | none =>
      rw [run_replace_none (current.trans empty), pushed]
      exact ⟨.first minted ready empty, rfl, rfl⟩
  | some previous =>
      obtain ⟨old, found, -⟩ := idle.anchored previous empty
      obtain ⟨bound, -⟩ := List.getElem?_eq_some_iff.mp found
      have kept : between.state.loads[previous.load]? = some old := by
        rw [pushed]
        exact State.push_old found
      have readers : between.state.lock.readers = 0 := by
        rw [pushed, idle.lock]
        rfl
      obtain ⟨journal, replaced⟩ := run_replace_some (current.trans empty) kept (some loaded)
      rw [replaced, readers]
      have done := Loading.replaced minted ready empty found
      refine ⟨?_, rfl, rfl⟩
      rw [pushed]
      simpa [State.install, State.letGo, State.push, List.set_append_left _ _ bound] using done

theorem loading_takeOver {seat : Nat} {before : Workspace} (idle : before.state.Idle seat)
    (engine : Engine) (path : Path) (options : LoadOptions) :
    let run := (inSection .exclusive (takeOver engine path options)).run before
    let prepared := (inSection .exclusive (prepare engine path options)).run before
    Loading engine before prepared.1 (run.1.map fun _ => ()) run.2.state ∧
      run.2.files = before.files := by
  intro run prepared
  have free := idle.lock
  have entered := prepared_prepare engine path options (setLock (·.enter .exclusive) before)
  have runs : run = _ := run_exclusive free (takeOver engine path options)
  have prepares : prepared = _ := run_exclusive free (prepare engine path options)
  -- Both begin with the same run of `prepare`, inside the section.
  rw [takeOver_eq] at runs
  simp only [run_bind] at runs
  generalize (prepare engine path options).run (setLock (·.enter .exclusive) before) = result
    at entered runs prepares
  obtain ⟨outcome, between⟩ := result
  obtain ⟨entered, unwritten⟩ := entered
  have lock : between.state.lock.leave .exclusive = before.state.lock := by
    rw [entered.lock, free]
    simp [setLock, free, Lock.enter, Lock.leave]
  rw [runs, prepares]
  cases outcome with
  | error fault =>
      have left : Prepared engine path options before (.error fault)
          { between.state with lock := between.state.lock.leave .exclusive } := by
        rw [lock]
        exact entered.leave
      exact ⟨.failed left, unwritten⟩
  | ok loaded =>
      obtain ⟨load, minted, ready, pushed⟩ := entered.ready?
      obtain ⟨done, kept, files⟩ := loading_replace idle ready.leave pushed
      rw [← lock, ← kept] at done
      dsimp only
      generalize (replace (some loaded)).run between = taken at done kept files ⊢
      obtain ⟨outcome, after⟩ := taken
      cases outcome with
      | error fault => exact ⟨done, files.trans unwritten⟩
      | ok _ => exact ⟨done, files.trans unwritten⟩

theorem load_eq (engine : Engine) (path : Files.PathArgument) (given : Option LoadOptions)
    (changes : List (String × Json)) :
    load engine path given changes = (do
      let (path, options) ← checkLoad engine.rules path given changes
      let loaded ← Action.inSection .exclusive (takeOver engine path options)
      Action.log .info .session
        ("Loaded " ++ path.text ++ ": " ++ toString loaded.classes.length ++ " classes in " ++
          toString loaded.packages.length ++ " packages")) := by
  unfold load checkLoad
  simp only [bind_assoc, pure_bind]

theorem run_checkLoad (validator : Validator) (path : Files.PathArgument)
    (given : Option LoadOptions)
    (changes : List (String × Json)) (before : Workspace) :
    ((checkLoad validator path given changes).run before).2 = before := by
  rw [checkLoad, run_bind, run_ofExcept]
  cases path.toPath with
  | error fault => rfl
  | ok path =>
      dsimp only
      rw [run_bind]
      cases LoadOptions.resolve validator given changes with
      | error issues => rfl
      | ok options =>
          change ((get >>= _ : Action _).run before).2 = before
          rw [run_bind, run_get]
          dsimp only
          rw [run_bind, run_ofExcept]
          cases checkInput before.files path <;> rfl

theorem loading_load {seat : Nat} {before : Workspace} (idle : before.state.Idle seat)
    (engine : Engine) (path : Files.PathArgument) (given : Option LoadOptions)
    (changes : List (String × Json)) :
    let run := (load engine path given changes).run before
    let prepared := (prepareLoad engine path given changes).run before
    Loading engine before prepared.1 run.1 run.2.state ∧ run.2.files = before.files := by
  intro run prepared
  have runs : run = _ := congrArg (·.run before) (load_eq engine path given changes)
  have prepares : prepared = (checkLoad engine.rules path given changes >>= fun checked =>
    Action.inSection .exclusive (prepare engine checked.1 checked.2)).run before := rfl
  have same := run_checkLoad engine.rules path given changes before
  simp only [run_bind] at runs prepares
  generalize (checkLoad engine.rules path given changes).run before = result at runs prepares same
  obtain ⟨outcome, between⟩ := result
  obtain rfl : between = before := same
  rw [runs, prepares]
  cases outcome with
  | error fault => exact ⟨.refused fault, rfl⟩
  | ok checked =>
      obtain ⟨done, files⟩ := loading_takeOver idle engine checked.1 checked.2
      dsimp only at done files ⊢
      generalize (inSection .exclusive (takeOver engine checked.1 checked.2)).run between = taken
        at done files ⊢
      obtain ⟨outcome, after⟩ := taken
      cases outcome with
      | error fault => exact ⟨done, files⟩
      | ok loaded => exact ⟨done, files⟩

/-! ## Closing -/

inductive Closing (before : State) : Except Fault Unit → State → Prop
  | idle (empty : before.current = none) : Closing before (.ok ()) before
  | closed {loaded : Loaded} {load : Load} (current : before.current = some loaded)
      (found : before.loads[loaded.load]? = some load) :
      Closing before (load.closing 0) (before.letGo loaded.load load)

theorem closing_close {seat : Nat} {before : Workspace} (idle : before.state.Idle seat) :
    Closing before.state (close.run before).1 (close.run before).2.state ∧
      (close.run before).2.files = before.files := by
  have free := idle.lock
  have entered : (setLock (·.enter .exclusive) before).state =
      { before.state with lock := { writer := true } } := by
    simp [setLock, Lock.enter, free]
  rw [close_eq, run_exclusive free]
  cases current : before.state.current with
  | none =>
      rw [run_replace_none (by rw [entered, current]), entered]
      have done := Closing.idle current
      refine ⟨?_, rfl⟩
      simpa [setLock, Lock.leave, ← free, ← current] using done
  | some previous =>
      obtain ⟨old, found, -⟩ := idle.anchored previous current
      have stillCurrent : (setLock (·.enter .exclusive) before).state.current = some previous := by
        rw [entered, current]
      have stillThere : (setLock (·.enter .exclusive) before).state.loads[previous.load]? =
          some old := by
        rw [entered, found]
      obtain ⟨journal, replaced⟩ := run_replace_some stillCurrent stillThere none
      rw [replaced, entered]
      have done := Closing.closed current found
      refine ⟨?_, rfl⟩
      simpa [setLock, Lock.leave, State.letGo, ← free] using done

/-! ## Soundness is kept -/

section Kept

variable {seat : Nat} {engine : Engine} {path : Path} {options : LoadOptions}
  {before : Workspace}

theorem Engine.Opens.closings {files : Files.Tree} {load : Load}
    (opens : engine.Opens files path options load) : load.closings = 0 := by
  rw [Load.closings, opens.calls, List.countP_nil]

theorem Ready.alive {loaded : Loaded} {load : Load}
    (ready : Ready engine path options before loaded load) : load.alive = true := by
  obtain ⟨fresh, opens, used, -⟩ := ready.opened
  rw [used.alive, opens.alive]

theorem Ready.owned {loaded : Loaded} {load : Load}
    (ready : Ready engine path options before loaded load) (sound : before.state.Sound seat) :
    Owned ⟨seat, loaded.load⟩ load.host loaded.classes ∧
      Owned ⟨seat, loaded.load⟩ load.host loaded.packages := by
  rw [← sound.seated]
  exact ⟨ready.classes, ready.packages⟩

theorem Ready.closings {loaded : Loaded} {load : Load}
    (ready : Ready engine path options before loaded load) : load.closings = 0 := by
  obtain ⟨fresh, opens, used, -⟩ := ready.opened
  rw [used.closings, opens.closings]

theorem State.Sound.failed (sound : before.state.Sound seat) {fault : Fault} {after : State}
    (prepared : Prepared engine path options before (.error fault) after) : after.Sound seat := by
  cases prepared with
  | refused => exact sound
  | broken minted within opens used =>
      refine sound.push ?_ (fun _ => ?_) minted
      · rw [used.attached, opens.attached]
      · rw [used.closings, opens.closings]
  | dropped minted opens used =>
      refine sound.push ?_ (fun alive => ?_) minted
      · rw [Load.shut_attached, used.attached, opens.attached]
      · simp at alive

theorem State.Sound.loading (sound : before.state.Sound seat) {prepared : Except Fault Loaded}
    {outcome : Except Fault Unit} {after : State}
    (loading : Loading engine before prepared outcome after) : after.Sound seat := by
  cases loading with
  | refused => exact sound
  | failed prepared => exact sound.failed prepared
  | first minted ready empty =>
      obtain ⟨classes, packages⟩ := ready.owned sound
      exact sound.install empty ready.newest ready.alive ready.closings classes packages minted
  | @replaced _ _ _ previous _ old minted ready current =>
      obtain ⟨classes, packages⟩ := ready.owned sound
      have newest := ready.newest.trans (before.state.letGo_length previous.load old).symm
      exact (sound.letGo current old).install rfl newest ready.alive ready.closings classes packages
        minted

theorem State.Sound.closing {state after : State} (sound : state.Sound seat)
    {outcome : Except Fault Unit} (closing : Closing state outcome after) : after.Sound seat := by
  cases closing with
  | idle => exact sound
  | closed current => exact sound.letGo current _

end Kept

end DexBrowser.Session

import DexBrowser.Proofs.Session.Attribute
import DexBrowser.Proofs.Session.Release

/-!
Opening and indexing an input. Main statements: what was loaded before stays as it is, and the new
load is left ready, or shut where its index could not be made.
-/

namespace DexBrowser.Session

open Managed Session.Action

/-! ## The engine -/

/-- The load that an engine makes of an input. -/
inductive Engine.Opens (files : Files.Tree) (path : Path) (options : LoadOptions) :
    Engine → Load → Prop
  | memory {validator : Validator} {amend : Heap → Heap} {image : Image} {count : Nat}
      (read : readImage validator files path options = .ok (image, count)) :
      Engine.Opens files path options (.memory validator amend) { heap := amend { image := image } }
  | machine {validator : Validator} {installation : Machine.Installation} {heap : Heap} :
      Engine.Opens files path options (.machine validator installation heap)
        { host := .machine true installation.known, heap := heap }

section Engine

variable {files : Files.Tree} {path : Path} {options : LoadOptions} {engine : Engine} {load : Load}

theorem Engine.Opens.alive (opens : engine.Opens files path options load) :
    load.alive = true := by
  cases opens <;> rfl

theorem Engine.Opens.attached (opens : engine.Opens files path options load) :
    load.attached = false := by
  cases opens <;> rfl

theorem Engine.Opens.calls (opens : engine.Opens files path options load) :
    load.calls = [] := by
  cases opens <;> rfl

end Engine

def State.push (state : State) (load : Load) : State :=
    { state with loads := state.loads ++ [load] }

@[simp] theorem State.push_getElem (state : State) (load : Load) :
    (state.push load).loads[state.loads.length]? = some load := by
  simp [State.push]

theorem State.push_old {state : State} {load old : Load} {n : Nat}
    (found : state.loads[n]? = some old) : (state.push load).loads[n]? = some old := by
  obtain ⟨bound, -⟩ := List.getElem?_eq_some_iff.mp found
  simpa [State.push, List.getElem?_append_left bound] using found

/-- An engine opens one load more, or refuses and leaves the session and the files as they were. -/
inductive Opened (engine : Engine) (path : Path) (options : LoadOptions) (before : Workspace) :
    Except Fault Nat × Workspace → Prop
  | refused (fault : Fault) (journal : List Line) :
      Opened engine path options before (.error fault, { before with journal := journal })
  | opened (load : Load) (journal : List Line)
      (opens : engine.Opens before.files path options load) :
      Opened engine path options before
        (.ok before.state.loads.length,
          { before with state := before.state.push load, journal := journal })

theorem opened_memory (validator : Validator) (amend : Heap → Heap) (path : Path)
    (options : LoadOptions) (before : Workspace) :
    Opened (.memory validator amend) path options before
      ((openArtifact validator amend path options).run before) := by
  rw [openArtifact, run_bind_ok (run_get before), run_bind, run_ofExcept]
  cases read : readImage validator before.files path options with
  | error fault => exact .refused fault before.journal
  | ok found => exact .opened _ _ (.memory read)

section Machine

variable (installation : Machine.Installation) (path : Path) (options : LoadOptions)
  (before : Workspace)

theorem run_startMachine : ∃ journal, (startMachine installation).run before =
    ((installation.start before.files).map fun _ => (), { before with journal := journal }) := by
  rw [startMachine, run_bind_ok (run_get before), run_bind, run_ofExcept]
  cases installation.start before.files with
  | error fault => exact ⟨before.journal, rfl⟩
  | ok launch => cases launch <;> exact ⟨_, rfl⟩

theorem run_noteClosing (thrown : Option String) :
    ∃ journal, (noteClosing thrown).run before = (.ok (), { before with journal := journal }) := by
  cases thrown <;> exact ⟨_, rfl⟩

theorem run_callMachine : ∃ journal, (callMachine installation path options).run before =
    ((installation.load path options).2, { before with journal := journal }) := by
  unfold callMachine
  generalize installation.load path options = calls
  obtain ⟨made, done⟩ := calls
  obtain ⟨journal, noted⟩ := run_noteClosing before
    (if made.contains Machine.closeCall then installation.throws Machine.closeCall else none)
  dsimp only
  rw [run_bind_ok noted, run_bind, run_ofExcept]
  cases done <;> exact ⟨_, rfl⟩

/-- How opening an input in a machine ends: the format is looked at, the machine is started, and the
calls are made. -/
def openingInMachine (files : Files.Tree) : Except Fault Unit :=
    if Machine.isSupported path then do
      let _ ← installation.start files
      (installation.load path options).2
    else .error (.load (.unsupportedFormat path))

theorem run_openInMachine (heap : Heap) :
    ∃ journal, (openInMachine installation heap path options).run before =
      match openingInMachine installation path options before.files with
      | .ok _ => (.ok before.state.loads.length,
          { before with
            state := before.state.push { host := .machine true installation.known, heap := heap }
            journal := journal })
      | .error fault => (.error fault, { before with journal := journal }) := by
  unfold openInMachine openingInMachine
  split
  · obtain ⟨journal, started⟩ := run_startMachine installation before
    rw [run_bind, started]
    cases installation.start before.files with
    | error fault => exact ⟨journal, rfl⟩
    | ok launch =>
        obtain ⟨written, called⟩ := run_callMachine installation path options
          { before with journal := journal }
        simp only [Except.map, bind, Except.bind]
        change ∃ journal, ((callMachine installation path options >>= fun _ => addLoad
          { host := .machine true installation.known, heap := heap } : Action Nat).run _) = _
        rw [run_bind, called]
        cases (installation.load path options).2 <;> exact ⟨written, rfl⟩
  · exact ⟨before.journal, rfl⟩

end Machine

theorem opened_machine (validator : Validator) (installation : Machine.Installation) (heap : Heap)
    (path : Path) (options : LoadOptions) (before : Workspace) :
    Opened (.machine validator installation heap) path options before
      ((openInMachine installation heap path options).run before) := by
  obtain ⟨journal, ran⟩ := run_openInMachine installation path options before heap
  rw [ran]
  cases openingInMachine installation path options before.files with
  | error fault => exact .refused fault journal
  | ok _ => exact .opened _ journal .machine

theorem opened_load (engine : Engine) (path : Path) (options : LoadOptions)
    (before : Workspace) :
    Opened engine path options before ((engine.load path options).run before) := by
  cases engine with
  | memory validator amend => exact opened_memory validator amend path options before
  | machine validator installation heap =>
      exact opened_machine validator installation heap path options before

/-! ## The index -/

def Owned (origin : LoadId) (host : Host) (named : List (String × Handle)) : Prop :=
    ∀ entry ∈ named, entry.2.Of origin host

theorem mem_addFirst {named : List (String × Handle)} {name : String} {h : Handle}
    {entry : String × Handle} (member : entry ∈ addFirst named name h) :
    entry ∈ named ∨ entry = (name, h) := by
  unfold addFirst at member
  split at member
  · exact .inl member
  · rcases List.mem_append.mp member with old | new
    · exact .inl old
    · exact .inr (List.mem_singleton.mp new)

section Index

variable {origin : LoadId} {host : Host} {holds : Workspace → Prop} {bad : Fault → Prop}

/-- Every entry of an index is a handle of something that was listed, under the name that it tells.
The faults that come of an answer that cannot be iterated over are those of the indexing. -/
theorem Usable.keeps_indexObjects (use : Usable origin host holds bad) {kind : Kind}
    (other : kind ≠ .access) {member : String} (asked : member ≠ Load.closeMember)
    {listed : Value → Prop} {fine : String → Handle → Prop}
    (answered : ∀ workspace load readers v, holds workspace →
      workspace.state.loads[origin.load]? = some load →
      load.answer readers (.object .decompiler) member [] = .ok v → listed v)
    (items : ∀ v, listed v → Ends (fun _ => True) bad (itemsOf v))
    (named : ∀ v targets, listed v → itemsOf v = .ok targets → ∀ h : Handle, h.Of origin host →
      h.kind = kind → h.target ∈ targets →
      (h.fullName : Action String).Keeps holds (fine · h) bad) :
    (indexObjects origin.load kind member).Keeps holds
      (fun found => ∀ entry ∈ found, entry.2.Of origin host ∧ fine entry.1 entry.2) bad := by
  have called := use.keeps_call false (.object .decompiler) asked [] answered
  refine keeps_bind called fun v isListed => ?_
  have given : (Action.ofExcept (itemsOf v)).Keeps holds (itemsOf v = .ok ·) bad :=
    keeps_ofExcept <| by
      have ends := items v isListed
      cases shape : itemsOf v with
      | ok targets => rfl
      | error fault =>
          rw [shape] at ends
          exact ends
  refine keeps_bind given fun targets listing => ?_
  refine keeps_foldlM ?_ [] (by simp)
  intro found all target isTarget
  refine keeps_bind (use.keeps_makeOther other target) fun h ⟨own, isKind, same⟩ => ?_
  refine keeps_bind (named v targets isListed listing h own isKind (same ▸ isTarget)) ?_
  intro name isName
  refine keeps_pure fun entry member => ?_
  rcases mem_addFirst member with old | rfl
  · exact all entry old
  · exact ⟨own, isName⟩

theorem Usable.keeps_indexOwned (use : Usable origin host holds bad) {kind : Kind}
    (other : kind ≠ .access) {member : String} (asked : member ≠ Load.closeMember)
    {listed : Value → Prop}
    (answered : ∀ workspace load readers v, holds workspace →
      workspace.state.loads[origin.load]? = some load →
      load.answer readers (.object .decompiler) member [] = .ok v → listed v)
    (items : ∀ v, listed v → Ends (fun _ => True) bad (itemsOf v)) :
    (indexObjects origin.load kind member).Keeps holds (Owned origin host) bad := by
  have named : ∀ v targets, listed v → itemsOf v = .ok targets → ∀ h : Handle, h.Of origin host →
      h.kind = kind → h.target ∈ targets →
      (h.fullName : Action String).Keeps holds (fun _ => True) bad := by
    intro _ _ _ _ h own _ _
    rw [← own.origin] at use
    exact use.respects_fullName
  exact (use.keeps_indexObjects other asked answered items named).mono
    (fun found all entry member => (all entry member).1) fun _ failed => failed

theorem Usable.keeps_index (use : Usable origin host holds bad) {listed : Value → Prop}
    (answered : ∀ workspace load readers v, ∀ member ∈ ["getClasses", "getPackages"],
      holds workspace → workspace.state.loads[origin.load]? = some load →
      load.answer readers (.object .decompiler) member [] = .ok v → listed v)
    (items : ∀ v, listed v → Ends (fun _ => True) bad (itemsOf v)) :
    (index origin.load).Keeps holds
      (fun found => Owned origin host found.1 ∧ Owned origin host found.2) bad := by
  have classes := use.keeps_indexOwned (show Kind.classNode ≠ .access by decide)
    (show "getClasses" ≠ Load.closeMember by decide)
    (fun workspace load readers v => answered workspace load readers v _ (by simp)) items
  have packages := use.keeps_indexOwned (show Kind.package ≠ .access by decide)
    (show "getPackages" ≠ Load.closeMember by decide)
    (fun workspace load readers v => answered workspace load readers v _ (by simp)) items
  refine keeps_bind classes fun found ownClasses => ?_
  refine keeps_bind packages fun others ownPackages => ?_
  exact keeps_bind (use.respects_log _ _ _) fun _ _ => keeps_pure ⟨ownClasses, ownPackages⟩

theorem Usable.keeps_indexAny (use : Usable origin host holds anyFault) :
    (index origin.load).Keeps holds
      (fun found => Owned origin host found.1 ∧ Owned origin host found.2) anyFault :=
  use.keeps_index (fun _ _ _ _ _ _ _ _ _ => trivial) fun _ _ => ends_any _

end Index

theorem State.Used.push {state after : State} {fresh : Load}
    (used : (state.push fresh).Used state.loads.length after)
    (lock : after.lock = state.lock) :
    ∃ load, fresh.Used load ∧ after = { state.push load with minted := after.minted } := by
  obtain ⟨load, found, usedLoad⟩ := used.used fresh (state.push_getElem fresh)
  refine ⟨load, usedLoad, ?_⟩
  have loads : after.loads = state.loads ++ [load] := by
    apply List.ext_getElem?
    intro m
    by_cases newest : m = state.loads.length
    · subst newest
      simpa using found
    · rw [used.others m newest, State.push]
      by_cases old : m < state.loads.length
      · simp [List.getElem?_append_left old]
      · have beyond : state.loads.length + 1 ≤ m := by omega
        rw [List.getElem?_eq_none (by simpa using beyond),
          List.getElem?_eq_none (by simpa using beyond)]
  have seat : after.seat = state.seat := used.seat
  have current : after.current = state.current := used.current
  obtain ⟨_, _, _, _, _⟩ := after
  simp only at seat lock loads current
  simp [State.push, seat, lock, loads, current]

/-! ## Opened and indexed -/

/-- Opens and indexes an input, which then takes the session's lock. -/
def prepare (engine : Engine) (path : Path) (options : LoadOptions) : Action Loaded := do
    let n ← engine.load path options
    let (classes, packages) ← indexOrClose path n
    attach n
    return ⟨path, options, n, classes, packages⟩

/-- An input that is opened and indexed, and the load that was made for it. -/
structure Ready (engine : Engine) (path : Path) (options : LoadOptions) (before : Workspace)
    (loaded : Loaded) (load : Load) : Prop where
  opened : ∃ fresh, engine.Opens before.files path options fresh ∧ fresh.Used load ∧
    ∃ within : Workspace, within.state.loads[loaded.load]? = some fresh ∧
      ((index loaded.load).run within).1 = .ok (loaded.classes, loaded.packages)
  newest : loaded.load = before.state.loads.length
  path : loaded.path = path
  options : loaded.options = options
  classes : Owned ⟨before.state.seat, loaded.load⟩ load.host loaded.classes
  packages : Owned ⟨before.state.seat, loaded.load⟩ load.host loaded.packages

/-- How opening and indexing ends, and in which state of the session. -/
inductive Prepared (engine : Engine) (path : Path) (options : LoadOptions)
    (before : Workspace) : Except Fault Loaded → State → Prop
  | refused (fault : Fault) :
      Prepared engine path options before (.error fault) before.state
  | broken {fault : Fault} {fresh load : Load} (minted : Nat) (within : Workspace)
      (opens : engine.Opens before.files path options fresh) (used : fresh.Used load)
      (found : within.state.loads[before.state.loads.length]? = some fresh)
      (failed : ((index before.state.loads.length).run within).1 = .error fault)
      (other : ∀ cause, fault ≠ .managed cause) :
      Prepared engine path options before (.error fault)
        { before.state.push load with minted := minted }
  | dropped {fault : Fault} {cause : ManagedCause} {fresh load : Load} (minted : Nat)
      (opens : engine.Opens before.files path options fresh) (used : fresh.Used load)
      (ended : (do load.closing before.state.lock.readers
                   .error (.load (.notIndexed path cause.message)) : Except Fault Loaded) =
        .error fault) :
      Prepared engine path options before (.error fault)
        { before.state.push (load.shut before.state.lock.readers) with minted := minted }
  | ready {loaded : Loaded} {load : Load} (minted : Nat)
      (ready : Ready engine path options before loaded load) :
      Prepared engine path options before (.ok loaded)
        { before.state.push { load with attached := true } with minted := minted }

theorem State.setLoad_push {workspace : Workspace} {state : State} {load : Load} {minted : Nat}
    (pushed : workspace.state = { state.push load with minted := minted }) (other : Load) :
    (workspace.setLoad state.loads.length other).state =
      { state.push other with minted := minted } := by
  simp [Workspace.setLoad, pushed, State.push]

theorem run_indexOrClose_managed (path : Path) {n : Nat} {before between : Workspace}
    {cause : ManagedCause} {load : Load}
    (failed : (index n).run before = (.error (.managed cause), between))
    (found : between.state.loads[n]? = some load) :
    ∃ fault journal, (indexOrClose path n).run before = (.error fault,
        { between.setLoad n (load.shut between.state.lock.readers) with journal := journal }) ∧
      (do load.closing between.state.lock.readers
          .error (.load (.notIndexed path cause.message)) : Except Fault Loaded) =
        .error fault := by
  obtain ⟨journal, shut⟩ := run_shut found
  have handled : (indexOrClose path n).run before = ((do
      (do invalidate n; closeDecompiler n : Action Unit)
      fail (.load (.notIndexed path cause.message))
        : Action (List (String × Handle) × List (String × Handle)))).run between := by
    rw [indexOrClose, run_catchManaged, failed]
    simp only [bind_assoc]
  rw [handled, run_bind, shut]
  cases load.closing between.state.lock.readers with
  | ok _ => exact ⟨_, journal, rfl, rfl⟩
  | error fault => exact ⟨fault, journal, rfl, rfl⟩

/-- Indexes an input that was opened as the given load, which then takes the session's lock. -/
def enlist (path : Path) (options : LoadOptions) (n : Nat) : Action Loaded := do
    let (classes, packages) ← indexOrClose path n
    attach n
    return ⟨path, options, n, classes, packages⟩

section Enlist

variable {path : Path} {options : LoadOptions} {n : Nat} {before between : Workspace} {load : Load}

theorem run_enlist {classes packages : List (String × Handle)}
    (indexed : (index n).run before = (.ok (classes, packages), between))
    (found : between.state.loads[n]? = some load) :
    (enlist path options n).run before =
      (.ok ⟨path, options, n, classes, packages⟩,
        between.setLoad n { load with attached := true }) := by
  have made : (indexOrClose path n).run before = (.ok (classes, packages), between) := by
    rw [indexOrClose, run_catchManaged, indexed]
  rw [enlist, run_bind_ok made, run_bind_ok (run_attach found), run_pure]

variable (path options) in
theorem run_enlist_managed {cause : ManagedCause}
    (failed : (index n).run before = (.error (.managed cause), between))
    (found : between.state.loads[n]? = some load) :
    ∃ fault journal, (enlist path options n).run before = (.error fault,
        { between.setLoad n (load.shut between.state.lock.readers) with journal := journal }) ∧
      (do load.closing between.state.lock.readers
          .error (.load (.notIndexed path cause.message)) : Except Fault Loaded) =
        .error fault := by
  obtain ⟨fault, journal, shut, ended⟩ := run_indexOrClose_managed path failed found
  refine ⟨fault, journal, ?_, ended⟩
  rw [enlist, run_bind, shut]

theorem run_enlist_other {fault : Fault}
    (failed : (index n).run before = (.error fault, between))
    (other : ∀ cause, fault ≠ .managed cause) :
    (enlist path options n).run before = (.error fault, between) := by
  rw [enlist, run_bind, indexOrClose, run_catchManaged_other other failed]

end Enlist

theorem prepared_enlist (engine : Engine) (path : Path) (options : LoadOptions)
    (before : Workspace) {fresh : Load} (journal : List Line)
    (opens : engine.Opens before.files path options fresh) :
    let run := (enlist path options before.state.loads.length).run
      { before with state := before.state.push fresh, journal := journal }
    Prepared engine path options before run.1 run.2.state ∧ run.2.files = before.files := by
  intro run
  have newest := State.push_getElem before.state fresh
  have use := usable_used newest (· = before.files)
  -- Whatever indexing comes to, it is a use of the new load and of no other.
  obtain ⟨⟨used, files⟩, lock, ends⟩ := use.keeps_indexAny
    { before with state := before.state.push fresh, journal := journal }
    ⟨State.Used.refl _ _, rfl⟩
  obtain ⟨load, usedLoad, state⟩ := used.push lock
  cases indexed : (index before.state.loads.length).run
      { before with state := before.state.push fresh, journal := journal } with
  | mk outcome between =>
      rw [indexed] at files lock ends state
      dsimp only at files lock ends state
      have indexing := congrArg Prod.fst indexed
      have found : between.state.loads[before.state.loads.length]? = some load := by
        rw [state]
        exact State.push_getElem before.state load
      have readers : between.state.lock.readers = before.state.lock.readers := by
        rw [lock, State.push]
      cases outcome with
      | ok named =>
          have done : run = _ := run_enlist indexed found
          rw [done, State.setLoad_push state]
          rw [← usedLoad.host] at ends
          exact ⟨.ready _ ⟨⟨fresh, opens, usedLoad, _, newest, indexing⟩, rfl, rfl, rfl, ends.1,
            ends.2⟩, files⟩
      | error fault =>
          by_cases managed : ∃ cause, fault = .managed cause
          case pos =>
              obtain ⟨cause, rfl⟩ := managed
              obtain ⟨fault, written, shut, ended⟩ := run_enlist_managed _ _ indexed found
              rw [readers] at shut ended
              have done : run = _ := shut
              rw [done]
              dsimp only
              rw [State.setLoad_push state]
              exact ⟨.dropped _ opens usedLoad ended, files⟩
          case neg =>
              have other : ∀ cause, fault ≠ .managed cause := fun cause same =>
                managed ⟨cause, same⟩
              have done : run = _ := run_enlist_other indexed other
              rw [done]
              dsimp only
              rw [state]
              exact ⟨.broken _ _ opens usedLoad newest indexing other, files⟩

/-- Whatever comes of it, what was loaded before stays and nothing is written. -/
theorem prepared_prepare (engine : Engine) (path : Path) (options : LoadOptions)
    (before : Workspace) :
    let run := (prepare engine path options).run before
    Prepared engine path options before run.1 run.2.state ∧ run.2.files = before.files := by
  intro run
  have opened := opened_load engine path options before
  have first : run = (engine.load path options >>= enlist path options).run before := rfl
  rw [run_bind] at first
  generalize (engine.load path options).run before = result at opened first
  cases opened with
  | refused fault journal =>
      rw [first]
      exact ⟨.refused fault, rfl⟩
  | opened fresh journal opens =>
      rw [first]
      exact prepared_enlist engine path options before journal opens

end DexBrowser.Session

import DexBrowser.Proofs.Session.Guarding

/-!
Threads that nobody comes between. Main statements: the steps of a thread, done one after another,
come to what asking through a handle, closing and loading come to; and outside of sections nothing
in memory is called.
-/

namespace DexBrowser.Session

open Managed Session.Action

/-! ## Worlds with one session replaced -/

namespace World

/-- The world with a workspace in the place of one of its sessions, which had the given number of
loads before. -/
def put (world : World) (seat known : Nat) (workspace : Workspace) : World :=
    { world with
      sessions := world.sessions.set seat workspace.state
      files := workspace.files
      journal := workspace.journal
      opened := world.opened ++ newLoads seat known workspace.state.loads.length }

theorem newLoads_append (seat : Nat) {first second third : Nat} (one : first ≤ second)
    (two : second ≤ third) :
    newLoads seat first second ++ newLoads seat second third = newLoads seat first third := by
  obtain ⟨m, rfl⟩ := Nat.exists_eq_add_of_le one
  obtain ⟨n, rfl⟩ := Nat.exists_eq_add_of_le two
  have whole : first + m + n - first = m + n := by omega
  have front : first + m - first = m := by omega
  have back : first + m + n - (first + m) = n := by omega
  rw [newLoads, newLoads, newLoads, whole, front, back, List.range_add]
  simp [Nat.add_assoc, Function.comp_def]

section Put

variable {world : World} {seat : Nat} {state : State}

theorem run_eq_put (found : world.sessions[seat]? = some state) (action : Action α) :
    world.run seat action =
      ((action.run ⟨state, world.files, world.journal⟩).1,
        world.put seat state.loads.length
          (action.run ⟨state, world.files, world.journal⟩).2) := by
  simp [World.run, found, put]

theorem run_put (found : world.sessions[seat]? = some state) {workspace : Workspace}
    (grown : state.loads.length ≤ workspace.state.loads.length) {action : Action α}
    (grows : workspace.state.loads.length ≤ (action.run workspace).2.state.loads.length) :
    (world.put seat state.loads.length workspace).run seat action =
      ((action.run workspace).1,
        world.put seat state.loads.length (action.run workspace).2) := by
  obtain ⟨bound, -⟩ := List.getElem?_eq_some_iff.mp found
  have atSeat : (world.put seat state.loads.length workspace).sessions[seat]? =
      some workspace.state := by
    simp [put, bound]
  rw [run_eq_put atSeat]
  simp [put, newLoads_append seat grown grows]

end Put

end World

@[simp] theorem run_turnLock (change : Lock → Lock) (workspace : Workspace) :
    (turnLock change).run workspace = (.ok (), setLock change workspace) := rfl

/-! ## Asking through a handle -/

namespace Question

def alone (world : World) (h : Handle) : Question → Action Unit
  | member name arguments => do
      let _ ← h.invokeWith name arguments
  | text => do
      let _ ← h.toText
  | hash => do
      let _ ← h.hash
  | equals other => do
      let _ ← h.equals (world.peer (World.originOf h) other)

end Question

theorem run_discard (action : Action α) (workspace : Workspace) :
    (do let _ ← action : Action Unit).run workspace =
      ((action.run workspace).1.map fun _ => (), (action.run workspace).2) := by
  rw [run_bind]
  rcases action.run workspace with ⟨_ | _, _⟩ <;> rfl

theorem failed_map (outcome : Except Fault α) (f : α → β) :
    failed (outcome.map f) = failed outcome := by
  cases outcome with
  | ok _ => rfl
  | error fault => cases fault <;> rfl

section Inside

variable {workspace : Workspace} {h : Handle} {load : Load}

theorem run_checkAlive (found : workspace.state.loads[h.load]? = some load) :
    h.checkAlive.run workspace =
      (if load.alive then .ok () else .error (.managed (.stale h.kind.name)), workspace) := by
  rw [Handle.checkAlive, run_bind_ok (run_loadAt found)]
  cases load.alive <;> rfl

theorem run_shared (found : workspace.state.loads[h.load]? = some load)
    (attached : load.attached = true) (admitted : workspace.state.lock.admits .shared = true)
    (action : Action α) :
    let inside := action.run (setLock (·.enter .shared) workspace)
    (shared h.load action).run workspace = (inside.1, setLock (·.leave .shared) inside.2) := by
  rw [shared, run_bind_ok (run_loadAt found), if_pos attached]
  simp [inSection, admitted]

theorem peer_alive (world : World) (origin : LoadId) (other : Handle) :
    (world.peer origin other).alive = world.lives (World.originOf other) := by
  unfold World.peer World.lives
  cases world.load? (World.originOf other) <;> rfl

theorem run_alone {world : World} {asked : Question}
    (found : workspace.state.loads[h.load]? = some load) (attached : load.attached = true)
    (admitted : workspace.state.lock.admits .shared = true) (alive : load.alive = true)
    (others : ∀ g ∈ asked.others, world.lives (World.originOf g) = true) :
    let inside := (asked.call world h).run (setLock (·.enter .shared) workspace)
    let left := setLock (·.leave .shared) inside.2
    ((asked.alone world h).run workspace).2 =
      if asked.fallsBack && failed inside.1 then ((Aside.fallback.ask h).run left).2 else left := by
  have within : (setLock (·.enter .shared) workspace).state.loads[h.load]? = some load := found
  have checked := run_checkAlive within
  rw [if_pos alive] at checked
  intro inside left
  cases asked with
  | member name arguments =>
      have done : inside = _ := run_discard _ _
      rw [Question.alone, run_discard, Handle.invokeWith, run_shared found attached admitted,
        run_bind_ok checked]
      simp [left, done, Question.fallsBack]
  | hash =>
      have done : inside = _ := run_discard _ _
      rw [Question.alone, run_discard, Handle.hash, run_shared found attached admitted,
        run_bind_ok checked]
      simp [left, done, Question.fallsBack]
  | equals other =>
      have done : inside = _ := run_discard _ _
      have otherAlive : (world.peer (World.originOf h) other).alive = true := by
        rw [peer_alive]
        exact others other (by simp [Question.others])
      rw [Question.alone, run_discard, Handle.equals, run_shared found attached admitted,
        run_bind_ok checked]
      simp [left, done, Question.fallsBack, otherAlive]
  | text =>
      have done : inside = _ := run_discard _ _
      rw [Question.alone, run_discard, Handle.toText, run_catchManaged,
        run_shared found attached admitted, run_bind_ok checked]
      have asks : ∀ between, ((Aside.fallback.ask h).run between).2 =
          (h.fallbackText.run between).2 :=
        fun between => by rw [Aside.ask, run_discard]
      simp only [left, done, Question.fallsBack, Bool.true_and, failed_map, asks]
      rcases (Remote.toText h.load true h.target).run (setLock (·.enter .shared) workspace) with
        ⟨fault | _, between⟩
      · cases fault <;> rfl
      · rfl

theorem run_alone_dead (world : World) {asked : Question}
    (found : workspace.state.loads[h.load]? = some load) (attached : load.attached = true)
    (admitted : workspace.state.lock.admits .shared = true) (dead : load.alive = false) :
    let left := setLock (·.leave .shared) (setLock (·.enter .shared) workspace)
    ((asked.alone world h).run workspace).2 =
      if asked.fallsBack then ((Aside.fallback.ask h).run left).2 else left := by
  have within : (setLock (·.enter .shared) workspace).state.loads[h.load]? = some load := found
  have checked := run_checkAlive within
  rw [dead, if_neg Bool.false_ne_true] at checked
  intro left
  cases asked with
  | member name arguments =>
      rw [Question.alone, run_discard, Handle.invokeWith, run_shared found attached admitted,
        run_bind, checked]
      rfl
  | hash =>
      rw [Question.alone, run_discard, Handle.hash, run_shared found attached admitted, run_bind,
        checked]
      rfl
  | equals other =>
      rw [Question.alone, run_discard, Handle.equals, run_shared found attached admitted, run_bind,
        checked]
      rfl
  | text =>
      rw [Question.alone, run_discard, Handle.toText, run_catchManaged,
        run_shared found attached admitted, run_bind, checked]
      exact (congrArg Prod.snd (run_discard h.fallbackText left)).symm

theorem run_alone_otherDead {world : World} {other : Handle}
    (found : workspace.state.loads[h.load]? = some load) (attached : load.attached = true)
    (admitted : workspace.state.lock.admits .shared = true) (alive : load.alive = true)
    (dead : world.lives (World.originOf other) = false) :
    (((Question.equals other).alone world h).run workspace).2 =
      setLock (·.leave .shared) (setLock (·.enter .shared) workspace) := by
  have within : (setLock (·.enter .shared) workspace).state.loads[h.load]? = some load := found
  have checked := run_checkAlive within
  rw [if_pos alive] at checked
  have otherDead : (world.peer (World.originOf h) other).alive = false := by
    rw [peer_alive, dead]
  rw [Question.alone, run_discard, Handle.equals, run_shared found attached admitted,
    run_bind_ok checked]
  simp [otherDead, run_bind]

end Inside

/-! ## Asking outside of sections -/

section Aside

variable {n : Nat} {load : Load}

theorem respects_looking {step : Load → Except Fault α × Load} (looks : (step load).2 = load) :
    (onLoad n step).Respects (fun workspace => workspace.state.loads[n]? = some load)
      anyFault := by
  refine keeps_onLoad (fun _ _ _ => trivial) fun workspace other held found => ⟨?_, ends_any _⟩
  obtain rfl := Option.some.inj (held.symm.trans found)
  rw [looks, Workspace.setLoad_self held]
  exact held

theorem className_memory (memory : load.host = .memory) (byHandle : Bool) (readers : Nat)
    (cls : Value) : (load.className byHandle readers cls).2 = load := by
  simp only [Load.className, memory]
  split <;> rfl

theorem classOf_memory (memory : load.host = .memory) (byHandle : Bool) (readers : Nat)
    (target : Value) : (load.classOf byHandle readers target).2 = load := by
  simp only [Load.classOf, memory]
  split <;> rfl

/-- Nothing in memory is called outside of sections. -/
theorem respects_aside_memory (memory : load.host = .memory) (h : Handle) (asked : Aside) :
    (asked.ask h).Respects (fun workspace => workspace.state.loads[h.load]? = some load)
      anyFault := by
  have named (cls : Value) : (Remote.className h.load true cls).Respects
      (fun workspace => workspace.state.loads[h.load]? = some load) anyFault :=
    keeps_bind respects_readers fun readers _ =>
      respects_looking (className_memory memory true readers cls)
  cases asked with
  | className => exact keeps_bind (named h.reflected) fun _ _ => respects_pure _
  | fallback =>
      have identified : (Remote.identity h.load h.target).Respects
          (fun workspace => workspace.state.loads[h.load]? = some load) anyFault :=
        respects_looking rfl
      have name := respects_catchManaged (named h.reflected) fun _ => respects_pure h.kind.name
      have addressed : (Remote.address h.load h.target).Respects
          (fun workspace => workspace.state.loads[h.load]? = some load) anyFault :=
        respects_looking rfl
      have identity := respects_catchManaged identified fun _ => addressed
      exact keeps_bind (keeps_bind name fun _ _ => keeps_bind identity fun _ _ => respects_pure _)
        fun _ _ => respects_pure _
  | wrap kind target =>
      have reflected : (Remote.classOf h.load true target).Respects
          (fun workspace => workspace.state.loads[h.load]? = some load) anyFault :=
        keeps_bind respects_readers fun readers _ =>
          respects_looking (classOf_memory memory true readers target)
      have counted : Handle.mint.Respects
          (fun workspace => workspace.state.loads[h.load]? = some load) anyFault :=
        keeps_bind respects_state fun _ _ =>
          keeps_bind (fun _ held => ⟨held, rfl, ends_any _⟩) fun _ _ => respects_pure _
      have checked (cls : Value) : (Handle.checkClass h.load kind target cls).Respects
          (fun workspace => workspace.state.loads[h.load]? = some load) anyFault := by
        unfold Handle.checkClass
        split
        · exact respects_pure _
        · refine keeps_bind (respects_looking rfl) fun isInstance _ => ?_
          split
          · exact keeps_bind (named cls) fun _ _ => keeps_fail trivial
          · exact respects_pure _
      have made : (Handle.bare h.load kind target none).Respects
          (fun workspace => workspace.state.loads[h.load]? = some load) anyFault := by
        have rest := keeps_bind reflected fun cls _ => keeps_bind (checked cls) fun _ _ =>
          keeps_bind respects_state fun state _ => keeps_bind counted fun serial _ =>
            respects_pure (⟨state.seat, h.load, serial, kind, target, cls, ⟨0⟩⟩ : Handle)
        unfold Handle.bare
        dsimp only
        split
        · have refused : (fail (.managed (.nullReference kind.name)) : Action Unit).Respects
              (fun workspace => workspace.state.loads[h.load]? = some load) anyFault :=
            keeps_fail trivial
          exact keeps_bind refused fun _ _ => rest
        · exact rest
      exact keeps_bind made fun _ _ => respects_pure _

end Aside

/-! ## Replacing the current input -/

theorem run_replace_pieces {workspace : Workspace} {previous : Loaded} {load : Load}
    (current : workspace.state.current = some previous)
    (found : workspace.state.loads[previous.load]? = some load) (loaded : Option Loaded) :
    let replaced := ((replaceCurrent loaded).run workspace).2
    let dead := ((invalidate previous.load).run replaced).2
    ((replace loaded).run workspace).2 = ((closePrevious previous).run dead).2 := by
  intro replaced dead
  have taken : (replaceCurrent loaded).run workspace =
      (.ok workspace.state.current, replaced) := rfl
  have stillFound : replaced.state.loads[previous.load]? = some load := found
  have cut : (invalidate previous.load).run replaced = (.ok (), dead) := by
    simp only [dead, run_invalidate stillFound]
  rw [replace, run_bind_ok taken, current]
  exact congrArg Prod.snd (run_bind_ok cut fun _ => closePrevious previous)

theorem length_closePrevious (workspace : Workspace) (previous : Loaded) :
    ((closePrevious previous).run workspace).2.state.loads.length =
      workspace.state.loads.length := by
  cases found : workspace.state.loads[previous.load]? with
  | none =>
      have absent : (closePrevious previous).run workspace = (.error .notLoaded, workspace) := by
        rw [closePrevious, run_bind, closeDecompiler, run_bind, loadAt, run_onLoad_none found]
      rw [absent]
  | some load =>
      obtain ⟨journal, closed⟩ := run_closeDecompiler found
      rw [closePrevious, run_bind, closed]
      cases load.closing workspace.state.lock.readers <;> simp [Workspace.setLoad]

theorem run_exclusively {workspace : Workspace}
    (admitted : workspace.state.lock.admits .exclusive = true)
    (action : Action α) :
    ((inSection .exclusive action).run workspace).2 =
      setLock (·.leave .exclusive) (action.run (setLock (·.enter .exclusive) workspace)).2 := by
  simp [inSection, admitted]

theorem run_takeOver (engine : Engine) (path : Path) (options : LoadOptions) (before : Workspace) :
    ((takeOver engine path options).run before).2 =
      match (prepare engine path options).run before with
      | (.ok loaded, ready) => ((replace (some loaded)).run ready).2
      | (.error _, refused) => refused := by
  rw [takeOver_eq, run_bind]
  rcases (prepare engine path options).run before with ⟨_ | loaded, between⟩
  · rfl
  · dsimp only
    rw [run_bind]
    rcases (replace (some loaded)).run between with ⟨_ | _, _⟩ <;> rfl

theorem Prepared.grown {engine : Engine} {path : Path} {options : LoadOptions}
    {before : Workspace} {outcome : Except Fault Loaded} {after : State}
    (prepared : Prepared engine path options before outcome after) :
    before.state.loads.length ≤ after.loads.length := by
  cases prepared <;> simp [State.push]

/-! ## The steps of a thread that reads -/

namespace Threads

variable {Actor : Type} [DecidableEq Actor] {threads : Threads Actor} {actor : Actor}

theorem run_append (first second : List (Move Actor)) :
    threads.run (first ++ second) = (threads.run first).run second :=
  List.foldl_append

theorem run_checks {h : Handle} {asked : Question} (idle : (threads.stage actor).isIdle = true)
    (known : threads.knows h = true) (plain : asked.isPlain = true)
    (admitted : threads.admits h.seat .shared = true)
    (alive : ∀ g ∈ h :: asked.others, threads.world.lives (World.originOf g) = true) :
    threads.run
        (.start actor (.use h asked) :: List.replicate (asked.others.length + 1) (.goOn actor)) =
      (threads.enter actor h.seat .shared).moveTo actor (.checking h asked []) := by
  have lives (id : LoadId) : (threads.enter actor h.seat .shared).world.lives id =
      threads.world.lives id :=
    threads.world.lives_turned h.seat (·.enter .shared) id
  obtain ⟨first, rest⟩ := List.forall_mem_cons.mp alive
  cases asked <;>
    simp_all [Threads.run, Threads.perform, Threads.start, Threads.goOn, Threads.moveTo,
      Question.others]

theorem run_call {h : Handle} {asked : Question}
    (checked : threads.stage actor = .checking h asked []) :
    let called := threads.world.run h.seat (asked.call threads.world h)
    let left := (called.2.run h.seat (turnLock (·.leave .shared))).2
    threads.run (List.replicate 4 (.goOn actor)) =
      { world :=
          if asked.fallsBack && failed called.1 then (left.run h.seat (Aside.fallback.ask h)).2
          else left
        opened := threads.opened.erase (actor, h.seat, .shared)
        stage := Function.update threads.stage actor .idle } := by
  intro called left
  cases falls : asked.fallsBack && failed called.1 with
  | false =>
      simp [Threads.run, Threads.perform, Threads.goOn, Threads.moveTo, Threads.leave, act, checked,
        List.replicate, falls, called, left] 
  | true =>
      simp [Threads.run, Threads.perform, Threads.goOn, Threads.moveTo, Threads.leave, act, checked,
        List.replicate, falls, called, left] 

theorem run_refused {h : Handle} {asked : Question} (idle : (threads.stage actor).isIdle = true)
    (known : threads.knows h = true) (plain : asked.isPlain = true)
    (admitted : threads.admits h.seat .shared = true)
    (dead : threads.world.lives (World.originOf h) = false) :
    let entered := (threads.world.run h.seat (turnLock (·.enter .shared))).2
    let left := (entered.run h.seat (turnLock (·.leave .shared))).2
    threads.run (.start actor (.use h asked) :: List.replicate 3 (.goOn actor)) =
      { threads with
        world := if asked.fallsBack then (left.run h.seat (Aside.fallback.ask h)).2 else left
        stage := Function.update threads.stage actor .idle } := by
  intro entered left
  cases falls : asked.fallsBack <;>
    simp [Threads.run, Threads.perform, Threads.start, Threads.goOn, Threads.moveTo, Threads.enter,
      Threads.leave, act, idle, known, plain, admitted, dead, World.lives_turned, falls, entered,
      left]

theorem run_otherRefused {h other : Handle} (idle : (threads.stage actor).isIdle = true)
    (known : threads.knows h = true) (admitted : threads.admits h.seat .shared = true)
    (alive : threads.world.lives (World.originOf h) = true)
    (dead : threads.world.lives (World.originOf other) = false) :
    let entered := (threads.world.run h.seat (turnLock (·.enter .shared))).2
    threads.run (.start actor (.use h (.equals other)) :: List.replicate 3 (.goOn actor)) =
      { threads with
        world := (entered.run h.seat (turnLock (·.leave .shared))).2
        stage := Function.update threads.stage actor .idle } := by
  intro entered
  simp [Threads.run, Threads.perform, Threads.start, Threads.goOn, Threads.moveTo, Threads.enter,
    Threads.leave, act, idle, known, admitted, alive, dead, World.lives_turned, entered,
    Question.isPlain, Question.others, Question.fallsBack]

theorem call_turned (world : World) (seat : Nat) (change : Lock → Lock) (h : Handle)
    (asked : Question) :
    asked.call (world.run seat (turnLock change)).2 h = asked.call world h := by
  cases asked <;> simp [Question.call, World.peer, World.load?_turned]

theorem eq_idle {stage : Stage} (idle : stage.isIdle = true) : stage = .idle := by
  cases stage <;> first | rfl | contradiction

/-- A thread that nobody comes between asks as the session's handle does. -/
theorem run_use_alone {h : Handle} {asked : Question}
    (idle : (threads.stage actor).isIdle = true) (known : threads.knows h = true)
    (plain : asked.isPlain = true) (admitted : threads.admits h.seat .shared = true) :
    ∃ k, threads.run (.start actor (.use h asked) :: List.replicate k (.goOn actor)) =
      { threads with
        world := (threads.world.run h.seat (asked.alone threads.world h)).2 } := by
  obtain ⟨load, atLoad, attached⟩ := (Option.any_eq_true _ _).mp known
  obtain ⟨state, found, admits⟩ := admits_iff.mp admitted
  let before : Workspace := ⟨state, threads.world.files, threads.world.journal⟩
  have atBefore : before.state.loads[h.load]? = some load := by
    simpa [World.load?, World.originOf, found] using atLoad
  have stays : Function.update threads.stage actor .idle = threads.stage := by
    rw [← eq_idle idle, Function.update_eq_self]
  have lives : threads.world.lives (World.originOf h) = load.alive := by
    simp [World.lives, atLoad]
  let within (workspace : Workspace) : World :=
    threads.world.put h.seat state.loads.length workspace
  -- Every step is a run in the session that opens no load, so that all of them are one.
  have entered : (threads.world.run h.seat (turnLock (·.enter .shared))).2 =
      within (setLock (·.enter .shared) before) :=
    congrArg Prod.snd (World.run_eq_put found _)
  have done := World.run_eq_put found (asked.alone threads.world h)
  have left (workspace : Workspace) (same : workspace.state.loads.length = state.loads.length) :
      ((within workspace).run h.seat (turnLock (·.leave .shared))).2 =
        within (setLock (·.leave .shared) workspace) :=
    congrArg Prod.snd (World.run_put found (Nat.le_of_eq same.symm) (Nat.le_refl _))
  have aside (workspace : Workspace) (same : workspace.state.loads.length = state.loads.length) :
      ((within workspace).run h.seat (Aside.fallback.ask h)).2 =
        within ((Aside.fallback.ask h).run workspace).2 :=
    congrArg Prod.snd (World.run_put found (Nat.le_of_eq same.symm)
      (Nat.le_of_eq ((uses_aside h .fallback).run workspace).1.length.symm))
  cases alive : load.alive with
  | false =>
      refine ⟨3, ?_⟩
      rw [run_refused idle known plain admitted (lives.trans alive), stays, done,
        run_alone_dead threads.world atBefore attached admits alive]
      dsimp only
      rw [entered, left _ rfl, aside _ rfl]
      cases asked.fallsBack <;> rfl
  | true =>
      by_cases others : ∀ g ∈ asked.others, threads.world.lives (World.originOf g) = true
      · refine ⟨asked.others.length + 1 + 4, ?_⟩
        have all : ∀ g ∈ h :: asked.others, threads.world.lives (World.originOf g) = true :=
          List.forall_mem_cons.mpr ⟨lives.trans alive, others⟩
        let inside : Workspace := setLock (·.enter .shared) before
        have length := ((uses_call threads.world h plain).run inside).1.length
        have called : (within inside).run h.seat (asked.call threads.world h) =
            (_, within ((asked.call threads.world h).run inside).2) :=
          World.run_put found (Nat.le_refl inside.state.loads.length)
            (Nat.le_of_eq length.symm)
        have same : asked.call (within inside) h = asked.call threads.world h := by
          rw [← entered, call_turned]
        rw [List.replicate_add, ← List.cons_append, run_append,
          run_checks idle known plain admitted all, run_call (Function.update_self ..), done,
          run_alone atBefore attached admits alive others]
        simp only [Threads.moveTo, Threads.enter, act, Function.update_idem, stays,
          List.erase_cons_head, entered]
        rw [same, called, left _ length, aside (setLock _ _) length]
        split <;> rfl
      · obtain ⟨other, member, otherDead⟩ : ∃ g ∈ asked.others,
            threads.world.lives (World.originOf g) = false := by simpa using others
        cases asked with
        | member | text | hash => simp [Question.others] at member
        | equals one =>
            obtain rfl : other = one := by simpa [Question.others] using member
            refine ⟨3, ?_⟩
            rw [run_otherRefused idle known admitted (lives.trans alive) otherDead, stays, done,
              run_alone_otherDead atBefore attached admits alive otherDead]
            dsimp only
            rw [entered, left _ rfl]

/-! ## The steps of a thread that writes -/

theorem run_opening_failed {seat : Nat} {engine : Engine} {path : Path} {options : LoadOptions}
    {fault : Fault} (stage : threads.stage actor = .opening seat engine path options)
    (failed : (threads.world.run seat (prepare engine path options)).1 = .error fault) :
    threads.run (List.replicate 2 (.goOn actor)) =
      { world := ((threads.world.run seat (prepare engine path options)).2.run seat
          (turnLock (·.leave .exclusive))).2
        opened := threads.opened.erase (actor, seat, .exclusive)
        stage := Function.update threads.stage actor .idle } := by
  simp [Threads.run, Threads.perform, Threads.goOn, Threads.moveTo, Threads.leave, act, stage,
    failed, List.replicate]

theorem run_replace_empty {seat : Nat} {loaded : Option Loaded}
    (stage : threads.stage actor = .replacing seat loaded)
    (empty : threads.world.current seat = none) :
    threads.run (List.replicate 2 (.goOn actor)) =
      { world := ((threads.world.run seat (replaceCurrent loaded)).2.run seat
          (turnLock (·.leave .exclusive))).2
        opened := threads.opened.erase (actor, seat, .exclusive)
        stage := Function.update threads.stage actor .idle } := by
  simp [Threads.run, Threads.perform, Threads.goOn, Threads.moveTo, Threads.leave, act, stage,
      empty,
    List.replicate]

theorem run_replace_current {seat : Nat} {loaded : Option Loaded} {previous : Loaded}
    (stage : threads.stage actor = .replacing seat loaded)
    (current : threads.world.current seat = some previous) :
    threads.run (List.replicate 4 (.goOn actor)) =
      { world := ((((threads.world.run seat (replaceCurrent loaded)).2.run seat
          (invalidate previous.load)).2.run seat (closePrevious previous)).2.run seat
            (turnLock (·.leave .exclusive))).2
        opened := threads.opened.erase (actor, seat, .exclusive)
        stage := Function.update threads.stage actor .idle } := by
  simp [Threads.run, Threads.perform, Threads.goOn, Threads.moveTo, Threads.leave, act, stage,
    current, List.replicate]

/-- In a world with one session in the making, to replace its input step by step is to replace it.
-/
theorem run_replace_alone {world : World} {seat : Nat} {state : State}
    (found : world.sessions[seat]? = some state) {workspace : Workspace}
    (grown : state.loads.length ≤ workspace.state.loads.length)
    (anchored : ∀ previous, workspace.state.current = some previous →
      previous.load < workspace.state.loads.length)
    (within : threads.world = world.put seat state.loads.length workspace) {loaded : Option Loaded}
    (stage : threads.stage actor = .replacing seat loaded) :
    ∃ k, threads.run (List.replicate k (.goOn actor)) =
      { world := world.put seat state.loads.length
          (setLock (·.leave .exclusive) ((replace loaded).run workspace).2)
        opened := threads.opened.erase (actor, seat, .exclusive)
        stage := Function.update threads.stage actor .idle } := by
  -- None of the steps opens a load.
  have follows (between : Workspace) (action : Action Unit)
      (length : (action.run between).2.state.loads.length = between.state.loads.length)
      (grown : state.loads.length ≤ between.state.loads.length) :
      ((world.put seat state.loads.length between).run seat action).2 =
        world.put seat state.loads.length (action.run between).2 :=
    congrArg Prod.snd (World.run_put found grown (Nat.le_of_eq length.symm))
  let replaced := ((replaceCurrent loaded).run workspace).2
  have taken : ((world.put seat state.loads.length workspace).run seat (replaceCurrent loaded)).2 =
      world.put seat state.loads.length replaced :=
    congrArg Prod.snd (World.run_put found grown (Nat.le_refl _))
  have isCurrent : threads.world.current seat = workspace.state.current := by
    rw [within]
    exact World.current_set found rfl
  cases current : workspace.state.current with
  | none =>
      refine ⟨2, ?_⟩
      rw [run_replace_empty stage (isCurrent.trans current), within, taken,
        follows replaced _ rfl grown, run_replace_none current]
      rfl
  | some previous =>
      refine ⟨4, ?_⟩
      have bound := anchored previous current
      have atLoad : replaced.state.loads[previous.load]? =
          some workspace.state.loads[previous.load] := List.getElem?_eq_getElem bound
      let dead := ((invalidate previous.load).run replaced).2
      have length : dead.state.loads.length = workspace.state.loads.length := by
        simp only [dead, run_invalidate atLoad, Workspace.setLoad, List.length_set]
        rfl
      have closedLength := length_closePrevious dead previous
      have deadGrown := Nat.le_trans grown (Nat.le_of_eq length.symm)
      rw [run_replace_current stage (isCurrent.trans current), within, taken,
        follows replaced _ length grown, follows dead _ closedLength deadGrown,
        follows _ _ rfl (Nat.le_trans deadGrown (Nat.le_of_eq closedLength.symm)),
        run_replace_pieces current (List.getElem?_eq_getElem bound)]
      rfl

theorem run_close_alone (sound : threads.Sound) {seat : Nat}
    (idle : (threads.stage actor).isIdle = true)
    (admitted : threads.admits seat .exclusive = true) :
    ∃ k, threads.run (.start actor (.close seat) :: List.replicate k (.goOn actor)) =
      { threads with world := (threads.world.run seat close).2 } := by
  obtain ⟨state, found, admits⟩ := admits_iff.mp admitted
  let before : Workspace := ⟨state, threads.world.files, threads.world.journal⟩
  have stays : Function.update threads.stage actor .idle = threads.stage := by
    rw [← eq_idle idle, Function.update_eq_self]
  let entered := (threads.enter actor seat .exclusive).moveTo actor (.replacing seat none)
  have first : threads.run [.start actor (.close seat)] = entered := by
    simp [Threads.run, Threads.perform, Threads.start, idle, admitted, entered]
  have within : entered.world =
      threads.world.put seat state.loads.length (setLock (·.enter .exclusive) before) :=
    congrArg Prod.snd (World.run_eq_put found _)
  have stage : entered.stage actor = .replacing seat none := Function.update_self ..
  obtain ⟨k, rest⟩ := run_replace_alone found (Nat.le_refl state.loads.length)
    (sound.firm seat state found).anchored within stage
  refine ⟨k, ?_⟩
  have done := World.run_eq_put found close
  rw [close_eq, run_exclusively admits] at done
  rw [← List.singleton_append, run_append, first, rest, close_eq, done]
  simp [entered, Threads.moveTo, Threads.enter, act, stays, before]

theorem run_load_alone (sound : threads.Sound) {seat : Nat} (engine : Engine) (path : Path)
    (options : LoadOptions) (idle : (threads.stage actor).isIdle = true)
    (admitted : threads.admits seat .exclusive = true) :
    ∃ k, threads.run
        (.start actor (.load seat engine path options) :: List.replicate k (.goOn actor)) =
      { threads with
        world := (threads.world.run seat
          (inSection .exclusive (takeOver engine path options))).2 } := by
  obtain ⟨state, found, admits⟩ := admits_iff.mp admitted
  let before : Workspace := ⟨state, threads.world.files, threads.world.journal⟩
  let inside : Workspace := setLock (·.enter .exclusive) before
  have stays : Function.update threads.stage actor .idle = threads.stage := by
    rw [← eq_idle idle, Function.update_eq_self]
  let entered := (threads.enter actor seat .exclusive).moveTo actor
    (.opening seat engine path options)
  have first : threads.run [.start actor (.load seat engine path options)] = entered := by
    simp [Threads.run, Threads.perform, Threads.start, idle, admitted, entered]
  have within : entered.world = threads.world.put seat state.loads.length inside :=
    congrArg Prod.snd (World.run_eq_put found _)
  have atOpening : entered.stage actor = .opening seat engine path options :=
    Function.update_self ..
  have prepared := (prepared_prepare engine path options inside).1
  have grown : state.loads.length ≤ _ := prepared.grown
  have opened : entered.world.run seat (prepare engine path options) =
      (((prepare engine path options).run inside).1,
        threads.world.put seat state.loads.length
          ((prepare engine path options).run inside).2) := by
    rw [within, World.run_put found (Nat.le_refl inside.state.loads.length) grown]
  have done := World.run_eq_put found (inSection .exclusive (takeOver engine path options))
  rw [run_exclusively admits, run_takeOver] at done
  have firm : inside.state.Firm :=
    ⟨(sound.firm seat state found).unclosed, (sound.firm seat state found).anchored⟩
  have ready := prepared.mild.firm firm
  cases outcome : (prepare engine path options).run inside with
  | mk result between =>
      rw [outcome] at opened grown ready
      cases result with
      | error fault =>
          have kept : between.state.loads.length ≤
              ((turnLock (·.leave .exclusive)).run between).2.state.loads.length := Nat.le_refl _
          have left := congrArg Prod.snd (World.run_put found grown kept)
          refine ⟨2, ?_⟩
          rw [← List.singleton_append, run_append, first,
            run_opening_failed atOpening (congrArg Prod.fst opened), opened, left, done]
          simp [entered, Threads.moveTo, Threads.enter, act, stays, outcome, inside, before]
      | ok loaded =>
          let replacing := (entered.act seat (prepare engine path options)).moveTo actor
            (.replacing seat (some loaded))
          have second : entered.run [.goOn actor] = replacing := by
            simp [Threads.run, Threads.perform, Threads.goOn, atOpening, opened, replacing]
          have stage : replacing.stage actor = .replacing seat (some loaded) :=
            Function.update_self ..
          obtain ⟨k, rest⟩ := run_replace_alone found grown ready.anchored
            (congrArg Prod.snd opened : replacing.world = _) stage
          refine ⟨k + 1, ?_⟩
          rw [Nat.add_comm, List.replicate_add, ← List.singleton_append, run_append, first,
            run_append, List.replicate_one, second, rest, done]
          simp [replacing, entered, Threads.moveTo, Threads.enter, act, stays, outcome, inside,
            before]

end Threads

end DexBrowser.Session

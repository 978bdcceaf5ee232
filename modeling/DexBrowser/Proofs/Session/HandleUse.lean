import DexBrowser.Proofs.Managed.Showing
import DexBrowser.Proofs.Session.Keeps
import DexBrowser.Session.World

/-!
What the use of handles does to a session. Whatever is asked through a handle, only the calls of its
own load are added to. Main statements: every reading of an attribute keeps what is kept by such
calls, and the handles that it gives out belong to the same load.
-/

namespace DexBrowser.Managed.Load

def closeMember : String := "close"

/-- A load after calls of members other than the closing one. -/
structure Used (before after : Load) : Prop where
  host : after.host = before.host
  heap : after.heap = { before.heap with closed := after.heap.closed }
  alive : after.alive = before.alive
  attached : after.attached = before.attached
  calls : ∃ made, after.calls = made ++ before.calls ∧ ∀ call ∈ made, call.member ≠ closeMember

theorem Used.refl (load : Load) : load.Used load where
  host := rfl
  heap := rfl
  alive := rfl
  attached := rfl
  calls := ⟨[], rfl, by simp⟩

theorem Used.trans {first second third : Load} (one : first.Used second)
    (two : second.Used third) : first.Used third where
  host := two.host.trans one.host
  heap := by rw [two.heap, one.heap]
  alive := two.alive.trans one.alive
  attached := two.attached.trans one.attached
  calls := by
    obtain ⟨later, laterCalls, laterOther⟩ := two.calls
    obtain ⟨made, calls, other⟩ := one.calls
    refine ⟨later ++ made, by rw [laterCalls, calls, List.append_assoc], ?_⟩
    intro call member
    exact (List.mem_append.mp member).elim (laterOther call) (other call)

theorem used_record (load : Load) (byHandle : Bool) (readers : Nat) (target : Value)
    {name : String} (other : name ≠ closeMember) :
    load.Used (load.record byHandle readers target name) := by
  unfold record
  split
  · exact ⟨rfl, rfl, rfl, rfl, [_], rfl, by simpa using other⟩
  · exact Used.refl load

theorem object?_target {load : Load} {target : Value} {known : ObjectId × Object}
    (found : load.object? target = some known) : target = .object known.1 := by
  cases target with
  | object id =>
      obtain ⟨object, -, rfl⟩ := Option.map_eq_some_iff.mp found
      rfl
  | _ => contradiction

theorem Used.object? {before after : Load} (used : before.Used after) (id : ObjectId) :
    after.heap.object? id = before.heap.object? id := by
  rw [used.heap]
  cases id <;> rfl

theorem Used.member? {before after : Load} (used : before.Used after) (id : ObjectId)
    (name : String) : after.heap.member? id name = before.heap.member? id name := by
  have object := used.object? id
  have changes : after.heap.changes = before.heap.changes := by rw [used.heap]
  simp only [Heap.member?, changes, object]

section Fails

variable {load : Load} {readers : Nat} {owner : Except Fault String} {target : Value}
    {name : String}
  {arguments : List Value} {fault : Fault} {bad : Fault → Prop}
  (managed : ∀ cause, bad (.managed cause))

include managed

theorem memoryAnswer_fails {member : Member} (named : ∀ other, owner = .error other → bad other)
    (failed : load.memoryAnswer readers owner name arguments member = .error fault) :
    bad fault := by
  cases member with
  | varying answer =>
      simp only [memoryAnswer] at failed
      split at failed
      · contradiction
      · rw [← Except.error.inj failed]
        exact blame_fails managed named _
  | constant | arguments | readers | alive | closes | isClosed => contradiction
  | raises | throws | refuses | stopped =>
      rw [← Except.error.inj failed]
      exact blame_fails managed named _

theorem machineAnswer_fails (named : ∀ other, load.owner readers target = .error other → bad other)
    (failed : load.machineAnswer readers target name arguments = .error fault) :
    bad fault := by
  unfold machineAnswer at failed
  split at failed
  · exact memoryAnswer_fails managed named failed
  · dsimp only at failed
    split at failed
    · split at failed
      · contradiction
      · exact Except.error.inj failed ▸ blame_fails managed named _
    · split at failed
      · contradiction
      · exact Except.error.inj failed ▸ blame_fails managed named _

end Fails

theorem answer_blamed {load : Load} {readers : Nat} {target : Value} {name : String}
    {arguments : List Value} {fault : Fault}
    (failed : load.answer readers target name arguments = .error fault) : Blamed fault := by
  unfold answer at failed
  split at failed
  · split at failed
    · exact Except.error.inj failed ▸ blamed_blame _ fun _ unshown => load.shown_fails unshown
    · split at failed
      · exact .inl ⟨_, (Except.error.inj failed).symm⟩
      · exact memoryAnswer_fails blamed_managed (fun _ impossible => by contradiction) failed
  · exact machineAnswer_fails blamed_managed (fun _ unnamed => .inr (load.owner_fails unnamed))
      failed

theorem Worded.answer_managed {load : Load} (worded : load.Worded) {readers : Nat} {target : Value}
    {name : String} {arguments : List Value} {fault : Fault}
    (failed : load.answer readers target name arguments = .error fault) :
    ∃ cause, fault = .managed cause := by
  unfold answer at failed
  split at failed
  case h_1 memory => exact absurd memory worded.host
  case h_2 =>
      let managed (other : Fault) : Prop := ∃ cause, other = .managed cause
      suffices fails : managed fault from fails
      refine machineAnswer_fails (fun cause => ⟨cause, rfl⟩) (fun other unnamed => ?_) failed
      obtain ⟨owner, named⟩ := worded.owner readers target
      rw [named] at unnamed
      contradiction

@[simp] theorem written_recorded (load : Load) (byHandle : Bool) (readers : Nat) (target : Value)
    (name : String) (v : Value) :
    (load.record byHandle readers target name).written v = load.written v := by
  unfold record
  split <;> rfl

/-- A load after one call at most, of a member other than the closing one. -/
inductive Asked (before : Load) : Load → Prop
  | nothing : before.Asked before
  | call (byHandle : Bool) (readers : Nat) (target : Value) (name : String)
      (other : name ≠ closeMember) : before.Asked (before.record byHandle readers target name)

theorem asked_invoke (load : Load) (byHandle : Bool) (readers : Nat) (target : Value)
    {name : String} (other : name ≠ closeMember) (arguments : List Value) :
    load.Asked (load.invoke byHandle readers target name arguments).2 :=
  .call byHandle readers target name other

theorem asked_toText (load : Load) (byHandle : Bool) (readers : Nat) (target : Value) :
    load.Asked (load.toText byHandle readers target).2 := by
  simp only [toText, invoke]
  split
  · exact .call byHandle readers target "toString" (by decide)
  · split
    · exact .nothing
    · split
      · exact .call byHandle readers target "toString" (by decide)
      · exact .nothing

theorem asked_hashCode (load : Load) (byHandle : Bool) (readers : Nat) (target : Value) :
    load.Asked (load.hashCode byHandle readers target).2 := by
  simp only [hashCode, invoke]
  split
  · exact .call byHandle readers target "hashCode" (by decide)
  · split
    · exact .nothing
    · split
      · exact .call byHandle readers target "hashCode" (by decide)
      · exact .nothing
      · split <;> exact .nothing

theorem asked_equals (load : Load) (byHandle : Bool) (readers : Nat) (target other : Value) :
    load.Asked (load.equals byHandle readers target other).2 := by
  simp only [equals, invoke]
  split
  · exact .call byHandle readers target "equals" (by decide)
  · split
    · exact .nothing
    · split
      · exact .call byHandle readers target "equals" (by decide)
      · exact .nothing

theorem asked_classOf (load : Load) (byHandle : Bool) (readers : Nat) (target : Value) :
    load.Asked (load.classOf byHandle readers target).2 := by
  simp only [classOf, invoke]
  split
  · exact .call byHandle readers target "getClass" (by decide)
  · split <;> exact .nothing

theorem asked_className (load : Load) (byHandle : Bool) (readers : Nat) (cls : Value) :
    load.Asked (load.className byHandle readers cls).2 := by
  simp only [className, invoke]
  split
  · exact .call byHandle readers cls "getName" (by decide)
  · split <;> exact .nothing

end DexBrowser.Managed.Load

namespace DexBrowser.Session

open Managed Session.Action

/-- A session's state after the use of handles of one of its loads. -/
structure State.Used (n : Nat) (before after : State) : Prop where
  seat : after.seat = before.seat
  current : after.current = before.current
  writer : after.lock.writer = before.lock.writer
  length : after.loads.length = before.loads.length
  others : ∀ m, m ≠ n → after.loads[m]? = before.loads[m]?
  used : ∀ load, before.loads[n]? = some load →
    ∃ later, after.loads[n]? = some later ∧ load.Used later

theorem State.Used.after? {n m : Nat} {before after : State} (used : before.Used n after)
    {load : Load} (found : before.loads[m]? = some load) :
    ∃ later, after.loads[m]? = some later ∧ load.Used later := by
  by_cases same : m = n
  · subst same
    exact used.used load found
  · exact ⟨load, by rw [used.others m same, found], Load.Used.refl load⟩

theorem State.Used.before? {n m : Nat} {before after : State} (used : before.Used n after)
    {later : Load} (found : after.loads[m]? = some later) :
    ∃ load, before.loads[m]? = some load ∧ load.Used later := by
  obtain ⟨bound, -⟩ := List.getElem?_eq_some_iff.mp found
  rw [used.length] at bound
  obtain ⟨other, atOther, usedLoad⟩ := used.after? (List.getElem?_eq_getElem bound)
  obtain rfl := Option.some.inj (found.symm.trans atOther)
  exact ⟨_, List.getElem?_eq_getElem bound, usedLoad⟩

theorem State.Used.load {n m : Nat} {before after : State} (used : before.Used n after)
    {load later : Load} (found : before.loads[m]? = some load)
    (foundLater : after.loads[m]? = some later) : load.Used later := by
  obtain ⟨first, atFirst, usedLoad⟩ := used.before? foundLater
  obtain rfl := Option.some.inj (found.symm.trans atFirst)
  exact usedLoad

theorem State.Used.refl (n : Nat) (state : State) : state.Used n state where
  seat := rfl
  current := rfl
  writer := rfl
  length := rfl
  others _ _ := rfl
  used load found := ⟨load, found, Load.Used.refl load⟩

/-- What holds of a workspace whatever is asked through the handles of a load, and the faults that
asking may end in. -/
structure Usable (origin : LoadId) (host : Host) (holds : Workspace → Prop)
    (bad : Fault → Prop) : Prop extends Sectioned holds where
  seat : ∀ workspace, holds workspace → workspace.state.seat = origin.seat
  hosted : ∀ workspace load, holds workspace →
    workspace.state.loads[origin.load]? = some load → load.host = host
  call : ∀ workspace load byHandle readers target name, holds workspace →
    workspace.state.loads[origin.load]? = some load → name ≠ Load.closeMember →
    holds (workspace.setLoad origin.load (load.record byHandle readers target name))
  mint : ∀ workspace minted, holds workspace →
    holds { workspace with state := { workspace.state with minted := minted } }
  journal : ∀ workspace journal, holds workspace → holds { workspace with journal := journal }
  managed : ∀ cause, bad (.managed cause)
  unshown : (∀ fault : Fault, fault.IsUnshown → bad fault) ∨
    ∃ describe, ∀ workspace load, holds workspace →
      workspace.state.loads[origin.load]? = some load → load.heap.describe = describe ∧ load.Worded
  missing : ∀ workspace, holds workspace →
    workspace.state.loads[origin.load]? = none → bad .notLoaded
  waits : ∀ workspace load, holds workspace →
    workspace.state.loads[origin.load]? = some load → load.attached = true →
    workspace.state.lock.writer = true → bad .wouldWait
  engine : host = .memory ∨ bad (.load .noEngine)

/-- A session stays as the use of a load leaves it. The files may be any that satisfy what is asked
of them, as nothing is written. -/
theorem usable_used {before : State} {n : Nat} {fresh : Load}
    (known : before.loads[n]? = some fresh) (files : Files.Tree → Prop) :
    Usable ⟨before.seat, n⟩ fresh.host (fun workspace =>
      before.Used n workspace.state ∧ files workspace.files) anyFault where
  enter workspace held := ⟨{ held.1 with writer := held.1.writer }, held.2⟩
  leave workspace held := ⟨{ held.1 with writer := held.1.writer }, held.2⟩
  seat workspace held := held.1.seat
  hosted workspace load held found := (held.1.load known found).host
  call workspace load byHandle readers target name held found other := by
    refine ⟨⟨held.1.seat, held.1.current, held.1.writer, ?_, ?_, ?_⟩, held.2⟩
    · simpa [Workspace.setLoad] using held.1.length
    · intro m distinct
      simpa [Workspace.setLoad, Ne.symm distinct] using held.1.others m distinct
    · intro first atFirst
      obtain ⟨later, atLater, used⟩ := held.1.used first atFirst
      obtain rfl : later = load := Option.some.inj (atLater.symm.trans found)
      obtain ⟨bound, -⟩ := List.getElem?_eq_some_iff.mp found
      refine ⟨later.record byHandle readers target name, ?_, ?_⟩
      · simp [Workspace.setLoad, bound]
      · exact used.trans (later.used_record byHandle readers target other)
  mint workspace minted held := ⟨{ held.1 with seat := held.1.seat }, held.2⟩
  journal _ _ held := held
  managed _ := trivial
  unshown := .inl fun _ _ => trivial
  missing _ _ _ := trivial
  waits _ _ _ _ _ _ := trivial
  engine := .inr trivial

theorem usable_blamed {before : State} {n : Nat} {load : Load}
    (found : before.loads[n]? = some load) (memory : load.host = .memory)
    (attached : load.attached = false) :
    Usable ⟨before.seat, n⟩ load.host (fun workspace => before.Used n workspace.state ∧ True)
      Load.Blamed :=
  { usable_used found fun _ => True with
    managed := Load.blamed_managed
    unshown := .inl fun _ => .inr
    missing := fun workspace held missing => by
      obtain ⟨later, atLater, -⟩ := held.1.used load found
      rw [missing] at atLater
      contradiction
    waits := fun workspace later held atLater locked => by
      rw [(held.1.load found atLater).attached, attached] at locked
      contradiction
    engine := .inl memory }

/-! ## Calls -/

section Calls

variable {origin : LoadId} {host : Host} {holds : Workspace → Prop} {bad : Fault → Prop}

theorem Usable.any (use : Usable origin host holds bad) : Usable origin host holds anyFault :=
  { use with
    managed := fun _ => trivial
    unshown := .inl fun _ _ => trivial
    missing := fun _ _ _ => trivial
    waits := fun _ _ _ _ _ _ => trivial
    engine := .inr trivial }

theorem Usable.keeps_onLoad (use : Usable origin host holds bad) {good : α → Prop}
    {step : Load → Except Fault α × Load} (asked : ∀ load : Load, load.Asked (step load).2)
    (ends : ∀ workspace load, holds workspace →
      workspace.state.loads[origin.load]? = some load → Ends good bad (step load).1) :
    (onLoad origin.load step).Keeps holds good bad := by
  refine Action.keeps_onLoad use.missing fun workspace load held found => ⟨?_, ?_⟩
  · generalize (step load).2 = after, asked load = one
    cases one with
    | nothing =>
        rw [Workspace.setLoad_self found]
        exact held
    | call byHandle readers target name other =>
        exact use.call workspace load byHandle readers target name held found other
  · exact ends workspace load held found

theorem Usable.respects_onLoad (use : Usable origin host holds anyFault)
    {step : Load → Except Fault α × Load} (asked : ∀ load : Load, load.Asked (step load).2) :
    (onLoad origin.load step).Respects holds anyFault :=
  use.keeps_onLoad asked fun _ _ _ _ => ends_any _

theorem respects_readers : Remote.readers.Respects holds bad :=
  keeps_bind respects_state fun _ _ => respects_pure _

theorem Usable.respects_loadAt (use : Usable origin host holds bad) :
    (loadAt origin.load).Respects holds bad :=
  use.keeps_onLoad (fun _ => .nothing) fun _ _ _ _ => trivial

section Failing

variable (use : Usable origin host holds bad) {workspace : Workspace} {load : Load}
  (held : holds workspace) (found : workspace.state.loads[origin.load]? = some load)

include use held found

theorem Usable.answer_fails {readers : Nat} {target : Value} {name : String}
    {arguments : List Value} {fault : Fault}
    (failed : load.answer readers target name arguments = .error fault) : bad fault := by
  rcases use.unshown with general | ⟨_, worded⟩
  · rcases Load.answer_blamed failed with ⟨cause, rfl⟩ | unshown
    · exact use.managed cause
    · exact general fault unshown
  · obtain ⟨cause, rfl⟩ := (worded workspace load held found).2.answer_managed failed
    exact use.managed cause

theorem Usable.unshown_fails (memory : load.host = .memory) {v : Value}
    (cause : String → ManagedCause) : bad (Load.blame (load.shown v) cause) := by
  refine Load.blame_fails use.managed (fun fault unshown => ?_) cause
  rcases use.unshown with general | ⟨_, worded⟩
  · exact general fault (load.shown_fails unshown)
  · exact absurd memory (worded workspace load held found).2.host

end Failing

/-- A value can be put as text, or fails to be as is allowed for, whatever was asked before. -/
def Wordable (origin : LoadId) (holds : Workspace → Prop) (bad : Fault → Prop) (v : Value) : Prop :=
    ∀ workspace load, holds workspace → workspace.state.loads[origin.load]? = some load →
      Ends (fun _ => True) bad (load.written v)

theorem Usable.wordable_answer (use : Usable origin host holds bad) {workspace : Workspace}
    {load : Load} (held : holds workspace)
    (found : workspace.state.loads[origin.load]? = some load) {readers : Nat} {target : Value}
    {name : String} {arguments : List Value} {v : Value}
    (answered : load.answer readers target name arguments = .ok v) :
    Wordable origin holds bad v := by
  intro later other heldLater atLater
  cases shown : other.written v with
  | ok text => trivial
  | error fault =>
      rcases use.unshown with general | ⟨_, worded⟩
      · exact general fault (other.written_fails shown)
      · -- Of all loads that are held, objects are described alike.
        obtain ⟨here, told⟩ := worded workspace load held found
        obtain ⟨there, -⟩ := worded later other heldLater atLater
        obtain ⟨text, written⟩ := told.written _ _ _ _ _ answered
        have same : other.written v = load.written v := by
          rw [Load.written, Load.written, here, there]
        rw [same, written] at shown
        contradiction

/-- What a call answers is what the load answers at some moment. -/
theorem Usable.keeps_call (use : Usable origin host holds bad) {good : Value → Prop}
    (byHandle : Bool) (target : Value) {name : String} (other : name ≠ Load.closeMember)
    (arguments : List Value)
    (answered : ∀ workspace load readers v, holds workspace →
      workspace.state.loads[origin.load]? = some load →
      load.answer readers target name arguments = .ok v → good v) :
    (Remote.invoke origin.load byHandle target name arguments).Keeps holds good bad := by
  refine keeps_bind respects_readers fun readers _ => use.keeps_onLoad
    (fun load => load.asked_invoke byHandle readers target other arguments) ?_
  intro workspace load held found
  change Ends good bad (load.answer readers target name arguments)
  cases given : load.answer readers target name arguments with
  | ok v => exact answered workspace load readers v held found given
  | error fault => exact use.answer_fails held found given

theorem Usable.respects_remoteText (use : Usable origin host holds anyFault) (byHandle : Bool)
    (target : Value) : (Remote.toText origin.load byHandle target).Respects holds anyFault :=
  keeps_bind respects_readers fun readers _ =>
    use.respects_onLoad fun load => load.asked_toText byHandle readers target

theorem Usable.respects_remoteHash (use : Usable origin host holds anyFault) (byHandle : Bool)
    (target : Value) : (Remote.hashCode origin.load byHandle target).Respects holds anyFault :=
  keeps_bind respects_readers fun readers _ =>
    use.respects_onLoad fun load => load.asked_hashCode byHandle readers target

theorem Usable.respects_remoteEquals (use : Usable origin host holds anyFault)
    (byHandle : Bool) (target other : Value) :
    (Remote.equals origin.load byHandle target other).Respects holds anyFault :=
  keeps_bind respects_readers fun readers _ =>
    use.respects_onLoad fun load => load.asked_equals byHandle readers target other

/-- In memory, an object is reflected as its own class, and nothing but an object is. -/
theorem Usable.keeps_classOf (use : Usable origin host holds bad) (byHandle : Bool)
    (target : Value) :
    (Remote.classOf origin.load byHandle target).Keeps holds
      (fun cls => host = .memory →
        (∃ own, cls = .reflected own) ∧ ∃ id, target = .object id) bad := by
  refine keeps_bind respects_readers fun readers _ => use.keeps_onLoad
    (fun load => load.asked_classOf byHandle readers target) ?_
  intro workspace load held found
  have hosted := use.hosted workspace load held found
  unfold Load.classOf
  split
  case h_1 running known machine =>
      have apart : host ≠ .memory := by
        rw [← hosted, machine]
        simp
      change Ends _ bad (load.answer readers target "getClass" [])
      cases given : load.answer readers target "getClass" [] with
      | ok v => exact fun memory => absurd memory apart
      | error fault => exact use.answer_fails held found given
  case h_2 memory =>
      cases known : load.object? target with
      | none => exact use.unshown_fails held found memory _
      | some object => exact fun _ => ⟨⟨_, rfl⟩, object.1, Load.object?_target known⟩

theorem Usable.respects_className (use : Usable origin host holds bad) (byHandle : Bool)
    (cls : Value) : (Remote.className origin.load byHandle cls).Respects holds bad := by
  refine keeps_bind respects_readers fun readers _ => use.keeps_onLoad
    (fun load => load.asked_className byHandle readers cls) ?_
  intro workspace load held found
  unfold Load.className
  split
  case h_1 =>
      change Ends _ bad ((load.answer readers cls "getName" []).bind
        (load.record byHandle readers cls "getName").written)
      cases given : load.answer readers cls "getName" [] with
      | ok v =>
          change Ends _ bad ((load.record byHandle readers cls "getName").written v)
          rw [Load.written_recorded]
          exact use.wordable_answer held found given workspace load held found
      | error fault => exact use.answer_fails held found given
  case h_2 memory =>
      split
      · trivial
      · exact use.unshown_fails held found memory _

theorem Usable.respects_identity (use : Usable origin host holds anyFault) (target : Value) :
    (Remote.identity origin.load target).Respects holds anyFault :=
  use.respects_onLoad fun _ => .nothing

theorem Usable.respects_isInstance (use : Usable origin host holds bad) (target : Value)
    (className : String) : (Remote.isInstance origin.load target className).Respects holds bad := by
  refine use.keeps_onLoad (fun _ => .nothing) fun workspace load held found => ?_
  have hosted := use.hosted workspace load held found
  unfold Load.isInstance
  split
  case h_1 => trivial
  case h_2 running known machine =>
      split
      · refine use.engine.resolve_left ?_
        rw [← hosted, machine]
        simp
      · split
        · exact use.managed _
        · trivial

theorem Usable.respects_written (use : Usable origin host holds bad) {v : Value}
    (wordable : Wordable origin holds bad v) : (Remote.written origin.load v).Respects holds bad :=
  use.keeps_onLoad (fun _ => .nothing) wordable

theorem Usable.respects_log (use : Usable origin host holds bad) (level : Level)
    (channel : Channel) (text : String) : (log level channel text).Respects holds bad :=
  keeps_log trivial use.journal level channel text

theorem Usable.keeps_shared (use : Usable origin host holds bad) {good : α → Prop}
    {action : Action α} (keeps : action.Keeps holds good bad) :
    (shared origin.load action).Keeps holds good bad :=
  Action.keeps_shared use.toSectioned use.missing use.waits keeps

end Calls

/-! ## Handles -/

/-- A handle of an object of one load. In memory it knows the class that it is reflected as. -/
structure Handle.Of (origin : LoadId) (host : Host) (h : Handle) : Prop where
  origin : World.originOf h = origin
  reflected : host = .memory → ∃ cls, h.reflected = .reflected cls
  object : host = .memory → ∃ id, h.target = .object id

section Handles

variable {origin : LoadId} {host : Host} {holds : Workspace → Prop} {bad : Fault → Prop}

theorem Usable.respects_mint (use : Usable origin host holds bad) :
    Handle.mint.Respects holds bad := by
  refine keeps_bind respects_state fun state _ => ?_
  have counted : (modifyState fun state' : State =>
      { state' with minted := state.minted + 1 }).Respects holds bad :=
    fun before held => ⟨use.mint before _ held, rfl, trivial⟩
  exact keeps_bind counted fun _ _ => respects_pure _

theorem Usable.respects_checkClass (use : Usable origin host holds bad) (kind : Kind)
    (target cls : Value) : (Handle.checkClass origin.load kind target cls).Respects holds bad := by
  unfold Handle.checkClass
  split
  · exact respects_pure _
  · refine keeps_bind (use.respects_isInstance target _) fun isInstance _ => ?_
    split
    · exact keeps_bind (use.respects_className true cls) fun _ _ => keeps_fail (use.managed _)
    · exact respects_pure _

theorem Usable.keeps_bare (use : Usable origin host holds bad) (kind : Kind) (target : Value) :
    (Handle.bare origin.load kind target none).Keeps holds
      (fun h => h.Of origin host ∧ h.kind = kind ∧ h.target = target) bad := by
  have checked : (do
      let cls ← Remote.classOf origin.load true target
      Handle.checkClass origin.load kind target cls
      return (⟨(← Action.state).seat, origin.load, ← Handle.mint, kind, target, cls, ⟨0⟩⟩ : Handle)
        : Action Handle).Keeps holds
      (fun h => h.Of origin host ∧ h.kind = kind ∧ h.target = target) bad := by
    refine keeps_bind (use.keeps_classOf true target) fun cls reflected => ?_
    refine keeps_bind (use.respects_checkClass kind target cls) fun _ _ => ?_
    have seated : Action.state.Keeps holds (·.seat = origin.seat) bad := keeps_state use.seat
    refine keeps_bind seated fun state seat => ?_
    refine keeps_bind use.respects_mint fun serial _ => ?_
    exact keeps_pure ⟨⟨by rw [World.originOf, seat], fun memory => (reflected memory).1,
      fun memory => (reflected memory).2⟩, rfl, rfl⟩
  have refused : (fail (.managed (.nullReference kind.name)) : Action Unit).Respects holds bad :=
    keeps_fail (use.managed _)
  unfold Handle.bare
  dsimp only
  split
  · exact keeps_bind refused fun _ _ => checked
  · exact checked

end Handles

section OneHandle

variable {h : Handle} {host : Host} {holds : Workspace → Prop} {bad : Fault → Prop}

theorem Usable.respects_checkAlive (use : Usable (World.originOf h) host holds bad) :
    h.checkAlive.Respects holds bad := by
  refine keeps_bind use.respects_loadAt fun load _ => ?_
  split
  · exact keeps_fail (use.managed _)
  · exact respects_pure _

theorem Usable.keeps_invoke (use : Usable (World.originOf h) host holds bad)
    {good : Value → Prop} {name : String} (other : name ≠ Load.closeMember)
    (answered : ∀ workspace load readers v, holds workspace →
      workspace.state.loads[h.load]? = some load →
      load.answer readers h.target name [] = .ok v → good v) :
    (h.invoke name).Keeps holds good bad :=
  use.keeps_shared <|
    keeps_bind use.respects_checkAlive fun _ _ => use.keeps_call true h.target other [] answered

theorem Usable.respects_invoke (use : Usable (World.originOf h) host holds bad) {name : String}
    (other : name ≠ Load.closeMember) : (h.invoke name).Respects holds bad :=
  use.keeps_invoke other fun _ _ _ _ _ _ _ => trivial

theorem Usable.wordable_invoke (use : Usable (World.originOf h) host holds bad) {name : String}
    (other : name ≠ Load.closeMember) :
    (h.invoke name).Keeps holds (Wordable (World.originOf h) holds bad) bad :=
  use.keeps_invoke other fun _ _ _ _ held found answered => use.wordable_answer held found answered

theorem Usable.respects_managedClassName (use : Usable (World.originOf h) host holds bad) :
    h.managedClassName.Respects holds bad :=
  use.respects_className true h.reflected

theorem Usable.respects_fallbackText (use : Usable (World.originOf h) host holds anyFault) :
    h.fallbackText.Respects holds anyFault := by
  have named : (catchManaged h.managedClassName fun _ =>
      pure h.kind.name).Respects holds anyFault :=
    respects_catchManaged use.respects_managedClassName fun _ => respects_pure _
  have identified : (catchManaged (Remote.identity h.load h.target) fun _ =>
      Remote.address h.load h.target).Respects holds anyFault :=
    respects_catchManaged (use.respects_identity h.target) fun _ =>
      use.respects_onLoad fun _ => .nothing
  exact keeps_bind named fun _ _ => keeps_bind identified fun _ _ => respects_pure _

theorem Usable.respects_toText (use : Usable (World.originOf h) host holds anyFault) :
    h.toText.Respects holds anyFault :=
  respects_catchManaged
    (use.keeps_shared <|
      keeps_bind use.respects_checkAlive fun _ _ => use.respects_remoteText true h.target)
    fun _ => use.respects_fallbackText

theorem Usable.respects_inspect (use : Usable (World.originOf h) host holds anyFault) :
    h.inspect.Respects holds anyFault :=
  keeps_bind use.respects_toText fun _ _ => respects_pure _

theorem Usable.respects_hash (use : Usable (World.originOf h) host holds anyFault) :
    h.hash.Respects holds anyFault :=
  use.keeps_shared <|
    keeps_bind use.respects_checkAlive fun _ _ => use.respects_remoteHash true h.target

theorem Usable.respects_equals (use : Usable (World.originOf h) host holds anyFault)
    (other : Handle.Peer) : (h.equals other).Respects holds anyFault := by
  have refused : (fail (.managed (.stale other.kind.name)) : Action Unit).Respects holds anyFault :=
    keeps_fail trivial
  refine use.keeps_shared (keeps_bind use.respects_checkAlive fun _ _ => ?_)
  dsimp only
  split
  · exact keeps_bind refused fun _ _ => use.respects_remoteEquals true h.target other.value
  · exact use.respects_remoteEquals true h.target other.value

end OneHandle

end DexBrowser.Session

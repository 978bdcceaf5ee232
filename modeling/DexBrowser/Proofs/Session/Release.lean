import DexBrowser.Proofs.Session.HandleUse
import DexBrowser.Session.Loading

/-!
Letting go of a load. Main statements: its handles die and the closing member of its decompiler is
called once, whether that call fails or not, and nothing else of the session changes.
-/

namespace DexBrowser.Managed.Load

def closing (load : Load) (readers : Nat) : Except Fault Unit :=
    match load.host with
    | .memory => (load.answer readers (.object .decompiler) closeMember []).map fun _ => ()
    | .machine .. => load.closeInMachine.map fun _ => ()

def closings (load : Load) : Nat :=
    load.calls.countP fun call => call.id = .decompiler ∧ call.member = closeMember

/-- A load that was let go: dead, with the closing member called. -/
def shut (load : Load) (readers : Nat) : Load :=
    ({ load with alive := false }).record false readers (.object .decompiler) closeMember

@[simp] theorem shut_alive (load : Load) (readers : Nat) : (load.shut readers).alive = false := by
  rw [shut, record_alive]

@[simp] theorem shut_attached (load : Load) (readers : Nat) :
    (load.shut readers).attached = load.attached := by
  rw [shut, record_attached]

@[simp] theorem shut_host (load : Load) (readers : Nat) :
    (load.shut readers).host = load.host := by
  rw [shut, record_host]

theorem shut_heap (load : Load) (readers : Nat) :
    (load.shut readers).heap = { load.heap with closed := (load.shut readers).heap.closed } := by
  unfold shut record
  split <;> rfl

theorem Used.closings {before after : Load} (used : before.Used after) :
    after.closings = before.closings := by
  obtain ⟨made, calls, other⟩ := used.calls
  rw [Load.closings, calls, List.countP_append, List.countP_eq_zero.mpr, Nat.zero_add,
    Load.closings]
  intro call member
  simp [other call member]

theorem closings_shut (load : Load) (readers : Nat) :
    (load.shut readers).closings =
      load.closings + if (load.heap.member? .decompiler closeMember).isSome then 1 else 0 := by
  have members : ({ load with alive := false } : Load).member? (.object .decompiler) closeMember =
      load.heap.member? .decompiler closeMember := rfl
  unfold shut record closings
  split
  case h_1 id member same found =>
      obtain rfl : .decompiler = id := Value.object.inj same
      rw [← members, found]
      simp
  case h_2 absent =>
      cases found : load.heap.member? .decompiler closeMember with
      | none => rfl
      | some member => exact absurd (members.trans found) (absent _ member rfl)

theorem closing_dead (load : Load) (readers : Nat) :
    ({ load with alive := false }).closing readers = load.closing readers := by
  obtain ⟨host, heap, alive, attached, calls⟩ := load
  cases host with
  | machine running known => rfl
  | memory =>
      simp only [closing, answer, object?]
      cases heap.object? .decompiler with
      | none => rfl
      | some object =>
          simp only [Option.map_some]
          cases heap.member? .decompiler closeMember with
          | none => rfl
          | some member => cases member <;> rfl

end DexBrowser.Managed.Load

namespace DexBrowser.Session

open Managed Session.Action

theorem setLoad_setLoad (workspace : Workspace) (n : Nat) (first second : Load) :
    (workspace.setLoad n first).setLoad n second = workspace.setLoad n second := by
  simp [Workspace.setLoad]

theorem setLoad_found {workspace : Workspace} {n : Nat} {load : Load}
    (found : workspace.state.loads[n]? = some load) (other : Load) :
    (workspace.setLoad n other).state.loads[n]? = some other := by
  obtain ⟨bound, -⟩ := List.getElem?_eq_some_iff.mp found
  simp [Workspace.setLoad, bound]

section Release

variable {workspace : Workspace} {n : Nat} {load : Load}

theorem run_remoteInvoke (found : workspace.state.loads[n]? = some load) (byHandle : Bool)
    (target : Value) (name : String) (arguments : List Value) :
    (Remote.invoke n byHandle target name arguments).run workspace =
      (load.answer workspace.state.lock.readers target name arguments,
        workspace.setLoad n
          (load.record byHandle workspace.state.lock.readers target name)) := by
  change (onLoad n (·.invoke byHandle workspace.state.lock.readers target name arguments)).run
    workspace = _
  rw [run_onLoad found]
  rfl

theorem run_invalidate (found : workspace.state.loads[n]? = some load) :
    (invalidate n).run workspace = (.ok (), workspace.setLoad n { load with alive := false }) := by
  rw [invalidate, modifyLoad, run_onLoad found]

theorem run_attach (found : workspace.state.loads[n]? = some load) :
    (attach n).run workspace = (.ok (), workspace.setLoad n { load with attached := true }) := by
  rw [attach, modifyLoad, run_onLoad found]

theorem run_closeDecompiler (found : workspace.state.loads[n]? = some load) :
    ∃ journal, (closeDecompiler n).run workspace =
      (load.closing workspace.state.lock.readers,
        { workspace.setLoad n (load.record false workspace.state.lock.readers
            (.object .decompiler) Load.closeMember) with journal := journal }) := by
  have called := run_remoteInvoke found false (.object .decompiler) Load.closeMember []
  have opened : (closeDecompiler n).run workspace =
      (match load.host with
        | .memory => (do let _ ← Remote.invoke n false (.object .decompiler) "close" [])
        | .machine .. => (do
            let readers ← Remote.readers
            noteClosing (← onLoad n fun load =>
              (load.closeInMachine, load.record false readers (.object .decompiler) "close"))) :
        Action Unit).run workspace :=
    run_bind_ok (run_loadAt found) _
  rw [opened]
  cases host : load.host with
  | memory =>
      refine ⟨workspace.journal, ?_⟩
      simp only [Load.closing, host]
      rw [run_bind, ← Load.closeMember, called]
      cases load.answer workspace.state.lock.readers (.object .decompiler) Load.closeMember [] <;>
        rfl
  | machine running known =>
      have counted : Remote.readers.run workspace =
          (.ok workspace.state.lock.readers, workspace) := rfl
      simp only [Load.closing, host]
      rw [run_bind_ok counted, run_bind, run_onLoad found]
      cases load.closeInMachine with
      | error fault => exact ⟨workspace.journal, rfl⟩
      | ok thrown => cases thrown <;> exact ⟨_, rfl⟩

/-- A load that is let go is shut, and the outcome is that of closing its decompiler. -/
theorem run_shut (found : workspace.state.loads[n]? = some load) :
    ∃ journal, (do invalidate n; closeDecompiler n : Action Unit).run workspace =
      (load.closing workspace.state.lock.readers,
        { workspace.setLoad n (load.shut workspace.state.lock.readers) with
          journal := journal }) := by
  obtain ⟨journal, closed⟩ := run_closeDecompiler (setLoad_found found { load with alive := false })
  refine ⟨journal, ?_⟩
  rw [run_bind_ok (run_invalidate found), closed, setLoad_setLoad, Load.closing_dead]
  rfl

theorem run_release {loaded : Loaded}
    (found : workspace.state.loads[loaded.load]? = some load) :
    ∃ journal, (release loaded).run workspace =
      (load.closing workspace.state.lock.readers,
        { workspace.setLoad loaded.load (load.shut workspace.state.lock.readers) with
          journal := journal }) := by
  obtain ⟨journal, closed⟩ := run_shut found
  have split : release loaded = (do
      (do invalidate loaded.load; closeDecompiler loaded.load : Action Unit)
      log .debug .session ("Released " ++ loaded.path.text)) := by
    simp only [release, bind_assoc]
  rw [split, run_bind, closed]
  cases load.closing workspace.state.lock.readers with
  | ok _ => exact ⟨_, rfl⟩
  | error _ => exact ⟨_, rfl⟩

end Release

end DexBrowser.Session

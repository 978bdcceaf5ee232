import DexBrowser.Session.View
import Mathlib.Data.List.Forall2

/-!
Actions that keep an invariant of the workspace. Such an action gives back the lock as it found it,
and it ends with a value or a fault of a stated sort. Main statements: what is put together from
actions that keep an invariant keeps it, in a section of the lock, in a loop and under a handler.
-/

namespace DexBrowser.Session

open Managed

def Workspace.setLoad (workspace : Workspace) (n : Nat) (load : Load) : Workspace :=
    { workspace with state := { workspace.state with loads := workspace.state.loads.set n load } }

theorem Workspace.setLoad_self {workspace : Workspace} {n : Nat} {load : Load}
    (found : workspace.state.loads[n]? = some load) : workspace.setLoad n load = workspace := by
  obtain ⟨bound, rfl⟩ := List.getElem?_eq_some_iff.mp found
  simp [Workspace.setLoad]

namespace Action

/-! ## Runs of the primitive actions -/

@[simp] theorem run_state (workspace : Workspace) :
    state.run workspace = (.ok workspace.state, workspace) := rfl

@[simp] theorem run_get (workspace : Workspace) :
    (get : Action Workspace).run workspace = (.ok workspace, workspace) := rfl

@[simp] theorem run_modifyState (change : State → State) (workspace : Workspace) :
    (modifyState change).run workspace =
      (.ok (), { workspace with state := change workspace.state }) := rfl

@[simp] theorem run_log (level : Level) (channel : Channel) (text : String)
    (workspace : Workspace) :
    (log level channel text).run workspace =
      (.ok (), { workspace with journal := workspace.journal ++ [⟨level, channel, text⟩] }) := rfl

@[simp] theorem run_ofExcept (outcome : Except Fault α) (workspace : Workspace) :
    (ofExcept outcome).run workspace = (outcome, workspace) := by
  cases outcome <;> rfl

theorem run_onLoad {workspace : Workspace} {n : Nat} {load : Load}
    (found : workspace.state.loads[n]? = some load) (step : Load → Except Fault α × Load) :
    (onLoad n step).run workspace = ((step load).1, workspace.setLoad n (step load).2) := by
  simp only [onLoad, run_ofRun, found]
  rfl

theorem run_onLoad_none {workspace : Workspace} {n : Nat}
    (missing : workspace.state.loads[n]? = none) (step : Load → Except Fault α × Load) :
    (onLoad n step).run workspace = (.error .notLoaded, workspace) := by
  simp only [onLoad, run_ofRun, missing]

theorem run_loadAt {workspace : Workspace} {n : Nat} {load : Load}
    (found : workspace.state.loads[n]? = some load) :
    (loadAt n).run workspace = (.ok load, workspace) := by
  rw [loadAt, run_onLoad found, Workspace.setLoad_self found]

theorem run_bind_ok {first : Action α} {a : α} {before between : Workspace}
    (ran : first.run before = (.ok a, between)) (next : α → Action β) :
    (first >>= next).run before = (next a).run between := by
  rw [run_bind, ran]

theorem run_catchManaged (action : Action α) (handler : ManagedCause → Action α)
    (workspace : Workspace) :
    (catchManaged action handler).run workspace =
      match action.run workspace with
      | (.error (.managed cause), after) => (handler cause).run after
      | outcome => outcome := rfl

theorem run_catchManaged_other {action : Action α} {before after : Workspace} {fault : Fault}
    (other : ∀ cause, fault ≠ .managed cause) (failed : action.run before = (.error fault, after))
    (handler : ManagedCause → Action α) :
    (catchManaged action handler).run before = (.error fault, after) := by
  rw [run_catchManaged, failed]
  cases fault with
  | managed cause => exact absurd rfl (other cause)
  | _ => rfl

theorem run_shared_refused {workspace : Workspace} {n : Nat} {load : Load}
    (found : workspace.state.loads[n]? = some load) (free : workspace.state.lock.writer = false)
    {action : Action α} {fault : Fault}
    (refused : ∀ lock : Lock, lock.writer = false →
      action.run (setLock (fun _ => lock) workspace) =
        (.error fault, setLock (fun _ => lock) workspace)) :
    (shared n action).run workspace = (.error fault, workspace) := by
  have admitted : workspace.state.lock.admits .shared = true := by
    rw [Lock.admits, free]
    rfl
  rw [shared, run_bind_ok (run_loadAt found)]
  split
  case isTrue =>
      have inside : action.run (setLock (·.enter .shared) workspace) =
          (.error fault, setLock (·.enter .shared) workspace) :=
        refused (workspace.state.lock.enter .shared) free
      simp only [inSection, run_ofRun, admitted, if_true, inside]
      simp only [setLock, Lock.leave_enter admitted]
  case isFalse => exact refused workspace.state.lock free

/-! ## Outcomes -/

def faultOf? : Except Fault α → Option Fault
  | .ok _ => none
  | .error fault => some fault

theorem faultOf?_eq_some {outcome : Except Fault α} {fault : Fault} :
    faultOf? outcome = some fault ↔ outcome = .error fault := by
  cases outcome <;> simp [faultOf?]

theorem faultOf?_eq_none {outcome : Except Fault α} :
    faultOf? outcome = none ↔ ∃ a, outcome = .ok a := by
  cases outcome <;> simp [faultOf?]

theorem toOption_eq_some {outcome : Except Fault α} {a : α} :
    outcome.toOption = some a ↔ outcome = .ok a := by
  cases outcome <;> simp [Except.toOption]

/-! ## Keeping an invariant -/

/-- An outcome is a good value or a fault that is allowed for. -/
def Ends (good : α → Prop) (bad : Fault → Prop) : Except Fault α → Prop
  | .ok a => good a
  | .error fault => bad fault

theorem Ends.mono {good other : α → Prop} {bad worse : Fault → Prop} {outcome : Except Fault α}
    (ends : Ends good bad outcome) (ok : ∀ a, good a → other a)
    (error : ∀ fault, bad fault → worse fault) : Ends other worse outcome := by
  cases outcome with
  | ok a => exact ok a ends
  | error fault => exact error fault ends

/-- What a run from a workspace comes to, seen from outside. -/
structure Kept (holds : Workspace → Prop) (good : α → Prop) (bad : Fault → Prop)
    (before : Workspace) (result : Except Fault α × Workspace) : Prop where
  holds : holds result.2
  lock : result.2.state.lock = before.state.lock
  ends : Ends good bad result.1

/-- Where the invariant holds, it holds after the action, the lock is as it was, and the outcome is
good or allowed for. -/
def Keeps (holds : Workspace → Prop) (good : α → Prop) (bad : Fault → Prop)
    (action : Action α) : Prop :=
    ∀ before, holds before → Kept holds good bad before (action.run before)

/-- Nothing is said of the value. -/
abbrev Respects (holds : Workspace → Prop) (bad : Fault → Prop) (action : Action α) : Prop :=
    action.Keeps holds (fun _ => True) bad

def anyFault (_ : Fault) : Prop :=
    True

section Combinators

variable {holds : Workspace → Prop} {bad : Fault → Prop}

theorem ends_any (outcome : Except Fault α) : Ends (fun _ => True) anyFault outcome := by
  cases outcome <;> trivial

theorem Keeps.mono {good other : α → Prop} {worse : Fault → Prop} {action : Action α}
    (keeps : action.Keeps holds good bad) (ok : ∀ a, good a → other a)
    (error : ∀ fault, bad fault → worse fault) : action.Keeps holds other worse := by
  intro before held
  have kept := keeps before held
  exact ⟨kept.holds, kept.lock, kept.ends.mono ok error⟩

theorem Keeps.respects {good : α → Prop} {action : Action α}
    (keeps : action.Keeps holds good bad) : action.Respects holds bad :=
  keeps.mono (fun _ _ => trivial) (fun _ allowed => allowed)

theorem keeps_pure {good : α → Prop} {a : α} (fine : good a) :
    (pure a : Action α).Keeps holds good bad :=
  fun _ held => ⟨held, rfl, fine⟩

theorem keeps_fail {good : α → Prop} {fault : Fault} (allowed : bad fault) :
    (fail fault : Action α).Keeps holds good bad :=
  fun _ held => ⟨held, rfl, allowed⟩

theorem keeps_ofExcept {good : α → Prop} {outcome : Except Fault α}
    (ends : Ends good bad outcome) : (ofExcept outcome).Keeps holds good bad := by
  intro before held
  rw [run_ofExcept]
  exact ⟨held, rfl, ends⟩

theorem keeps_bind {good : α → Prop} {last : β → Prop} {first : Action α}
    {next : α → Action β} (keeps : first.Keeps holds good bad)
    (nextKeeps : ∀ a, good a → (next a).Keeps holds last bad) :
    (first >>= next).Keeps holds last bad := by
  intro before held
  have kept := keeps before held
  rw [run_bind]
  generalize first.run before = result at kept ⊢
  obtain ⟨outcome, between⟩ := result
  cases outcome with
  | error fault => exact ⟨kept.holds, kept.lock, kept.ends⟩
  | ok a =>
      have rest := nextKeeps a kept.ends between kept.holds
      exact ⟨rest.holds, rest.lock.trans kept.lock, rest.ends⟩

theorem keeps_state {good : State → Prop} (fine : ∀ workspace, holds workspace →
    good workspace.state) : state.Keeps holds good bad :=
  fun before held => ⟨held, rfl, fine before held⟩

theorem keeps_log {good : Unit → Prop} (fine : good ())
    (journal : ∀ workspace journal, holds workspace → holds { workspace with journal := journal })
    (level : Level) (channel : Channel) (text : String) :
    (log level channel text).Keeps holds good bad :=
  fun before held => ⟨journal before _ held, rfl, fine⟩

theorem keeps_onLoad {good : α → Prop} {n : Nat} {step : Load → Except Fault α × Load}
    (missing : ∀ workspace, holds workspace → workspace.state.loads[n]? = none → bad .notLoaded)
    (stepped : ∀ workspace load, holds workspace → workspace.state.loads[n]? = some load →
      holds (workspace.setLoad n (step load).2) ∧ Ends good bad (step load).1) :
    (onLoad n step).Keeps holds good bad := by
  intro before held
  cases found : before.state.loads[n]? with
  | none =>
      rw [run_onLoad_none found]
      exact ⟨held, rfl, missing before held found⟩
  | some load =>
      rw [run_onLoad found]
      obtain ⟨after, ends⟩ := stepped before load held found
      exact ⟨after, rfl, ends⟩

theorem keeps_catchManaged {good : α → Prop} {caught : Fault → Prop} {action : Action α}
    {handler : ManagedCause → Action α} (keeps : action.Keeps holds good caught)
    (handled : ∀ cause, caught (.managed cause) → (handler cause).Keeps holds good bad)
    (others : ∀ fault, (∀ cause, fault ≠ .managed cause) → caught fault → bad fault) :
    (catchManaged action handler).Keeps holds good bad := by
  intro before held
  have kept := keeps before held
  rw [run_catchManaged]
  generalize action.run before = result at kept ⊢
  obtain ⟨outcome, between⟩ := result
  cases outcome with
  | ok a => exact ⟨kept.holds, kept.lock, kept.ends⟩
  | error fault =>
      cases fault with
      | managed cause =>
          have rest := handled cause kept.ends between kept.holds
          exact ⟨rest.holds, rest.lock.trans kept.lock, rest.ends⟩
      | _ => exact ⟨kept.holds, kept.lock, others _ (by simp) kept.ends⟩

/-- An invariant that does not depend on how many readers the lock has. -/
structure Sectioned (holds : Workspace → Prop) : Prop where
  enter : ∀ workspace, holds workspace → holds (setLock (·.enter .shared) workspace)
  leave : ∀ workspace, holds workspace → holds (setLock (·.leave .shared) workspace)

theorem keeps_inSection {good : α → Prop} {action : Action α} (sectioned : Sectioned holds)
    (keeps : action.Keeps holds good bad) {before : Workspace} (held : holds before)
    (waits : before.state.lock.writer = true → bad .wouldWait) :
    Kept holds good bad before ((inSection .shared action).run before) := by
  simp only [inSection, run_ofRun]
  split
  case isTrue admitted =>
      have kept := keeps _ (sectioned.enter before held)
      refine ⟨sectioned.leave _ kept.holds, ?_, kept.ends⟩
      change Lock.leave (action.run (setLock (·.enter .shared) before)).2.state.lock .shared = _
      rw [kept.lock]
      exact Lock.leave_enter admitted
  case isFalse refused =>
      exact ⟨held, rfl, waits (by simpa [Lock.admits] using refused)⟩

theorem keeps_shared {good : α → Prop} {n : Nat} {action : Action α}
    (sectioned : Sectioned holds)
    (missing : ∀ workspace, holds workspace → workspace.state.loads[n]? = none → bad .notLoaded)
    (waits : ∀ workspace load, holds workspace → workspace.state.loads[n]? = some load →
      load.attached = true → workspace.state.lock.writer = true → bad .wouldWait)
    (keeps : action.Keeps holds good bad) : (shared n action).Keeps holds good bad := by
  intro before held
  rw [shared, run_bind]
  cases found : before.state.loads[n]? with
  | none =>
      rw [loadAt, run_onLoad_none found]
      exact ⟨held, rfl, missing before held found⟩
  | some load =>
      rw [run_loadAt found]
      dsimp only
      split
      case isTrue attached =>
          exact keeps_inSection sectioned keeps held (waits before load held found attached)
      case isFalse => exact keeps before held

theorem keeps_mapM_related {related : γ → α → Prop} {good : γ → β → Prop} {each : α → Action β}
    {ks : List γ} {xs : List α} (all : List.Forall₂ related ks xs)
    (keeps : ∀ k x, related k x → (each x).Keeps holds (good k) bad) :
    (xs.mapM each).Keeps holds (List.Forall₂ good ks) bad := by
  induction all with
  | nil => exact keeps_pure .nil
  | @cons k x ks xs related _ ih =>
      rw [List.mapM_cons]
      refine keeps_bind (keeps k x related) fun y fine => ?_
      exact keeps_bind ih fun ys rest => keeps_pure (.cons fine rest)

theorem keeps_mapM_each {good : α → β → Prop} {each : α → Action β} {xs : List α}
    (keeps : ∀ x ∈ xs, (each x).Keeps holds (good x) bad) :
    (xs.mapM each).Keeps holds (List.Forall₂ good xs) bad := by
  have same : List.Forall₂ (fun k x => k ∈ xs ∧ k = x) xs xs :=
    List.forall₂_same.mpr fun x member => ⟨member, rfl⟩
  refine keeps_mapM_related same ?_
  rintro x _ ⟨member, rfl⟩
  exact keeps x member

theorem keeps_mapM {good : β → Prop} {each : α → Action β} {xs : List α}
    (keeps : ∀ x ∈ xs, (each x).Keeps holds good bad) :
    (xs.mapM each).Keeps holds (fun ys => ∀ y ∈ ys, good y) bad := by
  refine (keeps_mapM_each keeps).mono (fun ys all => ?_) fun _ failed => failed
  induction all with
  | nil => simp
  | cons fine _ ih => simpa using ⟨fine, ih fun x member => keeps x (by simp [member])⟩

theorem keeps_foldlM_along (good : List α → β → Prop) {step : β → α → Action β} {xs : List α}
    (keeps : ∀ front x back, xs = front ++ x :: back → ∀ acc, good front acc →
      (step acc x).Keeps holds (good (front ++ [x])) bad) {start : β} (fine : good [] start) :
    (xs.foldlM step start).Keeps holds (good xs) bad := by
  suffices rest : ∀ back front, xs = front ++ back → ∀ acc, good front acc →
      (back.foldlM step acc).Keeps holds (good xs) bad from rest xs [] rfl start fine
  intro back
  induction back with
  | nil =>
      rintro front whole acc fineAcc
      rw [List.append_nil] at whole
      subst whole
      exact keeps_pure fineAcc
  | cons x back ih =>
      intro front whole acc fineAcc
      rw [List.foldlM_cons]
      refine keeps_bind (keeps front x back whole acc fineAcc) fun next fineNext => ?_
      exact ih (front ++ [x]) (by rw [whole, List.append_assoc]; rfl) next fineNext

theorem keeps_foldlM {good : β → Prop} {step : β → α → Action β} {xs : List α}
    (keeps : ∀ acc, good acc → ∀ x ∈ xs, (step acc x).Keeps holds good bad) (start : β)
    (fine : good start) : (xs.foldlM step start).Keeps holds good bad := by
  refine keeps_foldlM_along (fun _ => good) ?_ fine
  rintro front x back rfl acc fineAcc
  exact keeps acc fineAcc x (by simp)

theorem respects_pure (a : α) : (pure a : Action α).Respects holds bad :=
  keeps_pure trivial

theorem respects_state : state.Respects holds bad :=
  keeps_state fun _ _ => trivial

theorem respects_ofExcept (outcome : Except Fault α) :
    (ofExcept outcome).Respects holds anyFault :=
  keeps_ofExcept (ends_any outcome)

theorem respects_catchManaged {action : Action α} {handler : ManagedCause → Action α}
    (respects : action.Respects holds anyFault)
    (handled : ∀ cause, (handler cause).Respects holds anyFault) :
    (catchManaged action handler).Respects holds anyFault :=
  keeps_catchManaged respects (fun cause _ => handled cause) fun _ _ _ => trivial

end Combinators

/-! ## Actions that come to the same -/

/-- Where the invariant holds, the two run alike. -/
def Agrees (holds : Workspace → Prop) (first second : Action α) : Prop :=
    ∀ before, holds before → first.run before = second.run before

section Agreement

variable {holds : Workspace → Prop} {bad : Fault → Prop}

theorem agrees_refl (action : Action α) : Agrees holds action action :=
  fun _ _ => rfl

theorem Agrees.bind {good : α → Prop} {first second : Action α} {next other : α → Action β}
    (agrees : Agrees holds first second) (keeps : first.Keeps holds good bad)
    (nextAgrees : ∀ a, good a → Agrees holds (next a) (other a)) :
    Agrees holds (first >>= next) (second >>= other) := by
  intro before held
  have kept := keeps before held
  rw [run_bind, run_bind, ← agrees before held]
  generalize first.run before = result at kept ⊢
  obtain ⟨outcome, between⟩ := result
  cases outcome with
  | error fault => rfl
  | ok a => exact nextAgrees a kept.ends between kept.holds

theorem agrees_shared {n : Nat} {first second : Action α} (sectioned : Sectioned holds)
    (agrees : Agrees holds first second) : Agrees holds (shared n first) (shared n second) := by
  intro before held
  rw [shared, shared, run_bind, run_bind]
  cases found : before.state.loads[n]? with
  | none => rw [loadAt, run_onLoad_none found]
  | some load =>
      rw [run_loadAt found]
      dsimp only
      split
      case isTrue =>
          have inside := agrees _ (sectioned.enter before held)
          simp only [inSection, run_ofRun, inside]
      case isFalse => exact agrees before held

theorem agrees_mapM {one other : α → Action β} {xs : List α}
    (keeps : ∀ x ∈ xs, (one x).Respects holds bad)
    (agrees : ∀ x ∈ xs, Agrees holds (one x) (other x)) :
    Agrees holds (xs.mapM one) (xs.mapM other) := by
  induction xs with
  | nil => exact agrees_refl _
  | cons x xs ih =>
      rw [List.mapM_cons, List.mapM_cons]
      refine (agrees x (by simp)).bind (keeps x (by simp)) fun y _ => ?_
      have rest := ih (fun z member => keeps z (by simp [member])) fun z member =>
        agrees z (by simp [member])
      have restKeeps : (xs.mapM one).Keeps holds (fun ys => ∀ y ∈ ys, True) bad :=
        keeps_mapM fun z member => keeps z (by simp [member])
      exact rest.bind restKeeps fun ys _ => agrees_refl _

end Agreement

end Action

end DexBrowser.Session

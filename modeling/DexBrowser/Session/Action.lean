import DexBrowser.Files.Tree
import DexBrowser.Session.Handle
import DexBrowser.Session.Lock

/-!
What a session holds, and actions that work on it. An action works on the session, the files and
the journal, and ends with a value or a fault; what it did before a fault stays done. A section
gives back the lock, whatever the action inside comes to.
-/

namespace DexBrowser.Session

open Managed

/-! ## The journal -/

inductive Level where
  | debug
  | info
  | warning
  deriving DecidableEq, Repr

inductive Channel where
  | nodes
  | session
  | engine
  | machine
  deriving DecidableEq, Repr

structure Line where
  level : Level
  channel : Channel
  text : String
  deriving DecidableEq, Repr

/-! ## State -/

/-- The input that a session has loaded, with the handles of its classes and packages by name. -/
structure Loaded where
  path : Path
  options : LoadOptions
  load : Nat
  classes : List (String × Handle)
  packages : List (String × Handle)

/-- A session: its lock, all its loads and which of them is current. -/
structure State where
  seat : Nat := 0
  lock : Lock := {}
  loads : List Load := []
  current : Option Loaded := none
  minted : Nat := 0
  deriving Inhabited

structure Workspace where
  state : State := {}
  files : Files.Tree := {}
  journal : List Line := []
  deriving Inhabited

abbrev Action := ExceptT Fault (StateM Workspace)

namespace Action

def run (action : Action α) (workspace : Workspace) : Except Fault α × Workspace :=
    StateT.run (ExceptT.run action) workspace

def ofRun (step : Workspace → Except Fault α × Workspace) : Action α :=
    ExceptT.mk (StateT.mk step)

@[simp] theorem run_ofRun (step : Workspace → Except Fault α × Workspace)
    (workspace : Workspace) : (ofRun step).run workspace = step workspace := rfl

@[simp] theorem run_pure (a : α) (workspace : Workspace) :
    (pure a : Action α).run workspace = (.ok a, workspace) := rfl

theorem run_bind (first : Action α) (next : α → Action β) (workspace : Workspace) :
    (first >>= next).run workspace =
      match first.run workspace with
      | (.ok a, workspace) => (next a).run workspace
      | (.error fault, workspace) => (.error fault, workspace) := by
  change (StateT.run (ExceptT.run first) workspace >>= fun outcome =>
    StateT.run (ExceptT.bindCont next outcome.1) outcome.2) = _
  rcases outcome : first.run workspace with ⟨done, after⟩
  have started : StateT.run (ExceptT.run first) workspace = (done, after) := outcome
  rw [started]
  cases done <;> rfl

def fail (fault : Fault) : Action α :=
    throw fault

@[simp] theorem run_fail (fault : Fault) (workspace : Workspace) :
    (fail fault : Action α).run workspace = (.error fault, workspace) := rfl

def ofExcept : Except Fault α → Action α
  | .ok a => pure a
  | .error fault => fail fault

def ofChecked : Checked α → Action α
  | .ok a => pure a
  | .error issues => fail (.invalid issues)

def state : Action State := do
    return (← get).state

def modifyState (change : State → State) : Action Unit :=
    modify fun workspace => { workspace with state := change workspace.state }

def log (level : Level) (channel : Channel) (text : String) : Action Unit :=
    modify fun workspace =>
        { workspace with journal := workspace.journal ++ [⟨level, channel, text⟩] }

/-- The action's value, or what the handler makes of a failed call into the managed side. -/
def catchManaged (action : Action α) (handler : ManagedCause → Action α) : Action α :=
    ofRun fun workspace =>
      match action.run workspace with
      | (.error (.managed cause), workspace) => (handler cause).run workspace
      | outcome => outcome

def onLoad (n : Nat) (step : Load → Except Fault α × Load) : Action α :=
    ofRun fun workspace =>
      match workspace.state.loads[n]? with
      | none => (.error .notLoaded, workspace)
      | some load =>
          let (done, load) := step load
          (done, { workspace with
            state := { workspace.state with loads := workspace.state.loads.set n load } })

def modifyLoad (n : Nat) (change : Load → Load) : Action Unit :=
    onLoad n fun load => (.ok (), change load)

def loadAt (n : Nat) : Action Load :=
    onLoad n fun load => (.ok load, load)

def setLock (change : Lock → Lock) (workspace : Workspace) : Workspace :=
    { workspace with state := { workspace.state with lock := change workspace.state.lock } }

/-- Runs an action in a section of the session's lock. One that the lock does not admit would wait
for itself. -/
def inSection (s : Section) (action : Action α) : Action α :=
    ofRun fun workspace =>
      if workspace.state.lock.admits s then
        let (done, workspace) := action.run (setLock (·.enter s) workspace)
        (done, setLock (·.leave s) workspace)
      else (.error .wouldWait, workspace)

/-- Runs an action on a load's objects, in a shared section if the load is attached to the lock. -/
def shared (n : Nat) (action : Action α) : Action α := do
    if (← loadAt n).attached then inSection .shared action else action

end Action

end DexBrowser.Session

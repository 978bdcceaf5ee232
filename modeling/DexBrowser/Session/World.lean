import DexBrowser.Session.Action
import DexBrowser.Session.Query
import DexBrowser.Session.Save

/-!
Sessions that others act on as well. A run that takes several sections of the lock may find others
at work between them: before each of its actions, the next action of the others is run. In a world,
several sessions share one engine and one file tree; an action runs in one of them, and the order
in which the engine opened its loads is kept over all. Main statement: with nobody else there an
interrupted run is the action itself.
-/

namespace DexBrowser.Session

/-! ## Interruptions -/

/-- What is run while others act on the session; the list holds what they do next. -/
def Interrupted (α : Type) : Type :=
    StateT (List (Action Unit)) Action α

namespace Interrupted

instance : Monad Interrupted :=
    inferInstanceAs (Monad (StateT (List (Action Unit)) Action))

instance : LawfulMonad Interrupted :=
    inferInstanceAs (LawfulMonad (StateT (List (Action Unit)) Action))

def apart (action : Action Unit) : Action Unit :=
    Action.ofRun fun workspace => (.ok (), (action.run workspace).2)

def giveWay : Interrupted Unit
  | [] => pure ((), [])
  | other :: others => do
      apart other
      return ((), others)

def perform (action : Action α) : Interrupted α :=
    fun others => do return (← action, others)

instance : MonadLift Action Interrupted where
  monadLift action := do
    giveWay
    perform action

def run (steps : Interrupted α) (others : List (Action Unit)) : Action α :=
    (fun outcome => outcome.1) <$> StateT.run steps others

@[simp] theorem run_apart (action : Action Unit) (workspace : Workspace) :
    (apart action).run workspace = (.ok (), (action.run workspace).2) := rfl

theorem run_lift_nil (action : Action α) : (liftM action : Interrupted α).run [] = action := by
  change (fun outcome => outcome.1) <$>
    ((pure ((), []) : Action (Unit × List (Action Unit))) >>= fun started =>
      perform action started.2) = action
  simp [perform]

theorem run_lift_cons (action : Action α) (other : Action Unit) (others : List (Action Unit)) :
    (liftM action : Interrupted α).run (other :: others) = (do apart other; action) := by
  change (fun outcome => outcome.1) <$>
    ((do apart other; return ((), others) : Action (Unit × List (Action Unit))) >>= fun started =>
      perform action started.2) = _
  simp [perform]

end Interrupted

/-! ## Worlds -/

open Managed

structure LoadId where
  seat : Nat
  load : Nat
  deriving DecidableEq, Repr

structure World where
  sessions : List State := []
  files : Files.Tree := {}
  journal : List Line := []
  opened : List LoadId := []
  deriving Inhabited

namespace World

def addSession (world : World) : World × Nat :=
    let seat := world.sessions.length
    ({ world with sessions := world.sessions ++ [{ seat := seat }] }, seat)

/-- The loads that a session opened between two states of it. -/
def newLoads (seat before after : Nat) : List LoadId :=
    (List.range (after - before)).map fun k => ⟨seat, before + k⟩

def run (world : World) (seat : Nat) (action : Action α) : Except Fault α × World :=
    match world.sessions[seat]? with
    | none => (.error .notLoaded, world)
    | some state =>
        let (done, workspace) := action.run ⟨state, world.files, world.journal⟩
        let opened := newLoads seat state.loads.length workspace.state.loads.length
        (done,
          { world with
            sessions := world.sessions.set seat workspace.state
            files := workspace.files
            journal := workspace.journal
            opened := world.opened ++ opened })

def load? (world : World) (id : LoadId) : Option Load :=
    (world.sessions[id.seat]?).bind (·.loads[id.load]?)

def closed (world : World) : List Value :=
    world.opened.filterMap fun id =>
      (world.load? id).map fun load =>
        match load.answer 0 (.object .decompiler) "isClosed" [] with
        | .ok v => v
        | .error _ => .null

def amend (world : World) (seat : Nat) (change : Heap → Heap) : World :=
    { world with
      sessions := world.sessions.modify seat fun state =>
        match state.current with
        | none => state
        | some loaded =>
            { state with
              loads := state.loads.modify loaded.load fun load =>
                { load with heap := change load.heap } } }

/-- Opens a shared section of a session from outside, as its handles do for a load. -/
def hold (world : World) (id : LoadId) : World :=
    if (world.load? id).any (·.attached) then
      { world with
        sessions := world.sessions.modify id.seat fun state =>
          { state with lock := state.lock.enter .shared } }
    else world

def letGo (world : World) (id : LoadId) : World :=
    if (world.load? id).any (·.attached) then
      { world with
        sessions := world.sessions.modify id.seat fun state =>
          { state with lock := state.lock.leave .shared } }
    else world

/-! ## Handles of several loads -/

/-- An object of one load as another load sees it. -/
def strangerOf (load : Load) : Value → Value
  | .object id =>
      match load.heap.object? id with
      | some object => .stranger object.cls.name object.key
      | none => .object id
  | v => v

def originOf (h : Handle) : LoadId :=
    ⟨h.seat, h.load⟩

def peer (world : World) (origin : LoadId) (h : Handle) : Handle.Peer :=
    match world.load? (originOf h) with
    | none => ⟨h.kind, false, h.target⟩
    | some load =>
        ⟨h.kind, load.alive, if originOf h = origin then h.target else strangerOf load h.target⟩

def equals (world : World) (first second : Handle) : Except Fault Bool × World :=
    world.run first.seat (first.equals (world.peer (originOf first) second))

/-- Whether two handles are the same to each other. The one of the narrower kind is asked. -/
def same (world : World) (first second : Handle) : Except Fault Bool × World :=
    if second.kind.isWithin first.kind then world.equals second first
    else world.equals first second

inductive Operand where
  | handle (h : Handle)
  | value

/-- Whether a handle equals an operand. A value of another sort equals none. -/
def compare (world : World) (h : Handle) : Operand → Except Fault Bool × World
  | .handle other => world.same h other
  | .value => (.ok false, world)

structure Hash where
  origin : LoadId
  code : HashCode

def hash (world : World) (h : Handle) : Except Fault Hash × World :=
    let (done, world) := world.run h.seat h.hash
    (done.map (⟨originOf h, ·⟩), world)

def sameHash (first second : Hash) : Bool :=
    first.code.same second.code && (first.origin == second.origin || !first.code.isAddress)

/-- The handle is one of those kept, or is equal to one of equal hash. -/
def isKept (world : World) (h : Handle) (code : Hash) :
    List (Handle × Hash) → Except Fault Bool × World
  | [] => (.ok false, world)
  | kept :: rest =>
      if !sameHash kept.2 code then isKept world h code rest
      else if kept.1.isWrapper h then (.ok true, world)
      else
        match world.same kept.1 h with
        | (.ok true, world) => (.ok true, world)
        | (.ok false, world) => isKept world h code rest
        | (.error fault, world) => (.error fault, world)

/-- Handles without repetition, in the order in which they came. -/
def distinct (world : World) (kept : List (Handle × Hash)) :
    List Handle → Except Fault (List Handle) × World
  | [] => (.ok (kept.map (·.1)), world)
  | h :: rest =>
      match world.hash h with
      | (.error fault, world) => (.error fault, world)
      | (.ok code, world) =>
          match isKept world h code kept with
          | (.error fault, world) => (.error fault, world)
          | (.ok true, world) => distinct world kept rest
          | (.ok false, world) => distinct world (kept ++ [(h, code)]) rest

end World

end DexBrowser.Session

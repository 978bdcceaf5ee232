/-!
The lock of a session. Any number of shared sections or one exclusive section is open at a time;
shared sections may nest. When actors use it together, a request opens a section at once or waits.
In a `Contention`, the waiting requests that the lock admits when a section is left open theirs at
once, in the order in which they came; in a `Crowd`, they are woken, each of them looks again
later, and until then others may come first. Main statement: a section that opens and closes again
leaves the lock as it was.
-/

namespace DexBrowser.Session

inductive Section where
  | shared
  | exclusive
  deriving DecidableEq, Repr

structure Lock where
  readers : Nat := 0
  writer : Bool := false
  deriving DecidableEq, Repr, Inhabited

namespace Lock

/-- A shared section waits for the writer only, an exclusive one for everybody. -/
def admits (lock : Lock) : Section → Bool
  | .shared => !lock.writer
  | .exclusive => !lock.writer && lock.readers == 0

def enter (lock : Lock) : Section → Lock
  | .shared => { lock with readers := lock.readers + 1 }
  | .exclusive => { lock with writer := true }

def leave (lock : Lock) : Section → Lock
  | .shared => { lock with readers := lock.readers - 1 }
  | .exclusive => { lock with writer := false }

theorem leave_enter {lock : Lock} {s : Section} (admitted : lock.admits s = true) :
    (lock.enter s).leave s = lock := by
  cases lock
  cases s <;> simp_all [admits, enter, leave]

end Lock

/-! ## Actors who are served in turn -/

/-- The open sections, newest first, and the requests that wait. -/
structure Contention (Actor : Type) where
  lock : Lock := {}
  opened : List (Actor × Section) := []
  waiting : List (Actor × Section) := []

namespace Contention

variable {Actor : Type}

def enter (state : Contention Actor) (request : Actor × Section) : Contention Actor :=
    { state with lock := state.lock.enter request.2, opened := request :: state.opened }

/-- A request opens its section if the lock admits it, and waits otherwise. -/
def request (state : Contention Actor) (request : Actor × Section) : Contention Actor :=
    if state.lock.admits request.2 then state.enter request
    else { state with waiting := state.waiting ++ [request] }

def settle (state : Contention Actor) : Contention Actor :=
    state.waiting.foldl Contention.request { state with waiting := [] }

variable [DecidableEq Actor]

def leave (state : Contention Actor) (actor : Actor) : Contention Actor :=
    match state.opened.find? (·.1 = actor) with
    | none => state
    | some last =>
        settle
          { state with lock := state.lock.leave last.2, opened := state.opened.erase last }

end Contention

/-! ## Actors who are woken -/

/-- Whether those who wait are told of a section of this sort, once it is left. The last of the
shared ones is told, and so is every exclusive one. -/
def Lock.wakes (lock : Lock) : Section → Bool
  | .shared => lock.readers == 0
  | .exclusive => true

/-- The open sections, newest first, the requests that are asleep and those that were woken and have
not looked yet. -/
structure Crowd (Actor : Type) where
  lock : Lock := {}
  opened : List (Actor × Section) := []
  asleep : List (Actor × Section) := []
  awake : List (Actor × Section) := []

namespace Crowd

/-- What an actor may do next. A section is left when what runs in it has ended, in whatever way; a
request is given up when its wait is broken off. -/
inductive Move (Actor : Type) where
  | request (actor : Actor) (s : Section)
  | look (actor : Actor)
  | giveUp (actor : Actor)
  | leave (actor : Actor) (s : Section)

variable {Actor : Type}

def waiting (crowd : Crowd Actor) : List (Actor × Section) :=
    crowd.asleep ++ crowd.awake

def settled (crowd : Crowd Actor) : Bool :=
    crowd.awake.isEmpty

/-- A request opens its section if the lock admits it, and falls asleep otherwise. -/
def attempt (crowd : Crowd Actor) (request : Actor × Section) : Crowd Actor :=
    if crowd.lock.admits request.2 then
      { crowd with lock := crowd.lock.enter request.2, opened := request :: crowd.opened }
    else { crowd with asleep := crowd.asleep ++ [request] }

def wakeAll (crowd : Crowd Actor) : Crowd Actor :=
    { crowd with asleep := [], awake := crowd.awake ++ crowd.asleep }

variable [DecidableEq Actor]

def isWaiting (crowd : Crowd Actor) (actor : Actor) : Bool :=
    crowd.waiting.any (·.1 = actor)

def dismiss (crowd : Crowd Actor) (actor : Actor) : Crowd Actor :=
    { crowd with
      asleep := crowd.asleep.filter (·.1 ≠ actor)
      awake := crowd.awake.filter (·.1 ≠ actor) }

def close (crowd : Crowd Actor) (entry : Actor × Section) : Crowd Actor :=
    let left :=
      { crowd with
        lock := crowd.lock.leave entry.2
        opened := crowd.opened.erase entry }
    if left.lock.wakes entry.2 then left.wakeAll else left

/-- One move. Who waits can neither ask for more nor leave anything, and what is not open cannot be
left: such a move does nothing. -/
def perform (crowd : Crowd Actor) : Move Actor → Crowd Actor
  | .request actor s =>
      if crowd.isWaiting actor then crowd else crowd.attempt (actor, s)
  | .look actor =>
      match crowd.awake.find? (·.1 = actor) with
      | none => crowd
      | some request => { crowd with awake := crowd.awake.erase request }.attempt request
  | .giveUp actor => crowd.dismiss actor
  | .leave actor s =>
      if !crowd.isWaiting actor && crowd.opened.contains (actor, s) then crowd.close (actor, s)
      else crowd

def after (moves : List (Move Actor)) : Crowd Actor :=
    moves.foldl perform {}

/-- Whether a request cannot stand in its own way: nothing is asked for next to an exclusive
section of one's own, and no exclusive section next to a shared one. -/
def isConsiderate (crowd : Crowd Actor) : Move Actor → Bool
  | .request actor .shared => !crowd.opened.contains (actor, .exclusive)
  | .request actor .exclusive =>
      !crowd.opened.contains (actor, .exclusive) && !crowd.opened.contains (actor, .shared)
  | _ => true

/-- Every move is considerate where it is made. -/
def areConsiderate (crowd : Crowd Actor) : List (Move Actor) → Bool
  | [] => true
  | move :: rest => crowd.isConsiderate move && (crowd.perform move).areConsiderate rest

end Crowd

end DexBrowser.Session

import DexBrowser.Proofs.Session.Scene
import Mathlib.Logic.Function.Basic

/-!
Threads that use sessions side by side. What is asked through a handle, loading and closing are
taken apart into what one thread does in one go: entering or leaving a section, looking whether a
load is alive, beginning a call into the managed side, ending it, and each thing that is done to
the session in an exclusive section. Any thread may go on next.
-/

namespace DexBrowser.Session

open Managed Session.Action

inductive Question where
  | member (name : String) (arguments : List Value)
  | text
  | hash
  | equals (other : Handle)

namespace Question

/-- The handles whose objects are passed along. -/
def others : Question → List Handle
  | equals other => [other]
  | _ => []

/-- No handle asks a decompiler to close. -/
def isPlain : Question → Bool
  | member name _ => name ≠ Load.closeMember
  | _ => true

/-- A text that cannot be had is made up outside of the section. -/
def fallsBack : Question → Bool
  | text => true
  | _ => false

def call (world : World) (h : Handle) : Question → Action Unit
  | member name arguments => do
      let _ ← Remote.invoke h.load true h.target name arguments
  | text => do
      let _ ← Remote.toText h.load true h.target
  | hash => do
      let _ ← Remote.hashCode h.load true h.target
  | equals other => do
      let _ ← Remote.equals h.load true h.target (world.peer (World.originOf h) other).value

end Question

/-- What is asked of the managed side outside of all sections: the made-up text, the name of a
class, and the class of an object that a handle is made of. -/
inductive Aside where
  | fallback
  | className
  | wrap (kind : Kind) (target : Value)

def Aside.ask (h : Handle) : Aside → Action Unit
  | fallback => do
      let _ ← h.fallbackText
  | className => do
      let _ ← h.managedClassName
  | wrap kind target => do
      let _ ← Handle.bare h.load kind target none

/-- What a thread sets out to do. To save is to hold a section and to ask in it. -/
inductive Task where
  | use (h : Handle) (asked : Question)
  | aside (h : Handle) (asked : Aside)
  | hold (h : Handle)
  | letGo (h : Handle)
  | load (seat : Nat) (engine : Engine) (path : Path) (options : LoadOptions)
  | close (seat : Nat)

/-- How far a thread is. The handles that are still to be looked at are kept while it checks. -/
inductive Stage where
  | idle
  | checking (h : Handle) (asked : Question) (left : List Handle)
  | calling (h : Handle) (asked : Question)
  | leaving (h : Handle) (fallsBack : Bool)
  | aside (h : Handle) (asked : Aside)
  | opening (seat : Nat) (engine : Engine) (path : Path) (options : LoadOptions)
  | replacing (seat : Nat) (loaded : Option Loaded)
  | invalidating (seat : Nat) (previous : Loaded)
  | closing (seat : Nat) (previous : Loaded)
  | finishing (seat : Nat)

def Stage.isIdle : Stage → Bool
  | idle => true
  | _ => false

def closePrevious (previous : Loaded) : Action Unit := do
    closeDecompiler previous.load
    log .debug .session ("Released " ++ previous.path.text)

def turnLock (change : Lock → Lock) : Action Unit :=
    modifyState fun state => { state with lock := change state.lock }

/-- Sessions, the sections that threads have open in them, and how far each thread is. -/
structure Threads (Actor : Type) where
  world : World := {}
  opened : List (Actor × Nat × Section) := []
  stage : Actor → Stage := fun _ => .idle

def failed : Except Fault α → Bool
  | .error (.managed _) => true
  | _ => false

namespace Threads

variable {Actor : Type}

def act (threads : Threads Actor) (seat : Nat) (action : Action α) : Threads Actor :=
    { threads with world := (threads.world.run seat action).2 }

def admits (threads : Threads Actor) (seat : Nat) (s : Section) : Bool :=
    (threads.world.sessions[seat]?).any (·.lock.admits s)

/-- The load of a handle that was given out takes the lock of its session. -/
def knows (threads : Threads Actor) (h : Handle) : Bool :=
    (threads.world.load? (World.originOf h)).any (·.attached)

/-- The managed call that a thread has in progress: the handle that it is made through and those
whose objects are passed along. Outside of sections only a virtual machine is called. -/
def call? (threads : Threads Actor) (actor : Actor) : Option (Handle × List Handle) :=
    match threads.stage actor with
    | .calling h asked => some (h, asked.others)
    | .aside h _ =>
        if (threads.world.load? (World.originOf h)).any (·.host ≠ .memory) then some (h, [])
        else none
    | _ => none

def isOpen (threads : Threads Actor) (h : Handle) : Bool :=
    (threads.world.load? (World.originOf h)).any fun load => load.alive && load.closings == 0

variable [DecidableEq Actor]

def moveTo (threads : Threads Actor) (actor : Actor) (stage : Stage) : Threads Actor :=
    { threads with stage := Function.update threads.stage actor stage }

def enter (threads : Threads Actor) (actor : Actor) (seat : Nat) (s : Section) : Threads Actor :=
    { threads.act seat (turnLock (·.enter s)) with
      opened := (actor, seat, s) :: threads.opened }

def leave (threads : Threads Actor) (actor : Actor) (seat : Nat) (s : Section) : Threads Actor :=
    { threads.act seat (turnLock (·.leave s)) with
      opened := threads.opened.erase (actor, seat, s) }

/-- A thread with nothing to do sets out. Where the lock makes it wait, it is as if it had not. -/
def start (threads : Threads Actor) (actor : Actor) : Task → Threads Actor
  | .use h asked =>
      if threads.knows h && asked.isPlain && threads.admits h.seat .shared then
        (threads.enter actor h.seat .shared).moveTo actor (.checking h asked (h :: asked.others))
      else threads
  | .aside h asked =>
      if threads.knows h then threads.moveTo actor (.aside h asked) else threads
  | .hold h =>
      if threads.knows h && threads.admits h.seat .shared then threads.enter actor h.seat .shared
      else threads
  | .letGo h =>
      if threads.opened.contains (actor, h.seat, .shared) then threads.leave actor h.seat .shared
      else threads
  | .load seat engine path options =>
      if threads.admits seat .exclusive then
        (threads.enter actor seat .exclusive).moveTo actor (.opening seat engine path options)
      else threads
  | .close seat =>
      if threads.admits seat .exclusive then
        (threads.enter actor seat .exclusive).moveTo actor (.replacing seat none)
      else threads

def goOn (threads : Threads Actor) (actor : Actor) : Threads Actor :=
    match threads.stage actor with
    | .idle => threads
    | .checking h asked [] => threads.moveTo actor (.calling h asked)
    | .checking h asked (g :: left) =>
        if threads.world.lives (World.originOf g) then
          threads.moveTo actor (.checking h asked left)
        else threads.moveTo actor (.leaving h asked.fallsBack)
    | .calling h asked =>
        let outcome := (threads.world.run h.seat (asked.call threads.world h)).1
        (threads.act h.seat (asked.call threads.world h)).moveTo actor
          (.leaving h (asked.fallsBack && failed outcome))
    | .leaving h fallsBack =>
        (threads.leave actor h.seat .shared).moveTo actor
          (if fallsBack then .aside h .fallback else .idle)
    | .aside h asked => (threads.act h.seat (asked.ask h)).moveTo actor .idle
    | .opening seat engine path options =>
        let outcome := (threads.world.run seat (prepare engine path options)).1
        (threads.act seat (prepare engine path options)).moveTo actor
          (match outcome with
            | .ok loaded => .replacing seat (some loaded)
            | .error _ => .finishing seat)
    | .replacing seat loaded =>
        (threads.act seat (replaceCurrent loaded)).moveTo actor
          (match threads.world.current seat with
            | some previous => .invalidating seat previous
            | none => .finishing seat)
    | .invalidating seat previous =>
        (threads.act seat (invalidate previous.load)).moveTo actor (.closing seat previous)
    | .closing seat previous =>
        (threads.act seat (closePrevious previous)).moveTo actor (.finishing seat)
    | .finishing seat => (threads.leave actor seat .exclusive).moveTo actor .idle

/-- What may happen next. Files and managed objects may change at any time. -/
inductive Move (Actor : Type) where
  | openSession
  | amend (seat : Nat) (change : Heap → Heap)
  | replaceFiles (files : Files.Tree)
  | start (actor : Actor) (task : Task)
  | goOn (actor : Actor)

def perform (threads : Threads Actor) : Move Actor → Threads Actor
  | .openSession => { threads with world := threads.world.addSession.1 }
  | .amend seat change => { threads with world := threads.world.amend seat change }
  | .replaceFiles files => { threads with world := { threads.world with files := files } }
  | .start actor task =>
      if (threads.stage actor).isIdle then threads.start actor task else threads
  | .goOn actor => threads.goOn actor

def run (threads : Threads Actor) (moves : List (Move Actor)) : Threads Actor :=
    moves.foldl perform threads

def after (moves : List (Move Actor)) : Threads Actor :=
    run {} moves

end Threads

end DexBrowser.Session

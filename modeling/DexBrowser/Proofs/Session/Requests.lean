import DexBrowser.Proofs.Session.Scene

/-!
What callers are answered. A request is put to a session or to one of the handles that it gave out,
and is answered or fails; a desk holds the sessions and what was given out so far. Inputs are
opened in memory.
-/

namespace DexBrowser.Session

open Managed Session.Action

/-- What may be asked of a session, where handles go by `ρ`. What `amend` changes is what
decompilers answer otherwise than the artifact says. A handle that is compared with no other one is
compared with a value. -/
inductive Request (ρ : Type) where
  | load (validator : Validator) (amend : Heap → Heap) (path : Files.PathArgument)
      (given : Option LoadOptions) (changes : List (String × Json))
  | close
  | isLoaded
  | input
  | search (asked : Search)
  | hasClass (name : String)
  | hasPackage (name : String)
  | classRows (package : Option String) (limit : Int)
  | packageRows
  | methodRows (className : String)
  | classDetail (h : ρ)
  | read (h : ρ) (asked : Attribute)
  | text (h : ρ)
  | inspect (h : ρ)
  | hash (h : ρ)
  | compare (h : ρ) (other : Option ρ)
  | equals (h other : ρ)
  | save (h : ρ) (path : Files.PathArgument)

inductive Reply where
  | done
  | input (shown : Option (Path × LoadOptions))
  | answer (a : Answer)
  | hash (code : HashCode)
  | classRows (rows : List Query.ClassRow)
  | packageRows (rows : List Query.PackageRow)
  | methodRows (rows : List Query.MethodRow)
  | classDetail (detail : Query.ClassDetail)

namespace Answer

def map (f : Handle → Handle) : Answer → Answer
  | handles hs => handles (hs.map f)
  | a => a

theorem given_map (f : Handle → Handle) (a : Answer) : (a.map f).given = a.given.map f := by
  cases a <;> rfl

end Answer

namespace Reply

def flag (b : Bool) : Reply := answer (.flag b)
def text (s : String) : Reply := answer (.text s)

def given : Reply → List Handle
  | answer a => a.given
  | _ => []

def map (f : Handle → Handle) : Reply → Reply
  | answer a => answer (a.map f)
  | reply => reply

theorem given_map (f : Handle → Handle) (reply : Reply) :
    (reply.map f).given = reply.given.map f := by
  cases reply with
  | answer a => exact a.given_map f
  | _ => rfl

end Reply

namespace Request

/-- A request by the handles that its numbers stand for, if they were given out. -/
def resolve (held : List Handle) : Request Nat → Option (Request Handle)
  | load validator amend path given changes => some (load validator amend path given changes)
  | close => some close
  | isLoaded => some isLoaded
  | input => some input
  | search asked => some (search asked)
  | hasClass name => some (hasClass name)
  | hasPackage name => some (hasPackage name)
  | classRows package limit => some (classRows package limit)
  | packageRows => some packageRows
  | methodRows className => some (methodRows className)
  | classDetail k => held[k]?.map classDetail
  | read k asked => held[k]?.map (read · asked)
  | text k => held[k]?.map text
  | inspect k => held[k]?.map inspect
  | hash k => held[k]?.map hash
  | compare j none => held[j]?.map (compare · none)
  | compare j (some k) => do return compare (← held[j]?) (some (← held[k]?))
  | equals j k => do return equals (← held[j]?) (← held[k]?)
  | save k path => held[k]?.map (save · path)

def handles : Request ρ → List ρ
  | classDetail h | read h _ | text h | inspect h | hash h | save h _ => [h]
  | compare h other => h :: other.toList
  | equals h other => [h, other]
  | _ => []

def map (f : ρ → σ) : Request ρ → Request σ
  | load validator amend path given changes => load validator amend path given changes
  | close => close
  | isLoaded => isLoaded
  | input => input
  | search asked => search asked
  | hasClass name => hasClass name
  | hasPackage name => hasPackage name
  | classRows package limit => classRows package limit
  | packageRows => packageRows
  | methodRows className => methodRows className
  | classDetail h => classDetail (f h)
  | read h asked => read (f h) asked
  | text h => text (f h)
  | inspect h => inspect (f h)
  | hash h => hash (f h)
  | compare h other => compare (f h) (other.map f)
  | equals h other => equals (f h) (f other)
  | save h path => save (f h) path

def SavesNothing : Request ρ → Prop
  | save .. => False
  | _ => True

end Request

/-! ## Worlds that answer -/

def currentInput : Action (Option (Path × LoadOptions)) := do
    return (← state).current.map fun loaded => (loaded.path, loaded.options)

def replied (outcome : Except Fault α × World) (reply : α → Reply) :
    Except Fault Reply × World :=
    (outcome.1.map reply, outcome.2)

def World.ask (world : World) (seat : Nat) : Request Handle → Except Fault Reply × World
  | .load validator amend path given changes =>
      replied (world.run seat (load (.memory validator amend) path given changes)) fun _ => .done
  | .close => replied (world.run seat close) fun _ => .done
  | .isLoaded => replied (world.run seat isLoaded) .flag
  | .input => replied (world.run seat currentInput) .input
  | .search asked => replied (world.run seat asked.run) fun hs => .answer (.handles hs)
  | .hasClass name => replied (world.run seat (hasClass name)) .flag
  | .hasPackage name => replied (world.run seat (hasPackage name)) .flag
  | .classRows package limit => replied (world.run seat (Query.classes package limit)) .classRows
  | .packageRows => replied (world.run seat Query.packages) .packageRows
  | .methodRows className => replied (world.run seat (Query.methods className)) .methodRows
  | .classDetail h => replied (world.run h.seat (Query.classDetail h)) .classDetail
  | .read h asked => replied (world.run h.seat (asked.read h)) .answer
  | .text h => replied (world.run h.seat h.toText) .text
  | .inspect h => replied (world.run h.seat h.inspect) .text
  | .hash h => replied (world.run h.seat h.hash) .hash
  | .compare h other => replied (world.compare h (other.elim .value .handle)) .flag
  | .equals h other => replied (world.equals h other) .flag
  | .save h path => replied (world.run h.seat (h.save path : Action Bool)) .flag

/-! ## Desks -/

/-- Sessions, and what each has given out so far. -/
structure Desk where
  world : World := {}
  held : Nat → List Handle := fun _ => []

/-- What may happen at a desk. Managed objects and files may change at any time. -/
inductive Event where
  | openSession
  | ask (seat : Nat) (request : Request Nat)
  | amend (seat : Nat) (change : Heap → Heap)
  | replaceFiles (files : Files.Tree)

namespace Event

def SavesNothing : Event → Prop
  | ask _ request => request.SavesNothing
  | _ => True

/-- What is left of an event where a session is alone, which has a seat of its own there. -/
def alone (seat own : Nat) : Event → Option Event
  | openSession => none
  | ask asked request => if asked = seat then some (ask own request) else none
  | amend asked change => if asked = seat then some (amend own change) else none
  | replaceFiles files => some (replaceFiles files)

end Event

namespace Desk

def hold (desk : Desk) (seat : Nat) (reply : Except Fault Reply × World) : Desk where
  world := reply.2
  held := Function.update desk.held seat
    (desk.held seat ++ reply.1.toOption.elim [] Reply.given)

/-- What a session is asked by numbers of handles, those that were not given out are not asked. -/
def ask (desk : Desk) (seat : Nat) (request : Request Nat) :
    Option (Except Fault Reply) × Desk :=
    match request.resolve (desk.held seat) with
    | none => (none, desk)
    | some request =>
        let reply := desk.world.ask seat request
        (some reply.1, desk.hold seat reply)

def perform (desk : Desk) : Event → Desk
  | .openSession => { desk with world := desk.world.addSession.1 }
  | .ask seat request => (desk.ask seat request).2
  | .amend seat change => { desk with world := desk.world.amend seat change }
  | .replaceFiles files => { desk with world := { desk.world with files := files } }

def after (events : List Event) : Desk :=
    events.foldl perform {}

theorem after_induction {holds : Desk → Prop} (start : holds {})
    (kept : ∀ desk event, holds desk → holds (desk.perform event)) (events : List Event) :
    holds (after events) := by
  suffices every : ∀ desk : Desk, holds desk → holds (events.foldl perform desk) from every {} start
  induction events with
  | nil => exact fun _ held => held
  | cons event rest ih => exact fun desk held => ih _ (kept desk event held)

def reply (desk : Desk) (seat : Nat) : Event → List (Option (Except Fault Reply))
  | .ask asked request => if asked = seat then [(desk.ask asked request).1] else []
  | _ => []

def replies (desk : Desk) (seat : Nat) : List Event → List (Option (Except Fault Reply))
  | [] => []
  | event :: rest => desk.reply seat event ++ (desk.perform event).replies seat rest

def forget (desk : Desk) (seat : Nat) : Desk :=
    { desk with held := Function.update desk.held seat [] }

end Desk

end DexBrowser.Session

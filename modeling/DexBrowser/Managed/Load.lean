import DexBrowser.Managed.Hash
import DexBrowser.Managed.Heap

/-!
The managed side of one load and the calls it answers. Calls that run a member of an object are
kept, newest first.
-/

namespace DexBrowser.Managed

open Number

/-- Where managed objects live: in memory, or in a virtual machine that may not run and may not
know every class. -/
inductive Host where
  | memory
  | machine (running : Bool) (known : Option (List String))
  deriving DecidableEq, Repr, Inhabited

/-- A member that was run, and under which conditions. -/
structure Call where
  id : ObjectId
  member : String
  byHandle : Bool
  readers : Nat
  alive : Bool
  deriving DecidableEq, Repr

/-- Handles of a load may be used while it is alive. Once it is attached to a lock, they take that
lock. -/
structure Load where
  host : Host := .memory
  heap : Heap := {}
  alive : Bool := true
  attached : Bool := false
  calls : List Call := []
  deriving Inhabited

/-- A value as a whole number: numbers lose their fraction, a text is read. -/
def toWhole : Value → Except Fault Int
  | .bool b => .ok (if b then 1 else 0)
  | .int i => .ok i
  | .real x =>
      match x.truncate? with
      | some i => .ok i
      | none => .error (.value (.notFinite (x = .notANumber)))
  | .text s =>
      match integer? s, excessDigits? s with
      | some i, _ => .ok i
      | none, some count => .error (.value (.tooManyDigits (some count)))
      | none, none =>
          .error (.value (.notInteger (String.ofList ((Text.quoted s).toList.take 200))))
  | v => .error (.kind (.notNumber v.kindName))

/-- What iterating over a value gives. Nothing comes of what counts as no. -/
def itemsOf (v : Value) : Except Fault (List Value) :=
    if !v.isTrue then .ok []
    else
      match v with
      | .list xs => .ok xs
      | .tuple xs => .ok xs
      | .text s => .ok (s.toList.map fun c => .text (String.singleton c))
      | .bytes bs => .ok (bs.map fun b => .int b.toNat)
      | .record ms => .ok (ms.map fun m => .text m.1)
      | v => .error (.kind (.notIterable v.kindName))

namespace Load

def written (load : Load) (v : Value) : Except Fault String :=
    v.written load.heap.describe

def shown (load : Load) (v : Value) : Except Fault String :=
    v.shown load.heap.describe

def address (load : Load) (v : Value) : Nat :=
    load.heap.outside.address v

def typeName (load : Load) (v : Value) : String :=
    match v with
    | .object _ | .reflected _ | .stranger .. => load.heap.outside.proxyName v
    | v => v.kindName

def object? (load : Load) : Value → Option (ObjectId × Object)
  | .object id => (load.heap.object? id).map (id, ·)
  | _ => none

def member? (load : Load) (target : Value) (name : String) : Option Member :=
    match target with
    | .object id => load.heap.member? id name
    | _ => none

/-! ## What members answer -/

/-- The fault of a call, which names who was called; if nobody can be named, what went wrong with
that. -/
def blame (owner : Except Fault String) (cause : String → ManagedCause) : Fault :=
    match owner with
    | .ok owner => .managed (cause owner)
    | .error fault => fault

def memoryAnswer (load : Load) (readers : Nat) (owner : Except Fault String) (name : String)
    (arguments : List Value) : Member → Except Fault Value
  | .constant v => .ok v
  | .raises what => .error (blame owner (.raised · name what))
  | .varying answer =>
      match answer load.calls.length with
      | .ok v => .ok v
      | .error what => .error (blame owner (.raised · name what))
  | .arguments => .ok (.list arguments)
  | .readers => .ok (.int readers)
  | .alive => .ok (.bool load.alive)
  | .closes => .ok .null
  | .isClosed => .ok (.bool load.heap.closed)
  | .throws className what => .error (blame owner (.raised · name (className ++ ": " ++ what)))
  | .refuses what => .error (blame owner (.notCallable · name what))
  | .stopped what => .error (blame owner (.notCallable · name what))

/-- What a member answers to whoever describes its object, if it answers. -/
def told? (load : Load) (readers : Nat) (target : Value) (name : String) : Option Value := do
    let member ← load.member? target name
    (load.memoryAnswer readers (.ok "") name [] member).toOption

def ownClass? (load : Load) (readers : Nat) (target : Value) : Option Value :=
    match load.member? target "getClass" with
    | some _ => load.told? readers target "getClass"
    | none =>
        match load.object? target with
        | some (_, object) => if object.nameless then none else some (.reflected object.cls)
        | none => none

/-- How an object of a virtual machine is called: as its class says, or by its type. -/
def owner (load : Load) (readers : Nat) (target : Value) : Except Fault String :=
    match load.ownClass? readers target with
    | some (.reflected cls) => .ok cls.name
    | some cls =>
        match load.told? readers cls "getName" with
        | some name => load.written name
        | none => .ok (load.typeName target)
    | none => .ok (load.typeName target)

def machineAnswer (load : Load) (readers : Nat) (target : Value) (name : String)
    (arguments : List Value) : Except Fault Value :=
    match load.member? target name with
    | some member => load.memoryAnswer readers (load.owner readers target) name arguments member
    | none =>
        let missing := .error (blame (load.owner readers target) (.noMethod · name))
        match target with
        | .reflected cls => if name = "getName" then .ok (.text cls.name) else missing
        | _ =>
            match name, load.ownClass? readers target with
            | "getClass", some cls => .ok cls
            | _, _ => missing

def answer (load : Load) (readers : Nat) (target : Value) (name : String)
    (arguments : List Value) : Except Fault Value :=
    match load.host with
    | .memory =>
        match load.object? target with
        | none => .error (blame (load.shown target) .notObject)
        | some (id, object) =>
            match load.heap.member? id name with
            | none => .error (.managed (.noMethod object.cls.name name))
            | some member => load.memoryAnswer readers (.ok object.cls.name) name arguments member
    | .machine .. => load.machineAnswer readers target name arguments

/-! ## Calls -/

/-- What is kept of a call that runs a member. -/
def record (load : Load) (byHandle : Bool) (readers : Nat) (target : Value) (name : String) :
    Load :=
    match target, load.member? target name with
    | .object id, some member =>
        let closed := match member with | .closes => true | _ => load.heap.closed
        { load with
          heap := { load.heap with closed := closed }
          calls := ⟨id, name, byHandle, readers, load.alive⟩ :: load.calls }
    | _, _ => load

@[simp] theorem record_host (load : Load) (byHandle : Bool) (readers : Nat) (target : Value)
    (name : String) : (load.record byHandle readers target name).host = load.host := by
  unfold record
  split <;> rfl

@[simp] theorem record_alive (load : Load) (byHandle : Bool) (readers : Nat) (target : Value)
    (name : String) : (load.record byHandle readers target name).alive = load.alive := by
  unfold record
  split <;> rfl

@[simp] theorem record_attached (load : Load) (byHandle : Bool) (readers : Nat) (target : Value)
    (name : String) : (load.record byHandle readers target name).attached = load.attached := by
  unfold record
  split <;> rfl

def invoke (load : Load) (byHandle : Bool) (readers : Nat) (target : Value) (name : String)
    (arguments : List Value) : Except Fault Value × Load :=
    (load.answer readers target name arguments, load.record byHandle readers target name)

/-- How closing the decompiler in a virtual machine ends, where nothing stands between. What is
thrown comes back as a text, any other failure goes through. -/
def closeInMachine (load : Load) : Except Fault (Option String) :=
    match load.heap.member? .decompiler "close" with
    | some (.throws _ what) | some (.raises what) => .ok (some what)
    | some (.varying answer) =>
        match answer load.calls.length with
        | .ok _ => .ok none
        | .error what => .ok (some what)
    | some (.refuses what) | some (.stopped what) => .error (.thrown what)
    | some _ => .ok none
    | none =>
        .error (.thrown ("'" ++ load.typeName (.object .decompiler) ++
          "' object has no attribute 'close'"))

/-- The text of an object. In memory, one without a text of its own shows class and address. -/
def toText (load : Load) (byHandle : Bool) (readers : Nat) (target : Value) :
    Except Fault String × Load :=
    let called (owner : Except Fault String) : Except Fault String × Load :=
      let (done, load) := load.invoke byHandle readers target "toString" []
      (done.bind fun v => if v.isNull then .error (blame owner .nullText) else load.written v, load)
    match load.host with
    | .machine .. => called (load.owner readers target)
    | .memory =>
        match load.object? target with
        | none => (.error (blame (load.shown target) .notObject), load)
        | some (id, object) =>
            match load.heap.member? id "toString" with
            | some _ => called (.ok object.cls.name)
            | none =>
                (.ok (object.cls.name ++ "@" ++ Text.hexInt (load.address target)), load)

/-- The hash of an object: a number of its own, else its class and key, else its address. -/
def hashCode (load : Load) (byHandle : Bool) (readers : Nat) (target : Value) :
    Except Fault HashCode × Load :=
    let called : Except Fault HashCode × Load :=
      let (done, load) := load.invoke byHandle readers target "hashCode" []
      (done.bind fun v => (toWhole v).map .number, load)
    match load.host with
    | .machine .. => called
    | .memory =>
        match load.object? target with
        | none => (.error (blame (load.shown target) .notObject), load)
        | some (id, object) =>
            match load.heap.member? id "hashCode", object.key with
            | some _, _ => called
            | none, none => (.ok (.address id), load)
            | none, some key =>
                match unhashable? key with
                | some kind => (.error (.kind (.notHashable kind)), load)
                | none => (.ok (.keyed object.cls.name key), load)

/-- Two objects in memory are equal if they are one, or have equal keys in one class. -/
def sameObject (load : Load) (id : ObjectId) (object : Object) (other : Value) : Bool :=
    match object.key with
    | none => other.same (.object id)
    | some key =>
        match other with
        | .stranger className (some otherKey) =>
            object.cls.name == className && key.same otherKey
        | .object otherId =>
            match load.heap.object? otherId with
            | some ⟨otherClass, _, some otherKey, _⟩ =>
                object.cls.name == otherClass.name && key.same otherKey
            | _ => false
        | _ => false

def equals (load : Load) (byHandle : Bool) (readers : Nat) (target other : Value) :
    Except Fault Bool × Load :=
    let called : Except Fault Bool × Load :=
      let (done, load) := load.invoke byHandle readers target "equals" [other]
      (done.map Value.isTrue, load)
    match load.host with
    | .machine .. => called
    | .memory =>
        match load.object? target with
        | none => (.error (blame (load.shown target) .notObject), load)
        | some (id, object) =>
            match load.heap.member? id "equals" with
            | some _ => called
            | none => (.ok (load.sameObject id object other), load)

/-- The number by which an object is told from all others: its address in memory, what the machine
says of it in a virtual machine. -/
def identity (load : Load) (target : Value) : Except Fault Int :=
    match load.host with
    | .memory =>
        match load.object? target with
        | none => .error (blame (load.shown target) .notObject)
        | some _ => .ok (load.address target)
    | .machine running _ =>
        let unknown (why : String) : Except Fault Int :=
          .error (.managed (.noIdentity (load.typeName target) why))
        match load.heap.outside.identityOf running target with
        | .error why => unknown why
        | .ok v =>
            match toWhole v with
            | .error (.kind cause) => unknown cause.message
            | whole => whole

def classOf (load : Load) (byHandle : Bool) (readers : Nat) (target : Value) :
    Except Fault Value × Load :=
    match load.host with
    | .machine .. => load.invoke byHandle readers target "getClass" []
    | .memory =>
        match load.object? target with
        | none => (.error (blame (load.shown target) .notObject), load)
        | some (_, object) => (.ok (.reflected object.cls), load)

def className (load : Load) (byHandle : Bool) (readers : Nat) (cls : Value) :
    Except Fault String × Load :=
    match load.host with
    | .machine .. =>
        let (done, load) := load.invoke byHandle readers cls "getName" []
        (done.bind load.written, load)
    | .memory =>
        match cls with
        | .reflected cls => (.ok cls.name, load)
        | v => (.error (blame (load.shown v) .notClass), load)

/-- The class is the object's own or one of its supertypes. -/
def belongs (load : Load) (target : Value) (className : String) : Bool :=
    match load.object? target with
    | some (_, object) => object.cls.name == className || object.cls.supertypes.contains className
    | none => false

/-- Whether an object belongs to a class. A virtual machine must run and know the class. -/
def isInstance (load : Load) (target : Value) (className : String) : Except Fault Bool :=
    match load.host with
    | .memory => .ok (load.belongs target className)
    | .machine running known =>
        if !running then .error (.load .noEngine)
        else if known.any (!·.contains className) then .error (.managed (.unknownClass className))
        else .ok (load.belongs target className)

end Load

end DexBrowser.Managed

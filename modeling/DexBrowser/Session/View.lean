import DexBrowser.Session.Action

/-!
Making handles and asking through them. A handle asks only while its load is alive, in a shared
section; its text is given always. What takes more than one section is written for any monad into
which actions lift, so that others may act on the session between the sections.
-/

namespace DexBrowser.Session

open Managed

/-! ## Calls into the managed side -/

namespace Remote

def readers : Action Nat := do
    return (← Action.state).lock.readers

def invoke (n : Nat) (byHandle : Bool) (target : Value) (name : String)
    (arguments : List Value) : Action Value := do
    let readers ← readers
    Action.onLoad n (·.invoke byHandle readers target name arguments)

def toText (n : Nat) (byHandle : Bool) (target : Value) : Action String := do
    let readers ← readers
    Action.onLoad n (·.toText byHandle readers target)

def hashCode (n : Nat) (byHandle : Bool) (target : Value) : Action HashCode := do
    let readers ← readers
    Action.onLoad n (·.hashCode byHandle readers target)

def equals (n : Nat) (byHandle : Bool) (target other : Value) : Action Bool := do
    let readers ← readers
    Action.onLoad n (·.equals byHandle readers target other)

def identity (n : Nat) (target : Value) : Action Int :=
    Action.onLoad n fun load => (load.identity target, load)

def classOf (n : Nat) (byHandle : Bool) (target : Value) : Action Value := do
    let readers ← readers
    Action.onLoad n (·.classOf byHandle readers target)

def className (n : Nat) (byHandle : Bool) (cls : Value) : Action String := do
    let readers ← readers
    Action.onLoad n (·.className byHandle readers cls)

def isInstance (n : Nat) (target : Value) (className : String) : Action Bool :=
    Action.onLoad n fun load => (load.isInstance target className, load)

def address (n : Nat) (target : Value) : Action Int :=
    Action.onLoad n fun load => (.ok (load.address target), load)

def written (n : Nat) (v : Value) : Action String :=
    Action.onLoad n fun load => (load.written v, load)

end Remote

namespace Handle

def checkAlive (h : Handle) : Action Unit := do
    if !(← Action.loadAt h.load).alive then Action.fail (.managed (.stale h.kind.name))

def invoke (h : Handle) (name : String) : Action Value :=
    Action.shared h.load do
      h.checkAlive
      Remote.invoke h.load true h.target name []

def invokeWith (h : Handle) (name : String) (arguments : List Value) : Action Value :=
    Action.shared h.load do
      h.checkAlive
      Remote.invoke h.load true h.target name arguments

def managedClassName (h : Handle) : Action String :=
    Remote.className h.load true h.reflected

variable {m : Type → Type} [Monad m] [MonadLiftT Action m]

def mint : Action Nat := do
    let serial := (← Action.state).minted
    Action.modifyState fun state => { state with minted := serial + 1 }
    return serial

/-- Refuses an object that does not belong to the class of a kind. -/
def checkClass (n : Nat) (kind : Kind) (target cls : Value) : Action Unit :=
    match kind.required? with
    | none => pure ()
    | some required => do
        if !(← Remote.isInstance n target required) then
          let className ← Remote.className n true cls
          Action.fail (.managed (.wrongClass className required))

/-- A handle of an object, of a given reflected class or of the object's own, with no flags yet. -/
def bare (n : Nat) (kind : Kind) (target : Value) (cls : Option Value) : Action Handle := do
    if target.isNull then Action.fail (.managed (.nullReference kind.name))
    let cls ← match cls with
      | some cls => pure cls
      | none => Remote.classOf n true target
    checkClass n kind target cls
    return ⟨(← Action.state).seat, n, ← mint, kind, target, cls, ⟨0⟩⟩

def makeAs (n : Nat) (kind : Kind) (target : Value) (cls : Option Value) : m Handle := do
    let handle ← bare n kind target cls
    if kind = .access then
      let raw ← handle.invoke "rawValue"
      let flags ← Action.ofExcept ((toWhole raw).bind AccessFlags.read)
      return { handle with flags := flags }
    else return handle

def make (n : Nat) (kind : Kind) (target : Value) : m Handle :=
    makeAs n kind target none

def wrap (h : Handle) (kind : Kind) (target : Value) : m Handle :=
    make h.load kind target

def wrapAll (h : Handle) (kind : Kind) (targets : Value) : m (List Handle) := do
    (← Action.ofExcept (itemsOf targets)).mapM (h.wrap kind)

/-! ## Text, hash and equality -/

def fallbackText (h : Handle) : Action String := do
    let className ← Action.catchManaged h.managedClassName fun _ => pure h.kind.name
    let identity ← Action.catchManaged (Remote.identity h.load h.target) fun _ =>
      Remote.address h.load h.target
    return className ++ "#" ++ Text.hexInt identity

def toText (h : Handle) : Action String :=
    Action.catchManaged
      (Action.shared h.load do
        h.checkAlive
        Remote.toText h.load true h.target)
      fun _ => h.fallbackText

def inspect (h : Handle) : Action String := do
    return "<" ++ h.kind.name ++ " " ++ (← h.toText) ++ ">"

def hash (h : Handle) : Action HashCode :=
    Action.shared h.load do
      h.checkAlive
      Remote.hashCode h.load true h.target

structure Peer where
  kind : Kind
  alive : Bool
  value : Value

def equals (h : Handle) (other : Peer) : Action Bool :=
    Action.shared h.load do
      h.checkAlive
      if !other.alive then Action.fail (.managed (.stale other.kind.name))
      Remote.equals h.load true h.target other.value

end Handle

end DexBrowser.Session

import DexBrowser.AccessFlags
import DexBrowser.Managed.Load

/-!
Handles: references into the managed side of one load, each of one kind.
-/

namespace DexBrowser.Session

open Managed

inductive Kind where
  | plain
  | node
  | method
  | classNode
  | package
  | access
  | argType
  | primitive
  deriving DecidableEq, Repr, Inhabited

namespace Kind

def name : Kind → String
  | plain => "ManagedHandle"
  | node => "JavaNode"
  | method => "JavaMethod"
  | classNode => "JavaClass"
  | package => "JavaPackage"
  | access => "AccessInfo"
  | argType => "ArgType"
  | primitive => "PrimitiveType"

def required? : Kind → Option String
  | plain => none
  | node => none
  | method => some methodClass.name
  | classNode => some classClass.name
  | package => some packageClass.name
  | access => some accessClass.name
  | argType => some typeClassName
  | primitive => some primitiveClass.name

def isWithin : Kind → Kind → Bool
  | plain, _ => false
  | node, other => other == plain
  | method, other | classNode, other | package, other => other == plain || other == node
  | _, other => other == plain

end Kind

/-- A handle knows its session by `seat`, its load in the session by number and itself by a serial
number. The flags of an access view are read once, when it is made. -/
structure Handle where
  seat : Nat
  load : Nat
  serial : Nat
  kind : Kind
  target : Value
  reflected : Value
  flags : AccessFlags := ⟨0⟩
  deriving Inhabited

namespace Handle

/-- The two are one wrapper, not only wrappers of one object. -/
def isWrapper (first second : Handle) : Bool :=
    first.seat == second.seat && first.serial == second.serial

end Handle

end DexBrowser.Session

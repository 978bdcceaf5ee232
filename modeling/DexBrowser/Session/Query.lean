import DexBrowser.Session.Loading

/-!
Overviews of a loaded input: rows for classes, packages and methods, and the details of one class.
None of them holds the lock from end to end: others may load and close in between.
-/

namespace DexBrowser.Session.Query

structure ClassRow where
  fullName : String
  methods : Nat
  line : Int
  deriving DecidableEq, Repr

structure PackageRow where
  fullName : String
  classes : Nat
  deriving DecidableEq, Repr

structure MethodRow where
  access : String
  returnType : String
  signature : String
  line : Int
  deriving DecidableEq, Repr

structure MethodDetail where
  name : String
  signature : String
  returnType : String
  isConstructor : Bool
  line : Int
  deriving DecidableEq, Repr

structure ClassDetail where
  fullName : String
  name : String
  package : String
  access : String
  isInterface : Bool
  isAbstract : Bool
  line : Int
  methods : List MethodDetail
  deriving DecidableEq, Repr

/-- The first items; a negative number says how many to leave off at the end. -/
def firstItems (limit : Int) (xs : List α) : List α :=
    match limit with
    | .ofNat n => xs.take n
    | .negSucc n => xs.take (xs.length - (n + 1))

def usualLimit : Int := 100

variable {m : Type → Type} [Monad m] [MonadLiftT Action m]

def signature (method : Handle) : m String := do
    let arguments ← (← method.arguments).mapM fun argument => argument.toText
    return (← method.name) ++ "(" ++ ", ".intercalate arguments ++ ")"

def classRow (h : Handle) : m ClassRow := do
    return ⟨← h.fullName, (← h.methods).length, ← h.line⟩

def classes (package : Option String) (limit : Int) : m (List ClassRow) := do
    let handles ← match package with
      | none | some "" => allClasses
      | some name => do (← getPackage name).classes
    (firstItems limit handles).mapM classRow

def packages : m (List PackageRow) := do
    (← allPackages).mapM fun h => do
      return ⟨← h.fullName, (← h.classes).length⟩

def methodRow (h : Handle) : m MethodRow := do
    let access ← (← h.access).toText
    let returnType ← (← h.returnType).toText
    return ⟨access, returnType, ← signature h, ← h.line⟩

def methods (className : String) : m (List MethodRow) := do
    let h ← getClass className
    (← h.methods).mapM methodRow

def methodDetail (h : Handle) : m MethodDetail := do
    let name ← h.name
    let signature ← signature h
    let returnType ← (← h.returnType).toText
    return ⟨name, signature, returnType, ← h.isConstructor, ← h.line⟩

def classDetail (h : Handle) : m ClassDetail := do
    let access ← h.access
    let fullName ← h.fullName
    let name ← h.name
    let package ← h.packageName
    let accessText ← access.toText
    let line ← h.line
    let methods ← (← h.methods).mapM methodDetail
    return ⟨fullName, name, package, accessText, access.flags.isInterface,
      access.flags.isAbstract, line, methods⟩

end DexBrowser.Session.Query

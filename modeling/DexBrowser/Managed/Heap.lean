import DexBrowser.Managed.Object

/-!
The managed objects of one load: those of an image, those given by hand, and members that were
replaced or taken away since. Main statements: a member that was set is found, and a change leaves
every other member as it was.
-/

namespace DexBrowser.Managed

/-- What is known of values by those alone who hold them: their addresses, how the objects of a
virtual machine are called that cannot tell their class, what a machine that runs answers to the
question for their identity, or why it cannot, and what one says that does not run. -/
structure Outside where
  address : Value → Nat := fun _ => 0
  proxyName : Value → String := fun _ => ""
  identityHash : Value → Except String Value := fun _ => .error ""
  stopped : String := ""
  deriving Inhabited

def Outside.identityOf (outside : Outside) (running : Bool) (v : Value) : Except String Value :=
    if running then outside.identityHash v else .error outside.stopped

structure Heap where
  image : Image := {}
  given : List (String × Object) := []
  changes : List ((ObjectId × String) × Option Member) := []
  closed : Bool := false
  outside : Outside := {}
  deriving Inhabited

namespace Heap

def object? (heap : Heap) : ObjectId → Option Object
  | .given name => heap.given.lookup name
  | id => imageObject? heap.image id

def member? (heap : Heap) (id : ObjectId) (name : String) : Option Member :=
    match heap.changes.lookup (id, name) with
    | some change => change
    | none => (heap.object? id).bind (·.member? name)

def change (heap : Heap) (id : ObjectId) (name : String) (member : Option Member) : Heap :=
    { heap with changes := ((id, name), member) :: heap.changes }

@[simp] theorem member?_change_same (heap : Heap) (id : ObjectId) (name : String)
    (member : Option Member) : (heap.change id name member).member? id name = member := by
  simp [member?, change]

theorem member?_change_other (heap : Heap) {id other : ObjectId} {name otherName : String}
    (member : Option Member) (distinct : (other, otherName) ≠ (id, name)) :
    (heap.change id name member).member? other otherName = heap.member? other otherName := by
  have unequal : ((other, otherName) == (id, name)) = false := by simpa using distinct
  have same : (heap.change id name member).object? other = heap.object? other := by
    cases other <;> rfl
  simp only [member?, change, List.lookup_cons, unequal]
  cases heap.changes.lookup (other, otherName) with
  | some change => rfl
  | none => exact congrArg (·.bind fun object => object.member? otherName) same

def describe (heap : Heap) (id : ObjectId) : Except Fault String :=
    match heap.object? id with
    | some object => do
        let key ← (object.key.getD .null).shown fun _ => .ok ""
        return "InMemoryObject(" ++ object.cls.name ++ ", key=" ++ key ++ ")"
    | none => .ok ""

structure ListStep where
  member : String
  index : Nat
  deriving DecidableEq, Repr

def follow? (heap : Heap) : ObjectId → List ListStep → Option ObjectId
  | id, [] => some id
  | id, step :: rest =>
      match heap.member? id step.member with
      | some (.constant (.list xs)) =>
          match xs[step.index]? with
          | some (.object next) => follow? heap next rest
          | _ => none
      | _ => none

end Heap

end DexBrowser.Managed

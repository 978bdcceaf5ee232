import DexBrowser.Managed.Object

/-!
How the objects of types come to be. They are kept in a table under their trimmed spellings and
taken from it when a spelling occurs again; an array is made after its element, of which it takes
over the root. Until all are there, an object is known by its place.
-/

namespace DexBrowser.Managed

open Image Text

/-- The object of a type. Its root and its primitive word are known by their places. -/
structure TypeNode where
  spelling : String
  primitive : Bool
  array : Bool
  root : Nat
  word : Nat
  deriving DecidableEq, Repr

structure TypeTable where
  nodes : List TypeNode := []
  words : List String := []
  deriving DecidableEq, Repr

namespace TypeTable

def place? (table : TypeTable) (spelling : String) : Option Nat :=
    table.nodes.findIdx? (·.spelling == spelling)

/-- The place of a primitive word, which is made when it occurs first. -/
def word (table : TypeTable) (name : String) : Nat × TypeTable :=
    match table.words.findIdx? (· == name) with
    | some place => (place, table)
    | none => (table.words.length, { table with words := table.words ++ [name] })

def add (table : TypeTable) (node : TypeNode) : Nat × TypeTable :=
    (table.nodes.length, { table with nodes := table.nodes ++ [node] })

/-- The root of the arrays of an element: its own if it is an array, else the element. -/
def rootOf (table : TypeTable) (place : Nat) : Nat :=
    match table.nodes[place]? with
    | some node => if node.array then node.root else place
    | none => place

/-- The place of a type. One that is not there yet is made, an array after its element. -/
def type (table : TypeTable) (spelling : List Char) : Nat × TypeTable :=
    let shown := String.ofList (strip spelling)
    match table.place? shown with
    | some place => (place, table)
    | none =>
        match _bracketed : elementOf? (strip spelling) with
        | some element =>
            let (place, table) := table.type element
            let root := table.rootOf place
            let (word, table) := table.word "ARRAY"
            table.add ⟨shown, false, true, root, word⟩
        | none =>
            let primitive := isPrimitive shown
            let (word, table) := table.word (if primitive then shown else "OBJECT")
            table.add ⟨shown, primitive, false, table.nodes.length, word⟩
termination_by spelling.length
decreasing_by
    have := length_elementOf? _bracketed
    have := length_strip_le spelling
    omega

def types (table : TypeTable) : List String → List Nat × TypeTable
  | [] => ([], table)
  | spelling :: rest =>
      let (place, table) := table.type spelling.toList
      let (places, table) := table.types rest
      (place :: places, table)

/-- The object at a place, with what it refers to known by spellings. -/
def object? (table : TypeTable) (place : Nat) : Option Object := do
    let node ← table.nodes[place]?
    let root ← table.nodes[node.root]?
    let word ← table.words[node.word]?
    let cls :=
      if node.array then arrayTypeClass
      else if node.primitive then primitiveTypeClass else objectTypeClass
    return ⟨cls,
      [flagMember "isPrimitive" node.primitive, flagMember "isArray" node.array,
        objectMember "getArrayRootElement" (.argType root.spelling),
        objectMember "getPrimitiveType" (.primitive word), textMember "toString" node.spelling],
      some (.text node.spelling), false⟩

end TypeTable

end DexBrowser.Managed

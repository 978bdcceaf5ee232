import DexBrowser.Fault

/-!
Values that managed objects hold and answer. Objects are known by what they describe. An object of
another load is a stranger: of it, its class and its key are known. Of a foreign value only its kind
is known and what comes of showing it, which may be nothing but a failure.
-/

namespace DexBrowser.Managed

open Number

/-- What an object of a load describes. Types and primitive words are one object for each
spelling. -/
inductive ObjectId where
  | decompiler
  | package (index : Nat)
  | classNode (index : Nat)
  | classAccess (index : Nat)
  | method (classIndex index : Nat)
  | methodAccess (classIndex index : Nat)
  | argType (spelling : String)
  | primitive (word : String)
  | given (name : String)
  deriving DecidableEq, Repr, Inhabited

/-- A class of objects and the classes that its objects belong to besides. -/
structure ObjectClass where
  name : String
  supertypes : List String := []
  deriving DecidableEq, Repr, Inhabited

inductive Value where
  | null
  | bool (b : Bool)
  | int (i : Int)
  | real (x : Binary64)
  | text (s : String)
  | bytes (bs : List UInt8)
  | list (xs : List Value)
  | tuple (xs : List Value)
  | record (members : List (String × Value))
  | object (id : ObjectId)
  | reflected (cls : ObjectClass)
  | stranger (className : String) (key : Option Value)
  | foreign (kind : String) (shows writes : Except String String)
  deriving Inhabited

namespace Value

def ofJson : Json → Value
  | .null => .null
  | .bool b => .bool b
  | .int i => .int i
  | .real x => .real x
  | .text s => .text s
  | .list xs => .list (xs.attach.map fun ⟨x, _⟩ => ofJson x)
  | .record ms => .record (ms.attach.map fun ⟨(name, x), _⟩ => (name, ofJson x))
decreasing_by
    · rename_i member
      have := List.sizeOf_lt_of_mem member
      simp only [Json.list.sizeOf_spec]
      omega
    · rename_i member
      have := List.sizeOf_lt_of_mem member
      simp only [Json.record.sizeOf_spec, Prod.mk.sizeOf_spec] at *
      omega

/-- Null, false, zero and everything empty count as no. -/
def isTrue : Value → Bool
  | null => false
  | bool b => b
  | int i => i != 0
  | real x => !x.isZero
  | text s => s != ""
  | bytes bs => !bs.isEmpty
  | list xs => !xs.isEmpty
  | tuple xs => !xs.isEmpty
  | record ms => !ms.isEmpty
  | object _ => true
  | reflected _ => true
  | stranger _ _ => true
  | foreign .. => true

def isNull : Value → Bool
  | null => true
  | _ => false

/-- The number that a boolean or a number equals, if it is whole. -/
def whole? : Value → Option Int
  | bool b => some (if b then 1 else 0)
  | int i => some i
  | real x => x.toInt?
  | _ => none

mutual

/-- Numbers are the same by what they amount to, texts, bytes and lists by what they hold, records
whatever the order of their members. -/
def same : Value → Value → Bool
  | null, null => true
  | text s, text t => s == t
  | bytes bs, bytes cs => bs == cs
  | list xs, list ys => sameAll xs ys
  | tuple xs, tuple ys => sameAll xs ys
  | record ms, record ns => ms.length == ns.length && sameMembers ms ns
  | object i, object j => i == j
  | reflected c, reflected d => c == d
  | bool b, bool c => b == c
  | real x, real y =>
      match x.toInt?, y.toInt? with
      | some i, some j => i == j
      | none, none => x != .notANumber && x == y
      | _, _ => false
  | x, y =>
      match x.whole?, y.whole? with
      | some i, some j => i == j
      | _, _ => false

def sameAll : List Value → List Value → Bool
  | [], [] => true
  | x :: xs, y :: ys => same x y && sameAll xs ys
  | _, _ => false

def sameMembers : List (String × Value) → List (String × Value) → Bool
  | [], _ => true
  | (name, x) :: ms, ns => sameIn name x ns && sameMembers ms ns

def sameIn (name : String) (x : Value) : List (String × Value) → Bool
  | [] => false
  | (other, y) :: ns => (name == other && same x y) || sameIn name x ns

end

def kindName : Value → String
  | null => "NoneType"
  | bool _ => "bool"
  | int _ => "int"
  | real _ => "float"
  | text _ => "str"
  | bytes _ => "bytes"
  | list _ => "list"
  | tuple _ => "tuple"
  | record _ => "dict"
  | object _ => "InMemoryObject"
  | reflected _ => "InMemoryClass"
  | stranger _ _ => "InMemoryObject"
  | foreign kind _ _ => kind

def told : Except String String → Except Fault String
  | .ok shown => .ok shown
  | .error what => .error (.thrown what)

/-- An integer in digits, unless it has too many. -/
def digits (i : Int) : Except Fault String :=
    if isLong i then .error (.value (.tooManyDigits none)) else .ok (toString i)

mutual

/-- A value as messages show it; `describe` shows objects. -/
def shown (describe : ObjectId → Except Fault String) : Value → Except Fault String
  | null => .ok "None"
  | bool b => .ok (if b then "True" else "False")
  | int i => digits i
  | real x => .ok x.toText
  | text s => .ok (Text.quoted s)
  | bytes bs => .ok (Text.quotedBytes bs)
  | list xs => do return "[" ++ ", ".intercalate (← shownAll describe xs) ++ "]"
  | tuple [] => .ok "()"
  | tuple [x] => do return "(" ++ (← shown describe x) ++ ",)"
  | tuple xs => do return "(" ++ ", ".intercalate (← shownAll describe xs) ++ ")"
  | record ms => do return "\x7b" ++ ", ".intercalate (← shownMembers describe ms) ++ "\x7d"
  | object id => describe id
  | reflected cls =>
      .ok ("InMemoryClass(name=" ++ Text.quoted cls.name ++ ", supertypes=" ++
        shownTexts cls.supertypes ++ ")")
  | stranger className (some key) => do
      return "InMemoryObject(" ++ className ++ ", key=" ++ (← shown describe key) ++ ")"
  | stranger className none => .ok ("InMemoryObject(" ++ className ++ ", key=None)")
  | foreign _ shows _ => told shows
where
  shownTexts : List String → String
    | [] => "()"
    | [s] => "(" ++ Text.quoted s ++ ",)"
    | texts => "(" ++ ", ".intercalate (texts.map Text.quoted) ++ ")"

def shownAll (describe : ObjectId → Except Fault String) : List Value →
    Except Fault (List String)
  | [] => .ok []
  | x :: xs => do return (← shown describe x) :: (← shownAll describe xs)

def shownMembers (describe : ObjectId → Except Fault String) : List (String × Value) →
    Except Fault (List String)
  | [] => .ok []
  | (name, x) :: ms => do
      return (Text.quoted name ++ ": " ++ (← shown describe x)) :: (← shownMembers describe ms)

end

/-- A value as text: a text stands for itself. -/
def written (describe : ObjectId → Except Fault String) : Value → Except Fault String
  | text s => .ok s
  | foreign _ _ writes => told writes
  | x => shown describe x

end Value

end DexBrowser.Managed

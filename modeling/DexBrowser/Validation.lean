import DexBrowser.Number.Binary64
import DexBrowser.Number.Integer

/-!
JSON values, and checking them against the shape a setting or an artifact must have. Whole numbers
keep any size; an object keeps its members in order, and of two members of one name the later one
counts. A check either gives the value it read or the list of everything that is wrong, each with
the place where it is. What single values stand for, and how JSON text is read, is left to a
validator.
-/

namespace DexBrowser

/-! ## Values -/

inductive Json where
  | null
  | bool (b : Bool)
  | int (i : Int)
  | real (x : Number.Binary64)
  | text (s : String)
  | list (xs : List Json)
  | record (members : List (String × Json))
  deriving Repr, Inhabited

namespace Json

def lookup? (name : String) (members : List (String × Json)) : Option Json :=
    (members.reverse.find? (·.1 == name)).map (·.2)

end Json

/-! ## Issues -/

inductive Place where
  | member (name : String)
  | index (i : Nat)
  deriving DecidableEq, Repr

inductive Problem where
  | invalidJson
  | missing
  | unknownMember
  | frozen
  | notText
  | notList
  | notRecord
  | notOptions
  | notBoolean
  | unreadableBoolean
  | notInteger
  | unreadableInteger
  | oversized
  | fractional
  | notFinite
  | below (least : Int)
  | reversedBounds (least greatest : Nat)
  deriving DecidableEq, Repr

structure Issue where
  place : List Place
  problem : Problem
  deriving DecidableEq, Repr

namespace Problem

def code : Problem → String
  | invalidJson => "json_invalid"
  | missing => "missing"
  | unknownMember => "extra_forbidden"
  | frozen => "frozen_instance"
  | notText => "string_type"
  | notList => "list_type"
  | notRecord => "model_type"
  | notOptions => "model_type"
  | notBoolean => "bool_type"
  | unreadableBoolean => "bool_parsing"
  | notInteger => "int_type"
  | unreadableInteger => "int_parsing"
  | oversized => "int_parsing_size"
  | fractional => "int_from_float"
  | notFinite => "finite_number"
  | below _ => "greater_than_equal"
  | reversedBounds _ _ => "value_error"

def message : Problem → String
  | invalidJson => "Invalid JSON"
  | missing => "Field required"
  | unknownMember => "Extra inputs are not permitted"
  | frozen => "Instance is frozen"
  | notText => "Input should be a valid string"
  | notList => "Input should be a valid array"
  | notRecord => "Input should be an object"
  | notOptions => "Input should be a valid dictionary or instance of LoadOptions"
  | notBoolean => "Input should be a valid boolean"
  | unreadableBoolean => "Input should be a valid boolean, unable to interpret input"
  | notInteger => "Input should be a valid integer"
  | unreadableInteger => "Input should be a valid integer, unable to parse string as an integer"
  | oversized => "Unable to parse input string as an integer, exceeded maximum size"
  | fractional => "Input should be a valid integer, got a number with a fractional part"
  | notFinite => "Input should be a finite number"
  | below least => "Input should be greater than or equal to " ++ toString least
  | reversedBounds least greatest =>
      "Value error, deobfuscation_min_length (" ++ toString least ++
        ") is greater than deobfuscation_max_length (" ++ toString greatest ++ ")"

end Problem

abbrev Checked (α : Type) := Except (List Issue) α

namespace Checked

def fail (problem : Problem) : Checked α :=
    .error [⟨[], problem⟩]

def inside (place : Place) : Checked α → Checked α
  | .ok a => .ok a
  | .error issues => .error (issues.map fun issue => { issue with place := place :: issue.place })

def both : Checked α → Checked β → Checked (α × β)
  | .ok a, .ok b => .ok (a, b)
  | .ok _, .error issues => .error issues
  | .error issues, .ok _ => .error issues
  | .error first, .error second => .error (first ++ second)

def items (check : Json → Checked α) : (index : Nat) → List Json → Checked (List α)
  | _, [] => .ok []
  | index, x :: xs =>
      ((check x).inside (.index index)).both (items check (index + 1) xs) |>.map fun (a, as) =>
          a :: as

@[simp] theorem both_ok (a : α) (b : β) : both (.ok a) (.ok b) = .ok (a, b) := rfl

end Checked

/-! ## Validators -/

/-- An integer that can be written out. -/
abbrev ShortInteger := { i : Int // Number.isLong i = false }

/-- What reads JSON text and takes single values. Booleans and integers are taken for what they are;
other values may stand for them too. -/
structure Validator where
  parse : String → Option Json
  boolean : Json → Checked Bool
  integer : Json → Checked Int
  string : Json → Checked String
  boolean_bool (b : Bool) : boolean (.bool b) = .ok b
  integer_int (i : Int) : integer (.int i) = .ok i

namespace Validator

variable (validator : Validator)

def shortInteger (x : Json) : Checked ShortInteger :=
    match validator.integer x with
    | .ok i => if short : Number.isLong i = false then .ok ⟨i, short⟩ else .fail .oversized
    | .error issues => .error issues

def atLeast (least : Nat) (x : Json) : Checked Nat :=
    match validator.integer x with
    | .ok i => if i < least then .fail (.below least) else .ok i.toNat
    | .error issues => .error issues

def string? : Json → Checked (Option String)
  | .null => .ok none
  | x => (validator.string x).map some

theorem atLeast_natCast {least n : Nat} (enough : least ≤ n) :
    validator.atLeast least (.int n) = .ok n := by
  have : ¬(n : Int) < least := by omega
  simp [atLeast, validator.integer_int, this]

end Validator

/-! ## Shapes -/

namespace Json

def listOf (check : Json → Checked α) : Json → Checked (List α)
  | .list xs => Checked.items check 0 xs
  | _ => .fail .notList

def members : Json → Checked (List (String × Json))
  | .record ms => .ok ms
  | _ => .fail .notRecord

def required (ms : List (String × Json)) (name : String) (check : Json → Checked α) : Checked α :=
    (match lookup? name ms with
      | some x => check x
      | none => .fail .missing).inside (.member name)

def optional (ms : List (String × Json)) (name : String) (default : α)
    (check : Json → Checked α) : Checked α :=
    match lookup? name ms with
    | some x => (check x).inside (.member name)
    | none => .ok default

theorem optional_eq_ok {ms : List (String × Json)} {name : String} {x : Json} {a default : α}
    {check : Json → Checked α} (found : lookup? name ms = some x) (right : check x = .ok a) :
    optional ms name default check = .ok a := by
  simp [optional, found, right, Checked.inside]

end Json

end DexBrowser

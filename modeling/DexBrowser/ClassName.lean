import DexBrowser.Text.Blank

/-!
Names of classes and packages. A class name may be spelled with dots, with slashes or as a
descriptor (`La/b/C;`); its normal form has dots. Packages and simple names are read off the last
dot.
-/

namespace DexBrowser.ClassName

open Text

def defaultPackage : String := "defpackage"

def sourceExtension : String := ".java"

/-- The non-empty text between the `L` and the `;` of a descriptor. -/
def unwrap? : List Char → Option (List Char)
  | 'L' :: rest =>
      match rest.reverse with
      | ';' :: c :: middle => some (c :: middle).reverse
      | _ => none
  | _ => none

theorem unwrap?_eq_some {cs inner : List Char} (unwrapped : unwrap? cs = some inner) :
    cs = 'L' :: (inner ++ [';']) ∧ inner ≠ [] := by
  unfold unwrap? at unwrapped
  split at unwrapped
  · rename_i rest
    split at unwrapped
    · rename_i c middle shape
      have rest_eq : rest = (c :: middle).reverse ++ [';'] := by
        have := congrArg List.reverse shape
        simpa using this
      injection unwrapped with inner_eq
      subst inner_eq
      exact ⟨by rw [rest_eq], by simp⟩
    · contradiction
  · contradiction

/-- Every layer of descriptor is taken off, with the blanks inside it. -/
def unwrapAll (cs : List Char) : List Char :=
    match _shape : unwrap? cs with
    | some inner => unwrapAll (strip inner)
    | none => cs
termination_by cs.length
decreasing_by
    have inner_le := length_strip_le inner
    have cs_eq := (unwrap?_eq_some _shape).1
    subst cs_eq
    simp only [List.length_cons, List.length_append, List.length_nil]
    omega

def dotted (c : Char) : Char :=
    if c = '/' then '.' else c

def slashed (c : Char) : Char :=
    if c = '.' then '/' else c

def normalForm (cs : List Char) : List Char :=
    (unwrapAll (strip cs)).map dotted

/-- What stands before the last dot; nothing if there is no dot. -/
def beforeLastDot (cs : List Char) : List Char :=
    ((cs.reverse.dropWhile (· ≠ '.')).drop 1).reverse

/-- What stands after the last dot; everything if there is no dot. -/
def afterLastDot (cs : List Char) : List Char :=
    (cs.reverse.takeWhile (· ≠ '.')).reverse

def normalize (name : String) : String :=
    String.ofList (normalForm name.toList)

def sourcePath (name : String) : String :=
    String.ofList ((normalForm name.toList).map slashed)

def sourceFile (name : String) : String :=
    sourcePath name ++ sourceExtension

/-- The package of a class, `defaultPackage` if the name holds none. -/
def package (name : String) : String :=
    match beforeLastDot (normalForm name.toList) with
    | [] => defaultPackage
    | cs => String.ofList cs

/-- The last segment of a name as it is spelled. -/
def simple (name : String) : String :=
    String.ofList (afterLastDot name.toList)

end DexBrowser.ClassName

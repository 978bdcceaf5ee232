import DexBrowser.AccessFlags
import DexBrowser.Artifact
import DexBrowser.LoadOptions
import DexBrowser.Text.Blank

/-!
The source text of a class, line by line, and the lines on which its declarations stand. A type is
spelled as a base and brackets behind it for each dimension, with blanks anywhere around them; an
inner spelling is shorter, so taking brackets off comes to an end.
-/

namespace DexBrowser.Image

/-! ## Spellings of types -/

open Text

def primitiveTypes : List (String × String) :=
    [("boolean", "Z"), ("char", "C"), ("byte", "B"), ("short", "S"), ("int", "I"), ("float", "F"),
      ("long", "J"), ("double", "D"), ("void", "V")]

def otherTypes : List (String × String) :=
    [("OBJECT", "L"), ("ARRAY", "[")]

def isPrimitive (spelling : String) : Bool :=
    (primitiveTypes.lookup spelling).isSome

def letterOf (word : String) : String :=
    ((primitiveTypes ++ otherTypes).lookup word).getD ""

def trimmed (spelling : String) : String :=
    String.ofList (strip spelling.toList)

def elementOf? (cs : List Char) : Option (List Char) :=
    match cs.reverse with
    | ']' :: '[' :: rest => some rest.reverse
    | _ => none

theorem length_elementOf? {cs element : List Char} (bracketed : elementOf? cs = some element) :
    element.length + 2 = cs.length := by
  unfold elementOf? at bracketed
  split at bracketed
  · rename_i rest shape
    injection bracketed with same
    subst same
    have := congrArg List.length shape
    simpa using this.symm
  · contradiction

/-- What is left when blanks and brackets are taken off until there are none. -/
def baseOf (cs : List Char) : List Char :=
    match _bracketed : elementOf? (strip cs) with
    | some element => baseOf element
    | none => strip cs
termination_by cs.length
decreasing_by
    have := length_elementOf? _bracketed
    have := length_strip_le cs
    omega

/-! ## Lines of a class -/

def constructorName : String := "<init>"
def initializerName : String := "<clinit>"

structure NamedMethod where
  entry : MethodEntry
  name : String
  signature : String
  deriving DecidableEq, Repr

structure NamedClass where
  entry : ClassEntry
  package : String
  name : String
  methods : List NamedMethod
  deriving DecidableEq, Repr

namespace NamedClass

def fullName (c : NamedClass) : String :=
    c.package ++ "." ++ c.name

end NamedClass

/-- The statement that stands for a missing body: a return of the type's default value, or
nothing. -/
def defaultBody (entry : MethodEntry) : List String :=
    if entry.returnType = "void" || entry.name = constructorName ||
        entry.name = initializerName then []
    else if entry.returnType = "boolean" then ["return false;"]
    else if isPrimitive entry.returnType then ["return 0;"]
    else ["return null;"]

def inconsistentComment : String :=
    "/* Code decompiled incorrectly, please refer to instructions dump. */"

/-- The lines of a method's body. Of an inconsistent class they are hidden behind one statement, or
shown behind a comment. -/
def bodyLines (options : LoadOptions) (inconsistent : Bool) (method : NamedMethod) :
    List String :=
    let body := if method.entry.body.isEmpty then defaultBody method.entry else method.entry.body
    if !inconsistent then body
    else if options.showInconsistent then inconsistentComment :: body
    else
      ["throw new UnsupportedOperationException(\"Method not decompiled: " ++ method.signature ++
        "\");"]

def parameters : (index : Nat) → List String → List String
  | _, [] => []
  | index, type :: rest => (type ++ " p" ++ toString index) :: parameters (index + 1) rest

def declaration (className : String) (method : NamedMethod) : String :=
    let words := (AccessFlags.ofInt method.entry.accessFlags).methodWords
    let list := "(" ++ ", ".intercalate (parameters 0 method.entry.arguments) ++ ")"
    if method.name = initializerName then "static"
    else if method.name = constructorName then " ".intercalate (words ++ [className ++ list])
    else " ".intercalate (words ++ [method.entry.returnType, method.name ++ list])

def declarationLine (className : String) (method : NamedMethod) : String :=
    "    " ++ declaration className method ++ " \x7b"

def methodLines (options : LoadOptions) (inconsistent : Bool) (className : String)
    (method : NamedMethod) : List String :=
    declarationLine className method ::
      ((bodyLines options inconsistent method).map ("        " ++ ·) ++ ["    \x7d"])

def headerLine (c : NamedClass) : String :=
    let flags := AccessFlags.ofInt c.entry.accessFlags
    " ".intercalate (flags.classWords ++ [flags.keyword, c.name]) ++ " \x7b"

def headLines (sourceName : String) (c : NamedClass) : List String :=
    ["package " ++ c.package ++ ";", "", "/* loaded from: " ++ sourceName ++ " */", headerLine c]

/-- The blocks of a class's methods; an empty line stands before each but the first. -/
def methodBlocks (options : LoadOptions) (inconsistent : Bool) (className : String) :
    (first : Bool) → List NamedMethod → List (List String)
  | _, [] => []
  | first, method :: rest =>
      let lines := methodLines options inconsistent className method
      (if first then lines else "" :: lines) ::
        methodBlocks options inconsistent className false rest

def declarationLines : (before : Nat) → (first : Bool) → List (List String) → List Nat
  | _, _, [] => []
  | before, first, block :: rest =>
      (if first then before + 1 else before + 2) ::
        declarationLines (before + block.length) false rest

def blocksOf (options : LoadOptions) (c : NamedClass) : List (List String) :=
    methodBlocks options c.entry.inconsistent c.name true c.methods

def sourceLines (options : LoadOptions) (sourceName : String) (c : NamedClass) : List String :=
    headLines sourceName c ++ (blocksOf options c).flatten ++ ["\x7d"]

def joinLines (lines : List String) : String :=
    "\n".intercalate lines ++ "\n"

end DexBrowser.Image

import DexBrowser.ClassName
import DexBrowser.Fault
import DexBrowser.Image.Source
import DexBrowser.LoadOptions
import DexBrowser.Text.Hex

/-!
The image of an artifact: its classes under the names they go by, with code and line positions, and
the packages they fall into. Names that are too short or too long may be replaced: every replacement
takes the next number, and a name that is too short stays at its end. Main statement: a name is kept
as it is when renaming is off.
-/

namespace DexBrowser

namespace Image

/-! ## Renaming -/

structure NameStyle where
  letter : Char
  width : Nat
  deriving DecidableEq, Repr

def classNames : NameStyle := ⟨'C', 4⟩
def methodNames : NameStyle := ⟨'m', 1⟩

/-- A number in ten digits, with zeros in front up to a width. -/
def paddedNumber (width n : Nat) : List Char :=
    let digits := Nat.toDigits 10 n
    List.replicate (width - digits.length) '0' ++ digits

def isFixedName (name : List Char) : Bool :=
    name.head? = some '<'

def keepsName (options : LoadOptions) (name : List Char) : Bool :=
    !options.deobfuscate || isFixedName name ||
      (options.minLength ≤ name.length && name.length ≤ options.maxLength)

def replacement (options : LoadOptions) (style : NameStyle) (number : Nat) (name : List Char) :
    List Char :=
    let suffix := if name.length < options.minLength then name else []
    style.letter :: (paddedNumber style.width number ++ suffix)

/-- The name after renaming, and the count of replacements so far. -/
def rename (options : LoadOptions) (style : NameStyle) (count : Nat) (name : String) :
    String × Nat :=
    if keepsName options name.toList then (name, count)
    else (String.ofList (replacement options style (count + 1) name.toList), count + 1)

theorem rename_of_off {options : LoadOptions} (off : options.deobfuscate = false)
    (style : NameStyle) (count : Nat) (name : String) :
    rename options style count name = (name, count) := by
  simp [rename, keepsName, off]

/-! ## Images -/

/-- A class of an image. Line 0 says that there is no position. -/
structure ClassImage where
  named : NamedClass
  code : String
  line : Nat
  methodLines : List Nat
  deriving DecidableEq, Repr

namespace ClassImage

def fullName (c : ClassImage) : String := c.named.fullName
def package (c : ClassImage) : String := c.named.package

end ClassImage

end Image

/-- The classes of a load, and its packages with the places of their classes. -/
structure Image where
  classes : List Image.ClassImage := []
  packages : List (String × List Nat) := []
  deriving DecidableEq, Repr, Inhabited

namespace Image

def nameMethod (options : LoadOptions) (classFullName : String) (count : Nat)
    (entry : MethodEntry) : NamedMethod × Nat :=
    let (name, count) := rename options methodNames count entry.name
    let signature :=
      classFullName ++ "." ++ name ++ "(" ++ ", ".intercalate entry.arguments ++ "):" ++
        entry.returnType
    (⟨entry, name, signature⟩, count)

def nameMethods (options : LoadOptions) (classFullName : String) : (count : Nat) →
    List MethodEntry → List NamedMethod × Nat
  | count, [] => ([], count)
  | count, entry :: rest =>
      let (method, count) := nameMethod options classFullName count entry
      let (methods, count) := nameMethods options classFullName count rest
      (method :: methods, count)

def nameClass (options : LoadOptions) (count : Nat) (entry : ClassEntry) : NamedClass × Nat :=
    let normal := ClassName.normalize entry.fullName
    let package := ClassName.package normal
    let (name, count) := rename options classNames count (ClassName.simple normal)
    let (methods, count) := nameMethods options (package ++ "." ++ name) count entry.methods
    (⟨entry, package, name, methods⟩, count)

/-- A class with its code. Ready-made code has no positions. -/
def renderClass (options : LoadOptions) (sourceName : String) (c : NamedClass) : ClassImage :=
    let escaped (code : String) : String :=
      if options.escapeUnicode then Text.escapeUnicode code else code
    match c.entry.code with
    | some code => ⟨c, escaped code, 0, c.methods.map fun _ => 0⟩
    | none =>
        let before := (headLines sourceName c).length
        ⟨c, escaped (joinLines (sourceLines options sourceName c)), before,
          declarationLines before true (blocksOf options c)⟩

/-- All classes, named in one go; a name that was seen before is refused. -/
def buildClasses (options : LoadOptions) (sourceName : String) : (count : Nat) →
    (seen : List String) → List ClassEntry → Except Fault (List ClassImage)
  | _, _, [] => .ok []
  | count, seen, entry :: rest =>
      let (named, count) := nameClass options count entry
      if seen.contains named.fullName then
        .error (.load (.duplicateClass named.fullName))
      else
        (buildClasses options sourceName count (named.fullName :: seen) rest).map
          (renderClass options sourceName named :: ·)

/-- Packages with one more class, put at the end of its package's or in a new package. -/
def addToPackage (package : String) (index : Nat) :
    List (String × List Nat) → List (String × List Nat)
  | [] => [(package, [index])]
  | p :: rest =>
      if p.1 = package then (p.1, p.2 ++ [index]) :: rest
      else p :: addToPackage package index rest

def packagesFrom : (index : Nat) → List (String × List Nat) → List String →
    List (String × List Nat)
  | _, packages, [] => packages
  | index, packages, package :: rest =>
      packagesFrom (index + 1) (addToPackage package index packages) rest

def build (artifact : Artifact) (options : LoadOptions) (sourceName : String) :
    Except Fault Image := do
    let classes ← buildClasses options sourceName 0 [] artifact.classes
    return ⟨classes, packagesFrom 0 [] (classes.map ClassImage.package)⟩

end Image

end DexBrowser

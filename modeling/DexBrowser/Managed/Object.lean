import DexBrowser.Image.Basic
import DexBrowser.Managed.Value

/-!
Managed objects: a class, named members and, for some, a key by which objects are told apart. The
objects of a load are read off its image.
-/

namespace DexBrowser.Managed

inductive Member where
  | constant (value : Value)
  | raises (what : String)
  | varying (answer : Nat → Except String Value)
  | arguments
  | readers
  | alive
  | closes
  | isClosed
  | throws (className what : String)
  | refuses (what : String)
  | stopped (what : String)
  deriving Inhabited

structure Object where
  cls : ObjectClass
  members : List (String × Member) := []
  key : Option Value := none
  nameless : Bool := false
  deriving Inhabited

namespace Object

def member? (object : Object) (name : String) : Option Member :=
    object.members.lookup name

end Object

/-! ## Classes of objects -/

def decompilerClass : ObjectClass := ⟨"jadx.api.JadxDecompiler", []⟩
def nodeClassName : String := "jadx.api.JavaNode"
def classClass : ObjectClass := ⟨"jadx.api.JavaClass", [nodeClassName]⟩
def methodClass : ObjectClass := ⟨"jadx.api.JavaMethod", [nodeClassName]⟩
def packageClass : ObjectClass := ⟨"jadx.api.JavaPackage", [nodeClassName]⟩
def accessClass : ObjectClass := ⟨"jadx.core.dex.info.AccessInfo", []⟩
def primitiveClass : ObjectClass := ⟨"jadx.core.dex.instructions.args.PrimitiveType", []⟩
def typeClassName : String := "jadx.core.dex.instructions.args.ArgType"
def primitiveTypeClass : ObjectClass := ⟨typeClassName ++ "$PrimitiveArg", [typeClassName]⟩
def objectTypeClass : ObjectClass := ⟨typeClassName ++ "$ObjectType", [typeClassName]⟩
def arrayTypeClass : ObjectClass := ⟨typeClassName ++ "$ArrayArg", [typeClassName]⟩

/-! ## Objects of types -/

open Image

def typeId (spelling : String) : ObjectId :=
    .argType (trimmed spelling)

def textMember (name value : String) : String × Member := (name, .constant (.text value))
def flagMember (name : String) (value : Bool) : String × Member := (name, .constant (.bool value))
def numberMember (name : String) (value : Int) : String × Member := (name, .constant (.int value))
def objectMember (name : String) (id : ObjectId) : String × Member := (name, .constant (.object id))

def listMember (name : String) (ids : List ObjectId) : String × Member :=
    (name, .constant (.list (ids.map .object)))

def primitiveObject (word : String) : Object :=
    ⟨primitiveClass,
      [textMember "getLongName" word, textMember "getShortName" (letterOf word),
        textMember "name" (String.ofList (word.toList.map Char.toUpper)),
        textMember "toString" word],
      some (.text (letterOf word)), false⟩

/-- The object of a trimmed spelling. A type that is no array is its own root. -/
def typeObject (spelling : String) : Object :=
    let members (primitive array : Bool) (root : ObjectId) (word : String) :=
      [flagMember "isPrimitive" primitive, flagMember "isArray" array,
        objectMember "getArrayRootElement" root,
        objectMember "getPrimitiveType" (.primitive word), textMember "toString" spelling]
    let key := some (Value.text spelling)
    if (elementOf? spelling.toList).isSome then
      ⟨arrayTypeClass,
        members false true (.argType (String.ofList (baseOf spelling.toList))) "ARRAY", key, false⟩
    else if isPrimitive spelling then
      ⟨primitiveTypeClass, members true false (.argType spelling) spelling, key, false⟩
    else ⟨objectTypeClass, members false false (.argType spelling) "OBJECT", key, false⟩

def typeClasses : List ObjectClass :=
    [primitiveTypeClass, objectTypeClass, arrayTypeClass]

theorem typeObject_shape (spelling : String) :
    ∃ cls ∈ typeClasses, ∃ primitive array root word, typeObject spelling =
      ⟨cls,
        [flagMember "isPrimitive" primitive, flagMember "isArray" array,
          objectMember "getArrayRootElement" root,
          objectMember "getPrimitiveType" (.primitive word),
          textMember "toString" spelling],
        some (.text spelling), false⟩ := by
  unfold typeObject
  dsimp only
  split
  · exact ⟨arrayTypeClass, by decide, _, _, _, _, rfl⟩
  · split
    · exact ⟨primitiveTypeClass, by decide, _, _, _, _, rfl⟩
    · exact ⟨objectTypeClass, by decide, _, _, _, _, rfl⟩

/-! ## Objects of nodes -/

def accessObject (flags : AccessFlags) (words : List String) : Object :=
    ⟨accessClass,
      [numberMember "rawValue" flags.value, textMember "toString" (" ".intercalate words)], none,
      false⟩

/-- The flags of a method; constructors and initializers have the constructor flag. -/
def methodFlags (method : NamedMethod) : AccessFlags :=
    let flags := AccessFlags.ofInt method.entry.accessFlags
    if method.name = constructorName || method.name = initializerName then flags.withConstructor
    else flags

def methodObject (classIndex index : Nat) (c : ClassImage) (method : NamedMethod) : Object :=
    ⟨methodClass,
      [textMember "getName" method.name,
        textMember "getFullName" (c.fullName ++ "." ++ method.name),
        objectMember "getAccessFlags" (.methodAccess classIndex index),
        objectMember "getReturnType" (typeId method.entry.returnType),
        listMember "getArguments" (method.entry.arguments.map typeId),
        flagMember "isConstructor" (method.name = constructorName),
        flagMember "isClassInit" (method.name = initializerName),
        objectMember "getDeclaringClass" (.classNode classIndex),
        numberMember "getDecompiledLine" (c.methodLines.getD index 0),
        textMember "toString" method.signature],
      some (.tuple
        [.text c.fullName, .text method.name,
          .tuple (method.entry.arguments.map Value.text)]),
      false⟩

def classObject (index : Nat) (c : ClassImage) : Object :=
    ⟨classClass,
      [textMember "getName" c.named.name,
        textMember "getFullName" c.fullName,
        textMember "getPackage" c.package,
        objectMember "getAccessInfo" (.classAccess index),
        listMember "getInnerClasses" [],
        textMember "toString" c.fullName,
        listMember "getMethods" ((List.range c.named.methods.length).map (.method index)),
        numberMember "getDecompiledLine" c.line,
        textMember "getCode" c.code],
      some (.text c.fullName), false⟩

def packageObject (name : String) (classes : List Nat) : Object :=
    ⟨packageClass,
      [textMember "getName" (ClassName.simple name),
        textMember "getFullName" name,
        listMember "getClasses" (classes.map .classNode),
        numberMember "getDecompiledLine" 0,
        textMember "toString" name],
      some (.text name), false⟩

def decompilerObject (image : Image) : Object :=
    ⟨decompilerClass,
      [listMember "getClasses" ((List.range image.classes.length).map .classNode),
        listMember "getPackages" ((List.range image.packages.length).map .package),
        ("isClosed", .isClosed),
        ("close", .closes)],
      none, false⟩

def imageObject? (image : Image) : ObjectId → Option Object
  | .decompiler => some (decompilerObject image)
  | .package index => image.packages[index]?.map fun p => packageObject p.1 p.2
  | .classNode index => image.classes[index]?.map (classObject index)
  | .classAccess index =>
      image.classes[index]?.map fun c =>
        let flags := AccessFlags.ofInt c.named.entry.accessFlags
        accessObject flags flags.classWords
  | .method classIndex index => do
      let c ← image.classes[classIndex]?
      let method ← c.named.methods[index]?
      return methodObject classIndex index c method
  | .methodAccess classIndex index => do
      let c ← image.classes[classIndex]?
      let method ← c.named.methods[index]?
      let flags := methodFlags method
      return accessObject flags flags.methodWords
  | .argType spelling => some (typeObject spelling)
  | .primitive word => some (primitiveObject word)
  | .given _ => none

end DexBrowser.Managed

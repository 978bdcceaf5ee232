import DexBrowser.Validation

/-!
Artifacts: the classes of an input, as a JSON text lists them.
-/

namespace DexBrowser

/-- Flags that are not given: public and nothing else. -/
def usualFlags : ShortInteger :=
    ⟨1, by decide +kernel⟩

theorem short_usual : Number.isLong 1 = false := usualFlags.2

structure MethodEntry where
  name : String
  accessFlags : Int := 1
  returnType : String := "void"
  arguments : List String := []
  body : List String := []
  short : Number.isLong accessFlags = false := by first | exact short_usual | decide +kernel
  deriving DecidableEq, Repr

/-- A class of an artifact. Ready-made code stands in for rendered code. -/
structure ClassEntry where
  fullName : String
  accessFlags : Int := 1
  methods : List MethodEntry := []
  inconsistent : Bool := false
  code : Option String := none
  short : Number.isLong accessFlags = false := by first | exact short_usual | decide +kernel
  deriving DecidableEq, Repr

structure Artifact where
  classes : List ClassEntry
  deriving DecidableEq, Repr

namespace MethodEntry

def ofJson (validator : Validator) (x : Json) : Checked MethodEntry := do
    let ms ← x.members
    let checked :=
      (Json.required ms "name" validator.string).both <|
      (Json.optional ms "access_flags" usualFlags validator.shortInteger).both <|
      (Json.optional ms "return_type" "void" validator.string).both <|
      (Json.optional ms "arguments" [] (Json.listOf validator.string)).both <|
      (Json.optional ms "body" [] (Json.listOf validator.string))
    let (name, accessFlags, returnType, arguments, body) ← checked
    return ⟨name, accessFlags.1, returnType, arguments, body, accessFlags.2⟩

end MethodEntry

namespace ClassEntry

def ofJson (validator : Validator) (x : Json) : Checked ClassEntry := do
    let ms ← x.members
    let checked :=
      (Json.required ms "fullname" validator.string).both <|
      (Json.optional ms "access_flags" usualFlags validator.shortInteger).both <|
      (Json.optional ms "methods" [] (Json.listOf (MethodEntry.ofJson validator))).both <|
      (Json.optional ms "inconsistent" false validator.boolean).both <|
      (Json.optional ms "code" none validator.string?)
    let (fullName, accessFlags, methods, inconsistent, code) ← checked
    return ⟨fullName, accessFlags.1, methods, inconsistent, code, accessFlags.2⟩

end ClassEntry

namespace Artifact

def ofJson (validator : Validator) (x : Json) : Checked Artifact := do
    let ms ← x.members
    let classes ← Json.required ms "classes" (Json.listOf (ClassEntry.ofJson validator))
    return ⟨classes⟩

def read (validator : Validator) (text : String) : Checked Artifact :=
    match validator.parse text with
    | some x => ofJson validator x
    | none => .fail .invalidJson

end Artifact

end DexBrowser

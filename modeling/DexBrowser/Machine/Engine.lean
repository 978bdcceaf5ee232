import DexBrowser.LoadOptions
import DexBrowser.Machine.Settings

/-!
The engine that runs in a virtual machine: how the machine is started, and the calls that load an
input.
-/

namespace DexBrowser.Machine

/-! ## Calls -/

structure Launch where
  library : String
  arguments : List String
  classPath : List String
  deriving DecidableEq, Repr

inductive Argument where
  | text (s : String)
  | bool (b : Bool)
  | int (i : Int)
  | instanceOf (className : String)
  deriving DecidableEq, Repr

inductive Call where
  | lookUp (className : String)
  | create (className : String) (arguments : List Argument)
  | method (name : String) (arguments : List Argument)
  deriving DecidableEq, Repr

/-- A virtual machine, and all that it depends on. Settings that the engine was not made with are
looked up in the environment. The usual library may not be found; starting and every call may throw.
Where the known classes are not listed, every class is known. -/
structure Installation where
  running : Bool := false
  configured : Option Settings := none
  environment : Environment := {}
  usualLibrary : Except String String := .ok ""
  refuses : Launch → Option String := fun _ => none
  known : Option (List String) := none
  throws : Call → Option String := fun _ => none

/-! ## Starting the machine -/

/-- How to start a machine. It needs a class path; a library that is not named is the usual one. -/
def Settings.launch (settings : Settings) (usualLibrary : Except String String) :
    Except Fault Launch :=
    if settings.classPath.isEmpty then .error (.load .noEngine)
    else
      let library :=
        match settings.library with
        | none | some "" => usualLibrary
        | some library => .ok library
      match library with
      | .ok library => .ok ⟨library, settings.arguments, settings.classPath⟩
      | .error what => .error (.thrown what)

def Launch.notice (launch : Launch) : String :=
    "JVM started (" ++ launch.library ++ ") with " ++ toString launch.classPath.length ++
      " classpath entries"

namespace Installation

def settings (installation : Installation) (files : Files.Tree) : Except Fault Settings :=
    match installation.configured with
    | some settings => .ok settings
    | none => Machine.settings files installation.environment

/-- Starts the machine, if it does not run. Settings are looked up only where they are needed. -/
def start (installation : Installation) (files : Files.Tree) : Except Fault (Option Launch) := do
    if installation.running then return none
    let launch ← (← installation.settings files).launch installation.usualLibrary
    match installation.refuses launch with
    | some what => throw (.thrown what)
    | none => return some launch

/-! ## Making calls -/

/-- How a call ends. A class must be known to be looked up. -/
def outcome (installation : Installation) (call : Call) : Except Fault Unit :=
    match call with
    | .lookUp className =>
        if installation.known.all (·.contains className) then .ok ()
        else .error (.managed (.unknownClass className))
    | call => (installation.throws call).elim (.ok ()) fun what => .error (.thrown what)

/-- Calls up to the first one that fails, and how they end. -/
def perform (installation : Installation) : List Call → List Call × Except Fault Unit
  | [] => ([], .ok ())
  | call :: rest =>
      match installation.outcome call with
      | .error fault => ([call], .error fault)
      | .ok () =>
          let (made, done) := installation.perform rest
          (call :: made, done)

end Installation

/-! ## Loading an input -/

def supportedSuffixes : List String :=
    [".apk", ".apks", ".xapk", ".aab", ".aar", ".dex", ".jar", ".class", ".smali", ".zip"]

/-- The lower case of a character where it is an ASCII letter: that of the capitals and of the
kelvin sign. -/
def lower (c : Char) : Char :=
    if c.toNat = 0x212A then 'k' else c.toLower

def foldedSuffix (path : Path) : String :=
    String.ofList (path.suffix.toList.map lower)

def isSupported (path : Path) : Bool :=
    supportedSuffixes.contains (foldedSuffix path)

def argumentsClass : String := "jadx.api.JadxArgs"
def fileClass : String := "java.io.File"
def decompilerClass : String := "jadx.api.JadxDecompiler"

def preparation (path : Path) (options : LoadOptions) : List Call :=
    [.lookUp decompilerClass,
      .lookUp argumentsClass,
      .create argumentsClass [],
      .lookUp fileClass,
      .create fileClass [.text path.text],
      .method "setInputFile" [.instanceOf fileClass],
      .method "setEscapeUnicode" [.bool options.escapeUnicode],
      .method "setShowInconsistentCode" [.bool options.showInconsistent],
      .method "setDeobfuscationOn" [.bool options.deobfuscate],
      .method "setDeobfuscationMinLength" [.int options.minLength],
      .method "setDeobfuscationMaxLength" [.int options.maxLength],
      .create decompilerClass [.instanceOf argumentsClass]]

def loadCall : Call := .method "load" []
def closeCall : Call := .method "close" []

/-- The calls made in a machine that runs to load an input, and the outcome. When the loading itself
throws, the decompiler is closed again. -/
def Installation.load (installation : Installation) (path : Path) (options : LoadOptions) :
    List Call × Except Fault Unit :=
    match installation.perform (preparation path options) with
    | (made, .error fault) => (made, .error fault)
    | (made, .ok ()) =>
        match installation.throws loadCall with
        | some what => (made ++ [loadCall, closeCall], .error (.load (.engineFailed path what)))
        | none => (made ++ [loadCall], .ok ())

end DexBrowser.Machine

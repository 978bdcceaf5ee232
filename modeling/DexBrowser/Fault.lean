import DexBrowser.Files.Tree
import DexBrowser.Text.Pieces
import DexBrowser.Text.Utf8
import DexBrowser.Validation

/-!
What can go wrong, by cause, with the sentence that says so.
-/

namespace DexBrowser

inductive LoadCause where
  | noSuchFile (path : Path)
  | notReadable (path : Path)
  | unsupportedFormat (path : Path)
  | unreadable (path : Path) (why : String)
  | corrupt (path : Path) (issues : Nat)
  | duplicateClass (fullName : String)
  | notIndexed (path : Path) (why : String)
  | noEngine
  | engineFailed (path : Path) (why : String)
  deriving DecidableEq, Repr

/-- Why a call into the managed side fails. Objects and values are given as messages show them. -/
inductive ManagedCause where
  | nullReference (view : String)
  | wrongClass (className expected : String)
  | stale (view : String)
  | notObject (shown : String)
  | notClass (shown : String)
  | noMethod (owner method : String)
  | raised (owner method what : String)
  | nullText (owner : String)
  | notCallable (owner method why : String)
  | noIdentity (owner why : String)
  | unknownClass (name : String)
  deriving DecidableEq, Repr

inductive ValueCause where
  | nulCharacter
  | notInteger (literal : String)
  | notFinite (isNan : Bool)
  | tooManyDigits (count : Option Nat)
  | unfinishedWord (what : Text.ShellWords.Unfinished)
  | notEncodable (why : Text.Utf8.Unencodable)
  deriving DecidableEq, Repr

inductive KindCause where
  | notNumber (kind : String)
  | notIterable (kind : String)
  | notHashable (kind : String)
  | notPathText (owner kind : String)
  deriving DecidableEq, Repr

inductive Fault where
  | invalid (issues : List Issue)
  | notPath (shown : String)
  | load (cause : LoadCause)
  | notLoaded
  | noSuchClass (name : String)
  | noSuchPackage (name : String)
  | managed (cause : ManagedCause)
  | notWritten (refusal : Files.Refusal) (path : Path)
  | refused (refusal : Files.Refusal)
  | value (cause : ValueCause)
  | kind (cause : KindCause)
  | thrown (what : String)
  | strayClosingTag (tag : Option String) (position : Nat)
  | wouldWait
  deriving DecidableEq, Repr

namespace LoadCause

def message : LoadCause → String
  | noSuchFile path => "Input file not found: " ++ path.text
  | notReadable path => "Input file is not readable: " ++ path.text
  | unsupportedFormat path =>
      "Unsupported input format '" ++ path.suffix ++ "': " ++ path.text
  | unreadable path why => "Cannot read " ++ path.text ++ ": " ++ why
  | corrupt path issues =>
      "Corrupt artifact " ++ path.text ++ ": " ++ toString issues ++ " validation error(s)"
  | duplicateClass fullName => "Duplicate class " ++ fullName
  | notIndexed path why => "Cannot index " ++ path.text ++ ": " ++ why
  | noEngine => "jadx jars not found: set PYJADX_CLASSPATH or JADX_HOME"
  | engineFailed path why => "jadx failed to load " ++ path.text ++ ": " ++ why

end LoadCause

namespace ManagedCause

def message : ManagedCause → String
  | nullReference view => "Cannot wrap a null reference as " ++ view
  | wrongClass className expected => className ++ " is not an instance of " ++ expected
  | stale view => view ++ " belongs to a decompiler session that was closed or reloaded"
  | notObject shown => shown ++ " is not an in-memory managed object"
  | notClass shown => shown ++ " is not an in-memory class"
  | noMethod owner method => owner ++ " has no method " ++ method ++ "()"
  | raised owner method what => owner ++ "." ++ method ++ "() raised " ++ what
  | nullText owner => owner ++ ".toString() returned null"
  | notCallable owner method why => "Cannot call " ++ owner ++ "." ++ method ++ "(): " ++ why
  | noIdentity owner why => "Cannot read the identity of " ++ owner ++ ": " ++ why
  | unknownClass name => "Class " ++ name ++ " not found on the JVM classpath"

end ManagedCause

namespace ValueCause

def message : ValueCause → String
  | nulCharacter => "embedded null byte"
  | notInteger literal => "invalid literal for int() with base 10: " ++ literal
  | notFinite true => "cannot convert float NaN to integer"
  | notFinite false => "cannot convert float infinity to integer"
  | tooManyDigits count =>
      "Exceeds the limit (4300 digits) for integer string conversion" ++
        (count.elim "" fun n => ": value has " ++ toString n ++ " digits") ++
        "; use sys.set_int_max_str_digits() to increase the limit"
  | unfinishedWord .quotation => "No closing quotation"
  | unfinishedWord .escape => "No escaped character"
  | notEncodable why => why.message

end ValueCause

namespace KindCause

def message : KindCause → String
  | notNumber kind =>
      "int() argument must be a string, a bytes-like object or a real number, not '" ++ kind ++ "'"
  | notIterable kind => "'" ++ kind ++ "' object is not iterable"
  | notHashable kind => "unhashable type: '" ++ kind ++ "'"
  | notPathText owner kind =>
      "expected " ++ owner ++ ".__fspath__() to return str or bytes, not " ++ kind

end KindCause

namespace Fault

/-- The word for a fault that the program tells its user of, where it has one. -/
def label? : Fault → Option String
  | notPath _ => some "TypeMismatch"
  | load _ => some "LoadError"
  | notLoaded => some "NotLoadedError"
  | noSuchClass _ | noSuchPackage _ => some "NotFoundError"
  | managed _ => some "ManagedRuntimeError"
  | notWritten .. => some "IOFailure"
  | _ => none

def message : Fault → String
  | invalid issues => toString issues.length ++ " validation error(s)"
  | notPath shown => shown ++ " is not supported!"
  | load cause => cause.message
  | notLoaded => "No input loaded; call load() first"
  | noSuchClass name => "Class not found: " ++ name
  | noSuchPackage name => "Package not found: " ++ name
  | managed cause => cause.message
  | notWritten refusal path =>
      "Cannot write decompiled code to " ++ path.text ++ ": " ++ refusal.message
  | refused refusal => refusal.message
  | value cause => cause.message
  | kind cause => cause.message
  | thrown what => what
  | strayClosingTag (some tag) position =>
      "closing tag '[" ++ tag ++ "]' at position " ++ toString position ++
        " doesn't match any open tag"
  | strayClosingTag none position =>
      "closing tag '[/]' at position " ++ toString position ++ " has nothing to close"
  | wouldWait => "The session is in use"

end Fault

end DexBrowser

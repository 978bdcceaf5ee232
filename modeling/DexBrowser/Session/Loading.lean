import DexBrowser.Files.Source
import DexBrowser.Machine.Engine
import DexBrowser.Session.Nodes
import DexBrowser.Text.Pieces
import DexBrowser.Text.Utf8

/-!
Loading an input into a session and letting go of it. The new input is indexed before it takes the
place of the old one, which is then released.
-/

namespace DexBrowser.Session

open Managed

/-- What opens inputs. The engine in memory reads artifacts; what `amend` changes is what its
decompilers answer otherwise than the artifact says. The other one runs in a virtual machine, and
answers as the heap says. -/
inductive Engine where
  | memory (validator : Validator) (amend : Heap → Heap)
  | machine (validator : Validator) (installation : Machine.Installation) (heap : Heap)

/-! ## Engines -/

def Engine.rules : Engine → Validator
  | .memory validator _ => validator
  | .machine validator .. => validator

@[simp] theorem Engine.rules_memory (validator : Validator) (amend : Heap → Heap) :
    (memory validator amend).rules = validator := rfl

def artifactSuffix : String := ".json"

def readArtifact (validator : Validator) (files : Files.Tree) (path : Path) :
    Except Fault Artifact :=
    match files.fetch path with
    | .error refusal => .error (.load (.unreadable path refusal.message))
    | .ok bytes =>
        match Text.Utf8.decode bytes with
        | .error malformed => .error (.load (.unreadable path malformed.message))
        | .ok text =>
            match Artifact.read validator (String.ofList (Text.unifyLines text.toList)) with
            | .ok artifact => .ok artifact
            | .error issues => .error (.load (.corrupt path issues.length))

/-- The image of the artifact in a file, and how many classes the artifact has. -/
def readImage (validator : Validator) (files : Files.Tree) (path : Path) (options : LoadOptions) :
    Except Fault (Image × Nat) := do
    if Machine.foldedSuffix path ≠ artifactSuffix then
      throw (.load (.unsupportedFormat path))
    let artifact ← readArtifact validator files path
    return (← Image.build artifact options path.name, artifact.classes.length)

def addLoad (load : Load) : Action Nat := do
    let n := (← Action.state).loads.length
    Action.modifyState fun state => { state with loads := state.loads ++ [load] }
    return n

def openArtifact (validator : Validator) (amend : Heap → Heap) (path : Path)
    (options : LoadOptions) : Action Nat := do
    let (image, count) ← Action.ofExcept (readImage validator (← get).files path options)
    Action.log .info .engine
      ("Loaded in-memory artifact " ++ path.text ++ " (" ++ toString count ++ " classes)")
    addLoad { heap := amend { image := image } }

def startMachine (installation : Machine.Installation) : Action Unit := do
    match ← Action.ofExcept (installation.start (← get).files) with
    | some launch => Action.log .info .machine launch.notice
    | none => return ()

/-- What closing a decompiler throws in a virtual machine is only noted. -/
def noteClosing : Option String → Action Unit
  | some what => Action.log .warning .machine ("Closing jadx decompiler failed: " ++ what)
  | none => return ()

def callMachine (installation : Machine.Installation) (path : Path) (options : LoadOptions) :
    Action Unit := do
    let (made, done) := installation.load path options
    noteClosing (if made.contains Machine.closeCall then installation.throws Machine.closeCall
      else none)
    Action.ofExcept done
    Action.log .info .machine ("jadx loaded " ++ path.text)

def openInMachine (installation : Machine.Installation) (heap : Heap) (path : Path)
    (options : LoadOptions) : Action Nat :=
    if Machine.isSupported path then do
      startMachine installation
      callMachine installation path options
      addLoad { host := .machine true installation.known, heap := heap }
    else Action.fail (.load (.unsupportedFormat path))

def Engine.load (engine : Engine) (path : Path) (options : LoadOptions) : Action Nat :=
    match engine with
    | .memory validator amend => openArtifact validator amend path options
    | .machine _ installation heap => openInMachine installation heap path options

def closeDecompiler (n : Nat) : Action Unit := do
    match (← Action.loadAt n).host with
    | .memory =>
        let _ ← Remote.invoke n false (.object .decompiler) "close" []
    | .machine .. =>
        let readers ← Remote.readers
        noteClosing (← Action.onLoad n fun load =>
          (load.closeInMachine, load.record false readers (.object .decompiler) "close"))

/-! ## The index -/

/-- Handles by name; of two with one name the first stays. -/
def addFirst (named : List (String × Handle)) (name : String) (h : Handle) :
    List (String × Handle) :=
    if (named.lookup name).isSome then named else named ++ [(name, h)]

def indexObjects (n : Nat) (kind : Kind) (member : String) : Action (List (String × Handle)) := do
    let listed ← Remote.invoke n false (.object .decompiler) member []
    (← Action.ofExcept (itemsOf listed)).foldlM
      (fun named target => do
        let handle ← Handle.make n kind target
        return addFirst named (← handle.fullName) handle)
      []

def index (n : Nat) : Action (List (String × Handle) × List (String × Handle)) := do
    let classes ← indexObjects n .classNode "getClasses"
    let packages ← indexObjects n .package "getPackages"
    Action.log .debug .session
      ("Indexed " ++ toString classes.length ++ " classes and " ++ toString packages.length ++
        " packages")
    return (classes, packages)

/-! ## Sessions -/

def invalidate (n : Nat) : Action Unit :=
    Action.modifyLoad n fun load => { load with alive := false }

def attach (n : Nat) : Action Unit :=
    Action.modifyLoad n fun load => { load with attached := true }

def release (loaded : Loaded) : Action Unit := do
    invalidate loaded.load
    closeDecompiler loaded.load
    Action.log .debug .session ("Released " ++ loaded.path.text)

def replaceCurrent (loaded : Option Loaded) : Action (Option Loaded) := do
    let previous := (← Action.state).current
    Action.modifyState fun state => { state with current := loaded }
    return previous

def indexOrClose (path : Path) (n : Nat) :
    Action (List (String × Handle) × List (String × Handle)) :=
    Action.catchManaged (index n) fun cause => do
      invalidate n
      closeDecompiler n
      Action.fail (.load (.notIndexed path cause.message))

/-- Opens, indexes and takes over an input, then releases the one before. -/
def takeOver (engine : Engine) (path : Path) (options : LoadOptions) : Action Loaded := do
    let n ← engine.load path options
    let (classes, packages) ← indexOrClose path n
    attach n
    let loaded : Loaded := ⟨path, options, n, classes, packages⟩
    if let some previous ← replaceCurrent (some loaded) then release previous
    return loaded

/-- An input must be a file that may be read. -/
def checkInput (files : Files.Tree) (path : Path) : Except Fault Unit :=
    match files.isFile path with
    | .error refusal => .error (.refused refusal)
    | .ok false => .error (.load (.noSuchFile path))
    | .ok true => if files.isReadable path then .ok () else .error (.load (.notReadable path))

/-- Loads an input. Options that are given are changed by single settings. -/
def load (engine : Engine) (path : Files.PathArgument) (given : Option LoadOptions)
    (changes : List (String × Json)) : Action Unit := do
    let path ← Action.ofExcept path.toPath
    let options ← Action.ofChecked (LoadOptions.resolve engine.rules given changes)
    Action.ofExcept (checkInput (← get).files path)
    let loaded ← Action.inSection .exclusive (takeOver engine path options)
    Action.log .info .session
      ("Loaded " ++ path.text ++ ": " ++ toString loaded.classes.length ++ " classes in " ++
        toString loaded.packages.length ++ " packages")

def close : Action Unit :=
    Action.inSection .exclusive do
      if let some previous ← replaceCurrent none then release previous

/-! ## Looking things up -/

def isLoaded : Action Bool := do
    return (← Action.state).current.isSome

def requireLoaded : Action Loaded := do
    match (← Action.state).current with
    | some loaded => return loaded
    | none => Action.fail .notLoaded

def allClasses : Action (List Handle) :=
    Action.inSection .shared do
      return (← requireLoaded).classes.map (·.2)

def allPackages : Action (List Handle) :=
    Action.inSection .shared do
      return (← requireLoaded).packages.map (·.2)

/-- A class of this name, in any spelling, is there. -/
def hasClass (name : String) : Action Bool :=
    Action.inSection .shared do
      return (← Action.state).current.any fun loaded =>
        (loaded.classes.lookup (ClassName.normalize name)).isSome

def hasPackage (name : String) : Action Bool :=
    Action.inSection .shared do
      return (← Action.state).current.any fun loaded => (loaded.packages.lookup name).isSome

def getClass (name : String) : Action Handle :=
    Action.inSection .shared do
      match (← requireLoaded).classes.lookup (ClassName.normalize name) with
      | some h => return h
      | none => Action.fail (.noSuchClass name)

def getPackage (name : String) : Action Handle :=
    Action.inSection .shared do
      match (← requireLoaded).packages.lookup name with
      | some h => return h
      | none => Action.fail (.noSuchPackage name)

end DexBrowser.Session

import DexBrowser.Session.Query
import DexBrowser.Session.Save

/-!
The commands of the program, and running them. The input is loaded, asked and closed again; what is
told goes to a terminal, which takes texts with style tags and may refuse them. A fault of the
program's own is told there too, and ends it with code 1. How the words of a command line are read
is left open.
-/

namespace DexBrowser

inductive Command where
  | classes (input : String) (package : Option String) (limit : Int)
  | packages (input : String)
  | methods (input className : String)
  | code (input className : String) (plain : Bool)
  | save (input output : String) (className package : Option String)
  | normalize (name : String)
  | pretty (name : String) (withExtension : Bool)
  | serve (input transport : String)
  deriving DecidableEq, Repr

namespace Command

def paths : Command → List String
  | classes input .. | packages input | methods input _ | code input .. | serve input _ => [input]
  | save input output .. => [input, output]
  | normalize _ | pretty .. => []

/-- The settings of a load as a command line gives them. -/
structure Switches where
  escapeUnicode : Bool := true
  showInconsistent : Bool := true
  deobfuscate : Bool := false
  least : Int := 3
  greatest : Int := 64
  deriving DecidableEq, Repr

def Switches.toMembers (switches : Switches) : List (String × Json) :=
    [("escape_unicode", .bool switches.escapeUnicode),
      ("show_inconsistent_code", .bool switches.showInconsistent),
      ("deobfuscation_on", .bool switches.deobfuscate),
      ("deobfuscation_min_length", .int switches.least),
      ("deobfuscation_max_length", .int switches.greatest)]

def Switches.options (validator : Validator) (switches : Switches) : Checked LoadOptions :=
    LoadOptions.ofMembers validator switches.toMembers

/-- An end without a command, with a code and a text: help, or the refusal of a misuse. -/
structure Ending where
  exit : Nat
  output : String
  deriving DecidableEq, Repr

/-- What a command line asks for. The settings count before the words that name the command, even if
these come to nothing. -/
inductive Request where
  | ended (ending : Ending)
  | settled (switches : Switches) (ending : Ending)
  | run (switches : Switches) (command : Command)
  deriving DecidableEq, Repr

/-- What shows texts. Printing a text with style tags, or a table of such, may be refused. -/
structure Terminal where
  print (marked : String) : Except Fault String
  table (headers : List String) (rows : List (List String)) : Except Fault String
  listing (code : String) : String
  escape (text : String) : String

open Session

/-- How a command ends: its code, what it tells, what it notes aside, and how tools are to be
served, if they are. -/
structure Report where
  exit : Nat
  output : String
  notice : String := ""
  served : Option String := none
  deriving DecidableEq, Repr

def Ending.report (ending : Ending) : Report :=
    { exit := ending.exit, output := ending.output }

/-- Loads an input, does something with it and closes it, whatever came of that. -/
def withInput (engine : Engine) (input : String) (options : LoadOptions) (body : Action α) :
    Action α := do
    load engine (.path (Path.ofString input)) (some options) []
    Action.ofRun fun workspace =>
      let (done, workspace) := body.run workspace
      match close.run workspace with
      | (.ok (), workspace) => (done, workspace)
      | (.error fault, workspace) => (.error fault, workspace)

/-- The value, or a report of the fault if it is one of the program's own. -/
def orReport (terminal : Terminal) (action : Action α) (tell : α → Except Fault Report) :
    Action Report :=
    Action.ofRun fun workspace =>
      match action.run workspace with
      | (.ok a, workspace) => (tell a, workspace)
      | (.error fault, workspace) =>
          match fault.label? with
          | some label =>
              let marked := "[red]" ++ label ++ ":[/red] " ++ terminal.escape fault.message
              ((terminal.print marked).map fun output => { exit := 1, output := output }, workspace)
          | none => (.error fault, workspace)

def classRows (rows : List Query.ClassRow) : List (List String) :=
    rows.map fun row => [row.fullName, toString row.methods, toString row.line]

def packageRows (rows : List Query.PackageRow) : List (List String) :=
    rows.map fun row => [row.fullName, toString row.classes]

def methodRows (rows : List Query.MethodRow) : List (List String) :=
    rows.map fun row => [row.access, row.returnType, row.signature, toString row.line]

def tableReport (terminal : Terminal) (headers : List String) (rows : List (List String)) :
    Except Fault Report := do
    return {
      exit := 0
      output := (← terminal.table headers rows) ++
        (← terminal.print ("(" ++ toString rows.length ++ " rows)")) }

/-- What a selection saves, and whether all of it was written. An empty name selects nothing. -/
def saveSelected (output : Path) (className package : Option String) :
    Action (Bool × List String) := do
    match className.filter (· ≠ ""), package.filter (· ≠ "") with
    | some name, _ => return (← (← getClass name).saveClass output, [name])
    | none, some name => return (← (← getPackage name).savePackage output, [name])
    | none, none => do
        let packages ← allPackages
        let saved ← packages.mapM (·.savePackage output)
        return (saved.all id, ← packages.mapM Handle.fullName)

def listed (targets : List String) : String :=
    if (", ".intercalate targets) = "" then "nothing" else ", ".intercalate targets

/-- What is said of targets that are saved. They are named as they are, style tags and all. -/
def savedMessage (output : Path) (targets : List String) : String :=
    "[green]Saved[/green] " ++ (listed targets ++ " to " ++ output.text)

def saveReport (terminal : Terminal) (output : Path) (saved : Bool) (targets : List String) :
    Except Fault Report :=
    if saved then
      (terminal.print (savedMessage output targets)).map ({ exit := 0, output := · })
    else
      (terminal.print ("[red]Some files could not be written to " ++ output.text ++
        "[/red]")).map ({ exit := 1, output := · })

def run (engine : Engine) (terminal : Terminal) (options : LoadOptions) : Command → Action Report
  | .classes input package limit =>
      orReport terminal (withInput engine input options (Query.classes package limit)) fun rows =>
        tableReport terminal ["class", "methods", "line"] (classRows rows)
  | .packages input =>
      orReport terminal (withInput engine input options Query.packages) fun rows =>
        tableReport terminal ["package", "classes"] (packageRows rows)
  | .methods input className =>
      orReport terminal (withInput engine input options (Query.methods className)) fun rows =>
        tableReport terminal ["access", "returns", "method", "line"] (methodRows rows)
  | .code input className plain =>
      let read : Action String := do (← getClass className).code
      orReport terminal (withInput engine input options read) fun code =>
        let output := if plain then code else terminal.listing code
        .ok { exit := 0, output := output }
  | .save input output className package =>
      let output := Path.ofString output
      orReport terminal
        (withInput engine input options (saveSelected output className package))
        fun (saved, targets) => saveReport terminal output saved targets
  | .normalize name => return { exit := 0, output := ClassName.normalize name ++ "\n" }
  | .pretty name withExtension =>
      let path := if withExtension then ClassName.sourceFile name else ClassName.sourcePath name
      return { exit := 0, output := path ++ "\n" }
  | .serve input transport =>
      orReport terminal (withInput engine input options (pure ())) fun _ =>
        (terminal.print ("[green]Starting MCP server (transport: " ++ transport ++
          ")[/green]")).map fun notice =>
            { exit := 0, output := "", notice := notice, served := some transport }

def misused : Report :=
    { exit := 2, output := "" }

/-- Runs a command line. Settings that are not valid are a misuse, which ends with code 2. -/
def perform (read : List String → Request) (terminal : Terminal) (engine : Engine)
    (words : List String) : Action Report :=
    match read words with
    | .ended ending => return ending.report
    | .settled switches ending =>
        match switches.options engine.rules with
        | .error _ => return misused
        | .ok _ => return ending.report
    | .run switches command =>
        match switches.options engine.rules with
        | .error _ => return misused
        | .ok options => run engine terminal options command

/-- The code that the program ends with. A fault that is not told ends it with code 1 as well. -/
def exitCode : Except Fault Report → Nat
  | .ok report => report.exit
  | .error _ => 1

end Command

end DexBrowser

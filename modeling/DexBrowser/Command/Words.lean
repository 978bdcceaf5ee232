import DexBrowser.Command.Run

/-!
Reading the words of a command line: options with and without a value, and operands. An option is
spelled with two dashes and a name, or with one dash and a letter.
-/

namespace DexBrowser.Command

inductive Effect where
  | value (key : String)
  | flag (key : String) (value : Bool)
  | help
  deriving DecidableEq, Repr

/-- The options there are. Where they stand among the operands does not matter if `interspersed` is
on; else the first operand ends them. -/
structure Grammar where
  options : List (String × Effect)
  interspersed : Bool
  deriving DecidableEq, Repr

/-- What was read; of two values for one key the first in the list counts, which came last. -/
structure Arguments where
  values : List (String × String) := []
  flags : List (String × Bool) := []
  help : Bool := false
  operands : List String := []
  deriving DecidableEq, Repr

namespace Arguments

def value? (arguments : Arguments) (key : String) : Option String :=
    arguments.values.lookup key

def flag (arguments : Arguments) (key : String) (default : Bool) : Bool :=
    (arguments.flags.lookup key).getD default

def withOperand (arguments : Arguments) (operand : String) : Arguments :=
    { arguments with operands := operand :: arguments.operands }

/-- An option before those read so far, with its value if it takes one; later ones count. -/
def withEffect (arguments : Arguments) (effect : Effect) (value : String) : Arguments :=
    match effect with
    | .value key => { arguments with values := arguments.values ++ [(key, value)] }
    | .flag key on => { arguments with flags := arguments.flags ++ [(key, on)] }
    | .help => { arguments with help := true }

end Arguments

namespace Effect

def takesValue : Effect → Bool
  | value _ => true
  | _ => false

end Effect

namespace Grammar

def effect? (grammar : Grammar) (name : String) : Option Effect :=
    grammar.options.lookup name

/-- A word that names options, and not one dash alone. -/
def isOption (word : String) : Bool :=
    word.toList.head? = some '-' && word ≠ "-"

def splitAttached (word : String) : String × Option String :=
    let cs := word.toList
    match cs.dropWhile (· ≠ '=') with
    | _ :: value => (String.ofList (cs.takeWhile (· ≠ '=')), some (String.ofList value))
    | [] => (word, none)

/-- What a word of letters after one dash does; every letter is an option without a value. -/
def letterEffects? (grammar : Grammar) (word : String) : Option (List Effect) :=
    (word.toList.drop 1).mapM fun c =>
      (grammar.effect? (String.ofList ['-', c])).filter (!·.takesValue)

def withEffects (effects : List Effect) (arguments : Arguments) : Arguments :=
    effects.foldr (fun effect arguments => arguments.withEffect effect "") arguments

/-- Reads words; none if an option is unknown, lacks its value or has one that it does not take. -/
def read? (grammar : Grammar) : List String → Option Arguments
  | [] => some {}
  | word :: rest =>
      if word = "--" then some { operands := rest }
      else if !isOption word then
        if grammar.interspersed then (read? grammar rest).map (·.withOperand word)
        else some { operands := word :: rest }
      else
        let (name, attached) := splitAttached word
        let long := if "--".isPrefixOf word then grammar.effect? name else none
        match long, attached with
        | some effect, some value =>
            if effect.takesValue then (read? grammar rest).map (·.withEffect effect value)
            else none
        | some effect, none =>
            if effect.takesValue then
              match rest with
              | value :: rest => (read? grammar rest).map (·.withEffect effect value)
              | [] => none
            else (read? grammar rest).map (·.withEffect effect "")
        | none, _ =>
            if "--".isPrefixOf word then none
            else
              match grammar.letterEffects? word with
              | some effects => (read? grammar rest).map (withEffects effects)
              | none => none

end Grammar

/-! ## The commands -/

def helpOptions : List (String × Effect) :=
    [("-h", .help), ("--help", .help)]

def commonGrammar : Grammar :=
    ⟨helpOptions ++
      [("-v", .flag "verbose" true), ("--verbose", .flag "verbose" true),
        ("--escape-unicode", .flag "escape" true), ("--no-escape-unicode", .flag "escape" false),
        ("--show-inconsistent-code", .flag "inconsistent" true),
        ("--no-show-inconsistent-code", .flag "inconsistent" false),
        ("--deobf", .flag "deobf" true),
        ("--deobf-min", .value "min"), ("--deobf-max", .value "max")],
      false⟩

def commandOptions : List (String × List (String × Effect)) :=
    [("classes", [("--package", .value "package"), ("--limit", .value "limit")]),
      ("packages", []),
      ("methods", []),
      ("show", [("--plain", .flag "plain" true)]),
      ("save", [("--class", .value "class"), ("--package", .value "package")]),
      ("normalize", []),
      ("pretty", [("--with-ext", .flag "ext" true)]),
      ("serve", [("--transport", .value "transport")])]

def number? (arguments : Arguments) (key : String) (default : Int) : Option Int :=
    match arguments.value? key with
    | some text => Number.integer? text
    | none => some default

def switches? (arguments : Arguments) : Option Switches := do
    return {
      escapeUnicode := arguments.flag "escape" true
      showInconsistent := arguments.flag "inconsistent" true
      deobfuscate := arguments.flag "deobf" false
      least := ← number? arguments "min" 3
      greatest := ← number? arguments "max" 64 }

def help : Ending :=
    ⟨0, "Usage: classes | packages | methods | show | save | normalize | pretty | serve\n"⟩

def misuse : Ending :=
    ⟨2, ""⟩

/-- A command by name, with its arguments; it must have as many operands as it takes. -/
def ofArguments? (name : String) (arguments : Arguments) : Option Command :=
    match name, arguments.operands with
    | "classes", [input] =>
        (number? arguments "limit" 100).map (.classes input (arguments.value? "package"))
    | "packages", [input] => some (.packages input)
    | "methods", [input, className] => some (.methods input className)
    | "show", [input, className] => some (.code input className (arguments.flag "plain" false))
    | "save", [input, output] =>
        some (.save input output (arguments.value? "class") (arguments.value? "package"))
    | "normalize", [text] => some (.normalize text)
    | "pretty", [text] => some (.pretty text (arguments.flag "ext" false))
    | "serve", [input] => some (.serve input ((arguments.value? "transport").getD "stdio"))
    | _, _ => none

/-- What is asked for once the settings are known, by the words from the name of the command on. -/
def requestWith (switches : Switches) (name : String) (words : List String)
    (grammar : List (String × Effect)) : Request :=
    match (Grammar.mk (helpOptions ++ grammar) true).read? words with
    | none => .settled switches misuse
    | some arguments =>
        if arguments.help then .settled switches help
        else
          match ofArguments? name arguments with
          | some command => .run switches command
          | none => .settled switches misuse

def request (words : List String) : Request :=
    match commonGrammar.read? words with
    | none => .ended misuse
    | some common =>
        if common.help then .ended help
        else
          match common.operands with
          | [] => .ended misuse
          | name :: rest =>
              match commandOptions.lookup name, switches? common with
              | some grammar, some switches => requestWith switches name rest grammar
              | _, _ => .ended misuse

end DexBrowser.Command

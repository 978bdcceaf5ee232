import DexBrowser.Session.View
import DexBrowser.Text.Pieces

/-!
What handles of each kind tell: nodes their names and lines, classes and methods their parts, types
their shape. The code of a class may be shown in colour, colours left out: a known style lays the
text out afresh, and an unknown one leaves it as it is.
-/

/-! ## Code in colour -/

namespace DexBrowser.Highlight

open Text

def defaultStyle : String := "monokai"

def knownStyles : List String :=
    ["abap", "algol", "algol_nu", "arduino", "autumn", "bw", "borland", "coffee", "colorful",
      "default", "dracula", "emacs", "friendly", "friendly_grayscale", "fruity", "github-dark",
      "gruvbox-dark", "gruvbox-light", "igor", "inkpot", "lightbulb", "lilypond", "lovelace",
      "manni", "material", "monokai", "murphy", "native", "nord", "nord-darker", "one-dark",
      "paraiso-dark", "paraiso-light", "pastie", "perldoc", "rainbow_dash", "rrt", "sas",
      "solarized-dark", "solarized-light", "staroffice", "stata-dark", "stata-light", "tango",
      "trac", "vim", "vs", "xcode", "zenburn"]

def dropMark : List Char → List Char
  | c :: rest => if c.toNat = 0xFEFF then rest else c :: rest
  | [] => []

def isBreak (c : Char) : Bool := c = '\n'

def layout (cs : List Char) : List Char :=
    (((unifyLines (dropMark cs)).dropWhile isBreak).reverse.dropWhile isBreak).reverse ++ ['\n']

def shown (style code : String) : String :=
    if knownStyles.contains style then String.ofList (layout code.toList) else code

theorem shown_of_unknown {style : String} (unknown : style ∉ knownStyles) (code : String) :
    shown style code = code := by
  simp [shown, unknown]

end DexBrowser.Highlight

/-! ## Handles -/

namespace DexBrowser.Session

open Managed

namespace Handle

variable {m : Type → Type} [Monad m] [MonadLiftT Action m]

def askText (h : Handle) (name : String) : m String := do
    Remote.written h.load (← h.invoke name)

def askFlag (h : Handle) (name : String) : m Bool := do
    return (← h.invoke name).isTrue

def askOne (h : Handle) (kind : Kind) (name : String) : m Handle := do
    h.wrap kind (← h.invoke name)

def askAll (h : Handle) (kind : Kind) (name : String) : m (List Handle) := do
    h.wrapAll kind (← h.invoke name)

/-! ## Nodes -/

def noLine : Int := -1

def fullName (h : Handle) : m String := h.askText "getFullName"

def name (h : Handle) : m String :=
    match h.kind with
    | .package => return ClassName.simple (← h.fullName)
    | _ => h.askText "getName"

def line (h : Handle) : m Int := do
    let answered ← h.invoke "getDecompiledLine"
    if answered.isNull then return noLine
    let line ← Action.ofExcept (toWhole answered)
    return if line ≤ 0 then noLine else line

/-! ## Classes, methods and packages -/

def access (h : Handle) : m Handle :=
    h.askOne .access (if h.kind = .classNode then "getAccessInfo" else "getAccessFlags")

def methods (h : Handle) : m (List Handle) := h.askAll .method "getMethods"
def innerClasses (h : Handle) : m (List Handle) := h.askAll .classNode "getInnerClasses"
def classes (h : Handle) : m (List Handle) := h.askAll .classNode "getClasses"
def packageName (h : Handle) : m String := h.askText "getPackage"

/-- The code of a class; none at all is empty code. -/
def code (h : Handle) : m String := do
    let answered ← h.invoke "getCode"
    if answered.isNull then return "" else Remote.written h.load answered

def highlightedCode (h : Handle) : m String := do
    return Highlight.shown Highlight.defaultStyle (← h.code)

def returnType (h : Handle) : m Handle := h.askOne .argType "getReturnType"
def arguments (h : Handle) : m (List Handle) := h.askAll .argType "getArguments"
def isConstructor (h : Handle) : m Bool := h.askFlag "isConstructor"
def isClassInit (h : Handle) : m Bool := h.askFlag "isClassInit"
def declaringClass (h : Handle) : m Handle := h.askOne .classNode "getDeclaringClass"

/-! ## Types -/

def isPrimitive (h : Handle) : m Bool := h.askFlag "isPrimitive"
def isArray (h : Handle) : m Bool := h.askFlag "isArray"

def askOptional (h : Handle) (kind : Kind) (name : String) : m (Option Handle) := do
    let answered ← h.invoke name
    if answered.isNull then return none else return some (← h.wrap kind answered)

def arrayRoot (h : Handle) : m (Option Handle) := do
    if ← h.isArray then h.askOptional .argType "getArrayRootElement" else return none

def primitiveType (h : Handle) : m (Option Handle) :=
    h.askOptional .primitive "getPrimitiveType"

def longName (h : Handle) : m String := h.askText "getLongName"
def shortName (h : Handle) : m String := h.askText "getShortName"

end Handle

end DexBrowser.Session

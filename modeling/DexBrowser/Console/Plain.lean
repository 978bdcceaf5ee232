import DexBrowser.Command.Run
import DexBrowser.Console.Markup
import DexBrowser.Console.Table
import DexBrowser.Text.Pieces
import DexBrowser.Text.Width

/-!
A plain terminal of a given width. It shows no styles; texts are wrapped, and code is shown with
line numbers, every line as wide as the terminal.
-/

namespace DexBrowser.Console

open Text Command

/-! ## Code -/

namespace Listing

def tabSize : Nat := 4

def rightAligned (columnWidth n : Nat) : List Char :=
    let digits := Nat.toDigits 10 n
    List.replicate (columnWidth - digits.length) ' ' ++ digits

/-- Code as it is laid out: with a line feed at its end and without tabs, byte order mark and other
line breaks. -/
def laidOut (code : List Char) : List Char :=
    let closed := if code.getLast? = some '\n' then code else code ++ ['\n']
    let expanded := expandTabs tabSize (fun _ => 1) 0 closed
    let unmarked :=
      match expanded with
      | c :: rest => if c.toNat = 0xFEFF then rest else expanded
      | [] => []
    (unifyLines unmarked).filter (!Markup.isDropped ·)

/-- The lines that are shown: what follows the last line feed counts as a line if the code ends in
one. -/
def codeLines (code : List Char) : List (List Char) :=
    let lines := pieces '\n' (laidOut code)
    if code.getLast? = some '\n' then lines else lines.dropLast

def lines (terminal : Nat) (code : String) : List (List Char) :=
    let cs := code.toList
    let numberWidth := (Nat.toDigits 10 (1 + cs.count '\n')).length
    ((codeLines cs).zipIdx 1).map fun (line, n) =>
      ' ' :: ' ' :: (rightAligned numberWidth n ++ ' ' ::
        fitWidth (terminal - numberWidth - 3) line)

end Listing

/-! ## The terminal -/

def textOf (lines : List (List Char)) : String :=
    String.ofList (lines.flatMap (· ++ ['\n']))

def tableText (width : Nat) (headers : List String) (rows : List (List String)) :
    Except Fault String := do
    let headers ← headers.mapM Markup.plain
    let cells ← rows.mapM fun row => row.mapM Markup.plain
    let table : Table := ⟨headers, cells⟩
    return textOf (table.lines width)

def plainTerminal (width : Nat) : Terminal where
  print marked := (Markup.plain marked).map fun cs => textOf (wrap width .fold cs)
  table := tableText width
  listing code := textOf (Listing.lines width code)
  escape := Markup.escape

end DexBrowser.Console

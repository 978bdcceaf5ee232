import DexBrowser.Console.Markup
import DexBrowser.Console.Wrap

/-!
Tables with a heavy head, drawn with box characters. Columns are as wide as their widest cell and
give way, the widest first, when the table is too wide.
-/

namespace DexBrowser.Console

open Text

structure Table where
  headers : List (List Char)
  rows : List (List (List Char))

structure Extent where
  least : Nat
  greatest : Nat
  deriving DecidableEq, Repr

namespace Extent

def atMost (extent : Extent) (limit : Nat) : Extent :=
    ⟨min extent.least limit, min extent.greatest limit⟩

end Extent

namespace Table

def padding : Nat := 2

def endsLine (c : Char) : Bool :=
    let n := c.toNat
    (10 ≤ n && n ≤ 13) || (0x1C ≤ n && n ≤ 0x1E) || n = 0x85 || n = 0x2028 || n = 0x2029

def extentOf (cs : List Char) : Extent :=
    let lines := cs.splitBy fun a b => !endsLine a && !endsLine b
    let greatest := (lines.map fun line => width (line.filter (!endsLine ·))).foldl max 0
    let words := (wordsOf cs).map strip
    ⟨if words.isEmpty then greatest else (words.map width).foldl max 0, greatest⟩

def cellExtent (limit : Nat) (cs : List Char) : Extent :=
    if limit < padding + 1 then ⟨limit, limit⟩
    else
      let inner := (extentOf cs).atMost (limit - padding)
      ⟨inner.least + padding, inner.greatest + padding⟩

def columnWidth (limit : Nat) (cells : List (List Char)) : Nat :=
    if limit < 1 then 0
    else min limit ((cells.map fun cell => (cellExtent limit cell).greatest).foldl max 0)

/-- Takes a total off values, in equal shares, rounded, off those that take part, and off none more
than its bound. -/
def reduce : (remaining parts : Nat) → List (Bool × Nat × Nat) → List Nat
  | _, _, [] => []
  | remaining, parts, (takesPart, bound, value) :: rest =>
      if takesPart && 0 < parts then
        let share := min bound (Number.roundDiv remaining parts)
        (value - share) :: reduce (remaining - share) (parts - 1) rest
      else value :: reduce remaining parts rest

def reduceAll (total : Nat) (entries : List (Bool × Nat × Nat)) : List Nat :=
    let entries := entries.map fun (takesPart, bound, value) =>
      (takesPart && 0 < bound, bound, value)
    reduce total (entries.countP (·.1)) entries

def together (widths : List Nat) : Nat :=
    widths.foldl (· + ·) 0

/-- The widest columns give way down to the next ones, until the widths fit. -/
def collapse (limit : Nat) : (fuel : Nat) → List Nat → List Nat
  | 0, widths => widths
  | fuel + 1, widths =>
      let excess := together widths - limit
      let widest := widths.foldl max 0
      let second := (widths.filter (· ≠ widest)).foldl max 0
      if excess = 0 || widest = second then widths
      else
        let bound := min excess (widest - second)
        collapse limit fuel (reduceAll excess (widths.map fun w => (w == widest, bound, w)))

def borderWidth (columns : Nat) : Nat :=
    columns + 1

def columns (table : Table) : List (List (List Char)) :=
    (List.range table.headers.length).map fun i =>
      (table.headers :: table.rows).map fun row => row.getD i []

def widths (limit : Nat) (table : Table) : List Nat :=
    let inner := limit - borderWidth table.headers.length
    let wanted := table.columns.map fun cells => max 1 (columnWidth inner cells)
    if together wanted ≤ inner then wanted
    else
      let collapsed := collapse inner (together wanted + 1) wanted
      let collapsed :=
        if inner < together collapsed then
          reduceAll (together collapsed - inner) (collapsed.map fun w => (true, w, w))
        else collapsed
      (collapsed.zip table.columns).map fun (w, cells) => columnWidth w cells

def cellLines (columnWidth : Nat) (cs : List Char) : List (List Char) :=
    let inner := columnWidth - padding
    (wrap inner .ellipsis cs).map fun line => ' ' :: (fitWidth inner line ++ [' '])

def between (left middle right : Char) (parts : List (List Char)) : List Char :=
    left :: ([middle].intercalate parts ++ [right])

def rowLines (border : Char) (widths : List Nat) (row : List (List Char)) : List (List Char) :=
    let cells := (widths.zip row).map fun (w, cs) => (w, cellLines w cs)
    let height := (cells.map (·.2.length)).foldl max 1
    (List.range height).map fun i =>
      between border border border
        (cells.map fun (w, lines) => lines.getD i (List.replicate w ' '))

def ruleLine (left stroke middle right : Char) (widths : List Nat) : List Char :=
    between left middle right (widths.map fun w => List.replicate w stroke)

def lines (limit : Nat) (table : Table) : List (List Char) :=
    let widths := table.widths limit
    [ruleLine '┏' '━' '┳' '┓' widths] ++ rowLines '┃' widths table.headers ++
      [ruleLine '┡' '━' '╇' '┩' widths] ++ table.rows.flatMap (rowLines '│' widths) ++
      [ruleLine '└' '─' '┴' '┘' widths]

end Table

end DexBrowser.Console

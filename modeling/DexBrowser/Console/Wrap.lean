import DexBrowser.Text.Blank
import DexBrowser.Text.Pieces
import DexBrowser.Text.Width

/-!
Breaking texts into lines of a width. Lines break between words; a word that is too long for any
line is folded over several, or left to be cut.
-/

namespace DexBrowser.Console

open Text

inductive Overflow where
  | fold
  | ellipsis
  deriving DecidableEq, Repr

def afterWord (cs : List Char) : List Char :=
    dropBlanks ((dropBlanks cs).dropWhile (!isBlank ·))

def firstWord (cs : List Char) : List Char :=
    let word := (dropBlanks cs).takeWhile (!isBlank ·)
    let rest := (dropBlanks cs).dropWhile (!isBlank ·)
    cs.takeWhile isBlank ++ word ++ rest.takeWhile isBlank

theorem length_afterWord_lt {cs : List Char} (word : dropBlanks cs ≠ []) :
    (afterWord cs).length < cs.length := by
  have kept := length_dropBlanks_le cs
  have blank := isBlank_head_dropBlanks cs
  cases start : dropBlanks cs with
  | nil => contradiction
  | cons c rest =>
      have solid := blank c (by simp [start])
      have word_le := (List.dropWhile_sublist (l := rest) (!isBlank ·)).length_le
      have trail_le := length_dropBlanks_le (rest.dropWhile (!isBlank ·))
      simp only [start, List.length_cons] at kept
      simp only [afterWord, start, List.dropWhile_cons, solid, Bool.not_false, if_true]
      omega

/-- The words of a text, each with the blanks behind it; the first with those before it too. -/
def wordsOf (cs : List Char) : List (List Char) :=
    if _word : dropBlanks cs ≠ [] then firstWord cs :: wordsOf (afterWord cs) else []
termination_by cs.length
decreasing_by exact length_afterWord_lt _word

def trimEnd (cs : List Char) : List Char :=
    (cs.reverse.dropWhile isBlank).reverse

/-- A word in chunks that fit a width, `used` cells of the first being taken. -/
def chunks (limit : Nat) : (used : Nat) → (current : List Char) → List Char → List (List Char)
  | _, current, [] => [current.reverse]
  | used, current, c :: rest =>
      if limit < used + cellWidth c then
        current.reverse :: chunks limit (cellWidth c) [c] rest
      else chunks limit (used + cellWidth c) (c :: current) rest

/-- Starts a new line behind the text so far, unless there is none yet. -/
def breakAfter (line : List Char) : List (List Char) :=
    if line.isEmpty then [] else [line]

def fillLines (limit : Nat) (overflow : Overflow) : (line : List Char) → List (List Char) →
    List (List Char)
  | line, [] => [line]
  | line, word :: rest =>
      let length := width (trimEnd word)
      if width line + length ≤ limit then fillLines limit overflow (line ++ word) rest
      else if limit < length then
        match overflow with
        | .fold =>
            let parts := chunks limit 0 [] word
            breakAfter line ++ parts.dropLast ++
              fillLines limit overflow (parts.getLastD []) rest
        | .ellipsis => breakAfter line ++ fillLines limit overflow word rest
      else breakAfter line ++ fillLines limit overflow word rest

def dropExcess (limit : Nat) (cs : List Char) : List Char :=
    let blanks := cs.length - (trimEnd cs).length
    cs.take (cs.length - min blanks (cs.length - limit))

/-- A line cut to the width, with a sign that something is missing where that is asked for. -/
def cut (limit : Nat) (overflow : Overflow) (cs : List Char) : List Char :=
    if width cs ≤ limit then cs
    else
      match overflow with
      | .fold => cropWidth limit cs
      | .ellipsis => cropWidth (limit - 1) cs ++ ['…']

def tabSize : Nat := 8

def wrap (limit : Nat) (overflow : Overflow) (cs : List Char) : List (List Char) :=
    (pieces '\n' cs).flatMap fun line =>
      let line := expandTabs tabSize cellWidth 0 line
      let broken :=
        match wordsOf line with
        | [] => [line]
        | words => fillLines limit overflow [] words
      broken.map fun part => cut limit overflow (dropExcess limit part)

end DexBrowser.Console

/-!
Cutting up texts: at line breaks, at a character and into the words of a command line. Main
statements: a text that is cut at a character has one piece more than it has cuts, no piece holds
the character, and texts that are put together with the character have each their own pieces.
-/

namespace DexBrowser.Text

/-! ## Line breaks -/

/-- Every line break made a line feed: a carriage return, with or without a line feed after it, is
one break. -/
def unifyLines : List Char → List Char
  | '\r' :: '\n' :: rest => '\n' :: unifyLines rest
  | '\r' :: rest => '\n' :: unifyLines rest
  | c :: rest => c :: unifyLines rest
  | [] => []

/-! ## Pieces -/

def pieces (separator : Char) : List Char → List (List Char)
  | [] => [[]]
  | c :: cs =>
      if c = separator then [] :: pieces separator cs
      else
        match pieces separator cs with
        | [] => [[c]]
        | piece :: rest => (c :: piece) :: rest

theorem pieces_ne_nil (separator : Char) (cs : List Char) : pieces separator cs ≠ [] := by
  cases cs with
  | nil => simp [pieces]
  | cons c cs =>
      unfold pieces
      split
      · simp
      · split <;> simp

theorem length_pieces (separator : Char) (cs : List Char) :
    (pieces separator cs).length = cs.count separator + 1 := by
  induction cs with
  | nil => rfl
  | cons c cs ih =>
      unfold pieces
      by_cases same : c = separator
      · simp [same, ih]
      · have nonempty := pieces_ne_nil separator cs
        simp only [same, if_false, List.count_cons, beq_iff_eq]
        cases shape : pieces separator cs with
        | nil => exact absurd shape nonempty
        | cons piece rest => simpa [shape] using ih

theorem not_mem_of_mem_pieces {separator : Char} {cs piece : List Char}
    (member : piece ∈ pieces separator cs) : separator ∉ piece := by
  induction cs generalizing piece with
  | nil => simp_all [pieces]
  | cons c cs ih =>
      unfold pieces at member
      by_cases same : c = separator
      · simp only [same, if_true, List.mem_cons] at member
        rcases member with rfl | member
        · simp
        · exact ih member
      · simp only [same, if_false] at member
        cases shape : pieces separator cs with
        | nil => exact absurd shape (pieces_ne_nil separator cs)
        | cons first rest =>
            rw [shape] at member ih
            rcases List.mem_cons.1 member with rfl | member
            · simp only [List.mem_cons, not_or]
              exact ⟨Ne.symm same, ih (List.mem_cons_self ..)⟩
            · exact ih (List.mem_cons_of_mem _ member)

theorem pieces_of_not_mem {separator : Char} {cs : List Char} (uncut : separator ∉ cs) :
    pieces separator cs = [cs] := by
  induction cs with
  | nil => rfl
  | cons c cs ih =>
      rw [List.mem_cons, not_or] at uncut
      rw [pieces, if_neg (Ne.symm uncut.1), ih uncut.2]

theorem pieces_append (separator : Char) (first second : List Char) :
    pieces separator (first ++ separator :: second) =
      pieces separator first ++ pieces separator second := by
  induction first with
  | nil => simp [pieces]
  | cons c first ih =>
      rw [List.cons_append, pieces, pieces, ih]
      split
      · rfl
      · cases shape : pieces separator first with
        | nil => exact absurd shape (pieces_ne_nil separator first)
        | cons piece rest => rfl

theorem pieces_flatMap (separator : Char) (texts : List (List Char)) (rest : List Char) :
    pieces separator (texts.flatMap (· ++ [separator]) ++ rest) =
      texts.flatMap (pieces separator) ++ pieces separator rest := by
  induction texts with
  | nil => rfl
  | cons text texts ih =>
      rw [List.flatMap_cons, List.flatMap_cons, List.append_assoc, List.append_assoc,
        List.singleton_append, pieces_append, ih, List.append_assoc]

theorem pieces_append_uncut {separator : Char} (cs : List Char) {tail : List Char}
    (uncut : separator ∉ tail) : ∃ front last, pieces separator cs = front ++ [last] ∧
      pieces separator (cs ++ tail) = front ++ [last ++ tail] := by
  induction cs with
  | nil => exact ⟨[], [], rfl, pieces_of_not_mem uncut⟩
  | cons c cs ih =>
      obtain ⟨front, last, whole, longer⟩ := ih
      rw [List.cons_append, pieces, pieces, whole, longer]
      split
      case isTrue => exact ⟨[] :: front, last, rfl, rfl⟩
      case isFalse =>
          cases front with
          | nil => exact ⟨[], c :: last, rfl, rfl⟩
          | cons first front => exact ⟨(c :: first) :: front, last, rfl, rfl⟩

theorem intercalate_pieces (separator : Char) (cs : List Char) :
    [separator].intercalate (pieces separator cs) = cs := by
  induction cs with
  | nil => rfl
  | cons c cs ih =>
      obtain ⟨piece, rest, shape⟩ := List.exists_cons_of_ne_nil (pieces_ne_nil separator cs)
      rw [shape] at ih
      rw [pieces, shape]
      split
      case isTrue same => rw [List.intercalate_cons_cons, ih, same]; rfl
      case isFalse =>
          cases rest with
          | nil =>
              rw [List.intercalate_singleton] at ih ⊢
              rw [ih]
          | cons next rest =>
              rw [List.intercalate_cons_cons, List.append_assoc] at ih ⊢
              rw [List.cons_append, ih]

/-! ## Words of a command line -/

namespace ShellWords

inductive Unfinished where
  | quotation
  | escape
  deriving DecidableEq, Repr

/-- What is being read. A word holds its characters so far in reverse. -/
inductive State where
  | between
  | word (acc : List Char)
  | quotation (quote : Char) (acc : List Char)
  | escape (acc : List Char)
  | quotedEscape (quote : Char) (acc : List Char)
  deriving DecidableEq, Repr

def isGap (c : Char) : Bool :=
    c = ' ' || c = '\t' || c = '\r' || c = '\n'

def State.enter (acc : List Char) (c : Char) : State :=
    if c = '\\' then .escape acc
    else if c = '"' || c = '\'' then .quotation c acc
    else .word (c :: acc)

def State.step : State → Char → State × Option (List Char)
  | .between, c => if isGap c then (.between, none) else (.enter [] c, none)
  | .word acc, c => if isGap c then (.between, some acc.reverse) else (.enter acc c, none)
  | .quotation quote acc, c =>
      if c = quote then (.word acc, none)
      else if c = '\\' && quote = '"' then (.quotedEscape quote acc, none)
      else (.quotation quote (c :: acc), none)
  | .escape acc, c => (.word (c :: acc), none)
  | .quotedEscape quote acc, c =>
      if c = quote || c = '\\' then (.quotation quote (c :: acc), none)
      else (.quotation quote (c :: '\\' :: acc), none)

def State.finish : State → Except Unfinished (List (List Char))
  | .between => .ok []
  | .word acc => .ok [acc.reverse]
  | .quotation .. => .error .quotation
  | .escape _ | .quotedEscape .. => .error .escape

def wordsFrom (state : State) : List Char → Except Unfinished (List (List Char))
  | [] => state.finish
  | c :: rest =>
      let (next, ended) := state.step c
      (wordsFrom next rest).map (ended.toList ++ ·)

end ShellWords

open ShellWords in
def shellWords (text : String) : Except Unfinished (List String) :=
    (wordsFrom .between text.toList).map fun words => words.map String.ofList

end DexBrowser.Text

import DexBrowser.Fault
import DexBrowser.Text.Blank

/-!
Texts with style tags in brackets. A tag starts with a small letter or one of three marks; a
closing tag starts with a slash and must close one that is open. Backslashes before a tag take its
meaning away.
-/

namespace DexBrowser.Console

/-- A stretch of plain text, or what stands between the brackets of a tag. -/
inductive Piece where
  | text (cs : List Char)
  | tag (position : Nat) (content : List Char)
  deriving DecidableEq, Repr

namespace Markup

def startsTag (c : Char) : Bool :=
    ('a' ≤ c && c ≤ 'z') || c = '#' || c = '/' || c = '@'

/-- What stands between an opening bracket and its closing one, if it makes a tag. -/
def tagContent? : List Char → Option (List Char × List Char)
  | [] => none
  | c :: rest =>
      if !startsTag c then none
      else
        match rest.dropWhile (· ≠ ']') with
        | [] => none
        | _ :: remaining =>
            if (rest.takeWhile (· ≠ ']')).contains '[' then none
            else some (c :: rest.takeWhile (· ≠ ']'), remaining)

theorem length_tagContent?_lt {cs content remaining : List Char}
    (found : tagContent? cs = some (content, remaining)) : remaining.length < cs.length := by
  unfold tagContent? at found
  split at found
  · contradiction
  · rename_i c rest
    split at found
    · contradiction
    · split at found
      · contradiction
      · rename_i d tail shape
        have shorter := (List.dropWhile_sublist (l := rest) (· ≠ ']')).length_le
        simp only [shape, List.length_cons] at shorter
        split at found
        · contradiction
        · simp only [Option.some.injEq, Prod.mk.injEq] at found
          obtain ⟨_, rfl⟩ := found
          simp only [List.length_cons]
          omega

def backslashes (n : Nat) : List Char :=
    List.replicate n '\\'

/-- The pieces of a text from a position on, `slashes` backslashes having just been read. Pairs of
backslashes before a tag stand for one each, and an odd one makes plain text of the tag. -/
def piecesFrom (position slashes : Nat) : List Char → List Piece
  | [] => [.text (backslashes slashes)]
  | c :: rest =>
      if c = '\\' then piecesFrom (position + 1) (slashes + 1) rest
      else if c = '[' then
        match _found : tagContent? rest with
        | some (content, remaining) =>
            let next := position + content.length + 2
            let piece :=
              if slashes % 2 = 1 then .text ('[' :: (content ++ [']'])) else .tag position content
            .text (backslashes (slashes / 2)) :: piece :: piecesFrom next 0 remaining
        | none => .text (backslashes (slashes - 1) ++ ['[']) :: piecesFrom (position + 1) 0 rest
      else .text (backslashes slashes ++ [c]) :: piecesFrom (position + 1) 0 rest
termination_by cs => cs.length
decreasing_by
    · exact Nat.lt_succ_self rest.length
    · exact Nat.lt_succ_of_lt (length_tagContent?_lt _found)
    · exact Nat.lt_succ_self rest.length
    · exact Nat.lt_succ_self rest.length

def styleName (cs : List Char) : String :=
    String.ofList ((Text.strip cs).map Char.toLower)

def closeStyle? (name : String) (opened : List String) : Option (List String) :=
    if opened.contains name then some (opened.erase name) else none

/-- The plain text of pieces, given the styles that are open, the last one first. -/
def plainFrom (opened : List String) : List Piece → Except Fault (List Char)
  | [] => .ok []
  | .text cs :: rest => (plainFrom opened rest).map (cs ++ ·)
  | .tag position content :: rest =>
      match content.takeWhile (· ≠ '=') with
      | '/' :: name =>
          if (Text.strip name).isEmpty then
            match opened with
            | [] => .error (.strayClosingTag none position)
            | _ :: others => plainFrom others rest
          else
            match closeStyle? (styleName name) opened with
            | some others => plainFrom others rest
            | none => .error (.strayClosingTag (some (String.ofList content)) position)
      | name => plainFrom (styleName name :: opened) rest

/-- Characters that no text keeps: bell, backspace, vertical tab, form feed, carriage return. -/
def isDropped (c : Char) : Bool :=
    let n := c.toNat
    n = 7 || n = 8 || n = 11 || n = 12 || n = 13

def plain (marked : String) : Except Fault (List Char) :=
    (plainFrom [] (piecesFrom 0 0 marked.toList)).map fun cs => cs.filter (!isDropped ·)

/-- What looks like a tag to the escaping: from the bracket to the next closing one, on a line. -/
def looksLikeTag (cs : List Char) : Bool :=
    match cs with
    | c :: rest =>
        startsTag c && (rest.dropWhile (fun d => d ≠ ']' && d ≠ '\n')).head? = some ']'
    | [] => false

/-- A text with the backslashes before each tag doubled and one more added; inside of what looks
like a tag nothing is escaped. -/
def escapeFrom (slashes : Nat) (inside : Bool) : List Char → List Char
  | [] => backslashes slashes
  | c :: rest =>
      if inside then c :: escapeFrom 0 (c ≠ ']') rest
      else if c = '\\' then escapeFrom (slashes + 1) false rest
      else if c = '[' && looksLikeTag rest then
        backslashes (2 * slashes + 1) ++ '[' :: escapeFrom 0 true rest
      else backslashes slashes ++ c :: escapeFrom 0 false rest

/-- A text that shows as itself, with one backslash at its end doubled. -/
def escape (text : String) : String :=
    let escaped := escapeFrom 0 false text.toList
    let single :=
      match escaped.reverse with
      | '\\' :: '\\' :: _ => false
      | '\\' :: _ => true
      | _ => false
    String.ofList (if single then escaped ++ ['\\'] else escaped)

end Markup

end DexBrowser.Console

/-!
Wildcard patterns for names: `*` stands for any characters, `?` for one, and brackets for one of a
set. Ranges that hold nothing are dropped from a set.
-/

namespace DexBrowser.Text

namespace Wildcard

inductive Item where
  | single (c : Char)
  | range (first last : Char)
  deriving DecidableEq, Repr

inductive Token where
  | star
  | any
  | literal (c : Char)
  | set (negated : Bool) (items : List Item)
  deriving DecidableEq, Repr

namespace Item

def holds : Item → Char → Bool
  | single c, d => d = c
  | range first last, d => first ≤ d && d ≤ last

def isEmpty : Item → Bool
  | single _ => false
  | range first last => last < first

end Item

/-- The items between brackets. A hyphen with a character on both sides makes a range. -/
def items : List Char → List Item
  | first :: '-' :: last :: rest => .range first last :: items rest
  | c :: rest => .single c :: items rest
  | [] => []

/-- The set that stands between brackets. An exclamation mark in front, or left in front when empty
ranges are gone, negates it. -/
def bracket (body : List Char) : Token :=
    let occupied (cs : List Char) : List Item := (items cs).filter (!·.isEmpty)
    match body with
    | '!' :: rest => .set true (occupied rest)
    | _ =>
        match occupied body with
        | .single '!' :: rest => .set true rest
        | .range '!' last :: rest => .set true (.single '-' :: .single last :: rest)
        | kept => .set false kept

/-- The body of a bracket and what follows it. A closing bracket right at the start is part of the
body. -/
def bracketBody? (cs : List Char) : Option (List Char × List Char) :=
    let (mark, afterMark) :=
      match cs with
      | '!' :: rest => (['!'], rest)
      | _ => ([], cs)
    let (opening, rest) :=
      match afterMark with
      | ']' :: rest => ([']'], rest)
      | _ => ([], afterMark)
    match rest.dropWhile (· ≠ ']') with
    | _ :: remaining => some (mark ++ opening ++ rest.takeWhile (· ≠ ']'), remaining)
    | [] => none

theorem length_bracketBody?_lt {cs body remaining : List Char}
    (closed : bracketBody? cs = some (body, remaining)) : remaining.length < cs.length := by
  unfold bracketBody? at closed
  split at closed
  rename_i mark afterMark mark_eq
  split at closed
  rename_i opening rest opening_eq
  have after_le : afterMark.length ≤ cs.length := by
    split at mark_eq <;> simp_all
  have rest_le : rest.length ≤ afterMark.length := by
    split at opening_eq <;> simp_all
  split at closed
  · rename_i c tail tail_eq
    have tail_le := (List.dropWhile_sublist (l := rest) (· ≠ ']')).length_le
    simp only [tail_eq, List.length_cons] at tail_le
    simp only [Option.some.injEq, Prod.mk.injEq] at closed
    obtain ⟨_, rfl⟩ := closed
    omega
  · contradiction

/-- The tokens of a pattern. A bracket that nothing closes stands for itself. -/
def tokens : List Char → List Token
  | [] => []
  | '*' :: rest => .star :: tokens rest
  | '?' :: rest => .any :: tokens rest
  | '[' :: rest =>
      match _closed : bracketBody? rest with
      | some (body, remaining) => bracket body :: tokens remaining
      | none => .literal '[' :: tokens rest
  | c :: rest => .literal c :: tokens rest
termination_by cs => cs.length
decreasing_by
    · exact Nat.lt_succ_self rest.length
    · exact Nat.lt_succ_self rest.length
    · exact Nat.lt_succ_of_lt (length_bracketBody?_lt _closed)
    · exact Nat.lt_succ_self rest.length
    · exact Nat.lt_succ_self rest.length

def endings : List Char → List (List Char)
  | [] => [[]]
  | c :: rest => (c :: rest) :: endings rest

def Token.fits : Token → Char → Bool
  | star, _ => false
  | any, _ => true
  | literal c, d => d = c
  | set negated items, d => (items.any (·.holds d)) != negated

def fits : List Token → List Char → Bool
  | [], cs => cs.isEmpty
  | .star :: rest, cs => (endings cs).any fun ending => fits rest ending
  | token :: rest, cs =>
      match cs with
      | c :: cs => token.fits c && fits rest cs
      | [] => false

def isPattern (cs : List Char) : Bool :=
    cs.any fun c => c = '*' || c = '?' || c = '['

end Wildcard

def matchesWildcard (pattern text : String) : Bool :=
    Wildcard.fits (Wildcard.tokens pattern.toList) text.toList

end DexBrowser.Text

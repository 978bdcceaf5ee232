import DexBrowser.Text.Hex
import DexBrowser.Text.Pieces

/-!
Escaped texts read back. An escaped text is plain ASCII with the same line breaks, and an ASCII text
is left alone. The reader meets the escapes that were written and those that stood in the text
already, and no others: a backslash before an escaped character begins no escape of its own. Main
statement: a text is read back exactly if it holds no escape itself.
-/

namespace DexBrowser.Text

/-! ## Digits -/

theorem hexDigit_bounds {n : Nat} (small : n < 16) :
    (hexDigit n).toNat < 0x80 ∧ hexDigit n ≠ '\n' := by
  have every : ∀ k : Fin 16, (hexDigit k).toNat < 0x80 ∧ hexDigit k ≠ '\n' := by decide
  exact every ⟨n, small⟩

theorem bounds_of_hexValue? {c : Char} {v : Nat} (digit : hexValue? c = some v) :
    c.toNat < 0x80 ∧ c ≠ '\\' := by
  have below {d : Char} (least : c ≤ d) (small : d.toNat < 0x80) : c.toNat < 0x80 :=
    Nat.lt_of_le_of_lt (UInt32.le_iff_toNat_le.mp least) small
  unfold hexValue? at digit
  split at digit
  case isTrue range => exact ⟨below range.2 (by decide), by rintro rfl; simp at range⟩
  case isFalse =>
      split at digit
      case isTrue range => exact ⟨below range.2 (by decide), by rintro rfl; simp at range⟩
      case isFalse =>
          split at digit
          case isTrue range => exact ⟨below range.2 (by decide), by rintro rfl; simp at range⟩
          case isFalse => contradiction

theorem hexUnit?_eq_some {a b c d : Char} {u : Nat} (read : hexUnit? a b c d = some u) :
    ∀ e ∈ [a, b, c, d], ∃ v, hexValue? e = some v := by
  simp only [hexUnit?, Option.bind_eq_bind, Option.bind_eq_some_iff] at read
  obtain ⟨first, isFirst, second, isSecond, third, isThird, fourth, isFourth, -⟩ := read
  intro e member
  simp only [List.mem_cons, List.not_mem_nil, or_false] at member
  rcases member with rfl | rfl | rfl | rfl
  · exact ⟨first, isFirst⟩
  · exact ⟨second, isSecond⟩
  · exact ⟨third, isThird⟩
  · exact ⟨fourth, isFourth⟩

namespace UnicodeEscape

/-! ## What is written -/

theorem character_ascii {c : Char} (ascii : c.toNat < 0x80) : character c = [c] :=
  if_pos ascii

theorem character_escaped {c : Char} (past : ¬ c.toNat < 0x80) :
    character c = (utf16 c).flatMap unit :=
  if_neg past

theorem toNat_bounds (c : Char) : c.toNat < 0xD800 ∨ 0xDFFF < c.toNat ∧ c.toNat < 0x110000 :=
  c.valid

theorem utf16_lt (c : Char) : ∀ u ∈ utf16 c, u < 0x10000 := by
  have bounds := toNat_bounds c
  intro u member
  unfold utf16 at member
  split at member
  case isTrue basic =>
      rwa [List.mem_singleton.mp member]
  case isFalse =>
      simp only [List.mem_cons, List.not_mem_nil, or_false] at member
      rcases member with high | low
      · rw [high]
        omega
      · rw [low]
        omega

theorem utf16_ne_nil (c : Char) : utf16 c ≠ [] := by
  unfold utf16
  split <;> exact List.cons_ne_nil _ _

theorem mem_unit_bounds (u : Nat) : ∀ c ∈ unit u, c.toNat < 0x80 ∧ c ≠ '\n' := by
  have digit (n : Nat) := hexDigit_bounds (Nat.mod_lt n (by decide : 0 < 16))
  intro c member
  simp only [unit, hexFixed_four, List.mem_cons, List.not_mem_nil, or_false] at member
  rcases member with rfl | rfl | rfl | rfl | rfl | rfl
  · decide
  · decide
  all_goals exact digit _

theorem mem_character_bounds {c d : Char} (member : d ∈ character c) :
    d.toNat < 0x80 ∧ (d = '\n' → c = '\n') := by
  by_cases ascii : c.toNat < 0x80
  case pos =>
      rw [character_ascii ascii] at member
      obtain rfl := List.mem_singleton.mp member
      exact ⟨ascii, id⟩
  case neg =>
      rw [character_escaped ascii] at member
      obtain ⟨u, -, inside⟩ := List.mem_flatMap.mp member
      obtain ⟨small, unbroken⟩ := mem_unit_bounds u d inside
      exact ⟨small, fun broken => absurd broken unbroken⟩

theorem ascii_encode (cs : List Char) : ∀ c ∈ encode cs, c.toNat < 0x80 := by
  intro c member
  obtain ⟨d, -, inside⟩ := List.mem_flatMap.mp member
  exact (mem_character_bounds inside).1

theorem encode_ascii {cs : List Char} (ascii : ∀ c ∈ cs, c.toNat < 0x80) : encode cs = cs := by
  induction cs with
  | nil => rfl
  | cons c rest ih =>
      obtain ⟨small, others⟩ := List.forall_mem_cons.mp ascii
      rw [encode_cons, character_ascii small, ih others, List.singleton_append]

theorem encode_eq_self_iff {cs : List Char} : encode cs = cs ↔ ∀ c ∈ cs, c.toNat < 0x80 := by
  refine ⟨fun same => ?_, encode_ascii⟩
  rw [← same]
  exact ascii_encode cs

theorem encode_encode (cs : List Char) : encode (encode cs) = encode cs :=
  encode_ascii (ascii_encode cs)

/-! ## Line breaks -/

theorem newline_not_mem_encode {cs : List Char} (uncut : '\n' ∉ cs) : '\n' ∉ encode cs := by
  intro member
  obtain ⟨c, isChar, inside⟩ := List.mem_flatMap.mp member
  rw [(mem_character_bounds inside).2 rfl] at isChar
  exact uncut isChar

theorem pieces_encode (cs : List Char) :
    pieces '\n' (encode cs) = (pieces '\n' cs).map encode := by
  have joined := intercalate_pieces '\n' cs
  have uncut : ∀ piece ∈ pieces '\n' cs, '\n' ∉ encode piece := fun piece member =>
    newline_not_mem_encode (not_mem_of_mem_pieces member)
  have nonempty := pieces_ne_nil '\n' cs
  generalize pieces '\n' cs = lines at joined uncut nonempty
  subst joined
  induction lines with
  | nil => contradiction
  | cons line rest ih =>
      obtain ⟨here, later⟩ := List.forall_mem_cons.mp uncut
      cases rest with
      | nil =>
          rw [List.intercalate_singleton, pieces_of_not_mem here]
          rfl
      | cons next rest =>
          rw [List.intercalate_cons_cons, encode_append, encode_append, List.append_assoc,
            show encode ['\n'] = ['\n'] from rfl, List.singleton_append, pieces_append,
            pieces_of_not_mem here, ih later (List.cons_ne_nil _ _)]
          rfl

theorem count_encode (cs : List Char) : (encode cs).count '\n' = cs.count '\n' := by
  have lengths := congrArg List.length (pieces_encode cs)
  rw [List.length_map, length_pieces, length_pieces] at lengths
  exact Nat.succ_inj.mp lengths

/-! ## Escapes in a text -/

def escapeAt? : List Char → Option Nat
  | '\\' :: 'u' :: a :: b :: c :: d :: _ => hexUnit? a b c d
  | _ => none

def HoldsEscape (cs : List Char) : Prop :=
    ∃ front back, cs = front ++ back ∧ (escapeAt? back).isSome

theorem escapeAt?_eq_some {cs : List Char} {u : Nat} (escaped : escapeAt? cs = some u) :
    ∃ a b c d rest, cs = '\\' :: 'u' :: a :: b :: c :: d :: rest ∧ hexUnit? a b c d = some u := by
  unfold escapeAt? at escaped
  split at escaped
  case h_1 a b c d rest => exact ⟨a, b, c, d, rest, rfl, escaped⟩
  case h_2 => contradiction

theorem units_escaped {a b c d : Char} {u : Nat} (read : hexUnit? a b c d = some u)
    (rest : List Char) : units ('\\' :: 'u' :: a :: b :: c :: d :: rest) = u :: units rest := by
  simp only [units, read]

theorem units_plain {c : Char} {rest : List Char} (plain : escapeAt? (c :: rest) = none) :
    units (c :: rest) = utf16 c ++ units rest := by
  rw [units.eq_def]
  split
  case h_1 shape =>
      obtain ⟨rfl, rfl⟩ := List.cons.inj shape
      rw [show hexUnit? _ _ _ _ = none from plain]
  case h_2 shape =>
      obtain ⟨rfl, rfl⟩ := List.cons.inj shape
      rfl
  case h_3 => contradiction

theorem units_flatMap_unit {us : List Nat} (small : ∀ u ∈ us, u < 0x10000) (rest : List Char) :
    units (us.flatMap unit ++ rest) = us ++ units rest := by
  induction us with
  | nil => rfl
  | cons u us ih =>
      obtain ⟨here, later⟩ := List.forall_mem_cons.mp small
      rw [List.flatMap_cons, List.append_assoc, units_unit_append here, ih later, List.cons_append]

/-! ## Seams -/

/-- What is written of a character past ASCII begins with a backslash, so what an escaped text holds
up to the next backslash was there before. -/
theorem encode_eq_append {cs front written : List Char} (whole : encode cs = front ++ written)
    (plain : '\\' ∉ front) : ∃ rest, cs = front ++ rest ∧ encode rest = written := by
  induction front generalizing cs with
  | nil => exact ⟨cs, rfl, whole⟩
  | cons c front ih =>
      rw [List.mem_cons, not_or] at plain
      cases cs with
      | nil => contradiction
      | cons d cs =>
          rw [encode_cons] at whole
          by_cases ascii : d.toNat < 0x80
          case pos =>
              rw [character_ascii ascii] at whole
              obtain ⟨rfl, tail⟩ := List.cons.inj whole
              obtain ⟨rest, rfl, same⟩ := ih tail plain.2
              exact ⟨rest, rfl, same⟩
          case neg =>
              obtain ⟨u, us, some⟩ := List.exists_cons_of_ne_nil (utf16_ne_nil d)
              rw [character_escaped ascii, some] at whole
              exact absurd (List.cons.inj whole).1 plain.1

theorem encode_digits {a b c d : Char} {u : Nat} (read : hexUnit? a b c d = some u)
    (rest : List Char) : encode ('\\' :: 'u' :: a :: b :: c :: d :: rest) =
      '\\' :: 'u' :: a :: b :: c :: d :: encode rest := by
  have ascii : ∀ e ∈ ['\\', 'u', a, b, c, d], e.toNat < 0x80 := by
    refine List.forall_mem_cons.mpr ⟨by decide, List.forall_mem_cons.mpr ⟨by decide, ?_⟩⟩
    intro e member
    obtain ⟨v, digit⟩ := hexUnit?_eq_some read e member
    exact (bounds_of_hexValue? digit).1
  have parts := encode_append ['\\', 'u', a, b, c, d] rest
  rwa [encode_ascii ascii] at parts

theorem escapeAt?_encode_cons {c : Char} {rest : List Char} (ascii : c.toNat < 0x80)
    (plain : escapeAt? (c :: rest) = none) : escapeAt? (c :: encode rest) = none := by
  cases escaped : escapeAt? (c :: encode rest) with
  | none => rfl
  | some u =>
      obtain ⟨d₁, d₂, d₃, d₄, written, shape, read⟩ := escapeAt?_eq_some escaped
      obtain ⟨rfl, tail⟩ := List.cons.inj shape
      have plainDigits : '\\' ∉ ['u', d₁, d₂, d₃, d₄] := by
        intro member
        rcases List.mem_cons.mp member with same | isDigit
        · contradiction
        · obtain ⟨v, digit⟩ := hexUnit?_eq_some read _ isDigit
          exact (bounds_of_hexValue? digit).2 rfl
      have parts : encode rest = ['u', d₁, d₂, d₃, d₄] ++ written := tail
      obtain ⟨back, rfl, -⟩ := encode_eq_append parts plainDigits
      rw [← read]
      exact plain

theorem units_encode_cons {c : Char} {rest : List Char} (plain : escapeAt? (c :: rest) = none) :
    units (encode (c :: rest)) = utf16 c ++ units (encode rest) := by
  rw [encode_cons]
  by_cases ascii : c.toNat < 0x80
  case pos =>
      rw [character_ascii ascii, List.singleton_append]
      exact units_plain (escapeAt?_encode_cons ascii plain)
  case neg => rw [character_escaped ascii, units_flatMap_unit (utf16_lt c)]

/-! ## Units read as characters -/

theorem ofUnits_pair {high low : Nat} (rest : List Nat)
    (paired : 0xD800 ≤ high ∧ high < 0xDC00 ∧ 0xDC00 ≤ low ∧ low < 0xE000) :
    ofUnits (high :: low :: rest) =
      Char.ofNat (0x10000 + (high - 0xD800) * 0x400 + (low - 0xDC00)) :: ofUnits rest := by
  rw [ofUnits, if_pos paired]

theorem ofUnits_lone {u : Nat} {us : List Nat} (lone : ¬ (0xD800 ≤ u ∧ u < 0xDC00)) :
    ofUnits (u :: us) = ofUnits.single u :: ofUnits us := by
  cases us with
  | nil => rfl
  | cons low rest => rw [ofUnits, if_neg fun paired => lone ⟨paired.1, paired.2.1⟩]

theorem ofUnits_utf16 (c : Char) (us : List Nat) : ofUnits (utf16 c ++ us) = c :: ofUnits us := by
  have bounds := toNat_bounds c
  unfold utf16
  split
  case isTrue basic =>
      have single : ofUnits.single c.toNat = c := by
        rw [ofUnits.single, if_neg (by omega), Char.ofNat_toNat]
      rw [List.singleton_append, ofUnits_lone (by omega), single]
  case isFalse astral =>
      dsimp only [List.cons_append, List.nil_append]
      generalize isHigh : 0xD800 + (c.toNat - 0x10000) / 0x400 = high
      generalize isLow : 0xDC00 + (c.toNat - 0x10000) % 0x400 = low
      have pair : 0x10000 + (high - 0xD800) * 0x400 + (low - 0xDC00) = c.toNat := by
        omega
      rw [ofUnits_pair us (by omega), pair, Char.ofNat_toNat]
theorem length_ofUnits_cons_le (u : Nat) (us : List Nat) :
    (ofUnits (u :: us)).length ≤ (ofUnits us).length + 1 := by
  cases us with
  | nil => exact Nat.le_refl 1
  | cons low rest =>
      by_cases paired : 0xD800 ≤ u ∧ u < 0xDC00 ∧ 0xDC00 ≤ low ∧ low < 0xE000
      case pos =>
          have alone : ofUnits (low :: rest) = ofUnits.single low :: ofUnits rest :=
            ofUnits_lone (by omega)
          rw [ofUnits_pair rest paired, alone, List.length_cons, List.length_cons]
          omega
      case neg =>
          have alone : ofUnits (u :: low :: rest) = ofUnits.single u :: ofUnits (low :: rest) := by
            rw [ofUnits, if_neg paired]
          exact Nat.le_of_eq (congrArg List.length alone)

/-! ## Reading back -/

theorem decode_encode_cons {c : Char} {rest : List Char} (plain : escapeAt? (c :: rest) = none) :
    decode (encode (c :: rest)) = c :: decode (encode rest) := by
  rw [decode, units_encode_cons plain, ofUnits_utf16, decode]

theorem decode_encode_escaped {a b c d : Char} {u : Nat} (read : hexUnit? a b c d = some u)
    (rest : List Char) :
    (decode (encode ('\\' :: 'u' :: a :: b :: c :: d :: rest))).length ≤
      (decode (encode rest)).length + 1 := by
  rw [decode, encode_digits read, units_escaped read]
  exact length_ofUnits_cons_le u _

theorem length_decode_encode_le (cs : List Char) : (decode (encode cs)).length ≤ cs.length := by
  match cs with
  | [] => exact Nat.le_refl 0
  | c :: rest =>
      cases escaped : escapeAt? (c :: rest) with
      | none =>
          rw [decode_encode_cons escaped, List.length_cons, List.length_cons]
          exact Nat.succ_le_succ (length_decode_encode_le rest)
      | some u =>
          obtain ⟨d₁, d₂, d₃, d₄, back, shape, read⟩ := escapeAt?_eq_some escaped
          have shorter : back.length + 6 = (c :: rest).length := by rw [shape]; rfl
          have inner := length_decode_encode_le back
          have outer := decode_encode_escaped read back
          rw [← shape] at outer
          omega
termination_by cs.length
decreasing_by
  · simp
  · omega

theorem holdsEscape_cons {c : Char} {rest : List Char} (plain : escapeAt? (c :: rest) = none) :
    HoldsEscape (c :: rest) ↔ HoldsEscape rest := by
  constructor
  · rintro ⟨front, back, whole, escaped⟩
    cases front with
    | nil =>
        rw [List.nil_append] at whole
        rw [← whole, plain] at escaped
        contradiction
    | cons d front => exact ⟨front, back, (List.cons.inj whole).2, escaped⟩
  · rintro ⟨front, back, rfl, escaped⟩
    exact ⟨c :: front, back, rfl, escaped⟩

/-- The induction goes through the characters. One that begins an escape of the text itself is read
with what comes after it, and the result is shorter than the text. -/
theorem decode_encode_eq_iff (cs : List Char) :
    decode (encode cs) = cs ↔ ¬ HoldsEscape cs := by
  induction cs with
  | nil =>
      refine iff_of_true rfl ?_
      rintro ⟨front, back, whole, escaped⟩
      rw [(List.append_eq_nil_iff.mp whole.symm).2] at escaped
      contradiction
  | cons c rest ih =>
      cases escaped : escapeAt? (c :: rest) with
      | none =>
          rw [decode_encode_cons escaped, holdsEscape_cons escaped, ← ih]
          exact ⟨fun same => (List.cons.inj same).2, congrArg (c :: ·)⟩
      | some u =>
          refine iff_of_false (fun same => ?_) (not_not_intro ⟨[], _, rfl, by rw [escaped]; rfl⟩)
          obtain ⟨d₁, d₂, d₃, d₄, back, shape, read⟩ := escapeAt?_eq_some escaped
          have lengths := congrArg List.length same
          have inner := length_decode_encode_le back
          have outer := decode_encode_escaped read back
          rw [shape, List.length_cons] at lengths
          simp only [List.length_cons] at lengths
          omega

theorem infix_of_holdsEscape {cs : List Char} (holds : HoldsEscape cs) : ['\\', 'u'] <:+: cs := by
  obtain ⟨front, back, rfl, escaped⟩ := holds
  obtain ⟨u, escaped⟩ := Option.isSome_iff_exists.mp escaped
  obtain ⟨a, b, c, d, rest, rfl, -⟩ := escapeAt?_eq_some escaped
  exact ⟨front, a :: b :: c :: d :: rest, by simp⟩

end UnicodeEscape

open UnicodeEscape in
/-- What comes out is ASCII, line by line, and an ASCII text is left alone. Read from left to right
it is the text again exactly if the text holds no escape itself, and so for every text without a
backslash right before the letter u. -/
theorem escapeUnicode_invertible (text : String) :
    (∀ c ∈ (escapeUnicode text).toList, c.toNat < 0x80) ∧
      (escapeUnicode text = text ↔ ∀ c ∈ text.toList, c.toNat < 0x80) ∧
      escapeUnicode (escapeUnicode text) = escapeUnicode text ∧
      (∀ more, escapeUnicode (text ++ more) = escapeUnicode text ++ escapeUnicode more) ∧
      pieces '\n' (escapeUnicode text).toList = (pieces '\n' text.toList).map encode ∧
      (escapeUnicode text).toList.count '\n' = text.toList.count '\n' ∧
      (decode (escapeUnicode text).toList = text.toList ↔ ¬ HoldsEscape text.toList) ∧
      (¬ ['\\', 'u'] <:+: text.toList → decode (escapeUnicode text).toList = text.toList) := by
  have written (other : String) : (escapeUnicode other).toList = encode other.toList :=
    String.toList_ofList
  have unchanged : escapeUnicode text = text ↔ encode text.toList = text.toList := by
    rw [← written, String.toList_inj]
  rw [unchanged, written]
  refine ⟨ascii_encode _, encode_eq_self_iff, ?_, fun more => ?_, pieces_encode _, count_encode _,
    decode_encode_eq_iff _, fun free => ?_⟩
  · apply String.toList_injective
    rw [written, written, encode_encode]
  · apply String.toList_injective
    rw [String.toList_append, written, written, written, String.toList_append, encode_append]
  · exact (decode_encode_eq_iff _).mpr fun holds => free (infix_of_holdsEscape holds)

/-- Two backslashes before a letter with an accent, a backslash before a character that takes two
units, and digits right behind. -/
theorem escapeUnicode_backslashes :
    ¬ ['\\', 'u'] <:+: "\\\\é\\😀00e9u\n".toList ∧
      escapeUnicode "\\\\é\\😀00e9u\n" = "\\\\\\u00e9\\\\ud83d\\ude0000e9u\n" ∧
      UnicodeEscape.decode (escapeUnicode "\\\\é\\😀00e9u\n").toList =
        "\\\\é\\😀00e9u\n".toList := by
  have free : ¬ ['\\', 'u'] <:+: "\\\\é\\😀00e9u\n".toList := by decide +kernel
  obtain ⟨-, -, -, -, -, -, -, reads⟩ := escapeUnicode_invertible "\\\\é\\😀00e9u\n"
  exact ⟨free, by decide +kernel, reads free⟩

end DexBrowser.Text

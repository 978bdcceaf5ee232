/-!
Blank characters and the trimming of texts. Main statements: a trimmed text starts and ends with no
blank, and trimming does nothing to such a text.
-/

namespace DexBrowser.Text

/-- A blank is a character with the Unicode white-space property, or one of the four information
separators. -/
def isBlank (c : Char) : Bool :=
    let n := c.toNat
    (0x09 ≤ n && n ≤ 0x0D) || (0x1C ≤ n && n ≤ 0x20) || n == 0x85 || n == 0xA0 || n == 0x1680 ||
      (0x2000 ≤ n && n ≤ 0x200A) || n == 0x2028 || n == 0x2029 || n == 0x202F || n == 0x205F ||
      n == 0x3000

/-- A spacing character has the Unicode white-space property; the information separators have
not. -/
def isSpacing (c : Char) : Bool :=
    isBlank c && !(0x1C ≤ c.toNat && c.toNat ≤ 0x1F)

def dropBlanks (cs : List Char) : List Char :=
    cs.dropWhile isBlank

def strip (cs : List Char) : List Char :=
    (dropBlanks (dropBlanks cs).reverse).reverse

def stripSpacing (cs : List Char) : List Char :=
    ((cs.dropWhile isSpacing).reverse.dropWhile isSpacing).reverse

structure Stripped (cs : List Char) : Prop where
  head : ∀ c, cs.head? = some c → isBlank c = false
  last : ∀ c, cs.getLast? = some c → isBlank c = false

/-! Trimming -/

theorem length_dropBlanks_le (cs : List Char) : (dropBlanks cs).length ≤ cs.length :=
  (List.dropWhile_sublist _).length_le

theorem length_strip_le (cs : List Char) : (strip cs).length ≤ cs.length := by
  have outer := length_dropBlanks_le (dropBlanks cs).reverse
  have inner := length_dropBlanks_le cs
  simp only [strip, List.length_reverse] at *
  omega

theorem dropBlanks_eq_self {cs : List Char}
    (kept : ∀ c, cs.head? = some c → isBlank c = false) : dropBlanks cs = cs := by
  cases cs with
  | nil => rfl
  | cons c rest => simp [dropBlanks, kept c rfl]

theorem isBlank_head_dropBlanks (cs : List Char) (c : Char)
    (head : (dropBlanks cs).head? = some c) : isBlank c = false := by
  have := List.head?_dropWhile_not isBlank cs
  rw [dropBlanks] at head
  simpa [head] using this

theorem head?_eq_of_append {cs front back : List Char} (parts : cs = front ++ back)
    (nonempty : front ≠ []) : front.head? = cs.head? := by
  cases front with
  | nil => contradiction
  | cons c rest => simp [parts]

theorem strip_prefix_dropBlanks (cs : List Char) : strip cs <+: dropBlanks cs := by
  have suffix := List.dropWhile_suffix isBlank (l := (dropBlanks cs).reverse)
  rw [← List.reverse_prefix, List.reverse_reverse] at suffix
  exact suffix

theorem stripped_strip (cs : List Char) : Stripped (strip cs) where
  head c first := by
    obtain ⟨back, whole⟩ := strip_prefix_dropBlanks cs
    have nonempty : strip cs ≠ [] := by
      intro empty
      simp [empty] at first
    exact isBlank_head_dropBlanks cs c ((head?_eq_of_append whole.symm nonempty).symm.trans first)
  last c final := by
    rw [strip, List.getLast?_reverse] at final
    exact isBlank_head_dropBlanks _ c final

theorem strip_eq_self {cs : List Char} (stripped : Stripped cs) : strip cs = cs := by
  rw [strip, dropBlanks_eq_self stripped.head, dropBlanks_eq_self, List.reverse_reverse]
  simpa only [List.head?_reverse] using stripped.last

@[simp] theorem strip_strip (cs : List Char) : strip (strip cs) = strip cs :=
  strip_eq_self (stripped_strip cs)

end DexBrowser.Text

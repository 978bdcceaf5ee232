import DexBrowser.Console.Markup

/-!
Texts with style tags. Main statements: a text in which every style that is opened is closed again
can be shown whatever is open, and changes nothing for what follows; a closing tag that follows
such a text where nothing is open cannot.
-/

namespace DexBrowser.Console.Markup

/-! ## Balanced texts -/

/-- Text without tags: it has neither opening brackets nor backslashes. -/
def IsPlain (cs : List Char) : Prop :=
    ∀ c ∈ cs, c ≠ '[' ∧ c ≠ '\\'

instance (cs : List Char) : Decidable (IsPlain cs) :=
    List.decidableBAll (fun c => c ≠ '[' ∧ c ≠ '\\') cs

def IsWord (name : List Char) : Prop :=
    name ≠ [] ∧ ∀ c ∈ name, 'a' ≤ c ∧ c ≤ 'z'

instance (name : List Char) : Decidable (IsWord name) :=
    @instDecidableAnd _ _ inferInstance (List.decidableBAll (fun c => 'a' ≤ c ∧ c ≤ 'z') name)

def openingTag (name : List Char) : List Char :=
    '[' :: (name ++ [']'])

def closingTag (name : List Char) : List Char :=
    '[' :: '/' :: (name ++ [']'])

/-- Text in which every style that is opened is closed again. -/
inductive Balanced : List Char → Prop
  | plain {cs : List Char} (isPlain : IsPlain cs) : Balanced cs
  | styled {name inner : List Char} (word : IsWord name) (balanced : Balanced inner) :
      Balanced (openingTag name ++ inner ++ closingTag name)
  | append {front back : List Char} (first : Balanced front) (second : Balanced back) :
      Balanced (front ++ back)

/-! ## Pieces -/

theorem tagContent?_of_starts {c : Char} (starts : startsTag c = true) {name : List Char}
    (noClosing : ']' ∉ name) (noOpening : '[' ∉ name) (rest : List Char) :
    tagContent? (c :: (name ++ ']' :: rest)) = some (c :: name, rest) := by
  have before (d : Char) (member : d ∈ name) : decide (d ≠ ']') = true := by
    simpa using ne_of_mem_of_not_mem member noClosing
  have taken : (name ++ ']' :: rest).takeWhile (· ≠ ']') = name := by
    rw [List.takeWhile_append_of_pos before]
    simp
  have left : (name ++ ']' :: rest).dropWhile (· ≠ ']') = ']' :: rest := by
    rw [List.dropWhile_append_of_pos before]
    simp
  simp only [tagContent?, starts, taken, left]
  simp [noOpening]

section Pieces

variable {position slashes : Nat} {c : Char} {rest content remaining : List Char}

theorem piecesFrom_other (notBackslash : c ≠ '\\') (notBracket : c ≠ '[') :
    piecesFrom position slashes (c :: rest) =
      .text (backslashes slashes ++ [c]) :: piecesFrom (position + 1) 0 rest := by
  rw [piecesFrom, if_neg notBackslash, if_neg notBracket]

theorem piecesFrom_tag (found : tagContent? rest = some (content, remaining)) :
    piecesFrom position slashes ('[' :: rest) =
      .text (backslashes (slashes / 2)) ::
        (if slashes % 2 = 1 then .text ('[' :: (content ++ [']'])) else .tag position content) ::
          piecesFrom (position + content.length + 2) 0 remaining := by
  rw [piecesFrom, if_neg (by decide), if_pos rfl]
  split
  case h_1 again =>
      obtain ⟨rfl, rfl⟩ := Prod.mk.inj (Option.some.inj (again.symm.trans found))
      rfl
  case h_2 none => cases none.symm.trans found

end Pieces

/-! ## Texts that can be shown -/

/-- From here on the text can be shown, given the styles that are open. -/
def ShownFrom (opened : List String) (position slashes : Nat) (cs : List Char) : Prop :=
    ∃ shown, plainFrom opened (piecesFrom position slashes cs) = .ok shown

section ShownFrom

variable {opened : List String} {position slashes : Nat} {c : Char}
  {rest content remaining : List Char}

theorem map_append_eq_ok_iff {outcome : Except Fault (List Char)} {front : List Char} :
    (∃ shown, outcome.map (front ++ ·) = .ok shown) ↔ ∃ shown, outcome = .ok shown := by
  cases outcome <;> simp [Except.map]

theorem shownFrom_nil : ShownFrom opened position slashes [] :=
  ⟨_, by rw [piecesFrom, plainFrom, plainFrom]; rfl⟩

theorem shownFrom_other (notBackslash : c ≠ '\\') (notBracket : c ≠ '[') :
    ShownFrom opened position slashes (c :: rest) ↔ ShownFrom opened (position + 1) 0 rest := by
  rw [ShownFrom, piecesFrom_other notBackslash notBracket, plainFrom, map_append_eq_ok_iff,
    ShownFrom]

theorem shownFrom_plain {front : List Char} (isPlain : IsPlain front) :
    ShownFrom opened position 0 (front ++ rest) ↔
      ShownFrom opened (position + front.length) 0 rest := by
  induction front generalizing position with
  | nil => rfl
  | cons c front ih =>
      obtain ⟨⟨notBracket, notBackslash⟩, others⟩ := List.forall_mem_cons.mp isPlain
      rw [List.cons_append, shownFrom_other notBackslash notBracket, ih others, List.length_cons,
        Nat.add_assoc, Nat.add_comm 1]

theorem shownFrom_opening (found : tagContent? rest = some (content, remaining))
    (even : slashes % 2 ≠ 1) (opens : content.head? ≠ some '/') :
    ShownFrom opened position slashes ('[' :: rest) ↔
      ShownFrom (styleName (content.takeWhile (· ≠ '=')) :: opened)
        (position + content.length + 2) 0 remaining := by
  have name : (content.takeWhile (· ≠ '=')).head? ≠ some '/' := by
    cases content with
    | nil => simp
    | cons c content =>
        rw [List.takeWhile_cons]
        split
        · exact opens
        · simp
  rw [ShownFrom, piecesFrom_tag found, if_neg even, plainFrom, map_append_eq_ok_iff,
    plainFrom.eq_def]
  dsimp only
  split
  case h_1 closing =>
      rw [closing] at name
      exact absurd rfl name
  case h_2 => exact Iff.rfl

theorem shownFrom_closing (found : tagContent? rest = some (content, remaining))
    (even : slashes % 2 ≠ 1) {name : List Char} (closes : content.takeWhile (· ≠ '=') = '/' :: name)
    (named : (Text.strip name).isEmpty = false) {others : List String}
    (closed : closeStyle? (styleName name) opened = some others) :
    ShownFrom opened position slashes ('[' :: rest) ↔
      ShownFrom others (position + content.length + 2) 0 remaining := by
  rw [ShownFrom, piecesFrom_tag found, if_neg even, plainFrom, map_append_eq_ok_iff,
    plainFrom.eq_def]
  simp only [closes, named, closed]
  exact Iff.rfl

theorem not_shownFrom_stray (found : tagContent? rest = some (content, remaining))
    (even : slashes % 2 ≠ 1) {name : List Char} (closes : content.takeWhile (· ≠ '=') = '/' :: name)
    (named : (Text.strip name).isEmpty = false)
    (stray : closeStyle? (styleName name) opened = none) :
    ¬ ShownFrom opened position slashes ('[' :: rest) := by
  rw [ShownFrom, piecesFrom_tag found, if_neg even, plainFrom, map_append_eq_ok_iff,
    plainFrom.eq_def]
  simp only [closes, named, stray]
  simp

/-! ## Words as names of styles -/

section Word

variable {name : List Char} (word : IsWord name)

include word

theorem IsWord.strip_name : Text.strip name = name := by
  have letters (c : Char) (letter : c ∈ name) : Text.isBlank c = false := by
    obtain ⟨least, greatest⟩ := word.2 c letter
    have : 97 ≤ c.toNat := least
    have : c.toNat ≤ 122 := greatest
    simp only [Text.isBlank, Bool.or_eq_false_iff, Bool.and_eq_false_iff, decide_eq_false_iff_not,
      beq_eq_false_iff_ne]
    omega
  exact Text.strip_eq_self
    ⟨fun c first => letters c (List.mem_of_head? first),
      fun c last => letters c (List.mem_of_getLast? last)⟩

theorem IsWord.named : (Text.strip name).isEmpty = false := by
  rw [word.strip_name]
  simpa using word.1

theorem IsWord.ne {c other : Char} (letter : c ∈ name) (beyond : ¬('a' ≤ other ∧ other ≤ 'z')) :
    c ≠ other := by
  rintro rfl
  exact beyond (word.2 c letter)

theorem IsWord.tagContent?_opening (rest : List Char) :
    tagContent? (name ++ ']' :: rest) = some (name, rest) := by
  cases name with
  | nil => exact absurd rfl word.1
  | cons c name =>
      have starts : startsTag c = true := by
        have letter := word.2 c List.mem_cons_self
        simp [startsTag, letter.1, letter.2]
      exact tagContent?_of_starts starts
        (fun bracket => word.ne (List.mem_cons_of_mem c bracket) (by decide) rfl)
        (fun bracket => word.ne (List.mem_cons_of_mem c bracket) (by decide) rfl) rest

theorem IsWord.tagContent?_closing (rest : List Char) :
    tagContent? ('/' :: (name ++ ']' :: rest)) = some ('/' :: name, rest) :=
  tagContent?_of_starts (by decide) (fun bracket => word.ne bracket (by decide) rfl)
    (fun bracket => word.ne bracket (by decide) rfl) rest

theorem IsWord.takeWhile_ne {other : Char} (beyond : ¬('a' ≤ other ∧ other ≤ 'z')) :
    name.takeWhile (· ≠ other) = name := by
  have before (c : Char) (letter : c ∈ name) : decide (c ≠ other) = true := by
    simpa using word.ne letter beyond
  have whole : (name ++ []).takeWhile (· ≠ other) = name ++ [].takeWhile (· ≠ other) :=
    List.takeWhile_append_of_pos before
  simpa using whole

theorem IsWord.shownFrom_openingTag {rest : List Char} :
    ShownFrom opened position 0 (openingTag name ++ rest) ↔
      ShownFrom (styleName name :: opened) (position + (openingTag name).length) 0 rest := by
  have opens : name.head? ≠ some '/' := fun slash =>
    word.ne (List.mem_of_head? slash) (by decide) rfl
  have spelled : openingTag name ++ rest = '[' :: (name ++ ']' :: rest) := by simp [openingTag]
  have length : (openingTag name).length = name.length + 2 := by simp [openingTag]
  rw [spelled, shownFrom_opening (word.tagContent?_opening rest) (by decide) opens,
    word.takeWhile_ne (by decide), length, Nat.add_assoc]

theorem IsWord.shownFrom_closingTag {rest : List Char} :
    ShownFrom (styleName name :: opened) position 0 (closingTag name ++ rest) ↔
      ShownFrom opened (position + (closingTag name).length) 0 rest := by
  have closed : closeStyle? (styleName name) (styleName name :: opened) = some opened := by
    simp [closeStyle?]
  have closes : ('/' :: name).takeWhile (· ≠ '=') = '/' :: name := by
    simpa using word.takeWhile_ne (by decide)
  have spelled : closingTag name ++ rest = '[' :: '/' :: (name ++ ']' :: rest) := by
    simp [closingTag]
  have length : (closingTag name).length = ('/' :: name).length + 2 := by simp [closingTag]
  rw [spelled,
      shownFrom_closing (word.tagContent?_closing rest) (by decide) closes word.named closed,
    length, Nat.add_assoc]

theorem IsWord.not_shownFrom_closingTag {rest : List Char} :
    ¬ ShownFrom [] position 0 (closingTag name ++ rest) := by
  have closes : ('/' :: name).takeWhile (· ≠ '=') = '/' :: name := by
    simpa using word.takeWhile_ne (by decide)
  have spelled : closingTag name ++ rest = '[' :: '/' :: (name ++ ']' :: rest) := by
    simp [closingTag]
  rw [spelled]
  exact not_shownFrom_stray (word.tagContent?_closing rest) (by decide) closes word.named rfl

end Word

theorem Balanced.shownFrom {front : List Char} (balanced : Balanced front) :
    ShownFrom opened position 0 (front ++ rest) ↔
      ShownFrom opened (position + front.length) 0 rest := by
  induction balanced generalizing opened position rest with
  | plain isPlain => exact shownFrom_plain isPlain
  | @styled name inner word _ ih =>
      rw [List.append_assoc, List.append_assoc, word.shownFrom_openingTag, ih,
        word.shownFrom_closingTag, List.length_append, List.length_append, ← Nat.add_assoc,
        ← Nat.add_assoc]
  | append _ _ first second =>
      rw [List.append_assoc, first, second, List.length_append, Nat.add_assoc]

end ShownFrom

/-! ## Whole texts -/

theorem plain_eq_ok_iff {marked : String} :
    (∃ cs, plain marked = .ok cs) ↔ ShownFrom [] 0 0 marked.toList := by
  rw [plain, ShownFrom]
  cases plainFrom [] (piecesFrom 0 0 marked.toList) <;> simp [Except.map]

theorem Balanced.plain_ends_ok {marked : String} (balanced : Balanced marked.toList) :
    ∃ cs, Markup.plain marked = .ok cs := by
  rw [plain_eq_ok_iff, ← List.append_nil marked.toList, balanced.shownFrom]
  exact shownFrom_nil

theorem Balanced.stray_not_plain {front name : List Char} (balanced : Balanced front)
    (word : IsWord name) (back : List Char) :
    ¬ ∃ cs, Markup.plain (String.ofList (front ++ (closingTag name ++ back))) = .ok cs := by
  rw [plain_eq_ok_iff, String.toList_ofList, balanced.shownFrom]
  exact word.not_shownFrom_closingTag

end DexBrowser.Console.Markup

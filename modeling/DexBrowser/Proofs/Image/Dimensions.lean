import DexBrowser.Image.Source

/-!
Spellings of types taken apart: blanks at the ends and brackets at the end come off in turn. Main
statements: every spelling comes to one base after one number of brackets, it is an array's exactly
if there are any, and the characters other than blanks are those of the base and of the brackets.
-/

namespace DexBrowser.Text

/-! ## What is not blank -/

def inked (cs : List Char) : List Char :=
    cs.filter fun c => !isBlank c

@[simp] theorem inked_append (front back : List Char) :
    inked (front ++ back) = inked front ++ inked back :=
  List.filter_append ..

theorem inked_dropBlanks (cs : List Char) : inked (dropBlanks cs) = inked cs := by
  induction cs with
  | nil => rfl
  | cons c rest ih =>
      cases blank : isBlank c with
      | true =>
          have skipped : inked (c :: rest) = inked rest := List.filter_cons_of_neg (by simp [blank])
          rw [dropBlanks, List.dropWhile_cons_of_pos blank, skipped]
          exact ih
      | false => rw [dropBlanks, List.dropWhile_cons_of_neg (by simp [blank])]

theorem inked_reverse (cs : List Char) : inked cs.reverse = (inked cs).reverse :=
  List.filter_reverse

theorem inked_strip (cs : List Char) : inked (strip cs) = inked cs := by
  rw [strip, inked_reverse, inked_dropBlanks, inked_reverse, inked_dropBlanks, List.reverse_reverse]

end DexBrowser.Text

namespace DexBrowser.Image

open Text

variable {cs element base other : List Char} {depth count : Nat}

/-! ## Brackets -/

theorem elementOf?_eq_some : elementOf? cs = some element ↔ cs = element ++ ['[', ']'] := by
  constructor
  · intro bracketed
    unfold elementOf? at bracketed
    split at bracketed
    case h_1 rest shape =>
        obtain rfl := Option.some.inj bracketed
        rw [← List.reverse_reverse cs, shape, List.reverse_cons, List.reverse_cons,
          List.append_assoc]
        rfl
    case h_2 => contradiction
  · rintro rfl
    simp [elementOf?]

theorem elementOf?_eq_none : elementOf? cs = none ↔ ∀ element, cs ≠ element ++ ['[', ']'] := by
  constructor
  · rintro bare element bracketed
    rw [elementOf?_eq_some.mpr bracketed] at bare
    contradiction
  · intro none
    cases bracketed : elementOf? cs with
    | none => rfl
    | some element => exact absurd (elementOf?_eq_some.mp bracketed) (none element)

theorem baseOf_bare (bare : elementOf? (strip cs) = none) : baseOf cs = strip cs := by
  rw [baseOf]
  split
  case h_1 bracketed =>
      rw [bare] at bracketed
      contradiction
  case h_2 => rfl

theorem baseOf_bracketed (bracketed : elementOf? (strip cs) = some element) :
    baseOf cs = baseOf element := by
  rw [baseOf]
  split
  case h_1 same =>
      obtain rfl := Option.some.inj (bracketed.symm.trans same)
      rfl
  case h_2 none =>
      rw [bracketed] at none
      contradiction

/-! ## Base and depth -/

/-- A spelling comes to a base when its brackets are taken off, so many times. -/
inductive Peels : List Char → Nat → List Char → Prop
  | bare {cs : List Char} (none : ∀ element, strip cs ≠ element ++ ['[', ']']) :
      Peels cs 0 (strip cs)
  | brackets {cs element base : List Char} {depth : Nat}
      (some : strip cs = element ++ ['[', ']']) (inner : Peels element depth base) :
      Peels cs (depth + 1) base

theorem peels_baseOf (cs : List Char) : ∃ depth, Peels cs depth (baseOf cs) := by
  induction cs using baseOf.induct with
  | case1 cs element bracketed ih =>
      obtain ⟨depth, peels⟩ := ih
      rw [baseOf_bracketed bracketed]
      exact ⟨depth + 1, .brackets (elementOf?_eq_some.mp bracketed) peels⟩
  | case2 cs bare =>
      rw [baseOf_bare bare]
      exact ⟨0, .bare (elementOf?_eq_none.mp bare)⟩

theorem Peels.unique (peels : Peels cs depth base) (others : Peels cs count other) :
    depth = count ∧ base = other := by
  induction peels generalizing count with
  | bare none =>
      cases others with
      | bare => exact ⟨rfl, rfl⟩
      | brackets some => exact absurd some (none _)
  | brackets some _ ih =>
      cases others with
      | bare none => exact absurd some (none _)
      | brackets same inner =>
          obtain rfl := List.append_cancel_right (some.symm.trans same)
          obtain ⟨rfl, rfl⟩ := ih inner
          exact ⟨rfl, rfl⟩

theorem Peels.baseOf_eq (peels : Peels cs depth base) : baseOf cs = base := by
  obtain ⟨count, others⟩ := peels_baseOf cs
  exact (others.unique peels).2

theorem Peels.depth_pos (peels : Peels cs depth base) :
    0 < depth ↔ (elementOf? (strip cs)).isSome := by
  cases peels with
  | bare none => simp [elementOf?_eq_none.mpr none]
  | brackets some => simp [elementOf?_eq_some.mpr some]

theorem Peels.depth_eq_zero (peels : Peels cs depth base) : depth = 0 → strip cs = base := by
  rintro rfl
  cases peels
  rfl

theorem Peels.base_bare (peels : Peels cs depth base) :
    strip base = base ∧ elementOf? base = none := by
  induction peels with
  | bare none => exact ⟨strip_strip _, elementOf?_eq_none.mpr none⟩
  | brackets _ _ ih => exact ih

theorem Peels.base_peels (peels : Peels cs depth base) : Peels base 0 base := by
  obtain ⟨shown, bare⟩ := peels.base_bare
  have none : Peels base 0 (strip base) := .bare (elementOf?_eq_none.mp (by rw [shown, bare]))
  rwa [shown] at none

theorem Peels.of_strip_eq (peels : Peels cs depth base) (same : strip cs = strip other) :
    Peels other depth base := by
  cases peels with
  | bare none =>
      rw [same] at none ⊢
      exact .bare none
  | brackets some inner => exact .brackets (same.symm.trans some) inner

theorem peels_strip : Peels (strip cs) depth base ↔ Peels cs depth base :=
  ⟨fun peels => peels.of_strip_eq (strip_strip cs),
    fun peels => peels.of_strip_eq (strip_strip cs).symm⟩

theorem baseOf_strip (cs : List Char) : baseOf (strip cs) = baseOf cs := by
  obtain ⟨_, peels⟩ := peels_baseOf cs
  exact (peels_strip.mpr peels).baseOf_eq

/-- Blanks around a type and before its brackets are all that spellings of one base and depth
differ by. -/
theorem Peels.inked (peels : Peels cs depth base) :
    inked cs = inked base ++ (List.replicate depth ['[', ']']).flatten := by
  induction peels with
  | @bare cs none =>
      rw [List.replicate_zero, List.flatten_nil, List.append_nil, inked_strip]
  | @brackets cs element base depth some _ ih =>
      have brackets : Text.inked ['[', ']'] = ['[', ']'] := by decide
      rw [← inked_strip cs, some, inked_append, ih, brackets, List.replicate_succ',
        List.flatten_concat, List.append_assoc]

/-! ## Primitive types -/

def primitiveWords : List String :=
    ["boolean", "char", "byte", "short", "int", "float", "long", "double", "void"]

theorem isPrimitive_iff (spelling : String) :
    isPrimitive spelling = true ↔ spelling ∈ primitiveWords := by
  have words : primitiveTypes.map (·.1) = primitiveWords := rfl
  rw [isPrimitive, List.lookup_isSome_iff, ← words, List.mem_map]
  constructor
  · rintro ⟨p, member, same⟩
    exact ⟨p, member, (beq_iff_eq.mp same).symm⟩
  · rintro ⟨p, member, rfl⟩
    exact ⟨p, member, beq_self_eq_true _⟩

end DexBrowser.Image

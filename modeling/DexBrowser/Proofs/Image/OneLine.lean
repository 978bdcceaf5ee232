import DexBrowser.Proofs.Image.Lines
import DexBrowser.Proofs.Text.Escaping

/-!
Classes whose texts hold no line breaks. Main statement: none of the lines of source that such a
class is rendered from holds a line break either, under whatever names the class and its methods go.
-/

namespace DexBrowser.Image

open ClassName Text

def OneLine (s : String) : Prop :=
    '\n' ∉ s.toList

structure OneLineMethod (entry : MethodEntry) : Prop where
  name : OneLine entry.name
  returnType : OneLine entry.returnType
  arguments : ∀ type ∈ entry.arguments, OneLine type
  body : ∀ line ∈ entry.body, OneLine line

structure OneLineClass (entry : ClassEntry) : Prop where
  fullName : OneLine entry.fullName
  methods : ∀ method ∈ entry.methods, OneLineMethod method

/-! ## Texts put together -/

instance (s : String) : Decidable (OneLine s) :=
    inferInstanceAs (Decidable ('\n' ∉ s.toList))

@[simp] theorem oneLine_append {s t : String} : OneLine (s ++ t) ↔ OneLine s ∧ OneLine t := by
  simp [OneLine]

theorem oneLine_intercalate {separator : String} {parts : List String} (one : OneLine separator)
    (each : ∀ part ∈ parts, OneLine part) : OneLine (separator.intercalate parts) := by
  induction parts with
  | nil => simp [OneLine]
  | cons part rest ih =>
      have inner := ih fun other member => each other (List.mem_cons_of_mem _ member)
      by_cases last : rest = []
      · subst last
        simpa using each part List.mem_cons_self
      · rw [String.intercalate_cons_of_ne_nil last]
        simp [one, each part List.mem_cons_self, inner]

theorem oneLine_toString (n : Nat) : OneLine (toString n) := by
  intro member
  rw [Nat.toString_eq_repr, Nat.toList_repr] at member
  exact absurd (Nat.isDigit_of_mem_toDigits (by decide) (by decide) member) (by decide)

theorem not_mem_shownLine {options : LoadOptions} {line : String} (one : OneLine line) :
    '\n' ∉ shownLine options line := by
  unfold shownLine
  split
  · exact UnicodeEscape.newline_not_mem_encode one
  · exact one

/-! ## Names -/

theorem mem_of_mem_strip {cs : List Char} {c : Char} (member : c ∈ strip cs) : c ∈ cs := by
  have inner := (List.dropWhile_sublist _).mem (List.mem_reverse.mp member)
  exact (List.dropWhile_sublist _).mem (List.mem_reverse.mp inner)

theorem mem_of_mem_unwrapAll {cs : List Char} {c : Char} (member : c ∈ unwrapAll cs) : c ∈ cs := by
  induction cs using unwrapAll.induct with
  | case1 cs inner unwrapped ih =>
      rw [unwrapAll_layer unwrapped] at member
      rw [(unwrap?_eq_some unwrapped).1]
      simp [mem_of_mem_strip (ih member)]
  | case2 cs bare => rwa [unwrapAll_bare bare] at member

theorem mem_of_mem_normalForm {cs : List Char} {c : Char} (member : c ∈ normalForm cs) :
    c = '.' ∨ c ∈ cs := by
  obtain ⟨d, inside, rfl⟩ := List.mem_map.mp member
  unfold dotted
  split
  · exact .inl rfl
  · exact .inr (mem_of_mem_strip (mem_of_mem_unwrapAll inside))

theorem oneLine_normalize {name : String} (one : OneLine name) :
    OneLine (ClassName.normalize name) := by
  intro member
  rw [ClassName.normalize, String.toList_ofList] at member
  rcases mem_of_mem_normalForm member with dot | member
  · contradiction
  · exact one member

theorem oneLine_package {name : String} (one : OneLine name) :
    OneLine (ClassName.package name) := by
  unfold ClassName.package
  split
  · decide
  · intro member
    rw [String.toList_ofList] at member
    have kept := (List.drop_sublist _ _).mem (List.mem_reverse.mp member)
    have normal := List.mem_reverse.mp ((List.dropWhile_sublist _).mem kept)
    rcases mem_of_mem_normalForm normal with dot | inside
    · contradiction
    · exact one inside

theorem oneLine_simple {name : String} (one : OneLine name) : OneLine (ClassName.simple name) := by
  intro member
  rw [ClassName.simple, String.toList_ofList] at member
  exact one ((afterLastDot_suffix _).mem member)

theorem oneLine_rename {options : LoadOptions} {style : NameStyle} {count : Nat} {name : String}
    (letter : style.letter ≠ '\n') (one : OneLine name) :
    OneLine (rename options style count name).1 := by
  intro member
  rcases (renamed_rename options style count name).mem _ member with isLetter | digit | old
  · exact letter isLetter.symm
  · exact absurd digit (by decide)
  · exact one old

/-- A class as it is named, with one line for every text. -/
structure OneLineNamed (c : NamedClass) : Prop where
  package : OneLine c.package
  name : OneLine c.name
  methods : ∀ method ∈ c.methods,
    OneLineMethod method.entry ∧ OneLine method.name ∧ OneLine method.signature

theorem oneLine_nameMethods {options : LoadOptions} {classFullName : String} {count : Nat}
    {entries : List MethodEntry} (one : OneLine classFullName)
    (each : ∀ entry ∈ entries, OneLineMethod entry) :
    ∀ method ∈ (nameMethods options classFullName count entries).1,
      OneLineMethod method.entry ∧ OneLine method.name ∧ OneLine method.signature := by
  induction entries generalizing count with
  | nil => simp [nameMethods]
  | cons entry rest ih =>
      have first := each entry List.mem_cons_self
      have name : OneLine (rename options methodNames count entry.name).1 :=
        oneLine_rename (by decide) first.name
      intro method member
      rcases List.mem_cons.mp member with rfl | later
      · refine ⟨first, name, ?_⟩
        have arguments := oneLine_intercalate (show OneLine ", " by decide) first.arguments
        simp only [oneLine_append]
        exact ⟨⟨⟨⟨⟨⟨one, by decide⟩, name⟩, by decide⟩, arguments⟩, by decide⟩, first.returnType⟩
      · exact ih (fun other isEntry => each other (List.mem_cons_of_mem _ isEntry)) method later

theorem oneLine_nameClass {options : LoadOptions} {count : Nat} {entry : ClassEntry}
    (one : OneLineClass entry) : OneLineNamed (nameClass options count entry).1 := by
  have normal := oneLine_normalize one.fullName
  have package := oneLine_package normal
  have name : OneLine (rename options classNames count
      (ClassName.simple (ClassName.normalize entry.fullName))).1 :=
    oneLine_rename (by decide) (oneLine_simple normal)
  refine ⟨package, name, oneLine_nameMethods ?_ one.methods⟩
  simp only [oneLine_append]
  exact ⟨⟨package, by decide⟩, name⟩

theorem oneLine_nameClasses {options : LoadOptions} {count : Nat} {entries : List ClassEntry}
    {c : NamedClass} (member : c ∈ nameClasses options count entries)
    (one : OneLineClass c.entry) : OneLineNamed c := by
  induction entries generalizing count with
  | nil => contradiction
  | cons entry rest ih =>
      rcases List.mem_cons.mp member with rfl | later
      · exact oneLine_nameClass one
      · exact ih later

/-! ## Lines of source -/

theorem oneLine_words (flags : AccessFlags) : ∀ word ∈ flags.methodWords, OneLine word := by
  intro word member
  obtain ⟨entry, isWord, rfl⟩ := List.mem_map.mp member
  have listed := List.mem_map_of_mem (f := (·.2)) (List.mem_of_mem_filter isWord)
  have every : ∀ word ∈ ["public", "protected", "private", "abstract", "static", "final",
      "synchronized", "native"], OneLine word := by
    decide
  exact every _ listed

theorem classWords_subset (flags : AccessFlags) : flags.classWords ⊆ flags.methodWords := by
  intro word member
  simp only [AccessFlags.classWords, AccessFlags.methodWords, AccessFlags.present,
    AccessFlags.methodModifiers, List.filter_append, List.map_append] at member ⊢
  exact List.mem_append_left _ member

theorem oneLine_headerLine {c : NamedClass} (one : OneLine c.name) : OneLine (headerLine c) := by
  have keyword : OneLine (AccessFlags.ofInt c.entry.accessFlags).keyword := by
    unfold AccessFlags.keyword
    split
    · decide
    · split
      · decide
      · split <;> decide
  refine oneLine_append.mpr ⟨oneLine_intercalate (by decide) fun word member => ?_, by decide⟩
  rcases List.mem_append.mp member with word | last
  · exact oneLine_words _ _ (classWords_subset _ word)
  · rcases List.mem_cons.mp last with rfl | last
    · exact keyword
    · rwa [List.mem_singleton.mp last]

theorem oneLine_parameters {index : Nat} {types : List String}
    (each : ∀ type ∈ types, OneLine type) :
    ∀ parameter ∈ parameters index types, OneLine parameter := by
  induction types generalizing index with
  | nil => simp [parameters]
  | cons type rest ih =>
      intro parameter member
      rcases List.mem_cons.mp member with rfl | later
      · simp only [oneLine_append]
        exact ⟨⟨each type List.mem_cons_self, by decide⟩, oneLine_toString index⟩
      · exact ih (fun other isType => each other (List.mem_cons_of_mem _ isType)) parameter later

theorem oneLine_declarationLine {className : String} {method : NamedMethod}
    (named : OneLine className) (entry : OneLineMethod method.entry) (name : OneLine method.name) :
    OneLine (declarationLine className method) := by
  have list : OneLine ("(" ++ ", ".intercalate (parameters 0 method.entry.arguments) ++ ")") := by
    simp only [oneLine_append]
    exact ⟨⟨by decide, oneLine_intercalate (by decide) (oneLine_parameters entry.arguments)⟩,
      by decide⟩
  have declaration : OneLine (declaration className method) := by
    have words : ∀ last : List String, (∀ word ∈ last, OneLine word) →
        OneLine (" ".intercalate
          ((AccessFlags.ofInt method.entry.accessFlags).methodWords ++ last)) := by
      refine fun last each => oneLine_intercalate (by decide) fun word member => ?_
      exact (List.mem_append.mp member).elim (oneLine_words _ word) (each word)
    unfold Image.declaration
    dsimp only
    split
    · decide
    · split
      · refine words _ fun word member => ?_
        rw [List.mem_singleton.mp member]
        exact oneLine_append.mpr ⟨named, list⟩
      · refine words _ fun word member => ?_
        rcases List.mem_cons.mp member with rfl | last
        · exact entry.returnType
        · rw [List.mem_singleton.mp last]
          exact oneLine_append.mpr ⟨name, list⟩
  simp only [declarationLine, oneLine_append]
  exact ⟨⟨by decide, declaration⟩, by decide⟩

theorem oneLine_bodyLines {options : LoadOptions} {inconsistent : Bool} {method : NamedMethod}
    (entry : OneLineMethod method.entry) (signature : OneLine method.signature) :
    ∀ line ∈ bodyLines options inconsistent method, OneLine line := by
  have body : ∀ line ∈ (if method.entry.body.isEmpty then defaultBody method.entry
      else method.entry.body), OneLine line := by
    split
    · unfold defaultBody
      split
      · simp
      · split
        · decide
        · split <;> decide
    · exact entry.body
  unfold bodyLines
  dsimp only
  split
  · exact body
  · split
    · intro line member
      rcases List.mem_cons.mp member with rfl | later
      · decide
      · exact body line later
    · intro line member
      rw [List.mem_singleton.mp member]
      simp only [oneLine_append]
      exact ⟨⟨by decide, signature⟩, by decide⟩

theorem oneLine_methodLines {options : LoadOptions} {inconsistent : Bool} {className : String}
    {method : NamedMethod} (named : OneLine className) (entry : OneLineMethod method.entry)
    (name : OneLine method.name) (signature : OneLine method.signature) :
    ∀ line ∈ methodLines options inconsistent className method, OneLine line := by
  intro line member
  rcases List.mem_cons.mp member with rfl | member
  · exact oneLine_declarationLine named entry name
  · rcases List.mem_append.mp member with body | last
    · obtain ⟨inner, isInner, rfl⟩ := List.mem_map.mp body
      exact oneLine_append.mpr ⟨by decide, oneLine_bodyLines entry signature inner isInner⟩
    · rw [List.mem_singleton.mp last]
      decide

theorem oneLine_sourceLines {c : NamedClass} {sourceName : String} (one : OneLineNamed c)
    (source : OneLine sourceName) (options : LoadOptions) :
    ∀ line ∈ sourceLines options sourceName c, OneLine line := by
  intro line member
  rcases List.mem_append.mp member with member | last
  · rcases List.mem_append.mp member with head | body
    · simp only [headLines, List.mem_cons, List.not_mem_nil, or_false] at head
      rcases head with rfl | rfl | rfl | rfl
      · simp only [oneLine_append]
        exact ⟨⟨by decide, one.package⟩, by decide⟩
      · decide
      · simp only [oneLine_append]
        exact ⟨⟨by decide, source⟩, by decide⟩
      · exact oneLine_headerLine one.name
    · obtain ⟨block, isBlock, inside⟩ := List.mem_flatten.mp body
      obtain ⟨method, isMethod, separator, onlyEmpty, rfl⟩ := mem_methodBlocks isBlock
      obtain ⟨entry, name, signature⟩ := one.methods method isMethod
      rcases List.mem_append.mp inside with empty | inside
      · rw [List.mem_singleton.mp (onlyEmpty empty)]
        decide
      · exact oneLine_methodLines one.name entry name signature line inside
  · rw [List.mem_singleton.mp last]
    decide

/-- A class of one-line texts that is loaded from a file whose name takes one line is shown line by
line. -/
theorem not_mem_shownLines {c : NamedClass} {sourceName : String} (one : OneLineNamed c)
    (source : OneLine sourceName) (options : LoadOptions) :
    ∀ line ∈ shownLines options sourceName c, '\n' ∉ line := by
  intro line member
  obtain ⟨text, isLine, rfl⟩ := List.mem_map.mp member
  exact not_mem_shownLine (oneLine_sourceLines one source options text isLine)

end DexBrowser.Image

import DexBrowser.Managed.TypeTable
import DexBrowser.Proofs.Image.Dimensions
import Mathlib.Data.List.Nodup

/-!
The table of types. Every node of a table stands for the type that it is spelled as, and no two are
spelled alike; this holds of the empty table and is kept when a type is looked up or made. Main
statement: whatever spellings came before, the object at the place of a spelling is that of its
trimmed form, and two spellings have one place exactly if their trimmed forms are one.
-/

namespace DexBrowser.Managed.TypeTable

open Image Text

/-! ## What a table keeps -/

/-- A node has the members that its spelling calls for. -/
structure Stands (table : TypeTable) (node : TypeNode) : Prop where
  shown : strip node.spelling.toList = node.spelling.toList
  array : node.array = (elementOf? node.spelling.toList).isSome
  primitive : node.primitive = (!node.array && isPrimitive node.spelling)
  root : ∃ root, table.nodes[node.root]? = some root ∧
    root.spelling = String.ofList (baseOf node.spelling.toList)
  word : table.words[node.word]? =
    some (if node.array then "ARRAY" else if node.primitive then node.spelling else "OBJECT")

structure Sound (table : TypeTable) : Prop where
  nodes : ∀ node ∈ table.nodes, table.Stands node
  distinct : (table.nodes.map (·.spelling)).Nodup

structure Extends (before after : TypeTable) : Prop where
  nodes : before.nodes <+: after.nodes
  words : before.words <+: after.words

section Extends

variable {table before middle after : TypeTable}

theorem extends_refl (table : TypeTable) : table.Extends table :=
  ⟨List.prefix_rfl, List.prefix_rfl⟩

theorem Extends.trans (first : before.Extends middle) (second : middle.Extends after) :
    before.Extends after :=
  ⟨first.nodes.trans second.nodes, first.words.trans second.words⟩

theorem Extends.node (longer : before.Extends after) {place : Nat} {node : TypeNode}
    (found : before.nodes[place]? = some node) : after.nodes[place]? = some node := by
  obtain ⟨bound, rfl⟩ := List.getElem?_eq_some_iff.mp found
  exact (longer.nodes.getElem bound) ▸ List.getElem?_eq_getElem _

theorem Extends.word (longer : before.Extends after) {place : Nat} {name : String}
    (found : before.words[place]? = some name) : after.words[place]? = some name := by
  obtain ⟨bound, rfl⟩ := List.getElem?_eq_some_iff.mp found
  exact (longer.words.getElem bound) ▸ List.getElem?_eq_getElem _

theorem Extends.stands (longer : before.Extends after) {node : TypeNode}
    (stands : before.Stands node) : after.Stands node where
  shown := stands.shown
  array := stands.array
  primitive := stands.primitive
  root := by
    obtain ⟨root, found, spelled⟩ := stands.root
    exact ⟨root, longer.node found, spelled⟩
  word := longer.word stands.word

end Extends

/-! ## Looking up -/

variable {table : TypeTable}

theorem sound_empty : ({} : TypeTable).Sound :=
  ⟨fun _ member => absurd member List.not_mem_nil, List.nodup_nil⟩

theorem place?_eq_some {spelling : String} {place : Nat}
    (found : table.place? spelling = some place) :
    ∃ node, table.nodes[place]? = some node ∧ node.spelling = spelling := by
  obtain ⟨bound, same, -⟩ := List.findIdx?_eq_some_iff_getElem.mp found
  exact ⟨_, List.getElem?_eq_getElem bound, beq_iff_eq.mp same⟩

theorem place?_eq_none {spelling : String} (missing : table.place? spelling = none) :
    spelling ∉ table.nodes.map (·.spelling) := by
  intro member
  obtain ⟨node, isNode, rfl⟩ := List.mem_map.mp member
  have other := List.findIdx?_eq_none_iff.mp missing node isNode
  simp at other

theorem Sound.place_unique (sound : table.Sound) {first second : Nat} {node other : TypeNode}
    (found : table.nodes[first]? = some node) (atOther : table.nodes[second]? = some other)
    (same : node.spelling = other.spelling) : first = second := by
  obtain ⟨bound, rfl⟩ := List.getElem?_eq_some_iff.mp found
  obtain ⟨otherBound, rfl⟩ := List.getElem?_eq_some_iff.mp atOther
  have inside : first < (table.nodes.map (·.spelling)).length := by simpa using bound
  have otherInside : second < (table.nodes.map (·.spelling)).length := by simpa using otherBound
  have places :
      (table.nodes.map (·.spelling))[first] = (table.nodes.map (·.spelling))[second] ↔ _ :=
    sound.distinct.getElem_inj_iff
  rw [List.getElem_map, List.getElem_map] at places
  exact places.mp same

theorem Sound.rootOf (sound : table.Sound) {place : Nat} {node : TypeNode}
    (found : table.nodes[place]? = some node) :
    ∃ root, table.nodes[table.rootOf place]? = some root ∧
      root.spelling = String.ofList (baseOf node.spelling.toList) := by
  have stands := sound.nodes node (List.mem_of_getElem? found)
  simp only [TypeTable.rootOf, found]
  split
  case isTrue => exact stands.root
  case isFalse plain =>
      refine ⟨node, found, ?_⟩
      have bare : elementOf? (strip node.spelling.toList) = none := by
        rw [stands.shown, ← Option.not_isSome_iff_eq_none, ← stands.array]
        exact plain
      rw [baseOf_bare bare, stands.shown, String.ofList_toList]

theorem Sound.object? (sound : table.Sound) {place : Nat} {node : TypeNode}
    (found : table.nodes[place]? = some node) :
    table.object? place = some (typeObject node.spelling) := by
  have stands := sound.nodes node (List.mem_of_getElem? found)
  obtain ⟨root, atRoot, spelled⟩ := stands.root
  have baseSelf (bare : elementOf? node.spelling.toList = none) :
      String.ofList (baseOf node.spelling.toList) = node.spelling := by
    rw [baseOf_bare (by rwa [stands.shown]), stands.shown, String.ofList_toList]
  simp only [TypeTable.object?, found, atRoot, stands.word, Option.bind_eq_bind, Option.bind_some,
    Option.pure_def, spelled, typeObject, stands.primitive, stands.array]
  cases bracketed : elementOf? node.spelling.toList with
  | some element => rfl
  | none =>
      rw [baseSelf bracketed]
      cases isPrimitive node.spelling <;> rfl

/-! ## Making -/

theorem word_spec (table : TypeTable) (name : String) :
    (table.word name).2.nodes = table.nodes ∧ table.Extends (table.word name).2 ∧
      (table.word name).2.words[(table.word name).1]? = some name := by
  unfold word
  split
  case h_1 place found =>
      obtain ⟨bound, same, -⟩ := List.findIdx?_eq_some_iff_getElem.mp found
      exact ⟨rfl, extends_refl table, by rw [List.getElem?_eq_getElem bound, beq_iff_eq.mp same]⟩
  case h_2 =>
      exact ⟨rfl, ⟨List.prefix_rfl, List.prefix_append _ _⟩, List.getElem?_concat_length⟩

theorem Sound.word (sound : table.Sound) (name : String) : (table.word name).2.Sound := by
  obtain ⟨nodes, longer, -⟩ := table.word_spec name
  refine ⟨fun node member => ?_, ?_⟩
  · rw [nodes] at member
    exact longer.stands (sound.nodes node member)
  · rw [nodes]
    exact sound.distinct

theorem extends_add (table : TypeTable) (node : TypeNode) : table.Extends (table.add node).2 :=
  ⟨List.prefix_append _ _, List.prefix_rfl⟩

theorem add_found (table : TypeTable) (node : TypeNode) :
    (table.add node).2.nodes[(table.add node).1]? = some node :=
  List.getElem?_concat_length

theorem Sound.add (sound : table.Sound) {node : TypeNode}
    (fresh : node.spelling ∉ table.nodes.map (·.spelling))
    (stands : (table.add node).2.Stands node) : (table.add node).2.Sound where
  nodes other member := by
    rcases List.mem_append.mp member with old | new
    · exact (extends_add table node).stands (sound.nodes other old)
    · rwa [List.mem_singleton.mp new]
  distinct := by
    have parts : (table.add node).2.nodes.map (·.spelling) =
        table.nodes.map (·.spelling) ++ [node.spelling] := List.map_append
    rw [parts]
    exact List.nodup_append'.mpr ⟨sound.distinct, List.nodup_singleton _,
      List.disjoint_singleton.mpr fresh⟩

/-- What is so after a type was looked up or made. No spelling that was added is longer. -/
structure Made (before : TypeTable) (spelling : List Char) (made : Nat × TypeTable) : Prop where
  sound : made.2.Sound
  longer : before.Extends made.2
  found : ∃ node, made.2.nodes[made.1]? = some node ∧
    node.spelling = String.ofList (strip spelling)
  added : ∀ node ∈ made.2.nodes,
    node ∈ before.nodes ∨ node.spelling.toList.length ≤ spelling.length

theorem Made.of_place (sound : table.Sound) {spelling : List Char} {place : Nat}
    (found : table.place? (String.ofList (strip spelling)) = some place) :
    table.Made spelling (place, table) where
  sound := sound
  longer := extends_refl table
  found := place?_eq_some found
  added _ member := .inl member

section Add

variable {before : TypeTable} {spelling : List Char} (sound : table.Sound)
  (longer : before.Extends table)
  (fresh : String.ofList (strip spelling) ∉ table.nodes.map (·.spelling))
  (added : ∀ node ∈ table.nodes,
    node ∈ before.nodes ∨ node.spelling.toList.length ≤ spelling.length)

include sound longer fresh added

theorem Made.of_add {primitive array : Bool} {root word : Nat}
    (stands : (table.add ⟨String.ofList (strip spelling), primitive, array, root, word⟩).2.Stands
      ⟨String.ofList (strip spelling), primitive, array, root, word⟩) :
    before.Made spelling
      (table.add ⟨String.ofList (strip spelling), primitive, array, root, word⟩) where
  sound := sound.add fresh stands
  longer := longer.trans (extends_add table _)
  found := ⟨_, add_found table _, rfl⟩
  added node member := by
    rcases List.mem_append.mp member with old | new
    · exact added node old
    · rw [List.mem_singleton.mp new, String.toList_ofList]
      exact .inr (length_strip_le spelling)

end Add

/-- The induction is on the length of the spelling: the element of an array is shorter, and so is
all that is added on the way to it, so that the array itself is not there yet. -/
theorem made_type (sound : table.Sound) (spelling : List Char) :
    table.Made spelling (table.type spelling) := by
  rw [type]
  cases found : table.place? (String.ofList (strip spelling)) with
  | some place => exact .of_place sound found
  | none =>
      have missing := place?_eq_none found
      dsimp only
      split
      case h_1 element bracketed =>
          have shorter : element.length + 2 = (strip spelling).length := length_elementOf? bracketed
          have whole := length_strip_le spelling
          obtain ⟨elementSound, longer, ⟨node, atNode, spelled⟩, added⟩ := made_type sound element
          generalize table.type element = made at elementSound longer atNode added
          obtain ⟨place, middle⟩ := made
          dsimp only at elementSound longer atNode added ⊢
          obtain ⟨root, atRoot, isBase⟩ := elementSound.rootOf atNode
          obtain ⟨nodes, wordLonger, atWord⟩ := middle.word_spec "ARRAY"
          have wordSound := elementSound.word "ARRAY"
          generalize middle.word "ARRAY" = worded at nodes wordLonger atWord wordSound
          obtain ⟨word, last⟩ := worded
          dsimp only at nodes wordLonger atWord wordSound ⊢
          refine .of_add wordSound (longer.trans wordLonger) ?_ ?_ ?_
          · rw [nodes]
            intro member
            obtain ⟨other, isNode, same⟩ := List.mem_map.mp member
            rcases added other isNode with old | short
            · exact missing (List.mem_map.mpr ⟨other, old, same⟩)
            · rw [same, String.toList_ofList] at short
              omega
          · rw [nodes]
            intro other isNode
            exact (added other isNode).imp_right fun short => by omega
          · have isBracketed : elementOf? (strip (strip spelling)) = some element := by
              rw [strip_strip, bracketed]
            refine ⟨by simp, by simp [bracketed], rfl, ⟨root, ?_, ?_⟩, ?_⟩
            · exact (extends_add last _).node (wordLonger.node atRoot)
            · rw [isBase, spelled, String.toList_ofList, String.toList_ofList,
                baseOf_bracketed isBracketed, baseOf_strip]
            · exact (extends_add last _).word atWord
      case h_2 bare =>
          generalize isWord : isPrimitive (String.ofList (strip spelling)) = primitive
          generalize named :
            (if primitive = true then String.ofList (strip spelling) else "OBJECT") = name
          obtain ⟨nodes, longer, atWord⟩ := table.word_spec name
          have wordSound := sound.word name
          generalize table.word name = worded at nodes longer atWord wordSound
          obtain ⟨word, last⟩ := worded
          dsimp only at nodes longer atWord wordSound ⊢
          refine .of_add wordSound longer ?_ ?_ ?_
          · rwa [nodes]
          · rw [nodes]
            exact fun other isNode => .inl isNode
          · have isBare : elementOf? (strip (strip spelling)) = none := by rw [strip_strip, bare]
            refine ⟨by simp, by simp [bare], by simp [isWord], ⟨_, add_found last _, ?_⟩, ?_⟩
            · rw [String.toList_ofList, baseOf_bare isBare, strip_strip]
            · rw [(extends_add last _).word atWord, ← named]
              rfl
termination_by spelling.length

/-! ## All types of an artifact -/

def Holds (table : TypeTable) (spelling : String) (place : Nat) : Prop :=
    ∃ node, table.nodes[place]? = some node ∧ node.spelling = trimmed spelling

theorem Extends.holds {before after : TypeTable} (longer : before.Extends after) {spelling : String}
    {place : Nat} (holds : before.Holds spelling place) : after.Holds spelling place := by
  obtain ⟨node, found, spelled⟩ := holds
  exact ⟨node, longer.node found, spelled⟩

theorem Sound.types (sound : table.Sound) (spellings : List String) :
    (table.types spellings).2.Sound ∧ table.Extends (table.types spellings).2 ∧
      List.Forall₂ (table.types spellings).2.Holds spellings (table.types spellings).1 := by
  induction spellings generalizing table with
  | nil => exact ⟨sound, extends_refl table, .nil⟩
  | cons spelling rest ih =>
      have made := made_type sound spelling.toList
      obtain ⟨laterSound, longer, places⟩ := ih made.sound
      exact ⟨laterSound, made.longer.trans longer, .cons (longer.holds made.found) places⟩

theorem Sound.object?_of_holds (sound : table.Sound) {spelling : String} {place : Nat}
    (holds : table.Holds spelling place) :
    table.object? place = some (typeObject (trimmed spelling)) := by
  obtain ⟨node, found, spelled⟩ := holds
  rw [sound.object? found, spelled]

theorem Sound.place_eq_iff (sound : table.Sound) {spelling other : String} {place second : Nat}
    (holds : table.Holds spelling place) (others : table.Holds other second) :
    place = second ↔ trimmed spelling = trimmed other := by
  obtain ⟨node, found, spelled⟩ := holds
  obtain ⟨otherNode, atOther, otherSpelled⟩ := others
  rw [← spelled, ← otherSpelled]
  constructor
  · rintro rfl
    rw [Option.some.inj (found.symm.trans atOther)]
  · exact sound.place_unique found atOther

/-- In whatever order types occur, and whichever occurred before, the object at the place of a
spelling is that of the type as an image has it. Two spellings have one place exactly if their
trimmed forms are one. -/
theorem types_of_image (image : Image) (earlier spellings : List String) :
    let before := (({} : TypeTable).types earlier).2
    let made := before.types spellings
    (∀ place object, before.object? place = some object → made.2.object? place = some object) ∧
      List.Forall₂ (fun spelling place =>
        made.2.object? place = imageObject? image (typeId spelling)) spellings made.1 ∧
        ∀ p ∈ spellings.zip made.1, ∀ q ∈ spellings.zip made.1,
          (p.2 = q.2 ↔ trimmed p.1 = trimmed q.1) := by
  intro before made
  obtain ⟨beforeSound, -, -⟩ := sound_empty.types earlier
  obtain ⟨sound, longer, places⟩ := beforeSound.types spellings
  refine ⟨fun place object found => ?_, ?_, ?_⟩
  · obtain ⟨node, isNode, -⟩ := Option.bind_eq_some_iff.mp found
    rw [← found, beforeSound.object? isNode, sound.object? (longer.node isNode)]
  · exact places.imp fun spelling place holds => sound.object?_of_holds holds
  · intro p isPair q isOther
    exact sound.place_eq_iff (List.forall₂_zip places isPair) (List.forall₂_zip places isOther)

end DexBrowser.Managed.TypeTable

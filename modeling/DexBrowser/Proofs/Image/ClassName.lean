import DexBrowser.Image.Basic

/-!
The names that the classes of an image go by. Main statements: a normal form is its own normal form,
and so is the full name of every class, also of one that was renamed.
-/

namespace DexBrowser.ClassName

open Text

/-! ## Normal names -/

structure Normal (cs : List Char) : Prop where
  stripped : Stripped cs
  bare : unwrap? cs = none
  dotted : '/' ∉ cs

theorem unwrap?_layer {inner : List Char} (nonempty : inner ≠ []) :
    unwrap? ('L' :: (inner ++ [';'])) = some inner := by
  cases shape : inner.reverse with
  | nil =>
      rw [List.reverse_eq_nil_iff] at shape
      contradiction
  | cons c middle =>
      have same : inner = (c :: middle).reverse := by rw [← shape, List.reverse_reverse]
      simp [unwrap?, same]

theorem unwrap?_eq_none {cs : List Char} :
    unwrap? cs = none ↔ ∀ inner, inner ≠ [] → cs ≠ 'L' :: (inner ++ [';']) := by
  constructor
  · rintro bare inner nonempty rfl
    rw [unwrap?_layer nonempty] at bare
    contradiction
  · intro none
    cases unwrapped : unwrap? cs with
    | none => rfl
    | some inner =>
        obtain ⟨same, nonempty⟩ := unwrap?_eq_some unwrapped
        exact absurd same (none inner nonempty)

theorem unwrapAll_bare {cs : List Char} (bare : unwrap? cs = none) : unwrapAll cs = cs := by
  unfold unwrapAll
  split
  · rename_i inner unwrapped
    rw [bare] at unwrapped
    contradiction
  · rfl

theorem unwrapAll_layer {cs inner : List Char} (unwrapped : unwrap? cs = some inner) :
    unwrapAll cs = unwrapAll (strip inner) := by
  rw [unwrapAll]
  split
  · rename_i other same
    rw [unwrapped] at same
    rw [Option.some.inj same]
  · rename_i none
    rw [unwrapped] at none
    contradiction

theorem bare_unwrapAll (cs : List Char) (stripped : Stripped cs) :
    Stripped (unwrapAll cs) ∧ unwrap? (unwrapAll cs) = none := by
  cases unwrapped : unwrap? cs with
  | none =>
      rw [unwrapAll_bare unwrapped]
      exact ⟨stripped, unwrapped⟩
  | some inner =>
      have shorter : (strip inner).length < cs.length := by
        have inner_le := length_strip_le inner
        have same := (unwrap?_eq_some unwrapped).1
        subst same
        simp only [List.length_cons, List.length_append, List.length_nil]
        omega
      rw [unwrapAll_layer unwrapped]
      exact bare_unwrapAll (strip inner) (stripped_strip inner)
termination_by cs.length

theorem dotted_eq {c d : Char} (dot : d ≠ '.') (same : dotted c = d) : c = d := by
  unfold dotted at same
  split at same
  · exact absurd same.symm dot
  · exact same

theorem isBlank_dotted (c : Char) (blank : isBlank c = false) : isBlank (dotted c) = false := by
  unfold dotted
  split
  · rfl
  · exact blank

theorem unwrap?_map {f : Char → Char} (letter : ∀ c, f c = 'L' → c = 'L')
    (semicolon : ∀ c, f c = ';' → c = ';') {cs : List Char} (bare : unwrap? cs = none) :
    unwrap? (cs.map f) = none := by
  rw [unwrap?_eq_none] at bare ⊢
  intro inner nonempty same
  obtain ⟨first, rest, rfl, isL, sameRest⟩ := List.map_eq_cons_iff.mp same
  obtain ⟨front, back, rfl, sameFront, sameBack⟩ := List.map_eq_append_iff.mp sameRest
  obtain ⟨final, none, rfl, isSemicolon, nothing⟩ := List.map_eq_cons_iff.mp sameBack
  obtain rfl := List.map_eq_nil_iff.mp nothing
  obtain rfl := letter first isL
  obtain rfl := semicolon final isSemicolon
  refine bare front ?_ rfl
  rintro rfl
  exact nonempty sameFront.symm

theorem unwrap?_map_dotted {cs : List Char} (bare : unwrap? cs = none) :
    unwrap? (cs.map dotted) = none :=
  unwrap?_map (fun _ => dotted_eq (by decide)) (fun _ => dotted_eq (by decide)) bare

theorem stripped_map {f : Char → Char} (inked : ∀ c, isBlank c = false → isBlank (f c) = false)
    {cs : List Char} (stripped : Stripped cs) : Stripped (cs.map f) := by
  refine ⟨fun c head => ?_, fun c last => ?_⟩
  · rw [List.head?_map] at head
    obtain ⟨d, isHead, rfl⟩ := Option.map_eq_some_iff.mp head
    exact inked d (stripped.head d isHead)
  · rw [List.getLast?_map] at last
    obtain ⟨d, isLast, rfl⟩ := Option.map_eq_some_iff.mp last
    exact inked d (stripped.last d isLast)

theorem normal_normalForm (cs : List Char) : Normal (normalForm cs) := by
  obtain ⟨stripped, bare⟩ := bare_unwrapAll (strip cs) (stripped_strip cs)
  refine ⟨stripped_map isBlank_dotted stripped, unwrap?_map_dotted bare, fun slash => ?_⟩
  obtain ⟨d, -, same⟩ := List.mem_map.mp slash
  have isSlash : d = '/' := dotted_eq (by decide) same
  subst isSlash
  simp [dotted] at same

theorem normalForm_normal {cs : List Char} (normal : Normal cs) : normalForm cs = cs := by
  have same : ∀ c ∈ cs, dotted c = c := by
    intro c member
    rw [dotted, if_neg]
    rintro rfl
    exact normal.dotted member
  rw [normalForm, strip_eq_self normal.stripped, unwrapAll_bare normal.bare,
    List.map_congr_left same, List.map_id']

/-- A package and a simple name with a dot between them. The blanks at the ends and the descriptor
around the whole are all that could be taken off. -/
theorem normal_join {package name : List Char} (first : Char)
    (head : package.head? = some first) (start : isBlank first = false)
    (final : ∀ c, name.getLast? = some c → isBlank c = false)
    (bare : first = 'L' → name.getLast? ≠ some ';') (packageDotted : '/' ∉ package)
    (nameDotted : '/' ∉ name) : Normal (package ++ '.' :: name) := by
  have headJoined : (package ++ '.' :: name).head? = some first := by
    rw [List.head?_append, head, Option.some_or]
  have lastJoined : (package ++ '.' :: name).getLast? = some (name.getLast?.getD '.') := by
    rw [List.getLast?_append, List.getLast?_cons, Option.some_or]
  refine ⟨⟨fun c isHead => ?_, fun c isLast => ?_⟩, unwrap?_eq_none.mpr fun inner _ same => ?_, ?_⟩
  · rw [headJoined] at isHead
    obtain rfl := Option.some.inj isHead
    exact start
  · rw [lastJoined] at isLast
    obtain rfl := Option.some.inj isLast
    cases last : name.getLast? with
    | none => decide
    | some c => exact final c last
  · have isL : first = 'L' := by
      rw [same] at headJoined
      exact (Option.some.inj headJoined).symm
    have isSemicolon : name.getLast?.getD '.' = ';' := by
      rw [same, ← List.cons_append, List.getLast?_concat] at lastJoined
      exact (Option.some.inj lastJoined).symm
    cases last : name.getLast? with
    | none =>
        rw [last] at isSemicolon
        exact absurd isSemicolon (by decide)
    | some c =>
        rw [last] at isSemicolon
        exact bare isL (by rw [last, ← isSemicolon, Option.getD_some])
  · simp [packageDotted, nameDotted]

/-! ## The last dot -/

theorem cut_cases (cs : List Char) :
    beforeLastDot cs = [] ∧ afterLastDot cs = cs ∨
      cs = beforeLastDot cs ++ '.' :: afterLastDot cs := by
  have whole := List.takeWhile_append_dropWhile (p := (· ≠ '.')) (l := cs.reverse)
  cases rest : cs.reverse.dropWhile (· ≠ '.') with
  | nil =>
      rw [rest, List.append_nil] at whole
      refine .inl ⟨?_, ?_⟩
      · rw [beforeLastDot, rest]
        rfl
      · rw [afterLastDot, whole, List.reverse_reverse]
  | cons c before =>
      have isDot : c = '.' := by
        have found := List.head?_dropWhile_not (· ≠ '.') cs.reverse
        rw [rest] at found
        simpa using found
      subst isDot
      refine .inr ?_
      have reversed := congrArg List.reverse whole
      rw [rest, List.reverse_reverse, List.reverse_append, List.reverse_cons, List.append_assoc]
        at reversed
      rw [beforeLastDot, rest, List.drop_one, List.tail_cons, afterLastDot]
      exact reversed.symm

theorem afterLastDot_suffix (cs : List Char) : afterLastDot cs <:+ cs := by
  rcases cut_cases cs with ⟨-, whole⟩ | parts
  · exact ⟨[], whole⟩
  · exact ⟨beforeLastDot cs ++ ['.'], by rw [List.append_assoc]; exact parts.symm⟩

theorem getLast?_of_suffix {cs tail : List Char} (suffix : tail <:+ cs) {c : Char}
    (last : tail.getLast? = some c) : cs.getLast? = some c := by
  obtain ⟨front, rfl⟩ := suffix
  rw [List.getLast?_append, last, Option.some_or]

theorem package_normal {name : String} (normal : Normal name.toList) :
    beforeLastDot name.toList = [] ∧ package name = defaultPackage ∨
      beforeLastDot name.toList ≠ [] ∧ (package name).toList = beforeLastDot name.toList := by
  rw [package, normalForm_normal normal]
  cases before : beforeLastDot name.toList with
  | nil => exact .inl ⟨rfl, rfl⟩
  | cons c rest => exact .inr ⟨List.cons_ne_nil _ _, String.toList_ofList⟩

/-! ## Source files -/

theorem isAbsolute_ofString (text : String) :
    (Path.ofString text).isAbsolute = true ↔ text.toList.head? = some '/' := by
  change (Path.anchorOf text.toList != .relative) = true ↔ _
  unfold Path.anchorOf
  split
  case h_4 notRoot =>
      cases spelled : text.toList with
      | nil => simp
      | cons c rest =>
          have other : c ≠ '/' := by
            rintro rfl
            exact notRoot rest spelled
          simp [other]
  all_goals simp_all

theorem toList_sourceFile {name : String} (normal : Normal name.toList) :
    (sourceFile name).toList = name.toList.map slashed ++ sourceExtension.toList := by
  rw [sourceFile, sourcePath, String.toList_append, String.toList_ofList,
    normalForm_normal normal]

theorem slashed_eq {c : Char} (notSlash : c ≠ '/') : slashed c = '/' ↔ c = '.' := by
  unfold slashed
  split
  case isTrue dot => simp [dot]
  case isFalse notDot => simp [notSlash, notDot]

theorem isAbsolute_sourceFile {name : String} (normal : Normal name.toList) :
    (Path.ofString (sourceFile name)).isAbsolute = true ↔ name.toList.head? = some '.' := by
  rw [isAbsolute_ofString, toList_sourceFile normal]
  cases spelled : name.toList with
  | nil => decide
  | cons c rest =>
      have notSlash : c ≠ '/' := by
        rintro rfl
        exact normal.dotted (by simp [spelled])
      simpa using slashed_eq notSlash

theorem dot_of_mem_pieces {cs : List Char} (noDot : '.' ∉ cs) {piece : List Char}
    (member : piece ∈ pieces '/' (cs ++ sourceExtension.toList)) : '.' ∉ piece ∨ 'j' ∈ piece := by
  induction cs generalizing piece with
  | nil =>
      have only : pieces '/' ([] ++ sourceExtension.toList) = [sourceExtension.toList] := by decide
      rw [only] at member
      obtain rfl := List.mem_singleton.mp member
      exact .inr (by decide)
  | cons c rest ih =>
      obtain ⟨notDot, restNoDot⟩ := List.ne_and_not_mem_of_not_mem_cons noDot
      rw [List.cons_append, pieces] at member
      split at member
      case isTrue =>
          rcases List.mem_cons.mp member with rfl | member
          · exact .inl (by simp)
          · exact ih restNoDot member
      case isFalse =>
          split at member
          case h_1 none => exact absurd none (pieces_ne_nil _ _)
          case h_2 first others shape =>
              rw [shape] at ih
              rcases List.mem_cons.mp member with rfl | member
              · rcases ih restNoDot (show first ∈ first :: others by simp) with none | letter
                · exact .inl (by simp [notDot, none])
                · exact .inr (by simp [letter])
              · exact ih restNoDot (by simp [member])

theorem down_sourceFile {name : String} (normal : Normal name.toList) :
    ".." ∉ (Path.ofString (sourceFile name)).parts := by
  intro up
  obtain ⟨member, -⟩ := List.mem_filter.mp up
  obtain ⟨piece, isPiece, same⟩ := List.mem_map.mp member
  rw [toList_sourceFile normal] at isPiece
  have noDot : '.' ∉ name.toList.map slashed := by
    intro dot
    obtain ⟨c, -, isDot⟩ := List.mem_map.mp dot
    unfold slashed at isDot
    split at isDot <;> simp_all
  -- All dots of the name are slashes by now, and the extension has one dot and some letters.
  have spelled : piece = "..".toList := by rw [← same, String.toList_ofList]
  subst spelled
  exact (dot_of_mem_pieces noDot isPiece).elim (by decide) (by decide)

end DexBrowser.ClassName

namespace DexBrowser.Image

open ClassName Text

/-! ## Renaming -/

/-- A name and what it may be renamed to. -/
structure Renamed (letter : Char) (old new : List Char) : Prop where
  mem : ∀ c ∈ new, c = letter ∨ c.isDigit = true ∨ c ∈ old
  last : ∀ c, new.getLast? = some c → c.isDigit = true ∨ old.getLast? = some c

theorem isDigit_paddedNumber {width n : Nat} {c : Char} (member : c ∈ paddedNumber width n) :
    c.isDigit = true := by
  rcases List.mem_append.mp member with zero | digit
  · rw [List.eq_of_mem_replicate zero]
    rfl
  · exact Nat.isDigit_of_mem_toDigits (by decide) (by decide) digit

theorem paddedNumber_ne_nil (width n : Nat) : paddedNumber width n ≠ [] := by
  simp [paddedNumber, Nat.toDigits_ne_nil]

theorem renamed_replacement (options : LoadOptions) (style : NameStyle) (number : Nat)
    (name : List Char) :
    Renamed style.letter name (replacement options style number name) := by
  obtain ⟨kept, same, isKept⟩ : ∃ kept, replacement options style number name =
      style.letter :: (paddedNumber style.width number ++ kept) ∧ (kept = name ∨ kept = []) := by
    refine ⟨_, rfl, ?_⟩
    split
    · exact .inl rfl
    · exact .inr rfl
  rw [same]
  refine ⟨fun c member => ?_, fun c last => ?_⟩
  · rcases List.mem_cons.mp member with letter | member
    · exact .inl letter
    · rcases List.mem_append.mp member with digit | member
      · exact .inr (.inl (isDigit_paddedNumber digit))
      · rcases isKept with rfl | rfl
        · exact .inr (.inr member)
        · contradiction
  · obtain ⟨digit, isLast⟩ : ∃ digit, (paddedNumber style.width number).getLast? = some digit :=
      ⟨_, List.getLast?_eq_some_getLast (paddedNumber_ne_nil _ _)⟩
    rw [List.getLast?_cons, List.getLast?_append, isLast] at last
    rcases isKept with rfl | rfl
    · cases ofName : kept.getLast? with
      | none =>
          rw [ofName] at last
          obtain rfl : digit = c := by simpa using last
          exact .inl (isDigit_paddedNumber (List.mem_of_getLast? isLast))
      | some d =>
          rw [ofName] at last
          exact .inr (by simpa using last)
    · obtain rfl : digit = c := by simpa using last
      exact .inl (isDigit_paddedNumber (List.mem_of_getLast? isLast))

theorem renamed_rename (options : LoadOptions) (style : NameStyle) (count : Nat) (name : String) :
    Renamed style.letter name.toList (rename options style count name).1.toList := by
  unfold rename
  split
  · exact ⟨fun _ member => .inr (.inr member), fun _ last => .inr last⟩
  · rw [String.toList_ofList]
    exact renamed_replacement options style (count + 1) name.toList

theorem isBlank_digit {c : Char} (digit : c.isDigit = true) : isBlank c = false := by
  simp only [Char.isDigit, Bool.and_eq_true, decide_eq_true_eq] at digit
  have least : 48 ≤ c.toNat := UInt32.le_iff_toNat_le.mp digit.1
  have most : c.toNat ≤ 57 := UInt32.le_iff_toNat_le.mp digit.2
  simp only [isBlank, Bool.or_eq_false_iff, Bool.and_eq_false_iff, decide_eq_false_iff_not,
    beq_eq_false_iff_ne]
  omega

theorem normal_renamed {name : String} (normal : Normal name.toList) {new : List Char}
    (renamed : Renamed classNames.letter (afterLastDot name.toList) new) :
    package name ≠ "" ∧ Normal ((package name).toList ++ '.' :: new) := by
  have suffix := afterLastDot_suffix name.toList
  have noSlash : '/' ∉ new := by
    intro member
    rcases renamed.mem '/' member with letter | digit | old
    · exact absurd letter (by decide)
    · exact absurd digit (by decide)
    · exact normal.dotted (suffix.subset old)
  have final : ∀ c, new.getLast? = some c → isBlank c = false := by
    intro c last
    rcases renamed.last c last with digit | old
    · exact isBlank_digit digit
    · exact normal.stripped.last c (getLast?_of_suffix suffix old)
  rcases package_normal normal with ⟨-, isDefault⟩ | ⟨nonempty, same⟩
  · rw [isDefault]
    refine ⟨by decide, normal_join 'd' rfl (by decide) final ?_ (by decide) noSlash⟩
    exact fun isL => absurd isL (by decide)
  · have parts := (cut_cases name.toList).resolve_left fun none => nonempty none.1
    obtain ⟨first, rest, before⟩ := List.exists_cons_of_ne_nil nonempty
    refine ⟨fun empty => nonempty (by rw [← same, empty]; rfl), ?_⟩
    rw [same]
    refine normal_join first (by rw [before]; rfl) ?_ final ?_ ?_ noSlash
    · exact normal.stripped.head first (by rw [parts, before]; rfl)
    · rintro rfl last
      rcases renamed.last ';' last with digit | old
      · exact absurd digit (by decide)
      · obtain ⟨front, after⟩ := List.getLast?_eq_some_iff.mp old
        refine unwrap?_eq_none.mp normal.bare (rest ++ '.' :: front) (by simp) ?_
        rw [parts, before, after]
        simp
    · intro member
      exact normal.dotted (by rw [parts]; exact List.mem_append_left _ member)

/-! ## Classes -/

theorem normal_nameClass (options : LoadOptions) (count : Nat) (entry : ClassEntry) :
    let c := (nameClass options count entry).1
    c.package ≠ "" ∧ Normal c.fullName.toList := by
  intro c
  have normal : Normal (ClassName.normalize entry.fullName).toList := by
    rw [ClassName.normalize, String.toList_ofList]
    exact normal_normalForm entry.fullName.toList
  have renamed :=
      renamed_rename options classNames count (simple (ClassName.normalize entry.fullName))
  rw [simple, String.toList_ofList] at renamed
  obtain ⟨named, joined⟩ := normal_renamed normal renamed
  refine ⟨named, ?_⟩
  have spelled : c.fullName.toList = (package (ClassName.normalize entry.fullName)).toList ++
      '.' :: (rename options classNames count
          (simple (ClassName.normalize entry.fullName))).1.toList := by
    change (_ ++ "." ++ _ : String).toList = _
    rw [String.toList_append, String.toList_append, List.append_assoc]
    rfl
  rw [spelled]
  exact joined

theorem named_renderClass (options : LoadOptions) (sourceName : String) (c : NamedClass) :
    (renderClass options sourceName c).named = c := by
  cases code : c.entry.code <;> simp [renderClass, code]

theorem normal_buildClasses {options : LoadOptions} {sourceName : String} {count : Nat}
    {seen : List String} {entries : List ClassEntry} {classes : List ClassImage}
    (built : buildClasses options sourceName count seen entries = .ok classes) :
    ∀ c ∈ classes, c.package ≠ "" ∧ Normal c.fullName.toList := by
  induction entries generalizing count seen classes with
  | nil =>
      obtain rfl := Except.ok.inj built
      simp
  | cons entry rest ih =>
      simp only [buildClasses] at built
      split at built
      · contradiction
      · cases inner : buildClasses options sourceName (nameClass options count entry).2
            ((nameClass options count entry).1.fullName :: seen) rest with
        | error fault =>
            rw [inner] at built
            contradiction
        | ok others =>
            rw [inner] at built
            obtain rfl := Except.ok.inj built
            intro c member
            rcases List.mem_cons.mp member with rfl | member
            · rw [ClassImage.package, ClassImage.fullName, named_renderClass]
              exact normal_nameClass options count entry
            · exact ih inner c member

/-! ## Packages -/

/-- The places that a package has for its classes are places of classes of that package. -/
def Placed (names : List String) (packages : List (String × List Nat)) : Prop :=
    ∀ p ∈ packages, ∀ index ∈ p.2, names[index]? = some p.1

theorem placed_addToPackage {names : List String} {package : String} {index : Nat}
    (found : names[index]? = some package) {packages : List (String × List Nat)}
    (placed : Placed names packages) : Placed names (addToPackage package index packages) := by
  induction packages with
  | nil =>
      intro p member other inside
      obtain rfl := List.mem_singleton.mp member
      obtain rfl := List.mem_singleton.mp inside
      exact found
  | cons p rest ih =>
      have placedRest : Placed names rest := fun q member => placed q (by simp [member])
      unfold addToPackage
      split
      case isTrue same =>
          intro q member other inside
          rcases List.mem_cons.mp member with rfl | member
          · rcases List.mem_append.mp inside with old | new
            · exact placed p (by simp) other old
            · obtain rfl := List.mem_singleton.mp new
              rw [found, same]
          · exact placedRest q member other inside
      case isFalse =>
          intro q member
          rcases List.mem_cons.mp member with rfl | member
          · exact placed q (by simp)
          · exact ih placedRest q member

theorem placed_packagesFrom {names front rest : List String} (whole : names = front ++ rest)
    {packages : List (String × List Nat)} (placed : Placed names packages) :
    Placed names (packagesFrom front.length packages rest) := by
  induction rest generalizing front packages with
  | nil => exact placed
  | cons package rest ih =>
      have found : names[front.length]? = some package := by simp [whole]
      have shifted : names = (front ++ [package]) ++ rest := by simp [whole]
      have next := ih shifted (placed_addToPackage found placed)
      rwa [List.length_append] at next

/-- What holds of the names in an image that was built of an artifact. -/
structure WellNamed (image : Image) : Prop where
  classes : ∀ c ∈ image.classes, c.package ≠ "" ∧ Normal c.fullName.toList
  packages : Placed (image.classes.map ClassImage.package) image.packages

theorem wellNamed_build {artifact : Artifact} {options : LoadOptions} {sourceName : String}
    {image : Image} (built : Image.build artifact options sourceName = .ok image) :
    image.WellNamed := by
  unfold Image.build at built
  cases named : buildClasses options sourceName 0 [] artifact.classes with
  | error fault =>
      rw [named] at built
      contradiction
  | ok classes =>
      rw [named] at built
      obtain rfl := Except.ok.inj built
      refine ⟨normal_buildClasses named, ?_⟩
      exact placed_packagesFrom (List.nil_append _).symm (by simp [Placed])

end DexBrowser.Image

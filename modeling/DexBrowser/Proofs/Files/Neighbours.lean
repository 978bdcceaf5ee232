import DexBrowser.Proofs.Files.Overwriting
import Mathlib.Data.List.Forall2

/-!
Source files of one directory, written one after the other while some are refused. Main statements:
whether a file is refused does not depend on what was tried with its neighbours before, and what was
written stays while they are tried.
-/

namespace DexBrowser

/-! ## Paths and their parents -/

namespace Path

theorem eq_of_parts {path other : Path} (anchor : path.anchor = other.anchor)
    (parts : path.parts = other.parts) : path = other := by
  cases path
  cases other
  obtain rfl := anchor
  obtain rfl := parts
  rfl

@[simp] theorem anchor_parent (path : Path) : path.parent.anchor = path.anchor := rfl

@[simp] theorem parts_parent (path : Path) : path.parent.parts = path.parts.dropLast := rfl

theorem exists_intercalate_append (separator : List α) (front more : List (List α)) :
    ∃ rest, separator.intercalate (front ++ more) = separator.intercalate front ++ rest := by
  induction front with
  | nil => exact ⟨_, (List.nil_append _).symm⟩
  | cons first front ih =>
      cases front with
      | nil =>
          cases more with
          | nil => exact ⟨[], by simp⟩
          | cons next more =>
              refine ⟨separator ++ separator.intercalate (next :: more), ?_⟩
              rw [List.singleton_append, List.intercalate_cons_cons, List.intercalate_singleton,
                List.append_assoc]
      | cons second front =>
          obtain ⟨rest, whole⟩ := ih
          refine ⟨rest, ?_⟩
          rw [List.cons_append, List.cons_append, List.intercalate_cons_cons,
            List.intercalate_cons_cons, ← List.cons_append, whole, List.append_assoc,
            List.append_assoc, List.append_assoc]

theorem size_intercalate_le (separator : String) (front more : List String) :
    (separator.intercalate front).utf8ByteSize ≤
      (separator.intercalate (front ++ more)).utf8ByteSize := by
  obtain ⟨rest, whole⟩ := exists_intercalate_append separator.toList (front.map String.toList)
    (more.map String.toList)
  have same : separator.intercalate (front ++ more) =
      separator.intercalate front ++ String.ofList rest := by
    rw [← String.toList_inj, String.toList_intercalate, String.toList_append,
      String.toList_intercalate, String.toList_ofList, List.map_append, whole]
  rw [same, String.utf8ByteSize_append]
  exact Nat.le_add_right _ _

theorem parts_eq_concat {path : Path} (below : path.parts ≠ []) :
    path.parts = path.parent.parts ++ [path.name] := by
  rw [parent, name, List.getLastD_eq_getLast?, List.getLast?_eq_some_getLast below,
      Option.getD_some,
    List.dropLast_concat_getLast below]

theorem text_of_parts {path : Path} (below : path.parts ≠ []) :
    path.text = path.anchor.text ++ "/".intercalate path.parts := by
  rw [text]
  split
  case h_1 nothing => exact absurd nothing below
  case h_2 => rfl

theorem isPart_name {path : Path} (below : path.parts ≠ []) : isPart path.name = true :=
  path.clean path.name (by rw [parts_eq_concat below]; simp)

theorem name_ne_dot {path : Path} (below : path.parts ≠ []) : path.name ≠ "." := by
  have clean := isPart_name below
  intro dot
  rw [dot] at clean
  exact absurd clean (by decide)

theorem size_name_pos {path : Path} (below : path.parts ≠ []) : 0 < path.name.utf8ByteSize := by
  have clean := isPart_name below
  rw [Nat.pos_iff_ne_zero, Ne, String.utf8ByteSize_eq_zero_iff]
  intro nothing
  rw [nothing] at clean
  exact absurd clean (by decide)

theorem size_text_parent_le {path : Path} (below : path.parts ≠ []) :
    path.parent.text.utf8ByteSize ≤ path.text.utf8ByteSize := by
  have whole := parts_eq_concat below
  rw [text_of_parts below, String.utf8ByteSize_append]
  by_cases inRoot : path.parent.parts = []
  case neg =>
      have longer := size_intercalate_le "/" path.parent.parts [path.name]
      rw [← whole] at longer
      rw [text_of_parts inRoot, String.utf8ByteSize_append]
      exact Nat.add_le_add_left longer _
  case pos =>
      -- A relative path of one name has the dot for its parent.
      have named := size_name_pos below
      have only : "/".intercalate path.parts = path.name := by
        rw [whole, inRoot]
        rfl
      rw [only, text, inRoot, anchor_parent]
      cases path.anchor with
      | relative =>
          have dot : ".".utf8ByteSize = 1 := by decide
          dsimp only
          omega
      | root | doubleRoot =>
          rw [String.utf8ByteSize_append]
          exact Nat.add_le_add_left (Nat.zero_le _) _

end Path

namespace Files.Tree

/-! ## Directories that are there -/

/-- The path leads to a directory. -/
def Stands (tree : Tree) (path : Path) : Prop :=
    tree.locate path = .ok (tree.place path, some .directory)

/-- Neither the path nor its last name is too long. -/
structure Fits (path : Path) : Prop where
  text : path.text.utf8ByteSize ≤ pathLimit
  name : path.name.utf8ByteSize ≤ nameLimit

instance (path : Path) : Decidable (Fits path) :=
    decidable_of_iff (path.text.utf8ByteSize ≤ pathLimit ∧ path.name.utf8ByteSize ≤ nameLimit)
      ⟨fun ⟨text, name⟩ => ⟨text, name⟩, fun fits => ⟨fits.text, fits.name⟩⟩

theorem walk_concat (tree : Tree) (here : Location) (entry : Option Entry) (names : List String)
    (name : String) :
    tree.walk here entry (names ++ [name]) =
      match tree.walk here entry names with
      | .ok (location, found) => tree.walk location found [name]
      | .error reason => .error reason := by
  induction names generalizing here entry with
  | nil => simp only [List.nil_append, walk]
  | cons first names ih =>
      cases entry with
      | none => rfl
      | some entry =>
          cases entry with
          | file content => rfl
          | directory =>
              rw [List.cons_append, walk, walk]
              split
              · exact ih _ _
              · split
                · exact ih _ _
                · split
                  · rfl
                  · exact ih _ _

theorem walk_cons {tree : Tree} {location : Location} {found : Option Entry} {name : String}
    {rest : List String} {result : Location × Option Entry}
    (walked : tree.walk location found (name :: rest) = .ok result) : found = some .directory := by
  cases found with
  | none => contradiction
  | some entry =>
      cases entry with
      | file content => contradiction
      | directory => rfl

theorem walk_to_directory {tree : Tree} {here location : Location} {entry : Option Entry}
    {names : List String} (walked : tree.walk here entry names = .ok (location, some .directory)) :
    entry = some .directory := by
  cases names with
  | nil =>
      rw [walk] at walked
      exact (Prod.mk.inj (Except.ok.inj walked)).2
  | cons name rest => exact walk_cons walked

section Stands

variable {tree before after : Tree} {path : Path}

theorem locate_eq (below : path.parts ≠ []) (short : path.text.utf8ByteSize ≤ pathLimit) :
    tree.locate path =
      match tree.locate path.parent with
      | .ok (location, found) => tree.walk location found [path.name]
      | .error reason => .error reason := by
  have parentShort := Nat.le_trans (Path.size_text_parent_le below) short
  rw [locate, locate, if_neg (by omega), if_neg (by omega), Path.parts_eq_concat below]
  exact walk_concat tree _ _ _ _

theorem stands_parent (below : path.parts ≠ []) {result : Location × Option Entry}
    (located : tree.locate path = .ok result) : tree.Stands path.parent := by
  have short : path.text.utf8ByteSize ≤ pathLimit := by
    unfold locate at located
    split at located
    · contradiction
    case isFalse short => omega
  rw [locate_eq below short] at located
  split at located
  case h_2 => contradiction
  case h_1 location found parent =>
      obtain rfl := walk_cons located
      rw [Stands, parent, (locate_ok parent).1]

theorem place_eq (below : path.parts ≠ []) (down : path.name ≠ "..") :
    tree.place path = tree.place path.parent ++ [path.name] := by
  rw [place, Path.parts_eq_concat below, resolve_append, resolve,
    if_neg (Path.name_ne_dot below), if_neg down, resolve]
  rfl

theorem locate_in (below : path.parts ≠ []) (down : path.name ≠ "..")
    (stands : tree.Stands path.parent) :
    tree.locate path =
      if Fits path then .ok (tree.place path, tree.get? (tree.place path))
      else .error .nameTooLong := by
  by_cases short : path.text.utf8ByteSize ≤ pathLimit
  case neg =>
      have long : ¬ Fits path := fun fits => short fits.text
      rw [if_neg long, locate, if_pos (by omega)]
  case pos =>
      have atParent : tree.locate path.parent = _ := stands
      rw [locate_eq below short, atParent]
      dsimp only
      rw [walk, if_neg (Path.name_ne_dot below), if_neg down, place_eq below down]
      split
      case isTrue long => rw [if_neg fun fits => Nat.not_le.mpr long fits.name]
      case isFalse fine => rw [if_pos ⟨short, Nat.not_lt.mp fine⟩, walk]

theorem write_in (below : path.parts ≠ []) (down : path.name ≠ "..")
    (stands : tree.Stands path.parent) (content : ByteArray) :
    tree.write path content =
      if Fits path then
        if tree.get? (tree.place path) = some .directory then .error ⟨.isDirectory, path⟩
        else .ok (tree.put (tree.place path) (.file content))
      else .error ⟨.nameTooLong, path⟩ := by
  rw [write, locate_in below down stands]
  by_cases fits : Fits path
  case neg => rw [if_neg fits, if_neg fits]
  case pos =>
      rw [if_pos fits, if_pos fits]
      cases found : tree.get? (tree.place path) with
      | none => rfl
      | some entry => cases entry <;> rfl

theorem Stays.walk_directory (stays : before.Stays after) {here location : Location}
    {entry : Option Entry} {names : List String}
    (walked : before.walk here entry names = .ok (location, some .directory)) :
    after.walk here entry names = .ok (location, some .directory) := by
  induction names generalizing here entry with
  | nil => exact walked
  | cons name rest ih =>
      obtain rfl := walk_cons walked
      rw [Tree.walk] at walked ⊢
      split at walked
      case isTrue same =>
          rw [if_pos same]
          exact ih walked
      case isFalse other =>
          rw [if_neg other]
          split at walked
          case isTrue up =>
              rw [if_pos up]
              exact ih walked
          case isFalse notUp =>
              rw [if_neg notUp]
              split at walked
              · contradiction
              case isFalse short =>
                  have between := walk_to_directory walked
                  rw [between] at walked
                  rw [if_neg short, stays.directories _ between]
                  exact ih walked

theorem Stays.stands (stays : before.Stays after) (stands : before.Stands path) :
    after.Stands path := by
  rw [Stands, stays.place]
  unfold Stands at stands
  unfold Tree.locate at stands ⊢
  split at stands
  · contradiction
  case isFalse short =>
      rw [if_neg short, start_eq stays.workingDirectory]
      exact stays.walk_directory stands

end Stands

/-! ## Making sure of a directory -/

section Ensured

variable {tree after : Tree} {path : Path}

theorem makeDirectory_ok (made : tree.makeDirectory path = .ok after) :
    ∃ location, tree.locate path = .ok (location, none) ∧ after = tree.put location .directory := by
  unfold makeDirectory at made
  split at made
  case h_1 location located => exact ⟨location, located, (Except.ok.inj made).symm⟩
  case h_2 | h_3 => contradiction

theorem stands_of_makeDirectory (made : tree.makeDirectory path = .ok after) :
    after.Stands path := by
  have stays := (extended_makeDirectory made).stays
  obtain ⟨location, located, rfl⟩ := makeDirectory_ok made
  obtain ⟨leads, missing⟩ := locate_ok located
  obtain ⟨-, again⟩ := stays.locate located (by simp)
  have below : location ≠ [] := by
    rintro rfl
    exact nomatch missing rfl
  rw [get?_put_same _ _ below] at again
  rw [Stands, stays.place, again, leads]

theorem acceptDirectory_ok_iff {reason : Reason} :
    tree.acceptDirectory path reason = .ok () ↔ path.holdsNul = false ∧ tree.Stands path := by
  unfold acceptDirectory stat
  constructor
  · intro accepted
    cases nul : path.holdsNul with
    | true =>
        rw [nul] at accepted
        contradiction
    | false =>
        refine ⟨rfl, ?_⟩
        rw [nul] at accepted
        cases located : tree.locate path with
        | error other =>
            rw [located] at accepted
            cases other <;> contradiction
        | ok result =>
            obtain ⟨location, found⟩ := result
            rw [located] at accepted
            rw [Stands, located, (locate_ok located).1]
            cases found with
            | none => contradiction
            | some entry =>
                cases entry with
                | file content => contradiction
                | directory => rfl
  · rintro ⟨nul, stands⟩
    have located : tree.locate path = _ := stands
    rw [nul, located]
    rfl

theorem stands_of_ensureDirectory (ensured : tree.ensureDirectory path = (after, .ok ())) :
    after.Stands path := by
  unfold ensureDirectory at ensured
  split at ensured
  case h_1 made =>
      obtain ⟨rfl, -⟩ := Prod.mk.inj ensured
      exact stands_of_makeDirectory made
  case h_2 =>
      obtain ⟨rfl, accepted⟩ := Prod.mk.inj ensured
      exact (acceptDirectory_ok_iff.mp accepted).2

theorem stands_of_ensureDirectories (ensured : tree.ensureDirectories path = (after, .ok ())) :
    after.Stands path := by
  unfold ensureDirectories at ensured
  split at ensured
  case h_1 made =>
      obtain ⟨rfl, -⟩ := Prod.mk.inj ensured
      exact stands_of_makeDirectory made
  case h_2 =>
      split at ensured
      case isFalse => cases ensured
      case isTrue =>
          split at ensured
          · exact stands_of_ensureDirectory ensured
          · cases ensured
  case h_3 =>
      obtain ⟨rfl, accepted⟩ := Prod.mk.inj ensured
      exact (acceptDirectory_ok_iff.mp accepted).2

theorem Stands.ensureDirectories (stands : tree.Stands path) (noNul : path.holdsNul = false) :
    tree.ensureDirectories path = (tree, .ok ()) := by
  have located : tree.locate path = _ := stands
  have there : tree.makeDirectory path = .error .exists := by rw [makeDirectory, located]
  have accepted : tree.acceptDirectory path .exists = .ok () :=
    acceptDirectory_ok_iff.mpr ⟨noNul, stands⟩
  rw [Tree.ensureDirectories, there]
  dsimp only
  rw [accepted]

theorem holdsNul_parent (noNul : path.holdsNul = false) : path.parent.holdsNul = false := by
  rw [Path.holdsNul, List.any_eq_false] at noNul ⊢
  intro part member
  exact noNul part (List.dropLast_subset _ member)

theorem not_stands_of_failed {refusal : Refusal} (noNul : path.holdsNul = false)
    (failed : tree.ensureDirectories path = (after, .error refusal)) : ¬ tree.Stands path := by
  intro stands
  rw [stands.ensureDirectories noNul] at failed
  cases failed

theorem ensureDirectory_again {refusal : Refusal} (noNul : path.holdsNul = false)
    (shorter : path.parent.parts.length < path.parts.length) (stands : tree.Stands path.parent)
    (failed : tree.ensureDirectory path = (after, .error refusal)) :
    after.ensureDirectories path = (after, .error refusal) := by
  unfold ensureDirectory at failed
  split at failed
  case h_1 => cases failed
  case h_2 reason refused =>
      obtain ⟨rfl, notAccepted⟩ := Prod.mk.inj failed
      unfold ensureDirectories
      rw [refused]
      cases reason with
      | missing =>
          dsimp only
          rw [dif_pos shorter, stands.ensureDirectories (holdsNul_parent noNul)]
          dsimp only
          rw [ensureDirectory, refused]
          dsimp only
          rw [notAccepted]
      | _ =>
          dsimp only
          rw [notAccepted]

theorem ensureDirectories_refused {early : Refusal} (noNul : path.holdsNul = false)
    (shorter : path.parent.parts.length < path.parts.length)
    (refused : tree.ensureDirectories path.parent = (tree, .error early)) :
    ∃ refusal, tree.ensureDirectories path = (tree, .error refusal) := by
  have absent := not_stands_of_failed (holdsNul_parent noNul) refused
  have below : path.parts ≠ [] := by
    intro nothing
    rw [nothing] at shorter
    exact absurd shorter (Nat.not_lt_zero _)
  unfold ensureDirectories
  cases made : tree.makeDirectory path with
  | ok after =>
      obtain ⟨location, located, -⟩ := makeDirectory_ok made
      exact absurd (stands_parent below located) absent
  | error reason =>
      have notAccepted : tree.acceptDirectory path reason ≠ .ok () := by
        intro accepted
        have located : tree.locate path = _ := (acceptDirectory_ok_iff.mp accepted).2
        exact absent (stands_parent below located)
      cases reason with
      | missing =>
          dsimp only
          rw [dif_pos shorter, refused]
          exact ⟨early, rfl⟩
      | _ =>
          dsimp only
          cases accepted : tree.acceptDirectory path _ with
          | ok _ => exact absurd accepted notAccepted
          | error refusal => exact ⟨refusal, rfl⟩

theorem ensureDirectories_again {tree after : Tree} {path : Path} {refusal : Refusal}
    (noNul : path.holdsNul = false)
    (failed : tree.ensureDirectories path = (after, .error refusal)) :
    ∃ other, after.ensureDirectories path = (after, .error other) := by
  have whole := failed
  unfold ensureDirectories at failed
  split at failed
  case h_1 => cases failed
  case h_3 =>
      obtain ⟨rfl, -⟩ := Prod.mk.inj failed
      exact ⟨refusal, whole⟩
  case h_2 missing =>
      split at failed
      case isFalse =>
          obtain ⟨rfl, -⟩ := Prod.mk.inj failed
          exact ⟨refusal, whole⟩
      case isTrue shorter =>
          split at failed
          case h_1 between parents =>
              have stands := stands_of_ensureDirectories parents
              exact ⟨refusal, ensureDirectory_again noNul shorter stands failed⟩
          case h_2 between early parents =>
              obtain ⟨rfl, -⟩ := Prod.mk.inj failed
              obtain ⟨other, again⟩ := ensureDirectories_again (holdsNul_parent noNul) parents
              exact ensureDirectories_refused noNul shorter again
termination_by path.parts.length

end Ensured

/-! ## Trying to write -/

/-- Writes a source file. Why it was refused is an answer, not a fault. -/
def refusing (tree : Tree) (source : Path × String) : Except Fault (Option String) × Tree :=
    match tree.writeSource source.1 source.2 with
    | (tree, .ok ()) => (.ok none, tree)
    | (tree, .error (.notWritten refusal path)) =>
        (.ok (some (Fault.notWritten refusal path).message), tree)
    | (tree, .error fault) => (.error fault, tree)

/-- Writes a source file; whether it took it is the answer. -/
def attempt (tree : Tree) (source : Path × String) : Except Fault Bool × Tree :=
    ((tree.refusing source).1.map Option.isNone, (tree.refusing source).2)

/-- The path leads to a name in the directory. -/
structure Inside (directory path : Path) : Prop where
  below : path.parts ≠ []
  down : path.name ≠ ".."
  parent : path.parent = directory

theorem Inside.eq_of_place {tree : Tree} {directory path other : Path}
    (inside : Inside directory path) (otherInside : Inside directory other)
    (place : tree.place path = tree.place other) : path = other := by
  rw [place_eq inside.below inside.down, place_eq otherInside.below otherInside.down,
    inside.parent, otherInside.parent] at place
  have sameName := List.singleton_inj.mp (List.append_cancel_left place)
  have sameParts : path.parts = other.parts := by
    rw [Path.parts_eq_concat inside.below, Path.parts_eq_concat otherInside.below, inside.parent,
      otherInside.parent, sameName]
  have sameAnchor : path.anchor = other.anchor := by
    rw [← Path.anchor_parent path, ← Path.anchor_parent other, inside.parent, otherInside.parent]
  exact Path.eq_of_parts sameAnchor sameParts

section Attempt

variable {tree after : Tree} {directory path : Path} {source : Path × String}

/-- Writing source makes directories first; then the file is put at its place, or nothing more is
done. -/
theorem writeSource_spec (tree : Tree) (path : Path) (code : String) :
    ∃ between, tree.Extended (tree.Enters path.parent) between ∧
      (tree.writeSource path code = (between, .error (.value .nulCharacter)) ∨
        (∃ refusal, tree.writeSource path code = (between, .error (.notWritten refusal path))) ∨
          between.get? (tree.place path) ≠ some .directory ∧ tree.writeSource path code =
            (between.put (tree.place path) (.file code.toUTF8), .ok ())) := by
  have parents := extended_ensureDirectories tree path.parent
  rw [writeSource_eq]
  split
  case isTrue => exact ⟨tree, extended_refl _ tree, .inl rfl⟩
  case isFalse =>
      split
      case h_1 between refusal made =>
          rw [made] at parents
          exact ⟨between, parents, .inr (.inl ⟨refusal, rfl⟩)⟩
      case h_2 between made =>
          rw [made] at parents
          refine ⟨between, parents, ?_⟩
          split
          case isTrue => exact .inl rfl
          case isFalse =>
              split
              case h_2 refusal _ => exact .inr (.inl ⟨refusal, rfl⟩)
              case h_1 after written =>
                  unfold write at written
                  split at written
                  case h_1 | h_3 => contradiction
                  case h_2 location found notDirectory located =>
                      obtain rfl := Except.ok.inj written
                      have leads : location = tree.place path := by
                        rw [(locate_ok located).1, parents.stays.place]
                      have other : found ≠ some .directory := fun same => notDirectory same
                      have stands := ((stays_refl between).locate located other).1
                      rw [← leads, stands]
                      exact .inr (.inr ⟨other, rfl⟩)

theorem extended_writeSource {code : String} {fault : Fault}
    (refused : tree.writeSource path code = (after, .error fault)) :
    tree.Extended (tree.Enters path.parent) after := by
  obtain ⟨between, extended, same | ⟨refusal, same⟩ | ⟨-, same⟩⟩ := tree.writeSource_spec path code
  · obtain ⟨rfl, -⟩ := Prod.mk.inj (same.symm.trans refused)
    exact extended
  · obtain ⟨rfl, -⟩ := Prod.mk.inj (same.symm.trans refused)
    exact extended
  · cases same.symm.trans refused

theorem Extended.read {made : Location → Prop} (extended : tree.Extended made after)
    {content : ByteArray} (readable : tree.read path = .ok content) :
    after.read path = .ok content := by
  have stands := get?_of_read readable
  apply extended.stays.read readable
  rcases extended.places (tree.place path) with same | ⟨-, missing, -⟩
  · rw [same, stands]
  · rw [stands] at missing
    contradiction

theorem get?_put_eq_directory_iff {location : Location}
    (free : tree.get? location ≠ some .directory) (content : ByteArray) (other : Location) :
    (tree.put location (.file content)).get? other = some .directory ↔
      tree.get? other = some .directory := by
  have below : location ≠ [] := by
    rintro rfl
    exact free rfl
  by_cases same : other = location
  · subst same
    rw [get?_put_same _ _ below]
    exact ⟨fun isDirectory => (nomatch isDirectory), fun isDirectory => absurd isDirectory free⟩
  · rw [get?_put_other _ _ same]

theorem refusing_of_written (written : tree.writeSource source.1 source.2 = (after, .ok ())) :
    tree.refusing source = (.ok none, after) := by
  rw [refusing, written]

theorem refusing_of_refused {refusal : Refusal}
    (refused : tree.writeSource source.1 source.2 = (after, .error (.notWritten refusal path))) :
    tree.refusing source = (.ok (some (Fault.notWritten refusal path).message), after) := by
  rw [refusing, refused]

theorem refusing_of_error
    (failed : tree.writeSource source.1 source.2 = (after, .error (.value .nulCharacter))) :
    tree.refusing source = (.error (.value .nulCharacter), after) := by
  rw [refusing, failed]

theorem attempt_of_written (written : tree.writeSource source.1 source.2 = (after, .ok ())) :
    tree.attempt source = (.ok true, after) := by
  rw [attempt, refusing_of_written written]
  rfl

theorem attempt_of_refused {refusal : Refusal}
    (refused : tree.writeSource source.1 source.2 = (after, .error (.notWritten refusal path))) :
    tree.attempt source = (.ok false, after) := by
  rw [attempt, refusing_of_refused refused]
  rfl

theorem attempt_of_error
    (failed : tree.writeSource source.1 source.2 = (after, .error (.value .nulCharacter))) :
    tree.attempt source = (.error (.value .nulCharacter), after) := by
  rw [attempt, refusing_of_error failed]
  rfl

theorem refusing_snd (tree : Tree) (source : Path × String) :
    (tree.refusing source).2 = (tree.writeSource source.1 source.2).1 := by
  obtain ⟨between, -, same | ⟨refusal, same⟩ | ⟨-, same⟩⟩ :=
    tree.writeSource_spec source.1 source.2
  · rw [refusing_of_error same, same]
  · rw [refusing_of_refused same, same]
  · rw [refusing_of_written same, same]

theorem attempt_snd (tree : Tree) (source : Path × String) :
    (tree.attempt source).2 = (tree.writeSource source.1 source.2).1 :=
  refusing_snd tree source

theorem attempt_eq_true_iff :
    (tree.attempt source).1 = .ok true ↔ (tree.writeSource source.1 source.2).2 = .ok () := by
  obtain ⟨between, -, same | ⟨refusal, same⟩ | ⟨-, same⟩⟩ :=
    tree.writeSource_spec source.1 source.2
  · rw [attempt_of_error same, same]
    exact ⟨(nomatch ·), (nomatch ·)⟩
  · rw [attempt_of_refused same, same]
    exact ⟨(nomatch ·), (nomatch ·)⟩
  · rw [attempt_of_written same, same]
    exact ⟨fun _ => rfl, fun _ => rfl⟩

theorem attempt_eq_error_iff {fault : Fault} :
    (tree.attempt source).1 = .error fault ↔
      fault = .value .nulCharacter ∧
        (tree.writeSource source.1 source.2).2 = .error (.value .nulCharacter) := by
  obtain ⟨between, -, same | ⟨refusal, same⟩ | ⟨-, same⟩⟩ :=
    tree.writeSource_spec source.1 source.2
  · rw [attempt_of_error same, same]
    constructor
    · exact fun isTold => ⟨(Except.error.inj isTold).symm, rfl⟩
    · rintro ⟨rfl, -⟩
      rfl
  · rw [attempt_of_refused same, same]
    exact ⟨(nomatch ·), fun ⟨_, impossible⟩ => nomatch impossible⟩
  · rw [attempt_of_written same, same]
    exact ⟨(nomatch ·), fun ⟨_, impossible⟩ => nomatch impossible⟩

theorem writeSource_of_attempt (written : (tree.attempt source).1 = .ok true) :
    tree.writeSource source.1 source.2 = ((tree.attempt source).2, .ok ()) :=
  Prod.ext (attempt_snd tree source).symm (attempt_eq_true_iff.mp written)

theorem read_attempt_other {content : ByteArray} (readable : tree.read path = .ok content)
    (apart : tree.place path ≠ tree.place source.1) :
    (tree.attempt source).2.read path = .ok content := by
  rw [attempt_snd]
  cases written : tree.writeSource source.1 source.2 with
  | mk after outcome =>
      cases outcome with
      | ok _ => exact read_writeSource_other written readable apart
      | error fault => exact (extended_writeSource written).read readable

section Inside

variable (inside : Inside directory source.1)
include inside

theorem attempt_of_nul (nul : directory.holdsNul = true) :
    tree.attempt source = (.error (.value .nulCharacter), tree) := by
  apply attempt_of_error
  rw [writeSource_eq, inside.parent, if_pos nul]

theorem attempt_of_failed (noNul : directory.holdsNul = false) {refusal : Refusal}
    (failed : tree.ensureDirectories directory = (after, .error refusal)) :
    tree.attempt source = (.ok false, after) := by
  have refused : tree.writeSource source.1 source.2 =
      (after, .error (.notWritten refusal source.1)) := by
    rw [writeSource_eq, inside.parent, noNul, failed]
    rfl
  exact attempt_of_refused refused

/-- Where the directory is there, only the place itself decides. -/
theorem attempt_of_stands (noNul : directory.holdsNul = false) (stands : tree.Stands directory) :
    tree.attempt source =
      if source.1.holdsNul then (.error (.value .nulCharacter), tree)
      else if Fits source.1 ∧ tree.get? (tree.place source.1) ≠ some .directory then
        (.ok true, tree.put (tree.place source.1) (.file source.2.toUTF8))
      else (.ok false, tree) := by
  have atParent : tree.Stands source.1.parent := by rwa [inside.parent]
  rw [attempt, refusing, writeSource_eq, inside.parent, noNul, stands.ensureDirectories noNul]
  dsimp only
  rw [if_neg Bool.false_ne_true, write_in inside.below inside.down atParent]
  by_cases nul : source.1.holdsNul = true
  case pos =>
      rw [if_pos nul, if_pos nul]
      rfl
  case neg =>
      rw [if_neg nul, if_neg nul]
      by_cases fits : Fits source.1
      case neg =>
          rw [if_neg fits, if_neg fun both => fits both.1]
          rfl
      case pos =>
          rw [if_pos fits]
          by_cases isDirectory : tree.get? (tree.place source.1) = some .directory
          case pos =>
              rw [if_pos isDirectory, if_neg fun both => both.2 isDirectory]
              rfl
          case neg =>
              rw [if_neg isDirectory, if_pos ⟨fits, isDirectory⟩]
              rfl

theorem attempt_of_ensured (noNul : directory.holdsNul = false)
    (ensured : tree.ensureDirectories directory = (after, .ok ())) :
    tree.attempt source = after.attempt source := by
  have again := (stands_of_ensureDirectories ensured).ensureDirectories noNul
  rw [attempt, attempt, refusing, refusing, writeSource_eq, writeSource_eq, inside.parent, noNul,
    ensured, again]
  rfl

theorem attempt_neighbour {other : Path × String} (otherInside : Inside directory other.1)
    (tree : Tree) : ((tree.attempt other).2.attempt source).1 = (tree.attempt source).1 := by
  cases noNul : directory.holdsNul with
  | true => rw [attempt_of_nul otherInside noNul]
  | false =>
      cases ensured : tree.ensureDirectories directory with
      | mk after outcome =>
          cases outcome with
          | error refusal =>
              obtain ⟨_, again⟩ := ensureDirectories_again noNul ensured
              rw [attempt_of_failed otherInside noNul ensured,
                attempt_of_failed inside noNul ensured, attempt_of_failed inside noNul again]
          | ok _ =>
              have stands := stands_of_ensureDirectories ensured
              rw [attempt_of_ensured otherInside noNul ensured,
                attempt_of_ensured inside noNul ensured,
                attempt_of_stands otherInside noNul stands]
              split
              · rfl
              · split
                case isFalse => rfl
                case isTrue free =>
                    have stays := stays_put after free.2 other.2.toUTF8
                    rw [attempt_of_stands inside noNul (stays.stands stands),
                      attempt_of_stands inside noNul stands]
                    have same := get?_put_eq_directory_iff free.2 other.2.toUTF8
                      (after.place source.1)
                    simp only [stays.place, ne_eq, same]
                    split
                    · rfl
                    · split <;> rfl

theorem written_of_read {content : ByteArray} (readable : tree.read source.1 = .ok content)
    {written : Bool} (tried : (tree.attempt source).1 = .ok written) : written = true := by
  obtain ⟨location, located⟩ := read_eq_ok_iff.mp readable
  have stands := stands_parent inside.below located
  rw [locate_in inside.below inside.down stands] at located
  rw [inside.parent] at stands
  cases noNul : directory.holdsNul with
  | true =>
      rw [attempt_of_nul inside noNul] at tried
      contradiction
  | false =>
      rw [attempt_of_stands inside noNul stands] at tried
      split at tried
      · contradiction
      · split at located
        case isFalse => contradiction
        case isTrue fits =>
            obtain ⟨-, isFile⟩ := Prod.mk.inj (Except.ok.inj located)
            rw [isFile, if_pos ⟨fits, by simp⟩] at tried
            exact (Except.ok.inj tried).symm

end Inside

end Attempt

/-! ## One after the other -/

def inTurn (step : γ → Tree → Except Fault β × Tree) : List γ → Tree →
    Except Fault (List β) × Tree
  | [], tree => (.ok [], tree)
  | k :: ks, tree =>
      match step k tree with
      | (.error fault, tree) => (.error fault, tree)
      | (.ok b, tree) => ((inTurn step ks tree).1.map (b :: ·), (inTurn step ks tree).2)

section InTurn

variable {step : γ → Tree → Except Fault β × Tree} {ks : List γ}

theorem inTurn_leaves {f : Tree → δ} (leaves : ∀ k ∈ ks, ∀ tree, f (step k tree).2 = f tree)
    (tree : Tree) : f (inTurn step ks tree).2 = f tree := by
  induction ks generalizing tree with
  | nil => rfl
  | cons k ks ih =>
      have first := leaves k List.mem_cons_self tree
      have rest := ih (fun other member => leaves other (List.mem_cons_of_mem k member))
        (step k tree).2
      rw [inTurn]
      split
      case h_1 ran =>
          rw [ran] at first
          exact first
      case h_2 ran =>
          rw [ran] at first rest
          exact rest.trans first

theorem inTurn_outcome {own : γ → Except Fault β} {tree : Tree}
    (alone : ∀ k ∈ ks, (step k tree).1 = own k)
    (apart : ∀ k ∈ ks, ∀ other ∈ ks, ∀ tree, (step k (step other tree).2).1 = (step k tree).1) :
    (inTurn step ks tree).1 = ks.mapM own := by
  induction ks generalizing tree with
  | nil => rfl
  | cons k ks ih =>
      have rest : (inTurn step ks (step k tree).2).1 = ks.mapM own := by
        apply ih
        · intro other member
          rw [apart other (List.mem_cons_of_mem k member) k List.mem_cons_self]
          exact alone other (List.mem_cons_of_mem k member)
        · intro one member other otherMember
          exact apart one (List.mem_cons_of_mem k member) other (List.mem_cons_of_mem k otherMember)
      rw [inTurn, List.mapM_cons, ← alone k List.mem_cons_self, ← rest]
      cases step k tree with
      | mk outcome after => cases outcome <;> rfl

/-- What a step brings about, as long as something holds that all leave, and no other step undoes,
holds in the end. -/
theorem inTurn_reaches (always holds : Tree → Prop) (k : γ)
    (stays : ∀ other ∈ ks, ∀ tree, always tree → always (step other tree).2)
    (brought : ∀ tree, always tree → holds (step k tree).2)
    (kept : ∀ other ∈ ks, other ≠ k → ∀ tree, holds tree → holds (step other tree).2)
    {tree : Tree} (start : always tree) {bs : List β} (ended : (inTurn step ks tree).1 = .ok bs)
    (either : k ∈ ks ∨ holds tree) : holds (inTurn step ks tree).2 := by
  induction ks generalizing tree bs with
  | nil => exact either.resolve_left List.not_mem_nil
  | cons first ks ih =>
      have next := stays first List.mem_cons_self tree start
      have onward : k ∈ ks ∨ holds (step first tree).2 := by
        by_cases same : first = k
        · rw [same]
          exact .inr (brought tree start)
        · rcases either with member | held
          · exact .inl (List.mem_of_ne_of_mem (Ne.symm same) member)
          · exact .inr (kept first List.mem_cons_self same tree held)
      have rest {bs : List β} (ended : (inTurn step ks (step first tree).2).1 = .ok bs) :
          holds (inTurn step ks (step first tree).2).2 :=
        ih (fun other member => stays other (List.mem_cons_of_mem first member))
          (fun other member => kept other (List.mem_cons_of_mem first member)) next ended onward
      rw [inTurn] at ended ⊢
      cases ran : step first tree with
      | mk outcome after =>
          rw [ran] at ended rest
          cases outcome with
          | error fault => contradiction
          | ok b =>
              dsimp only at ended rest ⊢
              cases others : (inTurn step ks after).1 with
              | error fault =>
                  rw [others] at ended
                  contradiction
              | ok bs => exact rest others

end InTurn

theorem forall₂_of_mapM_ok {f : α → Except Fault β} {xs : List α} {ys : List β}
    (ended : xs.mapM f = .ok ys) : List.Forall₂ (fun x y => f x = .ok y) xs ys := by
  induction xs generalizing ys with
  | nil =>
      obtain rfl := Except.ok.inj ended
      exact .nil
  | cons x xs ih =>
      rw [List.mapM_cons] at ended
      cases first : f x with
      | error fault =>
          rw [first] at ended
          contradiction
      | ok y =>
          cases rest : xs.mapM f with
          | error fault =>
              rw [first, rest] at ended
              contradiction
          | ok others =>
              rw [first, rest] at ended
              obtain rfl := Except.ok.inj ended
              exact .cons first (ih rest)

theorem exists_of_mapM_ok {f : α → Except Fault β} {xs : List α} {ys : List β}
    (ended : xs.mapM f = .ok ys) {x : α} (member : x ∈ xs) : ∃ y ∈ ys, f x = .ok y := by
  have each := forall₂_of_mapM_ok ended
  clear ended
  induction each with
  | nil => contradiction
  | cons here _ ih =>
      rcases List.mem_cons.mp member with rfl | later
      · exact ⟨_, List.mem_cons_self, here⟩
      · obtain ⟨y, isResult, same⟩ := ih later
        exact ⟨y, List.mem_cons_of_mem _ isResult, same⟩

theorem exists_of_mapM_error {f : α → Except Fault β} {xs : List α} {fault : Fault}
    (failed : xs.mapM f = .error fault) : ∃ x ∈ xs, f x = .error fault := by
  induction xs with
  | nil => contradiction
  | cons x xs ih =>
      rw [List.mapM_cons] at failed
      cases first : f x with
      | error other =>
          rw [first] at failed
          obtain rfl := Except.error.inj failed
          exact ⟨x, List.mem_cons_self, first⟩
      | ok y =>
          cases rest : xs.mapM f with
          | ok others =>
              rw [first, rest] at failed
              contradiction
          | error other =>
              rw [first, rest] at failed
              obtain rfl := Except.error.inj failed
              obtain ⟨z, member, same⟩ := ih rest
              exact ⟨z, List.mem_cons_of_mem x member, same⟩

/-! ## Neighbours in turn -/

/-- A try to write the source of an item, and what is said of the item then. -/
def trying (source : γ → Path × String) (say : γ → Bool → β) (k : γ) (tree : Tree) :
    Except Fault β × Tree :=
    ((tree.attempt (source k)).1.map (say k), (tree.attempt (source k)).2)

section Trying

variable {directory : Path} {source : γ → Path × String} {say : γ → Bool → β} {ks : List γ}
  (inside : ∀ k ∈ ks, Inside directory (source k).1)
include inside

theorem inTurn_trying (tree : Tree) :
    (inTurn (trying source say) ks tree).1 =
      ks.mapM fun k => (tree.attempt (source k)).1.map (say k) := by
  apply inTurn_outcome
  · intro k member
    rfl
  · intro k member other otherMember before
    rw [trying, trying, trying]
    dsimp only
    rw [attempt_neighbour (inside k member) (inside other otherMember)]

theorem attempt_inTurn_trying (tree : Tree) {k : γ} (member : k ∈ ks) :
    ((inTurn (trying source say) ks tree).2.attempt (source k)).1 =
      (tree.attempt (source k)).1 := by
  apply inTurn_leaves (f := fun tree => (tree.attempt (source k)).1)
  intro other otherMember before
  exact attempt_neighbour (inside k member) (inside other otherMember) before

/-- Once all were tried, the files of those that could be written alone hold their source, and no
others do. -/
theorem read_inTurn_trying {tree : Tree}
    (distinct : ∀ k ∈ ks, ∀ other ∈ ks, (source other).1 = (source k).1 → other = k) {bs : List β}
    (ended : (inTurn (trying source say) ks tree).1 = .ok bs) {k : γ} (member : k ∈ ks) :
    (inTurn (trying source say) ks tree).2.read (source k).1 = .ok (source k).2.toUTF8 ↔
      (tree.attempt (source k)).1 = .ok true := by
  have still : ((inTurn (trying source say) ks tree).2.attempt (source k)).1 =
      (tree.attempt (source k)).1 := attempt_inTurn_trying inside tree member
  constructor
  · intro readable
    rw [inTurn_trying inside] at ended
    obtain ⟨b, -, own⟩ := exists_of_mapM_ok ended member
    cases alone : (tree.attempt (source k)).1 with
    | error fault =>
        rw [alone] at own
        contradiction
    | ok written =>
        rw [alone] at still
        rw [written_of_read (inside k member) readable still]
  · intro written
    apply inTurn_reaches (fun tree => (tree.attempt (source k)).1 = .ok true)
      (fun tree => tree.read (source k).1 = .ok (source k).2.toUTF8) k
    · intro other otherMember before own
      exact (attempt_neighbour (inside k member) (inside other otherMember) before).trans own
    · intro before own
      exact (read_writeSource_same (writeSource_of_attempt own)).2
    · intro other otherMember different before readable
      apply read_attempt_other readable
      intro place
      exact different (distinct k member other otherMember
        ((inside other otherMember).eq_of_place (inside k member) place.symm))
    · exact written
    · exact ended
    · exact .inl member

end Trying

end Files.Tree

end DexBrowser

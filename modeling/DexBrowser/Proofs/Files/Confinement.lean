import DexBrowser.Files.Source

/-!
What writing a source file changes in a tree. Main statement: a file that is written below a
directory, by a path that is relative and leads down only, changes nothing but what is below the
directory and what was missing on the way to it.
-/

namespace DexBrowser.Files

/-! ## Where paths lead -/

/-- Where a list of names leads, whatever stands on the way. -/
def resolve : (here : Location) → List String → Location
  | here, [] => here
  | here, name :: rest =>
      if name = "." then resolve here rest
      else if name = ".." then resolve here.dropLast rest
      else resolve (here ++ [name]) rest

theorem resolve_append (here : Location) (names others : List String) :
    resolve here (names ++ others) = resolve (resolve here names) others := by
  induction names generalizing here with
  | nil => rfl
  | cons name rest ih =>
      simp only [List.cons_append, resolve]
      split
      · exact ih here
      · split
        · exact ih here.dropLast
        · exact ih (here ++ [name])

theorem prefix_resolve (here : Location) {names : List String} (down : ".." ∉ names) :
    here <+: resolve here names := by
  induction names generalizing here with
  | nil => exact List.prefix_refl here
  | cons name rest ih =>
      obtain ⟨notUp, restDown⟩ := List.ne_and_not_mem_of_not_mem_cons down
      rw [resolve, if_neg (Ne.symm notUp)]
      split
      · exact ih here restDown
      · exact (List.prefix_append here [name]).trans (ih (here ++ [name]) restDown)

namespace Tree

def place (tree : Tree) (path : Path) : Location :=
    resolve (tree.start path.anchor) path.parts

/-- A place that is passed on the way along a path, or that the path ends at. -/
def OnTheWay (tree : Tree) (path : Path) (location : Location) : Prop :=
    ∃ names, names <+: path.parts ∧ location = resolve (tree.start path.anchor) names

/-- A place that a path enters by a name, on its way or at its end. -/
def Enters (tree : Tree) (path : Path) (location : Location) : Prop :=
    ∃ names name, names ++ [name] <+: path.parts ∧ name ≠ ".." ∧
      location = resolve (tree.start path.anchor) (names ++ [name])

theorem Enters.onTheWay {tree : Tree} {path : Path} {location : Location}
    (entered : tree.Enters path location) : tree.OnTheWay path location := by
  obtain ⟨names, name, front, -, leads⟩ := entered
  exact ⟨names ++ [name], front, leads⟩

theorem walk_ok {tree : Tree} {here location : Location} {entry found : Option Entry}
    {names : List String} (walked : tree.walk here entry names = .ok (location, found)) :
    location = resolve here names ∧
      ((entry = none → tree.get? here = none) → found = none → tree.get? location = none) := by
  -- Every step but the last is taken from a directory, so that what is known of `here` is only
  -- needed where no name is left.
  induction names generalizing here entry with
  | nil =>
      rw [walk] at walked
      obtain ⟨rfl, rfl⟩ := Prod.mk.inj (Except.ok.inj walked)
      exact ⟨rfl, id⟩
  | cons name rest ih =>
      cases entry with
      | none => contradiction
      | some entry =>
          cases entry with
          | file content => contradiction
          | directory =>
              simp only [walk] at walked
              simp only [resolve]
              split at walked
              case isTrue same =>
                  obtain ⟨leads, missing⟩ := ih walked
                  rw [if_pos same]
                  exact ⟨leads, fun _ => missing (by simp)⟩
              case isFalse other =>
                  rw [if_neg other]
                  split at walked
                  case isTrue up =>
                      obtain ⟨leads, missing⟩ := ih walked
                      rw [if_pos up]
                      exact ⟨leads, fun _ => missing (by simp)⟩
                  case isFalse notUp =>
                      rw [if_neg notUp]
                      split at walked
                      · contradiction
                      · obtain ⟨leads, missing⟩ := ih walked
                        exact ⟨leads, fun _ => missing id⟩

theorem walk_entered {tree : Tree} {here location : Location} {names : List String}
    {found : Option Entry}
    (walked : tree.walk here (some .directory) names = .ok (location, found))
    (notDirectory : found ≠ some .directory) :
    ∃ front name, names = front ++ [name] ∧ name ≠ ".." := by
  induction names generalizing here with
  | nil =>
      rw [walk] at walked
      obtain ⟨-, rfl⟩ := Prod.mk.inj (Except.ok.inj walked)
      exact absurd rfl notDirectory
  | cons name rest ih =>
      have further {next : Location}
          (walked : tree.walk next (some .directory) rest = .ok (location, found)) :
          ∃ front last, name :: rest = front ++ [last] ∧ last ≠ ".." := by
        obtain ⟨front, last, isRest, notUp⟩ := ih walked
        exact ⟨name :: front, last, by rw [isRest, List.cons_append], notUp⟩
      simp only [walk] at walked
      split at walked
      · exact further walked
      · split at walked
        · exact further walked
        case isFalse notUp =>
            split at walked
            · contradiction
            · cases rest with
              | nil => exact ⟨[], name, rfl, notUp⟩
              | cons next rest =>
                  cases entry : tree.get? (here ++ [name]) with
                  | none => rw [entry] at walked; cases walked
                  | some stands =>
                      cases stands with
                      | file content => rw [entry] at walked; cases walked
                      | directory => exact further (entry ▸ walked)

theorem locate_ok {tree : Tree} {path : Path} {location : Location} {found : Option Entry}
    (located : tree.locate path = .ok (location, found)) :
    location = tree.place path ∧ (found = none → tree.get? location = none) := by
  unfold locate at located
  split at located
  · contradiction
  · obtain ⟨leads, missing⟩ := walk_ok located
    exact ⟨leads, missing (by simp)⟩

theorem enters_of_located {tree : Tree} {path : Path} {location : Location} {found : Option Entry}
    (located : tree.locate path = .ok (location, found)) (notDirectory : found ≠ some .directory) :
    tree.Enters path location := by
  obtain ⟨leads, -⟩ := locate_ok located
  unfold locate at located
  split at located
  · contradiction
  · obtain ⟨front, name, whole, notUp⟩ := walk_entered located notDirectory
    exact ⟨front, name, whole ▸ List.prefix_refl _, notUp, by rw [leads, place, whole]⟩

/-! ## Directories that are made -/

/-- What came up in a tree are directories in places where nothing stood. -/
structure Extended (made : Location → Prop) (before after : Tree) : Prop where
  workingDirectory : after.workingDirectory = before.workingDirectory
  places : ∀ location, after.get? location = before.get? location ∨
    made location ∧ before.get? location = none ∧ after.get? location = some .directory

section Extended

variable {made : Location → Prop} {before between after : Tree}

theorem extended_refl (made : Location → Prop) (tree : Tree) : tree.Extended made tree :=
  ⟨rfl, fun _ => .inl rfl⟩

theorem Extended.trans (first : before.Extended made between)
    (second : between.Extended made after) : before.Extended made after := by
  refine ⟨second.workingDirectory.trans first.workingDirectory, fun location => ?_⟩
  rcases second.places location with same | ⟨wanted, missing, isDirectory⟩
  · rw [same]
    exact first.places location
  · rcases first.places location with same | ⟨-, -, already⟩
    · exact .inr ⟨wanted, same ▸ missing, isDirectory⟩
    · rw [already] at missing
      contradiction

theorem Extended.mono {more : Location → Prop} (extended : before.Extended made after)
    (wider : ∀ location, made location → more location) : before.Extended more after := by
  refine ⟨extended.workingDirectory, fun location => ?_⟩
  rcases extended.places location with same | ⟨wanted, rest⟩
  · exact .inl same
  · exact .inr ⟨wider location wanted, rest⟩

theorem start_eq (same : after.workingDirectory = before.workingDirectory) (anchor : Anchor) :
    after.start anchor = before.start anchor := by
  rw [start, start, same]

theorem enters_parent {tree : Tree} {path : Path} {location : Location}
    (entered : tree.Enters path.parent location) : tree.Enters path location := by
  obtain ⟨names, name, front, notUp, leads⟩ := entered
  exact ⟨names, name, front.trans (List.dropLast_prefix path.parts), notUp, leads⟩

theorem extended_makeDirectory {tree after : Tree} {path : Path}
    (succeeded : tree.makeDirectory path = .ok after) :
    tree.Extended (tree.Enters path) after := by
  unfold makeDirectory at succeeded
  split at succeeded
  case h_1 location located =>
      obtain rfl := Except.ok.inj succeeded
      obtain ⟨leads, missing⟩ := locate_ok located
      refine ⟨rfl, fun other => ?_⟩
      by_cases same : other = location
      · subst same
        have below : other ≠ [] := by
          rintro rfl
          simp [get?] at missing
        exact .inr ⟨enters_of_located located (by simp), missing rfl,
          tree.get?_put_same .directory below⟩
      · exact .inl (tree.get?_put_other .directory same)
  case h_2 => contradiction
  case h_3 => contradiction

theorem extended_ensureDirectory (tree : Tree) (path : Path) :
    tree.Extended (tree.Enters path) (tree.ensureDirectory path).1 := by
  unfold ensureDirectory
  split
  case h_1 after succeeded => exact extended_makeDirectory succeeded
  case h_2 => exact extended_refl _ tree

theorem extended_ensureDirectories (tree : Tree) (path : Path) :
    tree.Extended (tree.Enters path) (tree.ensureDirectories path).1 := by
  unfold ensureDirectories
  split
  case h_1 after succeeded => exact extended_makeDirectory succeeded
  case h_2 =>
      split
      case isTrue shorter =>
          have parents := (extended_ensureDirectories tree path.parent).mono fun _ => enters_parent
          split
          case h_1 between done =>
              rw [done] at parents
              -- The last directory is made in another tree, where relative paths start at the
              -- same place.
              have last := extended_ensureDirectory between path
              refine parents.trans (last.mono fun location => ?_)
              rintro ⟨names, name, front, notUp, leads⟩
              exact ⟨names, name, front, notUp, by rw [← start_eq parents.workingDirectory, leads]⟩
          case h_2 between refusal done =>
              rw [done] at parents
              exact parents
      case isFalse => exact extended_refl _ tree
  case h_3 => exact extended_refl _ tree
termination_by path.parts.length

end Extended

/-! ## Files that are written below a directory -/

/-- All that changed is below a directory or the directory itself, or became a directory on the way
to it, where nothing stood. -/
structure Confined (directory : Path) (before after : Tree) : Prop where
  workingDirectory : after.workingDirectory = before.workingDirectory
  places : ∀ location, after.get? location = before.get? location ∨
    before.place directory <+: location ∨
      before.OnTheWay directory location ∧ before.get? location = none ∧
        after.get? location = some .directory

section Confined

variable {directory : Path} {before between after : Tree}

theorem confined_refl (directory : Path) (tree : Tree) : Confined directory tree tree :=
  ⟨rfl, fun _ => .inl rfl⟩

theorem Confined.trans (first : Confined directory before between)
    (second : Confined directory between after) : Confined directory before after := by
  refine ⟨second.workingDirectory.trans first.workingDirectory, fun location => ?_⟩
  have same := start_eq first.workingDirectory directory.anchor
  rcases second.places location with
    unchanged | below | ⟨⟨names, front, leads⟩, missing, isDirectory⟩
  · rw [unchanged]
    exact first.places location
  · rw [place, same] at below
    exact .inr (.inl below)
  -- What was made by the second must not have been there before the first either.
  · rcases first.places location with unchanged | below | ⟨-, -, already⟩
    · rw [unchanged] at missing
      rw [same] at leads
      exact .inr (.inr ⟨⟨names, front, leads⟩, missing, isDirectory⟩)
    · exact .inr (.inl below)
    · rw [already] at missing
      contradiction

theorem onTheWay_join {tree : Tree} {other : Path} (relative : other.isAbsolute = false)
    (down : ".." ∉ other.parts) {location : Location}
    (passed : tree.OnTheWay (directory.join other) location) :
    tree.place directory <+: location ∨ tree.OnTheWay directory location := by
  obtain ⟨names, front, leads⟩ := passed
  rw [Path.anchor_join relative] at leads
  rw [Path.parts_join relative] at front
  rcases List.prefix_or_prefix_of_prefix front (List.prefix_append directory.parts other.parts)
    with above | ⟨more, whole⟩
  · exact .inr ⟨names, above, leads⟩
  · subst whole
    rw [List.prefix_append_right_inj] at front
    rw [resolve_append] at leads
    subst leads
    exact .inl (prefix_resolve _ fun up => down (front.subset up))

theorem Extended.confined {other : Path} (relative : other.isAbsolute = false)
    (down : ".." ∉ other.parts)
    (extended : before.Extended (before.OnTheWay (directory.join other)) after) :
    Confined directory before after := by
  refine ⟨extended.workingDirectory, fun location => ?_⟩
  rcases extended.places location with same | ⟨passed, rest⟩
  · exact .inl same
  · rcases onTheWay_join relative down passed with below | passed
    · exact .inr (.inl below)
    · exact .inr (.inr ⟨passed, rest⟩)

theorem confined_write {other : Path} (relative : other.isAbsolute = false)
    (down : ".." ∉ other.parts) {content : ByteArray}
    (written : before.write (directory.join other) content = .ok after) :
    Confined directory before after := by
  unfold write at written
  split at written
  case h_1 => contradiction
  case h_2 location found notDirectory located =>
      obtain rfl := Except.ok.inj written
      obtain ⟨leads, -⟩ := locate_ok located
      refine ⟨rfl, fun place => ?_⟩
      by_cases same : place = location
      · subst same
        rw [Tree.place, Path.anchor_join relative, Path.parts_join relative, resolve_append]
          at leads
        rw [leads]
        exact .inr (.inl (prefix_resolve _ down))
      · exact .inl (before.get?_put_other _ same)
  case h_3 => contradiction

theorem workingDirectory_write {path : Path} {content : ByteArray}
    (written : before.write path content = .ok after) :
    after.workingDirectory = before.workingDirectory := by
  unfold write at written
  split at written
  · contradiction
  · obtain rfl := Except.ok.inj written
    rfl
  · contradiction

/-- Writing source may end before anything is done, with the directories or with the file. -/
theorem writeSource_cases (tree : Tree) (path : Path) (code : String) :
    (tree.writeSource path code).1 = tree ∨
      (tree.writeSource path code).1 = (tree.ensureDirectories path.parent).1 ∨
        ∃ content, (tree.ensureDirectories path.parent).1.write path content =
          .ok (tree.writeSource path code).1 := by
  rw [writeSource_eq]
  split
  · exact .inl rfl
  · split
    case h_1 between refusal made =>
        rw [made]
        exact .inr (.inl rfl)
    case h_2 between made =>
        rw [made]
        split
        · exact .inr (.inl rfl)
        · split
          case h_1 after written => exact .inr (.inr ⟨_, written⟩)
          case h_2 => exact .inr (.inl rfl)

/-- Source that is written below a directory stays there, however the writing ends. -/
theorem confined_writeSource (tree : Tree) {other : Path} (relative : other.isAbsolute = false)
    (down : ".." ∉ other.parts) (code : String) :
    Confined directory tree (tree.writeSource (directory.join other) code).1 := by
  have parents := extended_ensureDirectories tree (directory.join other).parent
  have parentsConfined :=
    (parents.mono fun _ entered => (enters_parent entered).onTheWay).confined relative down
  rcases tree.writeSource_cases (directory.join other) code with same | same | ⟨content, written⟩
  · rw [same]
    exact confined_refl directory tree
  · rw [same]
    exact parentsConfined
  · exact parentsConfined.trans (confined_write relative down written)

theorem workingDirectory_writeSource (tree : Tree) (path : Path) (code : String) :
    (tree.writeSource path code).1.workingDirectory = tree.workingDirectory := by
  have parents := (extended_ensureDirectories tree path.parent).workingDirectory
  rcases tree.writeSource_cases path code with same | same | ⟨content, written⟩
  · rw [same]
  · rw [same, parents]
  · rw [workingDirectory_write written, parents]

end Confined

end Tree

end DexBrowser.Files

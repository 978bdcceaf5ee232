import DexBrowser.Proofs.Files.Neighbours

/-!
What writing a text does to a tree. Main statement: it ends well exactly if nothing stands in its
way and the whole text can be put into the file; then every directory that the path enters is
there, and nothing else changed. If something stands in the way, some of those directories were
made at most. Otherwise the file that was there is lost.
-/

namespace DexBrowser.Files.Tree

open Text.Utf8 (CodePoint codePoints encode)

/-! ## Ways that are free -/

/-- Nothing stands in the way of a directory: the path and its names are short enough, and no place
that it enters is a file's. -/
structure Free (tree : Tree) (path : Path) : Prop where
  short : path.text.utf8ByteSize ≤ pathLimit
  names : ∀ name ∈ path.parts, name.utf8ByteSize ≤ nameLimit
  places : ∀ location, tree.Enters path location →
    ∀ content, tree.get? location ≠ some (.file content)

/-- Every place but the last that a walk enters is a directory's; if it ends at a directory, so is
the last. -/
theorem walk_through {tree : Tree} {here location : Location} {names : List String}
    (walked : tree.walk here (some .directory) names = .ok (location, some .directory)) :
    (∀ name ∈ names, name.utf8ByteSize ≤ nameLimit) ∧
      ∀ front name, front ++ [name] <+: names → name ≠ "." → name ≠ ".." →
        tree.get? (resolve here (front ++ [name])) = some .directory := by
  induction names generalizing here with
  | nil => simp
  | cons first rest ih =>
      -- What is said of the first name and of the walk behind it is said of both.
      have joined {next : Location} (fits : first.utf8ByteSize ≤ nameLimit)
          (walked : tree.walk next (some .directory) rest = .ok (location, some .directory))
          (leads : ∀ names, resolve here (first :: names) = resolve next names)
          (entered : first ≠ "." → first ≠ ".." → tree.get? next = some .directory) :
          (∀ name ∈ first :: rest, name.utf8ByteSize ≤ nameLimit) ∧
            ∀ front name, front ++ [name] <+: first :: rest → name ≠ "." → name ≠ ".." →
              tree.get? (resolve here (front ++ [name])) = some .directory := by
        obtain ⟨restFits, through⟩ := ih walked
        refine ⟨List.forall_mem_cons.mpr ⟨fits, restFits⟩, ?_⟩
        intro front name isFront notDot notUp
        cases front with
        | nil =>
            obtain ⟨rfl, -⟩ := List.cons_prefix_cons.mp isFront
            rw [List.nil_append, leads, resolve]
            exact entered notDot notUp
        | cons other front =>
            obtain ⟨rfl, inRest⟩ := List.cons_prefix_cons.mp isFront
            rw [List.cons_append, leads]
            exact through front name inRest notDot notUp
      rw [walk] at walked
      split at walked
      case isTrue isDot =>
          subst isDot
          exact joined (by decide) walked (fun names => rfl) fun notDot => absurd rfl notDot
      case isFalse notDot =>
          split at walked
          case isTrue isUp =>
              subst isUp
              exact joined (by decide) walked (fun names => rfl) fun _ notUp => absurd rfl notUp
          case isFalse notUp =>
              split at walked
              · contradiction
              case isFalse fits =>
                  have isDirectory := walk_to_directory walked
                  rw [isDirectory] at walked
                  refine joined (Nat.not_lt.mp fits) walked (fun names => ?_) fun _ _ => isDirectory
                  rw [resolve, if_neg notDot, if_neg notUp]

theorem walk_free {tree : Tree} {here : Location} {names : List String} {reason : Reason}
    (fits : ∀ name ∈ names, name.utf8ByteSize ≤ nameLimit)
    (places : ∀ front name, front ++ [name] <+: names → name ≠ "." → name ≠ ".." →
      ∀ content, tree.get? (resolve here (front ++ [name])) ≠ some (.file content))
    (refused : tree.walk here (some .directory) names = .error reason) : reason = .missing := by
  induction names generalizing here with
  | nil => cases refused
  | cons first rest ih =>
      obtain ⟨firstFits, restFits⟩ := List.forall_mem_cons.mp fits
      have further {next : Location}
          (leads : ∀ names, resolve here (first :: names) = resolve next names)
          (refused : tree.walk next (some .directory) rest = .error reason) :
          reason = .missing := by
        refine ih restFits (fun front name isFront notDot notUp => ?_) refused
        rw [← leads]
        exact places (first :: front) name (List.cons_prefix_cons.mpr ⟨rfl, isFront⟩) notDot notUp
      rw [walk] at refused
      split at refused
      case isTrue isDot =>
          subst isDot
          exact further (fun names => rfl) refused
      case isFalse notDot =>
          split at refused
          case isTrue isUp =>
              subst isUp
              exact further (fun names => rfl) refused
          case isFalse notUp =>
              rw [if_neg (Nat.not_lt.mpr firstFits)] at refused
              have leads (names : List String) :
                  resolve here (first :: names) = resolve (here ++ [first]) names := by
                rw [resolve, if_neg notDot, if_neg notUp]
              cases entry : tree.get? (here ++ [first]) with
              | none =>
                  rw [entry] at refused
                  cases rest with
                  | nil => cases refused
                  | cons next rest => exact (Except.error.inj refused).symm
              | some stands =>
                  rw [entry] at refused
                  cases stands with
                  | directory => exact further leads refused
                  | file content =>
                      have noFile := places [] first ⟨rest, rfl⟩ notDot notUp content
                      rw [List.nil_append, leads, resolve] at noFile
                      exact absurd entry noFile

section Free

variable {tree after : Tree} {path : Path}

theorem ne_dot_of_front {names : List String} {name : String}
    (front : names ++ [name] <+: path.parts) : name ≠ "." := by
  have clean := path.clean name (front.subset (by simp))
  intro dot
  rw [dot] at clean
  exact absurd clean (by decide)

theorem Stands.through (stands : tree.Stands path) :
    path.text.utf8ByteSize ≤ pathLimit ∧ (∀ name ∈ path.parts, name.utf8ByteSize ≤ nameLimit) ∧
      ∀ location, tree.Enters path location → tree.get? location = some .directory := by
  unfold Stands locate at stands
  split at stands
  · contradiction
  case isFalse short =>
      obtain ⟨fits, through⟩ := walk_through stands
      refine ⟨Nat.not_lt.mp short, fits, fun location entered => ?_⟩
      obtain ⟨names, name, front, notUp, rfl⟩ := entered
      exact through names name front (ne_dot_of_front front) notUp

theorem Enters.extended {made : Location → Prop} (extended : tree.Extended made after)
    {location : Location} : after.Enters path location ↔ tree.Enters path location := by
  rw [Enters, Enters, start_eq extended.workingDirectory]

theorem Extended.free_iff {made : Location → Prop} (extended : tree.Extended made after) :
    after.Free path ↔ tree.Free path := by
  have sameFiles (location : Location) (content : ByteArray) :
      after.get? location = some (.file content) ↔ tree.get? location = some (.file content) := by
    rcases extended.places location with same | ⟨-, missing, isDirectory⟩
    · rw [same]
    · rw [missing, isDirectory]
      exact ⟨fun same => (nomatch same), fun same => (nomatch same)⟩
  constructor
  · intro free
    refine ⟨free.short, free.names, fun location entered content isFile => ?_⟩
    exact free.places location ((Enters.extended extended).mpr entered) content
      ((sameFiles location content).mpr isFile)
  · intro free
    refine ⟨free.short, free.names, fun location entered content isFile => ?_⟩
    exact free.places location ((Enters.extended extended).mp entered) content
      ((sameFiles location content).mp isFile)

theorem Stands.free (stands : tree.Stands path) : tree.Free path := by
  obtain ⟨short, names, through⟩ := stands.through
  refine ⟨short, names, fun location entered content isFile => ?_⟩
  rw [through location entered] at isFile
  cases isFile

theorem Free.parent (free : tree.Free path) (below : path.parts ≠ []) : tree.Free path.parent where
  short := Nat.le_trans (Path.size_text_parent_le below) free.short
  names name member := free.names name (List.dropLast_subset _ member)
  places location entered := free.places location (enters_parent entered)

/-- A directory that cannot be made though the way is free is there, or its parent is not. -/
theorem Free.refused (free : tree.Free path) {reason : Reason}
    (refused : tree.makeDirectory path = .error reason) : tree.Stands path ∨ reason = .missing := by
  unfold makeDirectory at refused
  cases located : tree.locate path with
  | error other =>
      rw [located] at refused
      obtain rfl := Except.error.inj refused
      rw [locate, if_neg (Nat.not_lt.mpr free.short)] at located
      refine .inr (walk_free free.names (fun front name isFront _ notUp => ?_) located)
      exact free.places _ ⟨front, name, isFront, notUp, rfl⟩
  | ok result =>
      obtain ⟨location, found⟩ := result
      cases found with
      | none => rw [located] at refused; cases refused
      | some entry =>
          cases entry with
          | directory => exact .inl (by rw [Stands, located, (locate_ok located).1])
          | file content =>
              have entered := enters_of_located located (by simp)
              have isFile := ((stays_refl tree).locate located (by simp)).1
              exact absurd isFile (free.places location entered content)

theorem locate_ne_missing (below : path.parts ≠ []) (stands : tree.Stands path.parent) :
    tree.locate path ≠ .error .missing := by
  intro missing
  have short : path.text.utf8ByteSize ≤ pathLimit := by
    unfold locate at missing
    split at missing
    · contradiction
    case isFalse short => exact Nat.not_lt.mp short
  have atParent : tree.locate path.parent = _ := stands
  rw [locate_eq below short, atParent] at missing
  simp only [walk] at missing
  split at missing
  · contradiction
  · split at missing
    · contradiction
    · split at missing <;> contradiction

theorem Free.ensureDirectory (free : tree.Free path) (noNul : path.holdsNul = false)
    (below : path.parts ≠ []) (stands : tree.Stands path.parent) :
    ∃ after, tree.ensureDirectory path = (after, .ok ()) := by
  unfold Tree.ensureDirectory
  cases made : tree.makeDirectory path with
  | ok after => exact ⟨after, rfl⟩
  | error reason =>
      refine ⟨tree, Prod.ext rfl (acceptDirectory_ok_iff.mpr ⟨noNul, ?_⟩)⟩
      refine (free.refused made).resolve_right fun missing => ?_
      subst missing
      apply locate_ne_missing below stands
      unfold makeDirectory at made
      split at made
      case h_1 | h_2 => cases made
      case h_3 other located => rw [located, Except.error.inj made]

theorem Free.ensureDirectories {tree : Tree} {path : Path} (free : tree.Free path)
    (noNul : path.holdsNul = false) : ∃ after, tree.ensureDirectories path = (after, .ok ()) := by
  by_cases stands : tree.Stands path
  case pos => exact ⟨tree, stands.ensureDirectories noNul⟩
  case neg =>
      unfold Tree.ensureDirectories
      cases made : tree.makeDirectory path with
      | ok after => exact ⟨after, rfl⟩
      | error reason =>
          obtain rfl := (free.refused made).resolve_left stands
          -- Only an empty path is not longer than its parent, and that one is there.
          have below : path.parts ≠ [] := by
            intro nothing
            apply stands
            rw [Stands, locate, if_neg (Nat.not_lt.mpr free.short), place, nothing]
            rfl
          have shorter : path.parent.parts.length < path.parts.length := by
            have positive := List.length_pos_of_ne_nil below
            rw [Path.parts_parent, List.length_dropLast]
            omega
          dsimp only
          rw [dif_pos shorter]
          obtain ⟨between, parents⟩ := (free.parent below).ensureDirectories (holdsNul_parent noNul)
          have extended := extended_ensureDirectories tree path.parent
          rw [parents] at extended ⊢
          exact (extended.free_iff.mpr free).ensureDirectory noNul below
            (stands_of_ensureDirectories parents)
termination_by path.parts.length

theorem ensureDirectories_ok_iff (noNul : path.holdsNul = false) :
    (tree.ensureDirectories path).2 = .ok () ↔ tree.Free path := by
  constructor
  · intro ensured
    have stands := stands_of_ensureDirectories (Prod.ext (rfl : _ = _) ensured)
    exact (extended_ensureDirectories tree path).free_iff.mp stands.free
  · intro free
    obtain ⟨after, ensured⟩ := free.ensureDirectories noNul
    rw [ensured]

end Free

/-! ## Writing -/

/-- Nothing stands in the way of a source file. A file that is at its place is no obstacle. -/
structure Writable (tree : Tree) (path : Path) : Prop where
  noNul : path.holdsNul = false
  below : path.parts ≠ []
  down : path.name ≠ ".."
  fits : Fits path
  free : tree.Free path.parent
  place : tree.get? (tree.place path) ≠ some .directory
  apart : ¬ tree.Enters path.parent (tree.place path)

/-- A file was written, with the directories that its path enters. -/
structure Placed (tree : Tree) (path : Path) (content : ByteArray) (after : Tree) : Prop where
  workingDirectory : after.workingDirectory = tree.workingDirectory
  readable : after.read path = .ok content
  holds : after.get? (tree.place path) = some (.file content)
  directories : ∀ location, tree.Enters path.parent location →
    after.get? location = some .directory
  others : ∀ location, location ≠ tree.place path → after.get? location = tree.get? location ∨
    tree.Enters path.parent location ∧ tree.get? location = none

section Writing

variable {tree between after : Tree} {path : Path}

theorem write_ok_iff (stands : tree.Stands path.parent) {content : ByteArray} :
    tree.write path content = .ok after ↔ path.parts ≠ [] ∧ path.name ≠ ".." ∧ Fits path ∧
      tree.get? (tree.place path) ≠ some .directory ∧
        tree.put (tree.place path) (.file content) = after := by
  by_cases inside : path.parts ≠ [] ∧ path.name ≠ ".."
  case pos =>
      rw [write_in inside.1 inside.2 stands, and_iff_right inside.1, and_iff_right inside.2]
      split
      case isFalse long => simp [long]
      case isTrue fits =>
          split
          case isTrue isDirectory => simp [isDirectory]
          case isFalse free => simp [fits, free]
  case neg =>
      refine ⟨fun written => absurd ?_ inside, fun ⟨below, down, _⟩ => absurd ⟨below, down⟩ inside⟩
      unfold write at written
      split at written
      case h_1 | h_3 => contradiction
      case h_2 location found notDirectory located =>
          unfold locate at located
          split at located
          · contradiction
          · obtain ⟨front, name, whole, notUp⟩ := walk_entered located fun same => notDirectory same
            rw [Path.name, whole]
            exact ⟨by simp, by simpa using notUp⟩

/-- Of what a directory's making leaves, the place of a file is only taken by a directory that was
there before or lies on the way. -/
theorem get?_ensured_iff (ensured : tree.ensureDirectories path = (between, .ok ()))
    (location : Location) : between.get? location = some .directory ↔
      tree.get? location = some .directory ∨ tree.Enters path location := by
  have extended := extended_ensureDirectories tree path
  rw [ensured] at extended
  constructor
  · intro isDirectory
    rcases extended.places location with same | ⟨entered, -, -⟩
    · exact .inl (same ▸ isDirectory)
    · exact .inr entered
  · intro either
    cases either with
    | inl isDirectory => exact extended.stays.directories location isDirectory
    | inr entered =>
        obtain ⟨-, -, through⟩ := (stands_of_ensureDirectories ensured).through
        exact through location ((Enters.extended extended).mpr entered)

variable {room : Room} {text : List CodePoint}

theorem Writable.ensureDirectories (writable : tree.Writable path) :
    ∃ between, tree.ensureDirectories path.parent = (between, .ok ()) :=
  writable.free.ensureDirectories (holdsNul_parent writable.noNul)

/-- Once the directories are made, the file can be put at its place exactly if nothing else was in
the way. -/
theorem write_ensured_iff (noNul : path.holdsNul = false)
    (ensured : tree.ensureDirectories path.parent = (between, .ok ())) {content : ByteArray} :
    between.write path content = .ok after ↔
      tree.Writable path ∧ between.put (tree.place path) (.file content) = after := by
  have freed : (tree.ensureDirectories path.parent).2 = .ok () ↔ tree.Free path.parent :=
    ensureDirectories_ok_iff (holdsNul_parent noNul)
  have samePlace : between.place path = tree.place path := by
    have extended := extended_ensureDirectories tree path.parent
    rw [ensured] at extended
    exact extended.stays.place path
  have taken : between.get? (tree.place path) ≠ some .directory ↔
      tree.get? (tree.place path) ≠ some .directory ∧
        ¬ tree.Enters path.parent (tree.place path) := by
    rw [Ne, get?_ensured_iff ensured, not_or]
  rw [ensured] at freed
  rw [write_ok_iff (stands_of_ensureDirectories ensured), samePlace, taken]
  constructor
  · intro ends
    obtain ⟨below, down, fits, ⟨place, apart⟩, put⟩ := ends
    exact ⟨⟨noNul, below, down, fits, freed.mp rfl, place, apart⟩, put⟩
  · intro ends
    obtain ⟨writable, put⟩ := ends
    exact ⟨writable.below, writable.down, writable.fits, ⟨writable.place, writable.apart⟩, put⟩

theorem Writable.writeText (writable : tree.Writable path) :
    tree.writeText room path text =
      ((tree.ensureDirectories path.parent).1.put (tree.place path)
        (.file (room.leaves path text).1), (room.leaves path text).2) := by
  obtain ⟨between, ensured⟩ := writable.ensureDirectories
  have written : between.write path (room.leaves path text).1 = .ok _ :=
    (write_ensured_iff writable.noNul ensured).mpr ⟨writable, rfl⟩
  rw [writeText_eq, if_neg (by simp [holdsNul_parent writable.noNul]), ensured]
  dsimp only
  rw [if_neg (by simp [writable.noNul]), written]

theorem writeText_blocked (room : Room) (text : List CodePoint)
    (blocked : ¬ tree.Writable path) :
    ∃ between fault, tree.writeText room path text = (between, .error fault) ∧
      tree.Extended (tree.Enters path.parent) between ∧
        (fault = .value .nulCharacter ∨ ∃ refusal, fault = .notWritten refusal path) := by
  have extended := extended_ensureDirectories tree path.parent
  rw [writeText_eq]
  split
  case isTrue => exact ⟨tree, _, rfl, extended_refl _ tree, .inl rfl⟩
  case isFalse =>
      split
      case h_1 between refusal ensured =>
          rw [ensured] at extended
          exact ⟨between, _, rfl, extended, .inr ⟨refusal, rfl⟩⟩
      case h_2 between ensured =>
          rw [ensured] at extended
          split
          case isTrue => exact ⟨between, _, rfl, extended, .inl rfl⟩
          case isFalse noNul =>
              split
              case h_1 after written =>
                  exact absurd ((write_ensured_iff (by simpa using noNul) ensured).mp written).1
                    blocked
              case h_2 refusal written => exact ⟨between, _, rfl, extended, .inr ⟨refusal, rfl⟩⟩

theorem Writable.placed (writable : tree.Writable path) (content : ByteArray) :
    tree.Placed path content
      ((tree.ensureDirectories path.parent).1.put (tree.place path) (.file content)) := by
  obtain ⟨between, ensured⟩ := writable.ensureDirectories
  have extended := extended_ensureDirectories tree path.parent
  have stands := stands_of_ensureDirectories ensured
  have free := (get?_ensured_iff ensured (tree.place path)).not.mpr
    (not_or.mpr ⟨writable.place, writable.apart⟩)
  rw [ensured] at extended ⊢
  have inRoot : tree.place path ≠ [] := by
    intro root
    apply writable.place
    rw [root]
    rfl
  have further := stays_put between free content
  refine ⟨(extended.stays.trans further).workingDirectory, ?_, get?_put_same _ _ inRoot, ?_, ?_⟩
  · have located := locate_in writable.below writable.down (further.stands stands)
    rw [if_pos writable.fits, (extended.stays.trans further).place path,
      get?_put_same _ _ inRoot] at located
    exact read_eq_ok_iff.mpr ⟨_, located⟩
  · intro location entered
    have elsewhere : location ≠ tree.place path := by
      rintro rfl
      exact writable.apart entered
    rw [get?_put_other _ _ elsewhere]
    exact (get?_ensured_iff ensured location).mpr (.inr entered)
  · intro location elsewhere
    rw [get?_put_other _ _ elsewhere]
    rcases extended.places location with same | ⟨entered, missing, -⟩
    · exact .inl same
    · exact .inr ⟨entered, missing⟩

end Writing

/-! ## How writing ends -/

/-- What there is room for is shorter than a content. -/
structure Cuts (room : Room) (content : ByteArray) (count : Nat) (reason : Reason) : Prop where
  limit : room = .upTo count reason
  long : count < content.size

theorem take_cases (room : Room) (content : ByteArray) :
    ((∀ count reason, ¬ Cuts room content count reason) ∧ room.take content = (content, .ok ())) ∨
      ∃ count reason, Cuts room content count reason ∧
        room.take content = (content.extract 0 count, .error reason) := by
  cases room with
  | ample => exact .inl ⟨fun count reason cuts => (nomatch cuts.limit), rfl⟩
  | upTo count reason =>
      by_cases fits : content.size ≤ count
      · refine .inl ⟨fun other because cuts => ?_, if_pos fits⟩
        obtain ⟨rfl, -⟩ := Room.upTo.inj cuts.limit
        exact Nat.not_le.mpr cuts.long fits
      · exact .inr ⟨count, reason, ⟨rfl, Nat.not_le.mp fits⟩, if_neg fits⟩

/-- How the writing of a text ends, and with which tree. Before the file is opened, some directories
are made at most; after that, what it held is lost. -/
inductive Ending (room : Room) (tree : Tree) (path : Path) (text : List CodePoint) :
    Tree → Except Fault Unit → Prop where
  | written {after content} (writable : tree.Writable path) (encoded : encode text = .ok content)
      (whole : ∀ count reason, ¬ Cuts room content count reason)
      (placed : tree.Placed path content after) : Ending room tree path text after (.ok ())
  | nul {after} (blocked : ¬ tree.Writable path)
      (extended : tree.Extended (tree.Enters path.parent) after) :
      Ending room tree path text after (.error (.value .nulCharacter))
  | refused {after refusal} (blocked : ¬ tree.Writable path)
      (extended : tree.Extended (tree.Enters path.parent) after) :
      Ending room tree path text after (.error (.notWritten refusal path))
  | unencodable {after why} (writable : tree.Writable path) (malformed : encode text = .error why)
      (emptied : tree.Placed path .empty after) :
      Ending room tree path text after (.error (.value (.notEncodable why)))
  | cut {after content count reason} (writable : tree.Writable path)
      (encoded : encode text = .ok content) (cuts : Cuts room content count reason)
      (front : tree.Placed path (content.extract 0 count) after) :
      Ending room tree path text after (.error (.notWritten ⟨reason, path⟩ path))

theorem Writable.ending {room : Room} {tree : Tree} {path : Path} {text : List CodePoint}
    (writable : tree.Writable path) :
    Ending room tree path text (tree.writeText room path text).1
      (tree.writeText room path text).2 := by
  have placed := writable.placed
  rw [writable.writeText, Room.leaves]
  cases encoded : encode text with
  | error why => exact .unencodable writable encoded (placed _)
  | ok content =>
      dsimp only
      rcases take_cases room content with ⟨whole, took⟩ | ⟨count, reason, cuts, took⟩
      · rw [took]
        exact .written writable encoded whole (placed _)
      · rw [took]
        exact .cut writable encoded cuts (placed _)

/-- A text is written exactly if nothing stands in the way, all of it has an encoding and there is
room for that. Then the file holds the encoding, every directory that the path enters is there, and
all else is as it was. Where something stands in the way, nothing happens but that some of those
directories are made where nothing stood. Otherwise the file was opened, and is left with nothing or
with the front of the encoding. -/
theorem writeText_effect (room : Room) (tree : Tree) (path : Path) (text : List CodePoint) :
    let ran := tree.writeText room path text
    Ending room tree path text ran.1 ran.2 ∧
      (ran.2 = .ok () ↔ tree.Writable path ∧ ∃ content, encode text = .ok content ∧
        ∀ count reason, ¬ Cuts room content count reason) := by
  intro ran
  have ending : Ending room tree path text ran.1 ran.2 := by
    by_cases writable : tree.Writable path
    case pos => exact writable.ending
    case neg =>
        obtain ⟨between, fault, same, extended, rfl | ⟨refusal, rfl⟩⟩ :=
          writeText_blocked room text writable
        · rw [show ran = _ from same]
          exact .nul writable extended
        · rw [show ran = _ from same]
          exact .refused writable extended
  refine ⟨ending, ?_⟩
  generalize ran.1 = after, ran.2 = ended at ending
  cases ending with
  | written writable encoded whole placed => simp [writable, encoded, whole]
  | nul blocked _ => simp [blocked]
  | refused blocked _ => simp [blocked]
  | unencodable _ malformed _ => simp [malformed]
  | cut _ encoded cuts _ =>
      simp only [reduceCtorEq, encoded, Except.ok.injEq, exists_eq_left', false_iff, not_and]
      exact fun _ whole => whole _ _ cuts

def oneFile : Tree :=
    ({} : Tree).put ["f"] (.file "long before".toUTF8)

/-- A file is lost to a text that has no encoding or for which there is too little room, and one
that was not there is left behind. The way to a file may lead through a directory that it is not
in. -/
theorem oneFile_lost :
    let unencoded := oneFile.writeText .ample (Path.ofString "f") [.character 'x', .surrogate 0]
    let full := oneFile.writeText (.upTo 1 .noSpace) (Path.ofString "f") (codePoints "xy")
    let made := oneFile.writeText (.upTo 0 .noSpace) (Path.ofString "d/g") (codePoints "xy")
    let around := oneFile.writeText .ample (Path.ofString "d/../g") (codePoints "xy")
    oneFile.get? ["f"] = some (.file "long before".toUTF8) ∧
      unencoded.2 = .error (.value (.notEncodable ⟨1, [0]⟩)) ∧
        unencoded.1.get? ["f"] = some (.file .empty) ∧
      full.2 = .error (.notWritten ⟨.noSpace, Path.ofString "f"⟩ (Path.ofString "f")) ∧
        full.1.get? ["f"] = some (.file "x".toUTF8) ∧
      (∃ fault, made.2 = .error fault) ∧ oneFile.get? ["d", "g"] = none ∧
        made.1.get? ["d", "g"] = some (.file .empty) ∧
      around.2 = .ok () ∧ oneFile.place (Path.ofString "d/../g") = ["g"] ∧
        around.1.get? ["d"] = some .directory := by
  intro unencoded full made around
  refine ⟨by decide +kernel, by decide +kernel, by decide +kernel, by decide +kernel,
    by decide +kernel, ⟨.notWritten ⟨.noSpace, Path.ofString "d/g"⟩ (Path.ofString "d/g"), ?_⟩,
    by decide +kernel, by decide +kernel, by decide +kernel, by decide +kernel, by decide +kernel⟩
  decide +kernel

end DexBrowser.Files.Tree

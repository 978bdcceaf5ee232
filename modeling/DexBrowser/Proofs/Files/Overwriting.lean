import DexBrowser.Proofs.Files.Confinement

/-!
What files hold after one source file was written after the other. Main statement: every file holds
its own source in the end exactly if files at one place are written with the same source.
-/

namespace DexBrowser.Files.Tree

/-! ## Directories that stay -/

/-- No directory goes away or becomes a file. -/
structure Stays (before after : Tree) : Prop where
  workingDirectory : after.workingDirectory = before.workingDirectory
  directories : ∀ location, before.get? location = some .directory →
    after.get? location = some .directory

section Stays

variable {before between after : Tree}

theorem stays_refl (tree : Tree) : tree.Stays tree :=
  ⟨rfl, fun _ isDirectory => isDirectory⟩

theorem Stays.trans (first : before.Stays between) (second : between.Stays after) :
    before.Stays after where
  workingDirectory := second.workingDirectory.trans first.workingDirectory
  directories location isDirectory :=
    second.directories location (first.directories location isDirectory)

theorem Stays.place (stays : before.Stays after) (path : Path) :
    after.place path = before.place path := by
  rw [Tree.place, Tree.place, start_eq stays.workingDirectory]

theorem Extended.stays {made : Location → Prop} (extended : before.Extended made after) :
    before.Stays after := by
  refine ⟨extended.workingDirectory, fun location isDirectory => ?_⟩
  rcases extended.places location with same | ⟨-, -, already⟩
  · rw [same, isDirectory]
  · exact already

theorem stays_put (tree : Tree) {location : Location}
    (notDirectory : tree.get? location ≠ some .directory) (content : ByteArray) :
    tree.Stays (tree.put location (.file content)) := by
  refine ⟨rfl, fun other isDirectory => ?_⟩
  rw [tree.get?_put_other]
  · exact isDirectory
  · rintro rfl
    exact notDirectory isDirectory

theorem Stays.walk (stays : before.Stays after) {here location : Location} {names : List String}
    {found : Option Entry}
    (walked : before.walk here (some .directory) names = .ok (location, found))
    (notDirectory : found ≠ some .directory) :
    before.get? location = found ∧
      after.walk here (some .directory) names = .ok (location, after.get? location) := by
  induction names generalizing here with
  | nil =>
      rw [Tree.walk] at walked
      obtain ⟨-, rfl⟩ := Prod.mk.inj (Except.ok.inj walked)
      exact absurd rfl notDirectory
  | cons name rest ih =>
      rw [Tree.walk] at walked ⊢
      split at walked
      case isTrue same =>
          rw [if_pos same]
          exact ih walked
      case isFalse other =>
          rw [if_neg other]
          split at walked
          case isTrue up =>
              rw [if_pos up]
              exact ih walked
          case isFalse notUp =>
              rw [if_neg notUp]
              split at walked
              · contradiction
              case isFalse short =>
                  rw [if_neg short]
                  cases rest with
                  | nil =>
                      rw [Tree.walk] at walked ⊢
                      obtain ⟨rfl, rfl⟩ := Prod.mk.inj (Except.ok.inj walked)
                      exact ⟨rfl, rfl⟩
                  | cons next rest =>
                      cases entry : before.get? (here ++ [name]) with
                      | none =>
                          rw [entry] at walked
                          contradiction
                      | some stands =>
                          rw [entry] at walked
                          cases stands with
                          | file content => contradiction
                          | directory =>
                              rw [stays.directories _ entry]
                              exact ih walked

theorem Stays.locate (stays : before.Stays after) {path : Path} {location : Location}
    {found : Option Entry} (located : before.locate path = .ok (location, found))
    (notDirectory : found ≠ some .directory) :
    before.get? location = found ∧ after.locate path = .ok (location, after.get? location) := by
  unfold Tree.locate at located ⊢
  split at located
  · contradiction
  case isFalse short =>
      rw [if_neg short, start_eq stays.workingDirectory]
      exact stays.walk located notDirectory

end Stays

/-! ## Reading -/

section Reading

variable {tree after : Tree} {path other : Path}

theorem read_eq_ok_iff {content : ByteArray} :
    tree.read path = .ok content ↔
      ∃ location, tree.locate path = .ok (location, some (.file content)) := by
  unfold read
  split <;> simp_all

theorem get?_of_read {content : ByteArray} (readable : tree.read path = .ok content) :
    tree.get? (tree.place path) = some (.file content) := by
  obtain ⟨location, located⟩ := read_eq_ok_iff.mp readable
  rw [← (locate_ok located).1]
  exact ((stays_refl tree).locate located (by simp)).1

theorem Stays.read (stays : tree.Stays after) {content new : ByteArray}
    (readable : tree.read path = .ok content)
    (holds : after.get? (tree.place path) = some (.file new)) : after.read path = .ok new := by
  obtain ⟨location, located⟩ := read_eq_ok_iff.mp readable
  obtain ⟨leads, -⟩ := locate_ok located
  obtain ⟨-, again⟩ := stays.locate located (by simp)
  rw [← leads] at holds
  rw [holds] at again
  exact read_eq_ok_iff.mpr ⟨location, again⟩

/-! ## Writing one source file -/

/-- Source that was written is a file that was put where no directory stood, after directories were
made. -/
theorem writeSource_ok {code : String} (written : tree.writeSource path code = (after, .ok ())) :
    ∃ between location found, tree.Stays between ∧ between.locate path = .ok (location, found) ∧
      found ≠ some .directory ∧ after = between.put location (.file code.toUTF8) ∧
        (∀ place content, tree.get? place = some (.file content) →
          between.get? place = some (.file content)) := by
  have extended := extended_ensureDirectories tree path.parent
  rw [writeSource_eq] at written
  split at written
  · cases written
  · split at written
    case h_1 => cases written
    case h_2 between made =>
        rw [made] at extended
        split at written
        · cases written
        · split at written
          case h_2 => cases written
          case h_1 final done =>
              obtain ⟨rfl, -⟩ := Prod.mk.inj written
              unfold write at done
              split at done
              case h_1 => contradiction
              case h_3 => contradiction
              case h_2 location found notDirectory located =>
                  refine ⟨between, location, found, extended.stays, located, ?_,
                    (Except.ok.inj done).symm, fun place content holds => ?_⟩
                  · rintro rfl
                    exact notDirectory rfl
                  · rcases extended.places place with same | ⟨-, missing, -⟩
                    · rw [same, holds]
                    · rw [holds] at missing
                      contradiction

theorem read_writeSource_same {code : String}
    (written : tree.writeSource path code = (after, .ok ())) :
    tree.Stays after ∧ after.read path = .ok code.toUTF8 := by
  obtain ⟨between, location, found, stays, located, notDirectory, rfl, -⟩ := writeSource_ok written
  have stands := ((stays_refl between).locate located notDirectory).1
  have further := stays_put between (stands ▸ notDirectory) code.toUTF8
  obtain ⟨-, again⟩ := further.locate located notDirectory
  rw [get?_put_same] at again
  · exact ⟨stays.trans further, read_eq_ok_iff.mpr ⟨location, again⟩⟩
  · rintro rfl
    exact notDirectory stands.symm

theorem read_writeSource_other {code : String}
    (written : tree.writeSource path code = (after, .ok ())) {content : ByteArray}
    (readable : tree.read other = .ok content) (apart : tree.place other ≠ tree.place path) :
    after.read other = .ok content := by
  obtain ⟨stays, -⟩ := read_writeSource_same written
  refine stays.read readable ?_
  obtain ⟨between, location, found, first, located, -, rfl, files⟩ := writeSource_ok written
  rw [← first.place path, ← (locate_ok located).1] at apart
  rw [get?_put_other _ _ apart]
  exact files _ _ (get?_of_read readable)

theorem read_writeSource {code : String} (written : tree.writeSource path code = (after, .ok ()))
    {content : ByteArray} (readable : tree.read other = .ok content) :
    after.read other =
      .ok (if tree.place other = tree.place path then code.toUTF8 else content) := by
  split
  case isTrue same =>
      obtain ⟨stays, atPath⟩ := read_writeSource_same written
      refine stays.read readable ?_
      rw [same, ← stays.place path]
      exact get?_of_read atPath
  case isFalse apart => exact read_writeSource_other written readable apart

end Reading

/-! ## Writing one after the other -/

/-- Source files are written one after the other, all of them with success. -/
inductive Written : Tree → List (Path × String) → Tree → Prop
  | nil (tree : Tree) : Written tree [] tree
  | cons {before between after : Tree} {path : Path} {code : String}
      {rest : List (Path × String)} (done : before.writeSource path code = (between, .ok ()))
      (others : Written between rest after) : Written before ((path, code) :: rest) after

namespace Written

variable {before between after : Tree} {writes more : List (Path × String)}

theorem append (first : Written before writes between) (second : Written between more after) :
    Written before (writes ++ more) after := by
  induction first with
  | nil => exact second
  | cons done _ ih => exact .cons done (ih second)

theorem stays (written : Written before writes after) : before.Stays after := by
  induction written with
  | nil tree => exact stays_refl tree
  | cons done _ ih => exact (read_writeSource_same done).1.trans ih

theorem read (written : Written before writes after) {path : Path} {content : ByteArray}
    (readable : before.read path = .ok content)
    (same : ∀ w ∈ writes, before.place w.1 = before.place path → w.2.toUTF8 = content) :
    after.read path = .ok content := by
  induction written with
  | nil => exact readable
  | @cons before between after written code rest done _ ih =>
      obtain ⟨stays, -⟩ := read_writeSource_same done
      refine ih ?_ fun w member place => same w (List.mem_cons_of_mem _ member) ?_
      · rw [read_writeSource done readable]
        split
        case isTrue place => rw [same _ List.mem_cons_self place.symm]
        case isFalse => rfl
      · rw [← stays.place, ← stays.place, place]

/-- Every file holds its source in the end exactly if no two files at one place are written with
different source. -/
theorem kept_iff (written : Written before writes after) :
    (∀ w ∈ writes, after.read w.1 = .ok w.2.toUTF8) ↔
      ∀ w ∈ writes, ∀ v ∈ writes, before.place w.1 = before.place v.1 → w.2 = v.2 := by
  constructor
  · intro kept w isWrite v isOther place
    have first := get?_of_read (kept w isWrite)
    have second := get?_of_read (kept v isOther)
    rw [written.stays.place] at first second
    rw [place, second] at first
    have bytes := Entry.file.inj (Option.some.inj first)
    exact String.toByteArray_inj.mp bytes.symm
  · intro same
    induction written with
    | nil => simp
    | @cons before between after path code rest done others ih =>
        obtain ⟨stays, readable⟩ := read_writeSource_same done
        intro w member
        rcases List.mem_cons.mp member with rfl | member
        · refine others.read readable fun v isOther place => ?_
          rw [stays.place, stays.place] at place
          rw [same v (by simp [isOther]) _ List.mem_cons_self place]
        · refine ih (fun v isWrite u isOther place => ?_) w member
          rw [stays.place, stays.place] at place
          exact same v (by simp [isWrite]) u (by simp [isOther]) place

end Written

end DexBrowser.Files.Tree

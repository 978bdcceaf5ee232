import DexBrowser.Files.Source
import Mathlib.Data.Option.Basic

/-!
Trees that differ in what their files hold. Main statement: writing source comes to the same in
both, and what it writes, both hold.
-/

namespace DexBrowser.Files

/-- Both are directories, or files whose contents are related. -/
inductive Entry.Alike (same : ByteArray → ByteArray → Prop) : Entry → Entry → Prop
  | file {content other : ByteArray} (related : same content other) :
      Alike same (.file content) (.file other)
  | directory : Alike same .directory .directory

namespace Tree

/-- Where one tree has a directory or a file, the other has one, too. Contents of files at one place
are related. -/
structure Alike (same : Location → ByteArray → ByteArray → Prop) (tree other : Tree) : Prop where
  workingDirectory : other.workingDirectory = tree.workingDirectory
  places : ∀ location, Option.Rel (Entry.Alike (same location)) (tree.get? location)
    (other.get? location)

/-- Contents that are the same, or are what two trees hold at one place. -/
def SameOr (tree other : Tree) (location : Location) (content twin : ByteArray) : Prop :=
    content = twin ∨ tree.get? location = some (.file content) ∧
      other.get? location = some (.file twin)

/-- Nothing is at both, or a directory, or a file. -/
abbrev SameKind : Option Entry → Option Entry → Prop :=
    Option.Rel (Entry.Alike fun _ _ => True)

/-- Ways that lead to one place, or are blocked for one reason. -/
inductive Leads : Except Reason (Location × Option Entry) →
    Except Reason (Location × Option Entry) → Prop
  | blocked (reason : Reason) : Leads (.error reason) (.error reason)
  | found (location : Location) {entry other : Option Entry} (kinds : SameKind entry other) :
      Leads (.ok (location, entry)) (.ok (location, other))

section Alike

variable {same : Location → ByteArray → ByteArray → Prop} {tree other : Tree}

theorem Alike.mono {more : Location → ByteArray → ByteArray → Prop} (alike : tree.Alike same other)
    (weaker : ∀ location content twin, same location content twin → more location content twin) :
    tree.Alike more other := by
  refine ⟨alike.workingDirectory, fun location => ?_⟩
  have here := alike.places location
  generalize tree.get? location = one, other.get? location = two at here
  cases here with
  | none => exact .none
  | some entries =>
      cases entries with
      | file related => exact .some (.file (weaker _ _ _ related))
      | directory => exact .some .directory

theorem Alike.kinds (alike : tree.Alike same other) (location : Location) :
    SameKind (tree.get? location) (other.get? location) := by
  have weaker : tree.Alike (fun _ _ _ => True) other := alike.mono fun _ _ _ _ => trivial
  exact weaker.places location

theorem alike_refl (itself : ∀ location content, same location content content) (tree : Tree) :
    tree.Alike same tree := by
  refine ⟨rfl, fun location => ?_⟩
  cases tree.get? location with
  | none => exact .none
  | some entry =>
      cases entry with
      | file content => exact .some (.file (itself location content))
      | directory => exact .some .directory

theorem Alike.sameOr (alike : tree.Alike same other) : tree.Alike (tree.SameOr other) other := by
  refine ⟨alike.workingDirectory, fun location => ?_⟩
  have here := alike.places location
  generalize first : tree.get? location = entry, second : other.get? location = twin at here
  cases here with
  | none => exact .none
  | some entries =>
      cases entries with
      | file _ => exact .some (.file (.inr ⟨first, second⟩))
      | directory => exact .some .directory

theorem Alike.put (alike : tree.Alike same other) {location : Location} {entry twin : Entry}
    (entries : entry.Alike (same location) twin) :
    (tree.put location entry).Alike same (other.put location twin) := by
  refine ⟨alike.workingDirectory, fun place => ?_⟩
  by_cases here : place = location
  case neg =>
      rw [get?_put_other _ _ here, get?_put_other _ _ here]
      exact alike.places place
  case pos =>
      subst here
      cases place with
      | nil => exact .some .directory
      | cons name rest =>
          rw [get?_put_same _ _ (by simp), get?_put_same _ _ (by simp)]
          exact .some entries

/-! ## Ways -/

theorem Alike.walk (alike : tree.Alike same other) {here : Location} {entry twin : Option Entry}
    (kinds : SameKind entry twin) (names : List String) :
    Leads (tree.walk here entry names) (other.walk here twin names) := by
  induction names generalizing here entry twin with
  | nil => exact .found here kinds
  | cons name rest ih =>
      cases kinds with
      | none => exact .blocked _
      | some entries =>
          cases entries with
          | file _ => exact .blocked _
          | directory =>
              simp only [Tree.walk]
              split
              · exact ih (.some .directory)
              · split
                · exact ih (.some .directory)
                · split
                  · exact .blocked _
                  · exact ih (alike.kinds _)

theorem Alike.locate (alike : tree.Alike same other) (path : Path) :
    Leads (tree.locate path) (other.locate path) := by
  rw [Tree.locate, Tree.locate, start, start, alike.workingDirectory]
  split
  · exact .blocked _
  · exact alike.walk (.some .directory) _

theorem Alike.acceptDirectory (alike : tree.Alike same other) (path : Path) (reason : Reason) :
    other.acceptDirectory path reason = tree.acceptDirectory path reason := by
  have leads := alike.locate path
  unfold Tree.acceptDirectory stat
  generalize tree.locate path = one, other.locate path = two at leads
  cases leads with
  | blocked reason => rfl
  | found location kinds =>
      cases kinds with
      | none => rfl
      | some entries => cases entries <;> rfl

/-! ## Changes -/

/-- Two changes come to the same, and leave trees that are alike. -/
structure Ends (same : Location → ByteArray → ByteArray → Prop) (one two : Tree × ε) : Prop where
  outcome : two.2 = one.2
  trees : one.1.Alike same two.1

theorem Alike.makeDirectory (alike : tree.Alike same other) (path : Path) :
    (∃ reason, tree.makeDirectory path = .error reason ∧ other.makeDirectory path = .error reason) ∨
      ∃ after twin, tree.makeDirectory path = .ok after ∧ other.makeDirectory path = .ok twin ∧
        after.Alike same twin := by
  have leads := alike.locate path
  unfold Tree.makeDirectory
  generalize tree.locate path = one, other.locate path = two at leads
  cases leads with
  | blocked reason => exact .inl ⟨reason, rfl, rfl⟩
  | found location kinds =>
      cases kinds with
      | none => exact .inr ⟨_, _, rfl, rfl, alike.put .directory⟩
      | some entries => exact .inl ⟨_, rfl, rfl⟩

theorem Alike.ensureDirectory (alike : tree.Alike same other) (path : Path) :
    Ends same (tree.ensureDirectory path) (other.ensureDirectory path) := by
  unfold Tree.ensureDirectory
  rcases alike.makeDirectory path with ⟨reason, one, two⟩ | ⟨after, twin, one, two, made⟩
  · rw [one, two]
    exact ⟨alike.acceptDirectory path reason, alike⟩
  · rw [one, two]
    exact ⟨rfl, made⟩

theorem Alike.ensureDirectories {tree other : Tree} (alike : tree.Alike same other) (path : Path) :
    Ends same (tree.ensureDirectories path) (other.ensureDirectories path) := by
  unfold Tree.ensureDirectories
  rcases alike.makeDirectory path with ⟨reason, one, two⟩ | ⟨after, twin, one, two, made⟩
  · rw [one, two]
    cases reason with
    | missing =>
        dsimp only
        split
        case isTrue shorter =>
            obtain ⟨outcome, trees⟩ := alike.ensureDirectories path.parent
            generalize tree.ensureDirectories path.parent = ran,
              other.ensureDirectories path.parent = followed at outcome trees
            obtain ⟨between, _⟩ := ran
            obtain ⟨twin, ended⟩ := followed
            obtain rfl := outcome
            cases ended with
            | error refusal => exact ⟨rfl, trees⟩
            | ok _ => exact trees.ensureDirectory path
        case isFalse => exact ⟨rfl, alike⟩
    | _ => exact ⟨alike.acceptDirectory path _, alike⟩
  · rw [one, two]
    exact ⟨rfl, made⟩
termination_by path.parts.length

theorem Alike.writeSource (alike : tree.Alike same other)
    (itself : ∀ location content, same location content content) (path : Path) (code : String) :
    Ends same (tree.writeSource path code) (other.writeSource path code) := by
  rw [writeSource_eq, writeSource_eq]
  split
  · exact ⟨rfl, alike⟩
  · obtain ⟨outcome, trees⟩ := alike.ensureDirectories path.parent
    generalize tree.ensureDirectories path.parent = ran,
      other.ensureDirectories path.parent = followed at outcome trees
    obtain ⟨between, _⟩ := ran
    obtain ⟨twin, ended⟩ := followed
    obtain rfl := outcome
    cases ended with
    | error refusal => exact ⟨rfl, trees⟩
    | ok _ =>
        dsimp only
        split
        · exact ⟨rfl, trees⟩
        · have leads := trees.locate path
          unfold write
          generalize between.locate path = one, twin.locate path = two at leads
          have written (location : Location) := trees.put (.file (itself location code.toUTF8))
          cases leads with
          | blocked reason => exact ⟨rfl, trees⟩
          | found location kinds =>
              cases kinds with
              | none => exact ⟨rfl, written location⟩
              | some entries =>
                  cases entries with
                  | file _ => exact ⟨rfl, written location⟩
                  | directory => exact ⟨rfl, trees⟩

end Alike

end Tree

end DexBrowser.Files

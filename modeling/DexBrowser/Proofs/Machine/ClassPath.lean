import DexBrowser.Proofs.Files.Presence
import DexBrowser.Proofs.Machine.Patterns
import Mathlib.Data.List.Induction

/-!
The class path of the virtual machine. Main statement: it holds what the entries and the home
contribute, each text where it comes first; and what is contributed for a directory is the list of
its archives just if the directory is there and its spelling is no pattern, or if neither anything
fits the pattern nor an archive is in the directory.
-/

namespace DexBrowser.Machine

open Files Text

/-! ## Texts in order -/

/-- A list goes through the texts that are wanted, in order. One of them may come more than once. -/
structure Lists (wanted : String → Prop) (out : List String) : Prop where
  ordered : out.Pairwise (· ≤ ·)
  mem_iff : ∀ text, text ∈ out ↔ wanted text

theorem lists_sorted (texts : List String) : Lists (· ∈ texts) (sorted texts) where
  ordered := by
    have inOrder (a b : String) : (!decide (b < a)) = true ↔ a ≤ b := by
      rw [Bool.not_eq_true', decide_eq_false_iff_not]
      exact Iff.rfl
    refine (List.pairwise_mergeSort ?_ ?_ texts).imp fun {a b} => (inOrder a b).mp
    · intro a b c
      rw [inOrder, inOrder, inOrder]
      exact String.le_trans
    · intro a b
      rw [Bool.or_eq_true, inOrder, inOrder]
      exact String.le_total a b
  mem_iff := fun _ => List.mem_mergeSort

theorem Lists.congr {wanted other : String → Prop} {out : List String} (lists : Lists wanted out)
    (same : ∀ text, wanted text ↔ other text) : Lists other out :=
  ⟨lists.ordered, fun text => (lists.mem_iff text).trans (same text)⟩

/-- The texts of a list, each where it comes first. -/
structure FirstOccurrences (whole kept : List String) : Prop where
  nodup : kept.Nodup
  mem_iff : ∀ text, text ∈ kept ↔ text ∈ whole
  inOrder : kept.Pairwise fun first second => whole.idxOf first < whole.idxOf second

theorem eraseDups_concat (texts : List String) (last : String) :
    (texts ++ [last]).eraseDups =
      if last ∈ texts then texts.eraseDups else texts.eraseDups ++ [last] := by
  rw [List.eraseDups_append]
  by_cases before : last ∈ texts <;> simp [List.removeAll, before, List.eraseDups_cons]

theorem firstOccurrences_eraseDups (whole : List String) :
    FirstOccurrences whole whole.eraseDups := by
  induction whole using List.reverseRecOn with
  | nil => exact ⟨.nil, fun _ => .rfl, .nil⟩
  | append_singleton texts last ih =>
      -- The texts before the last have their first places where they had them.
      have inOrder : texts.eraseDups.Pairwise fun first second =>
          (texts ++ [last]).idxOf first < (texts ++ [last]).idxOf second := by
        refine ih.inOrder.imp_of_mem fun {first second} isFirst isSecond before => ?_
        rwa [List.idxOf_append_of_mem ((ih.mem_iff first).mp isFirst),
          List.idxOf_append_of_mem ((ih.mem_iff second).mp isSecond)]
      rw [eraseDups_concat]
      split
      case isTrue before =>
          refine ⟨ih.nodup, fun text => ?_, inOrder⟩
          rw [ih.mem_iff, List.mem_append, List.mem_singleton, or_iff_left_of_imp]
          rintro rfl
          exact before
      case isFalse new =>
          have atEnd : (texts ++ [last]).idxOf last = texts.length := by
            rw [List.idxOf_append_of_notMem new, List.idxOf_cons_self, Nat.add_zero]
          refine ⟨?_, fun text => by simp, ?_⟩
          · refine List.nodup_append.mpr ⟨ih.nodup, List.pairwise_singleton _ _, ?_⟩
            rintro text member _ isLast rfl
            rw [List.mem_singleton.mp isLast] at member
            exact new ((ih.mem_iff last).mp member)
          · refine List.pairwise_append.mpr ⟨inOrder, List.pairwise_singleton _ _, ?_⟩
            intro text member other isLast
            have before := (ih.mem_iff text).mp member
            rw [List.mem_singleton.mp isLast, atEnd, List.idxOf_append_of_mem before]
            exact List.idxOf_lt_length_of_mem before

/-! ## Contributions -/

/-- The text of an archive: a name in a directory that ends in `.jar`, seen from the directory. -/
def IsArchive (tree : Tree) (directory : Path) (text : String) : Prop :=
    ∃ location name, tree.locate directory = .ok (location, some .directory) ∧
      tree.get? (location ++ [name]) ≠ none ∧ ".jar".toList <:+ name.toList ∧
      text = (directory.join (Path.ofString name)).text

/-- What an entry contributes: the paths that fit it, if it is a pattern; the archives of the
directory that it names; otherwise itself. -/
inductive Contributes (tree : Tree) (entry : String) : List String → Prop
  | fitting {out : List String} (pattern : Wildcard.isPattern entry.toList = true)
      (lists : Lists (· ∈ expandPattern tree false entry.toList) out) : Contributes tree entry out
  | archives {out : List String} (plain : Wildcard.isPattern entry.toList = false)
      (directory : tree.isDirectory (Path.ofString entry) = .ok true)
      (lists : Lists (IsArchive tree (Path.ofString entry)) out) : Contributes tree entry out
  | itself (plain : Wildcard.isPattern entry.toList = false)
      (other : tree.isDirectory (Path.ofString entry) = .ok false) : Contributes tree entry [entry]

/-- An entry that cannot be told for some reason: it is no pattern, and too long for the files or
behind a directory that may not be entered. -/
structure Refused (tree : Tree) (entry : String) (reason : Reason) : Prop where
  plain : Wildcard.isPattern entry.toList = false
  hides : tree.Hides (Path.ofString entry) reason

theorem Contributes.not_refused {tree : Tree} {entry : String} {out : List String}
    {reason : Reason} (contributes : Contributes tree entry out) : ¬ Refused tree entry reason := by
  intro refused
  have failed : tree.isDirectory (Path.ofString entry) = .error ⟨reason, Path.ofString entry⟩ :=
    Tree.isDirectory_eq_error_iff.mpr ⟨refused.hides, rfl⟩
  cases contributes with
  | fitting pattern => simp [refused.plain] at pattern
  | archives _ directory => simp [failed] at directory
  | itself _ other => simp [failed] at other

theorem lists_archives {tree : Tree} {directory : Path}
    (isDirectory : tree.isDirectory directory = .ok true) :
    Lists (IsArchive tree directory) (archives tree directory) := by
  obtain ⟨-, location, located⟩ := Tree.isDirectory_eq_true_iff.mp isDirectory
  rw [archives, located]
  refine (lists_sorted _).congr fun text => ?_
  simp only [List.mem_map, List.mem_filter, Tree.mem_namesIn, matchesWildcard_jar]
  constructor
  · rintro ⟨name, ⟨there, ending⟩, rfl⟩
    exact ⟨location, name, located, there, ending, rfl⟩
  · rintro ⟨other, name, found, there, ending, rfl⟩
    obtain ⟨rfl, -⟩ := Prod.mk.inj (Except.ok.inj (located.symm.trans found))
    exact ⟨name, ⟨there, ending⟩, rfl⟩

theorem expandEntry_spec (tree : Tree) (entry : String) :
    match expandEntry tree entry with
    | .ok out => Contributes tree entry out
    | .error fault => ∃ reason,
        Refused tree entry reason ∧ fault = .refused ⟨reason, Path.ofString entry⟩ := by
  unfold expandEntry
  cases plain : Wildcard.isPattern entry.toList with
  | true => exact .fitting plain (lists_sorted _)
  | false =>
      rw [if_neg Bool.false_ne_true]
      cases told : tree.isDirectory (Path.ofString entry) with
      | error refusal =>
          obtain ⟨hides, same⟩ := Tree.isDirectory_eq_error_iff.mp told
          exact ⟨refusal.reason, ⟨plain, hides⟩, congrArg Fault.refused same⟩
      | ok isDirectory =>
          cases isDirectory with
          | true => exact .archives plain told (lists_archives told)
          | false => exact .itself plain told

/-! ## Archives of directories -/

section Named

variable {tree : Tree} (named : tree.Named) {entry : String} {out : List String}

include named

theorem depth_archive {text : String} (archive : IsArchive tree (Path.ofString entry) text) :
    depth text.toList = depth entry.toList + 1 := by
  obtain ⟨location, name, -, there, -, rfl⟩ := archive
  have part := named location name (Tree.mem_namesIn.mpr there)
  have clean : ∀ part ∈ [name], isPart part = true := List.forall_mem_singleton.mpr part
  have relative : (Path.ofString name).isAbsolute = false := by
    obtain ⟨c, rest, notSlash, spelled⟩ := Path.starts_with_part clean (List.cons_ne_nil _ _)
    rw [String.intercalate_singleton] at spelled
    simp [Path.isAbsolute, Path.ofString, Path.ofPieces, spelled, Path.anchorOf, notSlash]
  rw [depth, Path.partsOf_text, Path.parts_join relative, Path.parts_ofString,
    Path.parts_ofString, Path.partsOf_part part, List.length_append, List.length_singleton, depth]

/-- The archives of the directory that an entry spells are what it contributes if it is no pattern
and the directory is there, or if it is a pattern that nothing fits and there are no archives. -/
def ReadAsDirectory (tree : Tree) (entry : String) : Prop :=
    match Wildcard.isPattern entry.toList with
    | false => tree.isDirectory (Path.ofString entry) = .ok true
    | true => ∀ text, text ∉ expandPattern tree false entry.toList ∧
        ¬ IsArchive tree (Path.ofString entry) text

theorem lists_archives_iff (contributes : Contributes tree entry out) :
    Lists (IsArchive tree (Path.ofString entry)) out ↔ ReadAsDirectory tree entry := by
  unfold ReadAsDirectory
  cases contributes with
  | fitting pattern lists =>
      rw [pattern]
      constructor
      · intro archives
        -- What fits is as deep as the entry, and an archive is deeper.
        have nothing (text : String) : text ∉ expandPattern tree false entry.toList := by
          intro fits
          have archive := (archives.mem_iff text).mp ((lists.mem_iff text).mpr fits)
          have deeper := depth_archive named archive
          rw [depth_of_mem_expandPattern named fits] at deeper
          omega
        refine fun text => ⟨nothing text, fun archive => ?_⟩
        exact nothing text ((lists.mem_iff text).mp ((archives.mem_iff text).mpr archive))
      · intro nothing
        exact lists.congr fun text => iff_of_false (nothing text).1 (nothing text).2
  | archives plain directory lists =>
      rw [plain]
      exact iff_of_true lists directory
  | itself plain other =>
      rw [plain, other]
      refine iff_of_false (fun archives => ?_) (by simp)
      have deeper := depth_archive named
        ((archives.mem_iff entry).mp (List.mem_singleton_self entry))
      omega

end Named

/-! ## The class path -/

def libraryOf (home : String) : Path :=
    (Path.ofString home).join (Path.ofString "lib")

/-- What a class path is made of: the entries that are listed, and the library directory of the
home, if there is a home. -/
def sourcesOf (environment : Environment) : List String :=
    entriesOf (environment.classPath.getD "") ++
      match environment.home with
      | none | some "" => []
      | some home => [(libraryOf home).text]

theorem classPath_eq (tree : Tree) (environment : Environment) :
    classPath tree environment =
      ((sourcesOf environment).mapM (expandEntry tree)).map fun parts =>
        parts.flatten.eraseDups := by
  unfold classPath sourcesOf
  rw [List.mapM_append]
  cases (entriesOf (environment.classPath.getD "")).mapM (expandEntry tree) with
  | error fault => rfl
  | ok listed =>
      generalize environment.home = home
      split
      case h_1 => simp [bind, Except.bind, pure, Except.pure, Except.map]
      case h_2 => simp [bind, Except.bind, pure, Except.pure, Except.map]
      case h_3 home _ =>
          simp only [List.mapM_cons, List.mapM_nil, libraryOf]
          cases expandEntry tree ((Path.ofString home).join (Path.ofString "lib")).text <;>
            simp [bind, Except.bind, pure, Except.pure, Except.map]

/-- What the settings say of the class path: it has no text twice, and holds what the entries that
are listed and the library directory of the home contribute, in turn, each text where it comes
first. -/
theorem settings_classPath_contributions {tree : Tree} (named : tree.Named)
    (environment : Environment) :
    match settings tree environment with
    | .error fault =>
        (∃ entry ∈ sourcesOf environment, ∃ reason, Refused tree entry reason ∧
          fault = .refused ⟨reason, Path.ofString entry⟩) ∨
        ∃ unfinished, shellWords (environment.arguments.getD "") = .error unfinished ∧
          fault = .value (.unfinishedWord unfinished)
    | .ok settings =>
        (∀ entry ∈ sourcesOf environment, ∀ reason, ¬ Refused tree entry reason) ∧
        ∃ parts,
          List.Forall₂ (fun entry out => Contributes tree entry out ∧
              (Lists (IsArchive tree (Path.ofString entry)) out ↔ ReadAsDirectory tree entry))
            (sourcesOf environment) parts ∧
          FirstOccurrences parts.flatten settings.classPath := by
  unfold settings
  rw [classPath_eq]
  cases each : (sourcesOf environment).mapM (expandEntry tree) with
  | error fault =>
      obtain ⟨entry, member, failed⟩ := Tree.exists_of_mapM_error each
      have spec := expandEntry_spec tree entry
      rw [failed] at spec
      exact .inl ⟨entry, member, spec⟩
  | ok parts =>
      simp only [Except.map, bind, Except.bind]
      cases shellWords (environment.arguments.getD "") with
      | error unfinished => exact .inr ⟨unfinished, rfl, rfl⟩
      | ok arguments =>
          refine ⟨fun entry member reason refused => ?_, parts, ?_, firstOccurrences_eraseDups _⟩
          · obtain ⟨out, -, told⟩ := Tree.exists_of_mapM_ok each member
            have spec := expandEntry_spec tree entry
            rw [told] at spec
            exact spec.not_refused refused
          · refine (Tree.forall₂_of_mapM_ok each).imp fun entry out told => ?_
            have spec := expandEntry_spec tree entry
            rw [told] at spec
            exact ⟨spec, lists_archives_iff named spec⟩

def bracketedHome : Tree :=
    { entries := [(["jadx[1.5]"], .directory), (["jadx[1.5]", "lib"], .directory),
        (["jadx[1.5]", "lib", "core.jar"], .file .empty)] }

/-- The brackets are taken for a pattern, and the archive of the home is left out. -/
theorem bracketed_home_left_out :
    bracketedHome.Named ∧
      settings bracketedHome { home := some "jadx[1.5]" } = .ok { classPath := [] } ∧
      IsArchive bracketedHome (libraryOf "jadx[1.5]") "jadx[1.5]/lib/core.jar" ∧
      ∃ out, Contributes bracketedHome "jadx[1.5]/lib" out ∧
        ¬ Lists (IsArchive bracketedHome (libraryOf "jadx[1.5]")) out := by
  have named : bracketedHome.Named := Tree.named_of_entries (by decide +kernel)
  have done : settings bracketedHome { home := some "jadx[1.5]" } = .ok { classPath := [] } := by
    decide +kernel
  have archive : IsArchive bracketedHome (libraryOf "jadx[1.5]") "jadx[1.5]/lib/core.jar" :=
    ⟨["jadx[1.5]", "lib"], "core.jar", by decide +kernel, by decide +kernel, by decide +kernel,
      by decide +kernel⟩
  refine ⟨named, done, archive, ?_⟩
  have contributions := settings_classPath_contributions named { home := some "jadx[1.5]" }
  rw [done] at contributions
  obtain ⟨-, parts, each, -⟩ := contributions
  have only : sourcesOf { home := some "jadx[1.5]" } = ["jadx[1.5]/lib"] := by decide +kernel
  have path : Path.ofString "jadx[1.5]/lib" = libraryOf "jadx[1.5]" := by decide +kernel
  rw [only] at each
  obtain ⟨out, _, ⟨contributes, told⟩, -, -⟩ := List.forall₂_cons_left_iff.mp each
  rw [path] at told
  refine ⟨out, contributes, fun archives => ?_⟩
  have read := told.mp archives
  unfold ReadAsDirectory at read
  have pattern : Wildcard.isPattern "jadx[1.5]/lib".toList = true := by decide
  rw [pattern, path] at read
  exact (read _).2 archive

/-- A home without a library directory adds the path of that directory. -/
example : settings {} { home := some "missing" } = .ok { classPath := ["missing/lib"] } := by
  decide +kernel

end DexBrowser.Machine

import DexBrowser.Validation.Lax
import DexBrowser.Command.Run
import DexBrowser.Proofs.Files.Overwriting
import DexBrowser.Proofs.Files.SourcePlaces
import DexBrowser.Proofs.Session.Answers
import DexBrowser.Proofs.Session.Saving

/-!
Saving all packages of an input. Main statement: where all of it was written, every class has its
code in its file exactly if no two classes with different code have their files at one place, which
takes a name with an empty segment.
-/

namespace DexBrowser.Session

open Managed Session.Action Files.Tree

variable {origin : LoadId} {image : Image}

/-! ## Actions that change files -/

/-- Where the action ends with a value, the load can be asked as before, and the files have changed
as is said for that value. -/
def Changes (origin : LoadId) (image : Image) (effect : α → Files.Tree → Files.Tree → Prop)
    (action : Action α) : Prop :=
    ∀ before, Live origin image (fun _ => True) before → ∀ a, (action.run before).1 = .ok a →
      Live origin image (fun _ => True) (action.run before).2 ∧
        effect a before.files (action.run before).2.files

/-- If the value is fine, source files were written one after the other, and nothing else. -/
abbrev Writes (origin : LoadId) (image : Image) (fine : α → Prop) (writes : List (Path × String))
    (action : Action α) : Prop :=
    Changes origin image (fun a before after => fine a → Written before writes after) action

section Changes

variable {effect : α → Files.Tree → Files.Tree → Prop}

theorem changes_pure (a : α) :
    Changes origin image (fun b before after => b = a ∧ after = before) (pure a : Action α) := by
  intro before live b ended
  exact ⟨live, (Except.ok.inj ended).symm, rfl⟩

theorem changes_still {good : α → Prop} {action : Action α}
    (keeps : ∀ files, action.Keeps (Live origin image (· = files)) good noFault) :
    Changes origin image (fun a before after => good a ∧ after = before) action := by
  intro before live a ended
  have kept := keeps before.files before ⟨live.seat, live.load, rfl⟩
  have ends := kept.ends
  rw [ended] at ends
  exact ⟨⟨kept.holds.seat, kept.holds.load, trivial⟩, ends, kept.holds.files⟩

theorem Changes.mono {other : α → Files.Tree → Files.Tree → Prop} {action : Action α}
    (changes : Changes origin image effect action)
    (implies : ∀ a before after, effect a before after → other a before after) :
    Changes origin image other action := by
  intro before live a ended
  obtain ⟨after, changed⟩ := changes before live a ended
  exact ⟨after, implies a _ _ changed⟩

theorem Changes.bind {later : α → β → Files.Tree → Files.Tree → Prop} {first : Action α}
    {next : α → Action β} (changes : Changes origin image effect first)
    (rest : ∀ a before after, effect a before after → Changes origin image (later a) (next a)) :
    Changes origin image
      (fun b before after => ∃ a between, effect a before between ∧ later a b between after)
      (first >>= next) := by
  intro before live b ended
  have changed := changes before live
  rw [run_bind] at ended ⊢
  generalize first.run before = result at changed ended ⊢
  obtain ⟨outcome, between⟩ := result
  cases outcome with
  | error fault => contradiction
  | ok a =>
      obtain ⟨liveBetween, firstChanged⟩ := changed a rfl
      obtain ⟨after, restChanged⟩ := rest a _ _ firstChanged between liveBetween b ended
      exact ⟨after, a, between.files, firstChanged, restChanged⟩

theorem Live.run_shared {before : Workspace} (live : Live origin image (fun _ => True) before)
    (action : Action α) :
    ∃ inside, Live origin image (fun _ => True) inside ∧ inside.files = before.files ∧
      ((shared origin.load action).run before).1 = (action.run inside).1 ∧
        ((shared origin.load action).run before).2.files = (action.run inside).2.files ∧
          (Live origin image (fun _ => True) (action.run inside).2 →
            Live origin image (fun _ => True) ((shared origin.load action).run before).2) := by
  obtain ⟨load, found, -, -, free⟩ := live.load
  rw [shared, run_bind_ok (run_loadAt found)]
  cases attached : load.attached with
  | false => exact ⟨before, live, rfl, rfl, rfl, id⟩
  | true =>
      have admitted : before.state.lock.admits .shared = true := by
        rw [Lock.admits, free attached]
        rfl
      have sectioned : Sectioned (Live origin image fun _ => True) := Live.usable.toSectioned
      simp only [if_true, inSection, run_ofRun, admitted]
      exact ⟨_, sectioned.enter before live, rfl, rfl, rfl, sectioned.leave _⟩

theorem Changes.shared {action : Action α} (changes : Changes origin image effect action) :
    Changes origin image effect (shared origin.load action) := by
  intro before live a ended
  obtain ⟨inside, liveInside, files, outcome, after, left⟩ := live.run_shared action
  rw [outcome] at ended
  obtain ⟨liveAfter, changed⟩ := changes inside liveInside a ended
  rw [after, ← files]
  exact ⟨left liveAfter, changed⟩

end Changes

section Writes

variable {writes : List (Path × String)}

theorem writes_after {good : β → Prop} {fine : α → Prop} {first : Action β} {next : β → Action α}
    (keeps : ∀ files, first.Keeps (Live origin image (· = files)) good noFault)
    (rest : ∀ b, good b → Writes origin image fine writes (next b)) :
    Writes origin image fine writes (first >>= next) := by
  refine ((changes_still keeps).bind fun b _ _ isGood => rest b isGood.1).mono ?_
  rintro a before after ⟨b, _, ⟨-, rfl⟩, written⟩
  exact written

theorem Writes.before {fine : α → Prop} {finer : β → Prop} {first : Action α} {next : α → Action β}
    (first_writes : Writes origin image fine writes first)
    (keeps : ∀ a files, (next a).Keeps (Live origin image (· = files)) (fun b => finer b → fine a)
      noFault) :
    Writes origin image finer writes (first >>= next) := by
  refine (first_writes.bind fun a _ _ _ => changes_still (keeps a)).mono ?_
  rintro b before after ⟨a, between, written, implies, rfl⟩ isFine
  exact written (implies isFine)

theorem writes_tryWrite (path : Path) (code : String) :
    Writes origin image (· = none) [(path, code)] (tryWrite path code) := by
  intro before live failure ended
  rw [run_tryWrite_after]
  refine ⟨⟨live.seat, live.load, trivial⟩, ?_⟩
  rintro rfl
  simp only [tryWrite, run_ofRun, writeSource] at ended
  generalize written : before.files.writeSource path code = result at ended ⊢
  obtain ⟨files, outcome⟩ := result
  cases outcome with
  | ok _ => exact .cons written (.nil files)
  | error fault => cases fault <;> simp at ended

theorem writes_mapM {related : γ → α → Prop} {fine : β → Prop} {each : γ → List (Path × String)}
    {step : α → Action β} {ks : List γ} {xs : List α} (all : List.Forall₂ related ks xs)
    (step_writes : ∀ k x, related k x → Writes origin image fine (each k) (step x)) :
    Writes origin image (fun ys => ∀ y ∈ ys, fine y) (ks.flatMap each) (xs.mapM step) := by
  induction all with
  | nil =>
      refine (changes_pure []).mono ?_
      rintro _ before after ⟨rfl, same⟩ -
      rw [same]
      exact .nil before
  | @cons k x ks xs isRelated _ ih =>
      rw [List.mapM_cons]
      refine ((step_writes k x isRelated).bind fun y _ _ _ =>
        ih.bind fun ys _ _ _ => changes_pure (y :: ys)).mono ?_
      rintro _ before _ ⟨y, between, first, ys, after, second, rfl, rfl⟩ allFine
      rw [List.flatMap_cons]
      exact (first (allFine y List.mem_cons_self)).append
        (second fun z member => allFine z (List.mem_cons_of_mem y member))

end Writes

/-! ## Saving -/

/-- What saving a class into a directory writes. -/
def savedClass (directory : Path) (c : Image.ClassImage) : Path × String :=
    (memberPath directory c.fullName, c.code)

section Saving

variable {h : Handle} {i : Nat} {c : Image.ClassImage}

theorem writes_writeClass (wraps : h.Wraps origin .classNode (.classNode i))
    (found : image.classes[i]? = some c) (path : Path) :
    Writes origin image (· = none) [(path, c.code)] (h.writeClass path) := by
  have sameLoad : h.load = origin.load := congrArg LoadId.load wraps.origin
  rw [Handle.writeClass, sameLoad]
  refine Changes.shared (writes_after (fun _ => Live.keeps_code wraps found) ?_)
  rintro _ rfl
  refine (writes_tryWrite path c.code).before fun failure _ => ?_
  dsimp only
  split
  · refine keeps_bind (Live.keeps_fullName wraps (tells_class found rfl)) fun _ _ => ?_
    exact keeps_bind (Live.keeps_log _ _ _) fun _ _ => keeps_pure id
  · exact keeps_pure id

theorem writes_saveClass (wraps : h.Wraps origin .classNode (.classNode i))
    (found : image.classes[i]? = some c) (path : Path) :
    Writes origin image (· = true) [(path, c.code)] (h.saveClass path : Action Bool) := by
  refine (writes_writeClass wraps found path).before fun failure _ => ?_
  cases failure with
  | some why => exact keeps_pure (by simp)
  | none =>
      refine keeps_bind (Live.keeps_fullName wraps (tells_class found rfl)) fun _ _ => ?_
      exact keeps_bind (Live.keeps_log _ _ _) fun _ _ => keeps_pure fun _ => rfl

theorem writes_saveMember (wraps : h.Wraps origin .classNode (.classNode i))
    (found : image.classes[i]? = some c) (directory : Path) :
    Writes origin image (· = none) [savedClass directory c] (Handle.saveMember directory h) := by
  refine writes_after (fun _ => Live.keeps_fullName wraps (tells_class found rfl)) ?_
  rintro _ rfl
  refine (writes_saveClass wraps found (memberPath directory c.fullName)).before ?_
  rintro (_ | _) _
  · exact keeps_pure (by simp)
  · exact keeps_pure fun _ => rfl

theorem writes_savePackage {p : String × List Nat} {classes : List Image.ClassImage}
    (wraps : h.Wraps origin .package (.package i)) (found : image.packages[i]? = some p)
    (members : List.Forall₂ (fun c place => image.classes[place]? = some c) classes p.2)
    (directory : Path) :
    Writes origin image (· = true) (classes.map (savedClass directory))
      (h.savePackage directory : Action Bool) := by
  have known : ∀ place ∈ p.2, ∃ c, image.classes[place]? = some c := by
    intro place inside
    obtain ⟨c, -, atPlace⟩ := exists_of_mem_right members inside
    exact ⟨c, atPlace⟩
  have sameLoad : h.load = origin.load := congrArg LoadId.load wraps.origin
  have saved : Writes origin image (fun ys => ∀ y ∈ ys, y = none)
      (classes.map (savedClass directory)) (h.saveMembers directory) := by
    rw [Handle.saveMembers, sameLoad]
    refine Changes.shared (writes_after (fun _ => Live.keeps_classes wraps found known) ?_)
    intro handles all
    rw [List.map_eq_flatMap]
    refine writes_mapM (forall₂_comp members all) ?_
    rintro c made ⟨place, atPlace, wrapsClass⟩
    exact writes_saveMember wrapsClass atPlace directory
  refine saved.before fun outcomes _ => ?_
  dsimp only
  split
  case isTrue none =>
      refine keeps_pure fun _ y member => ?_
      cases y with
      | none => rfl
      | some name =>
          have failed : name ∈ outcomes.filterMap id := List.mem_filterMap.mpr ⟨_, member, rfl⟩
          rw [List.isEmpty_iff.mp none] at failed
          contradiction
  case isFalse =>
      refine keeps_bind (Live.keeps_fullName wraps (tells_package found rfl)) fun _ _ => ?_
      exact keeps_bind (Live.keeps_log _ _ _) fun _ _ => keeps_pure (by simp)

end Saving

/-! ## All packages -/

/-- What saving all packages into a directory writes, package by package. -/
def savedAll (directory : Path) (image : Image) : List (Path × String) :=
    image.packages.flatMap fun p =>
      (image.classes.filter (·.package = p.1)).map (savedClass directory)

theorem mem_savedAll {directory : Path}
    (partition : Image.Partition (image.classes.map Image.ClassImage.package) image.packages)
    {w : Path × String} :
    w ∈ savedAll directory image ↔ ∃ c ∈ image.classes, savedClass directory c = w := by
  constructor
  · intro member
    obtain ⟨p, -, inPackage⟩ := List.mem_flatMap.mp member
    obtain ⟨c, isMember, same⟩ := List.mem_map.mp inPackage
    exact ⟨c, (List.mem_filter.mp isMember).1, same⟩
  · rintro ⟨c, isClass, rfl⟩
    have named := (partition.named c.package).mpr (List.mem_map_of_mem isClass)
    obtain ⟨p, isPackage, same⟩ := List.mem_map.mp named
    refine List.mem_flatMap.mpr ⟨p, isPackage, List.mem_map_of_mem ?_⟩
    exact List.mem_filter.mpr ⟨isClass, decide_eq_true same.symm⟩

/-- All that is left to be done once the packages are listed. -/
def savePackages (directory : Path) (packages : List Handle) : Action (Bool × List String) := do
    let saved ← packages.mapM (·.savePackage directory)
    return (saved.all id, ← packages.mapM Handle.fullName)

/-- Packages are handles of the packages of the image, in order. -/
def ArePackages (origin : LoadId) (image : Image) (packages : List Handle) : Prop :=
    List.Forall₂ (fun p h => ∃ i, image.packages[i]? = some p ∧
      h.Wraps origin .package (.package i)) image.packages packages

theorem Listed.arePackages {entries : List (String × Handle)}
    (listed : Listed origin .package .package (image.packages.map (·.1)) entries) :
    ArePackages origin image (entries.map (·.2)) :=
  List.forall₂_map_right_iff.mpr (listed.forall₂.imp fun _ _ isOne => isOne.2)

theorem ArePackages.keeps_names {packages : List Handle}
    (arePackages : ArePackages origin image packages) (files : Files.Tree) :
    (packages.mapM Handle.fullName : Action (List String)).Keeps (Live origin image (· = files))
      (· = image.packages.map (·.1)) noFault := by
  have named : (packages.mapM Handle.fullName : Action (List String)).Keeps
      (Live origin image (· = files)) (List.Forall₂ (fun p name => name = p.1) image.packages)
        noFault := by
    refine keeps_mapM_related arePackages ?_
    rintro p h ⟨i, found, wraps⟩
    exact Live.keeps_fullName wraps (tells_package found rfl)
  refine named.mono (fun names all => ?_) fun _ failed => failed
  have same := List.forall₂_map_left_iff.mpr (all.imp fun _ _ => Eq.symm)
  rw [List.forall₂_eq_eq_eq] at same
  exact same.symm

theorem writes_savePackages {entries : List (String × Handle)}
    (listed : Listed origin .package .package (image.packages.map (·.1)) entries)
    (partition : Image.Partition (image.classes.map Image.ClassImage.package) image.packages)
    (directory : Path) :
    Writes origin image (fun result : Bool × List String => result.1 = true)
      (savedAll directory image) (savePackages directory (entries.map (·.2))) := by
  have saves : Writes origin image (fun saved => ∀ y ∈ saved, y = true) (savedAll directory image)
      ((entries.map (·.2)).mapM (·.savePackage directory)) := by
    refine writes_mapM listed.arePackages ?_
    rintro p h ⟨i, found, wraps⟩
    refine writes_savePackage wraps found ?_ directory
    rw [partition.places p (List.mem_of_getElem? found)]
    exact Image.forall₂_placesOf image.classes Image.ClassImage.package p.1
  refine saves.before fun saved files => ?_
  refine keeps_bind (listed.arePackages.keeps_names files) fun targets _ => ?_
  exact keeps_pure List.all_eq_true.mp

/-! ## In a world -/

theorem World.Live.writes {world : World} (live : world.Live origin image) {action : Action α}
    {fine : α → Prop} {writes : List (Path × String)}
    (action_writes : Writes origin image fine writes action) {a : α}
    (ended : (world.run origin.seat action).1 = .ok a) :
    (world.run origin.seat action).2.Live origin image ∧
      (fine a → Written world.files writes (world.run origin.seat action).2.files) := by
  obtain ⟨state, found, ready⟩ := live
  obtain ⟨outcome, sessions, files, -⟩ := World.run_of_session found action
  obtain ⟨bound, -⟩ := List.getElem?_eq_some_iff.mp found
  rw [outcome] at ended
  obtain ⟨after, written⟩ := action_writes _ ready a ended
  refine ⟨⟨_, ?_, after.seat, after.load, trivial⟩, ?_⟩
  · rw [sessions, List.getElem?_set_self bound]
  · rw [files]
    exact written

theorem World.Presents.onFiles {world : World} {seat : Nat} {loaded : Loaded} {artifact : Artifact}
    (presents : world.Presents seat loaded artifact image) (files : Files.Tree) :
    World.Presents { world with files := files } seat loaded artifact image := by
  obtain ⟨state, found, ready⟩ := presents.live
  exact ⟨presents.session, ⟨state, found, ready.seat, ready.load, trivial⟩, presents.presents⟩

section World

variable {world : World} {seat : Nat} {loaded : Loaded} {artifact : Artifact}

theorem World.Presents.run_saveSelected (presents : world.Presents seat loaded artifact image)
    (directory : Path) :
    world.run seat (Command.saveSelected directory none none) =
      world.run seat (savePackages directory (loaded.packages.map (·.2))) :=
  presents.run_bind fun _ free current => run_allPackages free current

theorem World.Presents.tellsCode (presents : world.Presents seat loaded artifact image)
    {after : World} (live : after.Live ⟨seat, loaded.load⟩ image) :
    List.Forall₂ (fun c (entry : String × Handle) => entry.1 = c.fullName ∧
      (world.run seat (entry.2.code : Action String)).1 = .ok c.code ∧
        (after.run seat (entry.2.code : Action String)).1 = .ok c.code)
      image.classes loaded.classes := by
  refine presents.presents.classes.forall₂.imp fun c entry ⟨named, i, found, wraps⟩ => ?_
  have code {world : World} (live : world.Live ⟨seat, loaded.load⟩ image) :
      (world.run seat (entry.2.code : Action String)).1 = .ok c.code :=
    live.answers (Live.keeps_code wraps found)
  exact ⟨named, code presents.live, code live⟩

/-- Once all was written, every class has its code in its file exactly if no two of them with
different code share a file. -/
theorem World.Presents.saved_all (presents : world.Presents seat loaded artifact image)
    {directory : Path} {targets : List String}
    (saved : (world.run seat (Command.saveSelected directory none none)).1 =
      .ok (true, targets)) :
    let after := (world.run seat (Command.saveSelected directory none none)).2
    after.Live ⟨seat, loaded.load⟩ image ∧
      ((∀ c ∈ image.classes,
          after.files.read (memberPath directory c.fullName) = .ok c.code.toUTF8) ↔
        ∀ c ∈ image.classes, ∀ d ∈ image.classes,
          world.files.place (memberPath directory c.fullName) =
            world.files.place (memberPath directory d.fullName) → c.code = d.code) := by
  intro after
  have partition := Image.partition_build presents.presents.built
  have run := presents.run_saveSelected directory
  rw [run] at saved
  obtain ⟨live, written⟩ := presents.live.writes
    (writes_savePackages presents.presents.packages partition directory) saved
  rw [← run] at live written
  have kept := (written rfl).kept_iff
  simp only [mem_savedAll partition, forall_exists_index, and_imp, forall_apply_eq_imp_iff₂,
    savedClass] at kept
  exact ⟨live, kept⟩

theorem World.Presents.gap_of_place_eq (presents : world.Presents seat loaded artifact image)
    {files : Files.Tree} {directory : Path} {c d : Image.ClassImage} (isClass : c ∈ image.classes)
    (isOther : d ∈ image.classes) (different : c.fullName ≠ d.fullName)
    (place : files.place (memberPath directory c.fullName) =
      files.place (memberPath directory d.fullName)) :
    ClassName.HasGap c.fullName ∨ ClassName.HasGap d.fullName := by
  have proper := Image.proper_build presents.presents.built isClass
  have otherProper := Image.proper_build presents.presents.built isOther
  by_cases gap : ClassName.HasGap c.fullName
  · exact .inl gap
  · refine .inr (Classical.byContradiction fun gapless => different ?_)
    exact ClassName.eq_of_place_eq proper.normal otherProper.normal gap gapless place

end World

/-- While managed objects answer what the artifacts say, and all packages were saved into a
directory, every class has its code in its file exactly if no two classes with different code have
their files at one place. Only names with an empty segment before their last have. -/
theorem saved_all_kept_iff {deeds : List Deed} (plain : ∀ deed ∈ deeds, deed.Plain)
    {seat : Nat} {loaded : Loaded}
    (current : (Scene.after deeds).world.current seat = some loaded) {files : Files.Tree}
    {directory : Path} {targets : List String}
    (saved : (({ (Scene.after deeds).world with files := files } : World).run seat
      (Command.saveSelected directory none none)).1 = .ok (true, targets)) :
    let world : World := { (Scene.after deeds).world with files := files }
    let after := (world.run seat (Command.saveSelected directory none none)).2
    let codeOf (world : World) (entry : String × Handle) : Except Fault String :=
      (world.run seat entry.2.code).1
    ((∀ entry ∈ loaded.classes, ∃ code, codeOf world entry = .ok code ∧
        codeOf after entry = .ok code ∧
          after.files.read (memberPath directory entry.1) = .ok code.toUTF8) ↔
      ∀ entry ∈ loaded.classes, ∀ other ∈ loaded.classes,
        files.place (memberPath directory entry.1) = files.place (memberPath directory other.1) →
          codeOf world entry = codeOf world other) ∧
    ∀ entry ∈ loaded.classes, ∀ other ∈ loaded.classes, entry.1 ≠ other.1 →
      files.place (memberPath directory entry.1) = files.place (memberPath directory other.1) →
        ClassName.HasGap entry.1 ∨ ClassName.HasGap other.1 := by
  intro world after codeOf
  obtain ⟨artifact, image, presentsBefore⟩ := Scene.presents_current plain current
  have presents : world.Presents seat loaded artifact image := presentsBefore.onFiles files
  obtain ⟨live, kept⟩ := presents.saved_all saved
  -- Classes of the image and entries of the index tell the same names and code.
  have tells := presents.tellsCode live
  refine ⟨Iff.trans (Iff.symm ?_) (kept.trans ?_), ?_⟩
  · refine forall_iff_of_forall₂ tells fun c entry ⟨named, before, later⟩ => ?_
    rw [named]
    constructor
    · exact fun readable => ⟨c.code, before, later, readable⟩
    · rintro ⟨code, isCode, -, readable⟩
      obtain rfl := Except.ok.inj (isCode.symm.trans before)
      exact readable
  · refine forall_iff_of_forall₂ tells fun c entry ⟨named, before, _⟩ => ?_
    refine forall_iff_of_forall₂ tells fun d other ⟨otherNamed, otherBefore, _⟩ => ?_
    rw [named, otherNamed, show codeOf world entry = _ from before,
      show codeOf world other = _ from otherBefore, Except.ok.injEq]
  · intro entry member other otherMember
    obtain ⟨c, isClass, named, -⟩ := exists_of_mem_right tells member
    obtain ⟨d, isOther, otherNamed, -⟩ := exists_of_mem_right tells otherMember
    rw [named, otherNamed]
    exact presents.gap_of_place_eq isClass isOther

/-- An artifact with two classes whose names differ in an empty segment only. -/
def gappedClasses : Files.Entry :=
    .file ("\x7b\"classes\": [\x7b\"fullname\": \"a..b\"\x7d, " ++
      "\x7b\"fullname\": \"a.b\"\x7d]\x7d").toUTF8

def gappedLoaded : List Deed :=
    [.openSession, .replaceFiles (({} : Files.Tree).put ["a.json"] gappedClasses),
      .load 0 (.memory .lax id) (.path (Path.ofString "a.json")) none []]

/-- Both packages are saved, and the code of a class is gone. -/
theorem gapped_class_lost :
    let world : World := { (Scene.after gappedLoaded).world with files := {} }
    let directory := Path.ofString "out"
    let result := world.run 0 (Command.saveSelected directory none none)
    ∃ loaded, (Scene.after gappedLoaded).world.current 0 = some loaded ∧
      result.1 = .ok (true, ["a.", "a"]) ∧
        ¬ ∀ entry ∈ loaded.classes, ∃ code,
          (world.run 0 (entry.2.code : Action String)).1 = .ok code ∧
            (result.2.run 0 (entry.2.code : Action String)).1 = .ok code ∧
              result.2.files.read (memberPath directory entry.1) = .ok code.toUTF8 := by
  intro world directory result
  have plain : ∀ deed ∈ gappedLoaded, deed.Plain := by simp [gappedLoaded, Deed.Plain]
  have saved : result.1 = .ok (true, ["a.", "a"]) := toOption_eq_some.mp (by decide +kernel)
  let codeOf (entry : String × Handle) : Except Fault String := (world.run 0 entry.2.code).1
  obtain ⟨loaded, current, overwritten⟩ := (Option.any_eq_true _ _).mp
    (show ((Scene.after gappedLoaded).world.current 0).any (fun loaded =>
      loaded.classes.any fun entry => loaded.classes.any fun other =>
        decide (world.files.place (memberPath directory entry.1) =
          world.files.place (memberPath directory other.1)) &&
          (codeOf entry).toOption != (codeOf other).toOption) = true by decide +kernel)
  obtain ⟨entry, member, others⟩ := List.any_eq_true.mp overwritten
  obtain ⟨other, otherMember, differ⟩ := List.any_eq_true.mp others
  rw [Bool.and_eq_true, decide_eq_true_iff, bne_iff_ne] at differ
  refine ⟨loaded, current, saved, fun kept => differ.2 (congrArg Except.toOption ?_)⟩
  exact (saved_all_kept_iff plain current saved).1.mp kept entry member other otherMember differ.1

end DexBrowser.Session

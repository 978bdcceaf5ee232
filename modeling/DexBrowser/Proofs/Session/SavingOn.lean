import DexBrowser.Validation.Lax
import DexBrowser.Proofs.Session.Catalogue
import DexBrowser.Proofs.Session.ClassSaving
import DexBrowser.Proofs.Session.SavingAll
import Mathlib.Data.List.Nodup

/-!
Saving a package of which some classes cannot be written. Main statement: the save goes on past
every class that the files refuse, writes all others and answers whether all were written, unless
the file of a class cannot be asked for at all.
-/

namespace DexBrowser.Session

open Managed Session.Action Files.Tree

variable {origin : LoadId} {image : Image}

/-! ## Actions that do one thing to the files -/

/-- The action ends as the function does on the files, and the load can be asked as before. -/
def Acts (origin : LoadId) (image : Image)
    (effect : Files.Tree → Except Fault α × Files.Tree) (action : Action α) : Prop :=
    ∀ before, Live origin image (fun _ => True) before →
      Live origin image (fun _ => True) (action.run before).2 ∧
        ((action.run before).1, (action.run before).2.files) = effect before.files

section Acts

variable {effect : Files.Tree → Except Fault α × Files.Tree}

theorem Live.run_still {good : α → Prop} {action : Action α} {before : Workspace}
    (live : Live origin image (fun _ => True) before)
    (keeps : ∀ files, action.Keeps (Live origin image (· = files)) good noFault) :
    ∃ a after, action.run before = (.ok a, after) ∧ good a ∧ after.files = before.files ∧
      Live origin image (fun _ => True) after := by
  have kept := keeps before.files before ⟨live.seat, live.load, rfl⟩
  generalize ran : action.run before = result at kept
  obtain ⟨outcome, after⟩ := result
  cases outcome with
  | error fault => exact kept.ends.elim
  | ok a =>
      refine ⟨a, after, rfl, kept.ends, kept.holds.files, ?_⟩
      exact ⟨kept.holds.seat, kept.holds.load, trivial⟩

theorem acts_after {good : β → Prop} {first : Action β} {next : β → Action α}
    (keeps : ∀ files, first.Keeps (Live origin image (· = files)) good noFault)
    (rest : ∀ b, good b → Acts origin image effect (next b)) :
    Acts origin image effect (first >>= next) := by
  intro before live
  obtain ⟨b, between, ran, isGood, files, liveBetween⟩ := live.run_still keeps
  rw [run_bind_ok ran, ← files]
  exact rest b isGood between liveBetween

theorem Acts.before {first : Action α} {next : α → Action β} {f : α → β}
    (acts : Acts origin image effect first)
    (keeps : ∀ a files, (next a).Keeps (Live origin image (· = files)) (· = f a) noFault) :
    Acts origin image (fun tree => ((effect tree).1.map f, (effect tree).2)) (first >>= next) := by
  intro before live
  obtain ⟨liveBetween, same⟩ := acts before live
  dsimp only
  rw [run_bind, ← same]
  generalize first.run before = result at liveBetween
  obtain ⟨outcome, between⟩ := result
  cases outcome with
  | error fault => exact ⟨liveBetween, rfl⟩
  | ok a =>
      obtain ⟨b, after, ran, rfl, files, liveAfter⟩ := liveBetween.run_still (keeps a)
      dsimp only
      rw [ran, files]
      exact ⟨liveAfter, rfl⟩

theorem Acts.shared {action : Action α} (acts : Acts origin image effect action) :
    Acts origin image effect (shared origin.load action) := by
  intro before live
  obtain ⟨inside, liveInside, files, outcome, after, left⟩ := live.run_shared action
  obtain ⟨liveAfter, same⟩ := acts inside liveInside
  rw [outcome, after, same, files]
  exact ⟨left liveAfter, rfl⟩

theorem acts_mapM {related : γ → α → Prop} {step : γ → Files.Tree → Except Fault β × Files.Tree}
    {each : α → Action β} {ks : List γ} {xs : List α} (all : List.Forall₂ related ks xs)
    (acts : ∀ k x, related k x → Acts origin image (step k) (each x)) :
    Acts origin image (Files.Tree.inTurn step ks) (xs.mapM each) := by
  induction all with
  | nil => exact fun before live => ⟨live, rfl⟩
  | @cons k x ks xs isRelated _ ih =>
      intro before live
      obtain ⟨liveBetween, same⟩ := acts k x isRelated before live
      rw [List.mapM_cons, run_bind, Files.Tree.inTurn, ← same]
      generalize (each x).run before = result at liveBetween
      obtain ⟨outcome, between⟩ := result
      cases outcome with
      | error fault => exact ⟨liveBetween, rfl⟩
      | ok b =>
          obtain ⟨liveAfter, sameRest⟩ := ih between liveBetween
          dsimp only
          rw [run_bind, ← sameRest]
          generalize (xs.mapM each).run between = result at liveAfter
          obtain ⟨outcome, after⟩ := result
          cases outcome with
          | error fault => exact ⟨liveAfter, rfl⟩
          | ok bs => exact ⟨liveAfter, rfl⟩

end Acts

/-! ## Saving -/

theorem acts_tryWrite (path : Path) (code : String) :
    Acts origin image (fun tree => tree.refusing (path, code)) (tryWrite path code) := by
  intro before live
  rw [run_tryWrite, ← refusing_snd before.files (path, code)]
  exact ⟨⟨live.seat, live.load, trivial⟩, rfl⟩

/-- The name of a class comes back if the class was not saved. -/
def unsaved (c : Image.ClassImage) (saved : Bool) : Option String :=
    if saved then none else some c.fullName

def trySaving (directory : Path) (classes : List Image.ClassImage) :
    Files.Tree → Except Fault (List (Option String)) × Files.Tree :=
    Files.Tree.inTurn (trying (savedClass directory) unsaved) classes

/-- The save says that all is saved if no name came back. -/
def allSaved (outcomes : List (Option String)) : Bool :=
    (outcomes.filterMap id).isEmpty

section Saving

variable {h : Handle} {i : Nat} {c : Image.ClassImage}

theorem acts_writeClass (wraps : h.Wraps origin .classNode (.classNode i))
    (found : image.classes[i]? = some c) (path : Path) :
    Acts origin image (fun tree => tree.refusing (path, c.code)) (h.writeClass path) := by
  have sameLoad : h.load = origin.load := congrArg LoadId.load wraps.origin
  rw [Handle.writeClass, sameLoad]
  apply Acts.shared
  apply acts_after fun _ => Live.keeps_code wraps found
  rintro _ rfl
  have same : (fun tree : Files.Tree => tree.refusing (path, c.code)) = fun tree =>
      ((tree.refusing (path, c.code)).1.map id, (tree.refusing (path, c.code)).2) := by
    funext tree
    rw [Except.map_id]
    rfl
  rw [same]
  apply (acts_tryWrite path c.code).before
  intro failure files
  cases failure with
  | none => exact keeps_pure rfl
  | some why =>
      apply keeps_bind (Live.keeps_fullName wraps (tells_class found rfl))
      intro _ _
      exact keeps_bind (Live.keeps_log _ _ _) fun _ _ => keeps_pure rfl

theorem acts_saveClass (wraps : h.Wraps origin .classNode (.classNode i))
    (found : image.classes[i]? = some c) (path : Path) :
    Acts origin image (fun tree => tree.attempt (path, c.code))
        (h.saveClass path : Action Bool) := by
  apply (acts_writeClass wraps found path).before
  intro failure files
  cases failure with
  | some why => exact keeps_pure rfl
  | none =>
      apply keeps_bind (Live.keeps_fullName wraps (tells_class found rfl))
      intro _ _
      exact keeps_bind (Live.keeps_log _ _ _) fun _ _ => keeps_pure rfl

theorem acts_saveMember (wraps : h.Wraps origin .classNode (.classNode i))
    (found : image.classes[i]? = some c) (directory : Path) :
    Acts origin image (trying (savedClass directory) unsaved c)
        (Handle.saveMember directory h) := by
  apply acts_after fun _ => Live.keeps_fullName wraps (tells_class found rfl)
  rintro _ rfl
  apply (acts_saveClass wraps found (memberPath directory c.fullName)).before
  intro saved files
  exact keeps_pure rfl

theorem acts_saveMembers {p : String × List Nat} {classes : List Image.ClassImage}
    (wraps : h.Wraps origin .package (.package i)) (found : image.packages[i]? = some p)
    (members : List.Forall₂ (fun c place => image.classes[place]? = some c) classes p.2)
    (directory : Path) :
    Acts origin image (trySaving directory classes) (h.saveMembers directory) := by
  have known : ∀ place ∈ p.2, ∃ c, image.classes[place]? = some c := by
    intro place inside
    obtain ⟨c, -, atPlace⟩ := exists_of_mem_right members inside
    exact ⟨c, atPlace⟩
  have sameLoad : h.load = origin.load := congrArg LoadId.load wraps.origin
  rw [Handle.saveMembers, sameLoad]
  apply Acts.shared
  apply acts_after fun _ => Live.keeps_classes wraps found known
  intro handles all
  apply acts_mapM (forall₂_comp members all)
  rintro c made ⟨place, atPlace, wrapsClass⟩
  exact acts_saveMember wrapsClass atPlace directory

theorem acts_savePackage {p : String × List Nat} {classes : List Image.ClassImage}
    (wraps : h.Wraps origin .package (.package i)) (found : image.packages[i]? = some p)
    (members : List.Forall₂ (fun c place => image.classes[place]? = some c) classes p.2)
    (directory : Path) :
    Acts origin image
      (fun tree => ((trySaving directory classes tree).1.map allSaved,
        (trySaving directory classes tree).2))
      (h.savePackage directory : Action Bool) := by
  apply (acts_saveMembers wraps found members directory).before
  intro outcomes files
  dsimp only
  split
  case isTrue none => exact keeps_pure none.symm
  case isFalse some =>
      apply keeps_bind (Live.keeps_fullName wraps (tells_package found rfl))
      intro _ _
      apply keeps_bind (Live.keeps_log _ _ _)
      intro _ _
      exact keeps_pure (Bool.eq_false_iff.mpr some).symm

end Saving

/-! ## The files of a package -/

section PackageFiles

variable {c d : Image.ClassImage} {directory : Path}

theorem memberPath_proper (proper : c.named.Proper) (directory : Path) :
    (memberPath directory c.fullName).anchor =
        (directory.join (ClassName.packagePath c.package.toList)).anchor ∧
      (memberPath directory c.fullName).parts =
        (directory.join (ClassName.packagePath c.package.toList)).parts ++
          [String.ofList (c.named.name.toList ++ ClassName.sourceExtension.toList)] := by
  obtain ⟨anchor, parts⟩ := ClassName.ofString_sourceFile proper.normal
    c.named.toList_fullName proper.plain
  rw [show c.named.fullName = c.fullName from rfl] at anchor parts
  have sameKind : (Path.ofString (ClassName.sourceFile c.fullName)).isAbsolute =
      (ClassName.packagePath c.package.toList).isAbsolute := by
    rw [Path.isAbsolute, Path.isAbsolute, anchor]
    rfl
  rw [memberPath]
  cases absolute : (Path.ofString (ClassName.sourceFile c.fullName)).isAbsolute with
  | true =>
      rw [absolute] at sameKind
      rw [Path.join_absolute absolute, Path.join_absolute sameKind.symm]
      exact ⟨anchor, parts⟩
  | false =>
      rw [absolute] at sameKind
      rw [Path.anchor_join absolute, Path.anchor_join sameKind.symm, Path.parts_join absolute,
        Path.parts_join sameKind.symm, parts, List.append_assoc]
      exact ⟨rfl, rfl⟩

theorem inside_memberPath (proper : c.named.Proper) (directory : Path) :
    Inside (directory.join (ClassName.packagePath c.package.toList))
      (memberPath directory c.fullName) := by
  obtain ⟨anchor, parts⟩ := memberPath_proper proper directory
  refine ⟨?_, ?_, Path.eq_of_parts ?_ ?_⟩
  · rw [parts]
    exact List.append_ne_nil_of_right_ne_nil _ (List.cons_ne_nil _ _)
  · have letter : 'j' ∈ (memberPath directory c.fullName).name.toList := by
      rw [Path.name, parts, List.getLastD_concat, String.toList_ofList]
      exact List.mem_append_right _ (by decide)
    intro up
    rw [up] at letter
    exact absurd letter (by decide)
  · rw [Path.anchor_parent, anchor]
  · rw [Path.parts_parent, parts, List.dropLast_concat]

theorem eq_of_memberPath_eq (proper : c.named.Proper) (otherProper : d.named.Proper)
    (samePackage : c.package = d.package)
    (same : memberPath directory c.fullName = memberPath directory d.fullName) :
    c.fullName = d.fullName := by
  obtain ⟨-, parts⟩ := memberPath_proper proper directory
  obtain ⟨-, otherParts⟩ := memberPath_proper otherProper directory
  rw [same, otherParts, samePackage] at parts
  have sameFile := String.ofList_injective (List.singleton_inj.mp (List.append_cancel_left parts))
  have sameName := String.toList_inj.mp (List.append_cancel_right sameFile)
  exact (proper.fullName_eq_iff otherProper).mpr ⟨samePackage, sameName.symm⟩

end PackageFiles

/-! ## In a world -/

/-- The package lists its classes, which tell these full names and this code. -/
def World.Lists (world : World) (h : Handle) (sources : List (String × String)) : Prop :=
    ∃ members, (world.run h.seat (h.classes : Action (List Handle))).1 = .ok members ∧
      List.Forall₂ (fun source member =>
        (world.run h.seat (member.fullName : Action String)).1 = .ok source.1 ∧
          (world.run h.seat (member.code : Action String)).1 = .ok source.2) sources members

/-- What comes of writing one class of a package, and nothing else, into a directory. -/
def writtenAlone (files : Files.Tree) (directory : Path) (source : String × String) :
    Except Fault Unit :=
    (files.writeSource (memberPath directory source.1) source.2).2

/-- The file of a class of a package holds its code. -/
def HoldsSource (files : Files.Tree) (directory : Path) (source : String × String) : Prop :=
    files.read (memberPath directory source.1) = .ok source.2.toUTF8

/-- A save goes on past classes that are refused, unless there is one that cannot be asked for. -/
structure SavesOn (before : Files.Tree) (directory : Path) (sources : List (String × String))
    (answer : Except Fault Bool) (after : Files.Tree) : Prop where
  ends : (∃ saved, answer = .ok saved) ↔
    ∀ source ∈ sources, writtenAlone before directory source ≠ .error (.value .nulCharacter)
  fault : ∀ fault, answer = .error fault → fault = .value .nulCharacter
  written : ∀ saved, answer = .ok saved → ∀ source ∈ sources,
    HoldsSource after directory source ↔ writtenAlone before directory source = .ok ()
  whole : ∀ saved, answer = .ok saved →
    (saved = true ↔ ∀ source ∈ sources, HoldsSource after directory source)

section World

variable {world : World} {seat : Nat} {loaded : Loaded} {artifact : Artifact}

theorem World.Live.acts (live : world.Live origin image) {action : Action α}
    {effect : Files.Tree → Except Fault α × Files.Tree} (acts : Acts origin image effect action) :
    ((world.run origin.seat action).1, (world.run origin.seat action).2.files) =
      effect world.files := by
  obtain ⟨state, found, ready⟩ := live
  obtain ⟨outcome, -, files, -⟩ := World.run_of_session found action
  obtain ⟨-, same⟩ := acts _ ready
  rw [outcome, files, same]

theorem allSaved_eq_true {outcomes : List (Option String)} :
    allSaved outcomes = true ↔ ∀ outcome ∈ outcomes, outcome = none := by
  rw [allSaved, List.isEmpty_iff, List.filterMap_eq_nil_iff]
  rfl

theorem map_eq_ok_iff {outcome : Except Fault α} {f : α → β} {b : β} :
    outcome.map f = .ok b ↔ ∃ a, outcome = .ok a ∧ f a = b := by
  cases outcome <;> simp [Except.map]

theorem map_eq_error_iff {outcome : Except Fault α} {f : α → β} {fault : Fault} :
    outcome.map f = .error fault ↔ outcome = .error fault := by
  cases outcome <;> simp [Except.map]

section InTurn

variable {classes : List Image.ClassImage} {directory : Path} {files : Files.Tree}

theorem attempt_savedClass_ok {c : Image.ClassImage} :
    (files.attempt (savedClass directory c)).1 = .ok true ↔
      writtenAlone files directory (c.fullName, c.code) = .ok () :=
  attempt_eq_true_iff

theorem attempt_savedClass_error {c : Image.ClassImage} {fault : Fault} :
    (files.attempt (savedClass directory c)).1 = .error fault ↔
      fault = .value .nulCharacter ∧
        writtenAlone files directory (c.fullName, c.code) = .error (.value .nulCharacter) :=
  attempt_eq_error_iff

section Neighbours

variable {below : Path} (inside : ∀ c ∈ classes, Inside below (savedClass directory c).1)
include inside

theorem trySaving_error {fault : Fault}
    (failed : (trySaving directory classes files).1 = .error fault) :
    fault = .value .nulCharacter ∧ ∃ c ∈ classes,
      writtenAlone files directory (c.fullName, c.code) = .error (.value .nulCharacter) := by
  rw [trySaving, inTurn_trying inside] at failed
  obtain ⟨c, member, own⟩ := exists_of_mapM_error failed
  obtain ⟨isNul, alone⟩ := attempt_savedClass_error.mp (map_eq_error_iff.mp own)
  exact ⟨isNul, c, member, alone⟩

theorem forall₂_of_trySaving {outcomes : List (Option String)}
    (ended : (trySaving directory classes files).1 = .ok outcomes) :
    List.Forall₂ (fun c outcome => ∃ saved,
      (files.attempt (savedClass directory c)).1 = .ok saved ∧ unsaved c saved = outcome)
      classes outcomes := by
  rw [trySaving, inTurn_trying inside] at ended
  exact (forall₂_of_mapM_ok ended).imp fun _ _ own => map_eq_ok_iff.mp own

theorem trySaving_fine {outcomes : List (Option String)}
    (ended : (trySaving directory classes files).1 = .ok outcomes) {c : Image.ClassImage}
    (member : c ∈ classes) :
    writtenAlone files directory (c.fullName, c.code) ≠ .error (.value .nulCharacter) := by
  rw [trySaving, inTurn_trying inside] at ended
  obtain ⟨_, -, own⟩ := exists_of_mapM_ok ended member
  obtain ⟨saved, tried, -⟩ := map_eq_ok_iff.mp own
  intro alone
  rw [attempt_savedClass_error.mpr ⟨rfl, alone⟩] at tried
  contradiction

theorem allSaved_trySaving {outcomes : List (Option String)}
    (ended : (trySaving directory classes files).1 = .ok outcomes) :
    allSaved outcomes = true ↔
      ∀ c ∈ classes, writtenAlone files directory (c.fullName, c.code) = .ok () := by
  rw [allSaved_eq_true]
  symm
  apply forall_iff_of_forall₂ (forall₂_of_trySaving inside ended)
  rintro c _ ⟨saved, tried, rfl⟩
  rw [← attempt_savedClass_ok, tried]
  cases saved <;> simp [unsaved]

end Neighbours

/-- The classes of a package are tried one after the other, which is as good as each alone. -/
theorem savesOn_trySaving {package : String} (proper : ∀ c ∈ classes, c.named.Proper)
    (inPackage : ∀ c ∈ classes, c.package = package)
    (distinct : (classes.map Image.ClassImage.fullName).Nodup) :
    SavesOn files directory (classes.map fun c => (c.fullName, c.code))
      ((trySaving directory classes files).1.map allSaved)
      (trySaving directory classes files).2 := by
  have inside : ∀ c ∈ classes, Inside (directory.join (ClassName.packagePath package.toList))
      (savedClass directory c).1 := by
    intro c member
    rw [← inPackage c member]
    exact inside_memberPath (proper c member) directory
  have apart : ∀ c ∈ classes, ∀ d ∈ classes,
      (savedClass directory d).1 = (savedClass directory c).1 → d = c := by
    intro c member d otherMember same
    have samePackage := (inPackage d otherMember).trans (inPackage c member).symm
    apply List.inj_on_of_nodup_map distinct otherMember member
    exact eq_of_memberPath_eq (proper d otherMember) (proper c member) samePackage same
  have written : ∀ outcomes, (trySaving directory classes files).1 = .ok outcomes →
      ∀ c ∈ classes, HoldsSource (trySaving directory classes files).2 directory
        (c.fullName, c.code) ↔ writtenAlone files directory (c.fullName, c.code) = .ok () := by
    intro outcomes ended c member
    exact (read_inTurn_trying inside apart ended member).trans attempt_savedClass_ok
  constructor
  case ends =>
      rw [List.forall_mem_map]
      constructor
      · rintro ⟨saved, answered⟩ c member
        obtain ⟨outcomes, ended, -⟩ := map_eq_ok_iff.mp answered
        exact trySaving_fine inside ended member
      · intro fine
        cases ended : (trySaving directory classes files).1 with
        | ok outcomes => exact ⟨allSaved outcomes, rfl⟩
        | error fault =>
            obtain ⟨-, c, member, alone⟩ := trySaving_error inside ended
            exact absurd alone (fine c member)
  case fault =>
      intro fault isFault
      exact (trySaving_error inside (map_eq_error_iff.mp isFault)).1
  case written =>
      intro saved answered
      obtain ⟨outcomes, ended, -⟩ := map_eq_ok_iff.mp answered
      rw [List.forall_mem_map]
      exact written outcomes ended
  case whole =>
      intro saved answered
      obtain ⟨outcomes, ended, rfl⟩ := map_eq_ok_iff.mp answered
      rw [List.forall_mem_map, allSaved_trySaving inside ended]
      exact forall₂_congr fun c member => (written outcomes ended c member).symm

end InTurn

theorem World.Presents.savesOn (presents : world.Presents seat loaded artifact image)
    {name : String} {h : Handle} (member : (name, h) ∈ loaded.packages) (directory : Path) :
    let result := world.run h.seat (h.savePackage directory : Action Bool)
    ∃ sources, world.Lists h sources ∧
      SavesOn world.files directory sources result.1 result.2.files := by
  intro result
  obtain ⟨i, places, found, wraps⟩ := presents.packageAt member
  have sameSeat : h.seat = seat := congrArg LoadId.seat wraps.origin
  have isPackage := List.mem_of_getElem? found
  have built := presents.presents.built
  have atPlaces := (Image.partition_build built).places _ isPackage
  let classes := image.classes.filter (·.package = name)
  have members : List.Forall₂ (fun c place => image.classes[place]? = some c) classes places := by
    rw [show places = _ from atPlaces]
    exact Image.forall₂_placesOf image.classes Image.ClassImage.package name
  refine ⟨classes.map fun c => (c.fullName, c.code), ?_, ?_⟩
  · obtain ⟨handles, after, ran, all, -⟩ := presents.live.gives
      (Live.keeps_classes wraps found (presents.known_places isPackage))
    refine ⟨handles, by rw [sameSeat, ran], ?_⟩
    rw [List.forall₂_map_left_iff, sameSeat]
    apply (forall₂_comp members all).imp
    rintro c made ⟨place, atPlace, wrapsClass⟩
    constructor
    · exact presents.live.answers (Live.keeps_fullName wrapsClass (tells_class atPlace rfl))
    · exact presents.live.answers (Live.keeps_code wrapsClass atPlace)
  · have same := presents.live.acts (acts_savePackage wraps found members directory)
    obtain ⟨answer, files⟩ := Prod.mk.inj same
    dsimp only at answer files
    rw [show result = world.run seat _ by rw [← sameSeat], answer, files]
    apply savesOn_trySaving
    · intro c isMember
      exact Image.proper_build built (List.mem_filter.mp isMember).1
    · intro c isMember
      exact of_decide_eq_true (List.mem_filter.mp isMember).2
    · exact (Image.nodup_build built).sublist (List.filter_sublist.map _)

end World

/-- While managed objects answer what the artifacts say, saving a package writes each of its classes
exactly if that could be written alone, and answers whether all were. It ends with an answer exactly
if no class has a file that cannot even be asked for, which takes a name or a directory with a zero
character. -/
theorem package_save_goes_on_iff {deeds : List Deed} (plain : ∀ deed ∈ deeds, deed.Plain)
    {seat : Nat} {loaded : Loaded}
    (current : (Scene.after deeds).world.current seat = some loaded) {name : String} {h : Handle}
    (member : (name, h) ∈ loaded.packages) {argument : Files.PathArgument} {directory : Path}
    (path : argument.toPath = .ok directory) (files : Files.Tree) :
    let world : World := { (Scene.after deeds).world with files := files }
    let result := world.run h.seat (h.save argument : Action Bool)
    ∃ sources, world.Lists h sources ∧
      SavesOn files directory sources result.1 result.2.files := by
  intro world result
  obtain ⟨artifact, image, presentsBefore⟩ := Scene.presents_current plain current
  have presents : world.Presents seat loaded artifact image := presentsBefore.onFiles files
  obtain ⟨i, places, found, wraps⟩ := presents.packageAt member
  have same : (h.save argument : Action Bool) = h.savePackage directory :=
    save_of_toPath wraps.kind path
  rw [show result = world.run h.seat (h.savePackage directory) by rw [← same]]
  exact presents.savesOn member directory

/-- An artifact with two classes of one package, the first with a zero character in its name. -/
def zeroClasses : Files.Entry :=
    .file ("\x7b\"classes\": [\x7b\"fullname\": \"a.B\\u0000\"\x7d, " ++
      "\x7b\"fullname\": \"a.C\"\x7d]\x7d").toUTF8

def zeroLoaded : List Deed :=
    [.openSession, .replaceFiles (({} : Files.Tree).put ["a.json"] zeroClasses),
      .load 0 (.memory .lax id) (.path (Path.ofString "a.json")) none []]

/-- The save fails at the first class, and nothing is written of the second. -/
theorem zero_class_stops_save :
    let world : World := { (Scene.after zeroLoaded).world with files := {} }
    ∃ loaded name h, (Scene.after zeroLoaded).world.current 0 = some loaded ∧
      (name, h) ∈ loaded.packages ∧
        let result := world.run h.seat (h.save (.text "out") : Action Bool)
        result.1 = .error (.value .nulCharacter) ∧ result.2.files.namesIn ["out", "a"] = [] ∧
          ∃ sources, world.Lists h sources ∧ ∃ source ∈ sources,
            writtenAlone {} (Path.ofString "out") source = .error (.value .nulCharacter) := by
  intro world
  have stopped : ((Scene.after zeroLoaded).world.current 0).any (fun loaded =>
      loaded.packages.any fun entry =>
        let result := world.run entry.2.seat (entry.2.save (.text "out") : Action Bool)
        faultOf? result.1 == some (.value .nulCharacter) &&
          (result.2.files.namesIn ["out", "a"]).isEmpty) = true := by
    decide +kernel
  obtain ⟨loaded, current, inPackages⟩ := (Option.any_eq_true _ _).mp stopped
  obtain ⟨⟨name, h⟩, member, ends⟩ := List.any_eq_true.mp inPackages
  rw [Bool.and_eq_true, beq_iff_eq, List.isEmpty_iff] at ends
  obtain ⟨failed, nothing⟩ := ends
  have answer := faultOf?_eq_some.mp failed
  have plain : ∀ deed ∈ zeroLoaded, deed.Plain := by simp [zeroLoaded, Deed.Plain]
  have isPath : (Files.PathArgument.text "out").toPath = .ok (Path.ofString "out") := rfl
  obtain ⟨sources, lists, savesOn⟩ := package_save_goes_on_iff plain current member isPath {}
  refine ⟨loaded, name, h, current, member, answer, nothing, sources, lists, ?_⟩
  by_contra none
  have fine : ∀ source ∈ sources,
      writtenAlone {} (Path.ofString "out") source ≠ .error (.value .nulCharacter) :=
    fun source isSource alone => none ⟨source, isSource, alone⟩
  obtain ⟨saved, answered⟩ := savesOn.ends.mpr fine
  rw [answer] at answered
  contradiction

end DexBrowser.Session

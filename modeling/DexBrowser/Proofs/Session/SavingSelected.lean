import DexBrowser.Proofs.Files.Completion
import DexBrowser.Proofs.Session.SavingOn

/-!
Saving what is selected of an input: a class, a package or all packages. Main statements: if it is
not there, nothing is done; otherwise all is said to be saved exactly if the selected classes were
written, one after the other, and nothing is changed beside the files.
-/

namespace DexBrowser.Session

open Managed Session.Action Files.Tree

variable {origin : LoadId} {image : Image}

/-! ## What a save says -/

/-- The targets are said to be saved exactly if source files were written one after the other, and
nothing else was done to the files. Beyond that, the load is only used. -/
structure Saves (origin : LoadId) (image : Image) (writes : List (Path × String))
    (targets : List String) (action : Action (Bool × List String)) : Prop where
  ends : ∀ before, Live origin image (fun _ => True) before → ∀ told after,
    ((action.run before).1 = .ok (true, told) ∧ (action.run before).2.files = after) ↔
      told = targets ∧ Written before.files writes after
  uses : ∀ holds, Usable origin .memory holds anyFault → (∀ path, Writable holds path) →
    action.Respects holds anyFault

section Saves

variable {writes : List (Path × String)} {targets : List String}

theorem Acts.ends_iff {effect : Files.Tree → Except Fault β × Files.Tree} (say : β → Bool)
    {action : Action (Bool × List String)}
    (acts : Acts origin image
      (fun tree => ((effect tree).1.map fun b => (say b, targets), (effect tree).2)) action)
    (completes : Completes writes (say · = true) effect) (before : Workspace)
    (live : Live origin image (fun _ => True) before) (told : List String) (after : Files.Tree) :
    ((action.run before).1 = .ok (true, told) ∧ (action.run before).2.files = after) ↔
      told = targets ∧ Written before.files writes after := by
  obtain ⟨-, same⟩ := acts before live
  obtain ⟨outcome, files⟩ := Prod.mk.inj same
  rw [outcome, files, ← completes before.files after, map_eq_ok_iff]
  constructor
  · rintro ⟨⟨b, answered, ended⟩, rfl⟩
    obtain ⟨isSaved, rfl⟩ := Prod.mk.inj ended
    exact ⟨rfl, b, Prod.ext answered rfl, isSaved⟩
  · rintro ⟨rfl, b, ended, isSaved⟩
    rw [ended]
    exact ⟨⟨b, rfl, by rw [isSaved]⟩, rfl⟩

theorem saves_class {h : Handle} {i : Nat} {c : Image.ClassImage}
    (wraps : h.Wraps origin .classNode (.classNode i)) (found : image.classes[i]? = some c)
    (path : Path) (name : String) :
    Saves origin image [(path, c.code)] [name] (do return (← h.saveClass path, [name])) where
  ends := by
    apply Acts.ends_iff id _ (completes_attempt (path, c.code))
    exact (acts_saveClass wraps found path).before fun saved _ => keeps_pure rfl
  uses holds use writable := by
    rw [← wraps.origin] at use
    exact keeps_bind (use.respects_saveClass (writable path)) fun _ _ => respects_pure _

/-- Saves the classes of one package as far as that goes. -/
def trySavingPackage (directory : Path) (image : Image) (package : String) (tree : Files.Tree) :
    Except Fault Bool × Files.Tree :=
    let tried := trySaving directory (image.classes.filter (·.package = package)) tree
    (tried.1.map allSaved, tried.2)

theorem completes_trySavingPackage (directory : Path) (image : Image) (package : String) :
    Completes ((image.classes.filter (·.package = package)).map (savedClass directory)) (· = true)
      (trySavingPackage directory image package) := by
  rw [List.map_eq_flatMap]
  apply Completes.map (completes_inTurn fun c _ => ?_) fun outcomes => allSaved_eq_true
  refine (completes_attempt (savedClass directory c)).map fun saved => ?_
  cases saved <;> simp [unsaved]

section Package

variable {h : Handle} {i : Nat} {p : String × List Nat}
  (partition : Image.Partition (image.classes.map Image.ClassImage.package) image.packages)
  (found : image.packages[i]? = some p)

include partition found

theorem acts_trySavingPackage (wraps : h.Wraps origin .package (.package i)) (directory : Path) :
    Acts origin image (trySavingPackage directory image p.1)
      (h.savePackage directory : Action Bool) := by
  apply acts_savePackage wraps found
  rw [partition.places p (List.mem_of_getElem? found)]
  exact Image.forall₂_placesOf image.classes Image.ClassImage.package p.1

theorem saves_package (wraps : h.Wraps origin .package (.package i)) (directory : Path) :
    Saves origin image ((image.classes.filter (·.package = p.1)).map (savedClass directory)) [p.1]
      (do return (← h.savePackage directory, [p.1])) where
  ends := by
    apply Acts.ends_iff id _ (completes_trySavingPackage directory image p.1)
    have saved := acts_trySavingPackage partition found wraps directory
    exact saved.before fun _ _ => keeps_pure rfl
  uses holds use writable := by
    rw [← wraps.origin] at use
    have saved := use.respects_savePackage_of_writable writable directory
    exact keeps_bind saved fun _ _ => respects_pure _

end Package

section Packages

variable {packages : List Handle} (arePackages : ArePackages origin image packages)

include arePackages

theorem ArePackages.saves
    (partition : Image.Partition (image.classes.map Image.ClassImage.package) image.packages)
    (directory : Path) :
    Saves origin image (savedAll directory image) (image.packages.map (·.1))
      (savePackages directory packages) where
  ends := by
    have completes : Completes (savedAll directory image) (fun bs => ∀ b ∈ bs, b = true)
        (Files.Tree.inTurn (fun p => trySavingPackage directory image p.1) image.packages) :=
      completes_inTurn fun p _ => completes_trySavingPackage directory image p.1
    simp only [← List.all_eq_true] at completes
    apply Acts.ends_iff (List.all · id) _ completes
    have each := acts_mapM arePackages fun p h ⟨i, found, wraps⟩ =>
      acts_trySavingPackage partition found wraps directory
    apply each.before
    intro saved files
    refine keeps_bind (arePackages.keeps_names files) ?_
    rintro _ rfl
    exact keeps_pure rfl
  uses holds use writable := by
    have each : ∀ h ∈ packages, Usable (World.originOf h) .memory holds anyFault := by
      intro h member
      obtain ⟨p, -, i, -, wraps⟩ := exists_of_mem_right arePackages member
      rw [wraps.origin]
      exact use
    have saved : (packages.mapM (·.savePackage directory) : Action (List Bool)).Respects holds
        anyFault :=
      (keeps_mapM fun h member =>
        (each h member).respects_savePackage_of_writable writable directory).respects
    have named : (packages.mapM Handle.fullName : Action (List String)).Respects holds anyFault :=
      (keeps_mapM fun h member => (each h member).respects_fullName).respects
    exact keeps_bind saved fun _ _ => keeps_bind named fun _ _ => respects_pure _

end Packages

end Saves

/-! ## What is selected -/

/-- What a selection has to be written, and under which names that is told. An empty name selects
nothing. -/
inductive Selects (image : Image) (output : Path) (className packageName : Option String) :
    List (Path × String) → List String → Prop
  | one {name : String} {c : Image.ClassImage} (asked : className.filter (· ≠ "") = some name)
      (member : c ∈ image.classes) (named : c.fullName = ClassName.normalize name) :
      Selects image output className packageName [(output, c.code)] [name]
  | package {name : String} (noClass : className.filter (· ≠ "") = none)
      (asked : packageName.filter (· ≠ "") = some name)
      (member : name ∈ image.classes.map Image.ClassImage.package) :
      Selects image output className packageName
        ((image.classes.filter (·.package = name)).map (savedClass output)) [name]
  | all (noClass : className.filter (· ≠ "") = none)
      (noPackage : packageName.filter (· ≠ "") = none) :
      Selects image output className packageName (savedAll output image)
        (image.packages.map (·.1))

section Selects

variable {output : Path} {className packageName : Option String} {writes : List (Path × String)}
  {targets : List String} {name : String}

theorem selects_class_iff (asked : className.filter (· ≠ "") = some name) :
    Selects image output className packageName writes targets ↔
      ∃ c ∈ image.classes, c.fullName = ClassName.normalize name ∧
        writes = [(output, c.code)] ∧ targets = [name] := by
  constructor
  · rintro (⟨again, member, named⟩ | ⟨noClass, -, -⟩ | ⟨noClass, -⟩)
    · obtain rfl := Option.some.inj (again.symm.trans asked)
      exact ⟨_, member, named, rfl, rfl⟩
    · cases noClass.symm.trans asked
    · cases noClass.symm.trans asked
  · rintro ⟨c, member, named, rfl, rfl⟩
    exact .one asked member named

theorem selects_package_iff (noClass : className.filter (· ≠ "") = none)
    (asked : packageName.filter (· ≠ "") = some name) :
    Selects image output className packageName writes targets ↔
      name ∈ image.classes.map Image.ClassImage.package ∧
        writes = (image.classes.filter (·.package = name)).map (savedClass output) ∧
          targets = [name] := by
  constructor
  · rintro (⟨isClass, -, -⟩ | ⟨-, again, member⟩ | ⟨-, noPackage⟩)
    · cases noClass.symm.trans isClass
    · obtain rfl := Option.some.inj (again.symm.trans asked)
      exact ⟨member, rfl, rfl⟩
    · cases noPackage.symm.trans asked
  · rintro ⟨member, rfl, rfl⟩
    exact .package noClass asked member

theorem selects_all_iff (noClass : className.filter (· ≠ "") = none)
    (noPackage : packageName.filter (· ≠ "") = none) :
    Selects image output className packageName writes targets ↔
      writes = savedAll output image ∧ targets = image.packages.map (·.1) := by
  constructor
  · rintro (⟨isClass, -, -⟩ | ⟨-, isPackage, -⟩ | -)
    · cases noClass.symm.trans isClass
    · cases noPackage.symm.trans isPackage
    · exact ⟨rfl, rfl⟩
  · rintro ⟨rfl, rfl⟩
    exact .all noClass noPackage

end Selects

/-- What is selected is saved if it is there; otherwise nothing is done. -/
inductive Selected (origin : LoadId) (image : Image) (output : Path)
    (className packageName : Option String) (before : Workspace) :
    Except Fault (Bool × List String) × Workspace → Prop
  | there {writes : List (Path × String)} {targets : List String}
      {action : Action (Bool × List String)} (saves : Saves origin image writes targets action)
      (only : ∀ others told, Selects image output className packageName others told ↔
        others = writes ∧ told = targets) :
      Selected origin image output className packageName before (action.run before)
  | absent {fault : Fault}
      (none : ∀ writes targets, ¬ Selects image output className packageName writes targets) :
      Selected origin image output className packageName before (.error fault, before)

section Listed

variable {kind : Kind} {id : Nat → ObjectId} {xs : List α} {nameOf : α → String}
  {entries : List (String × Handle)} {name : String}
  (listed : Listed origin kind id (xs.map nameOf) entries)

include listed

theorem Listed.lookup_some {h : Handle} (found : entries.lookup name = some h) :
    ∃ i x, xs[i]? = some x ∧ nameOf x = name ∧ h.Wraps origin kind (id i) := by
  obtain ⟨front, back, rfl, -⟩ := List.lookup_eq_some_iff.mp found
  obtain ⟨i, atName, -, wraps⟩ := listed.place (List.mem_append_right front List.mem_cons_self)
  rw [List.getElem?_map] at atName
  obtain ⟨x, atItem, named⟩ := Option.map_eq_some_iff.mp atName
  exact ⟨i, x, atItem, named, wraps⟩

theorem Listed.lookup_none (missing : entries.lookup name = none) : name ∉ xs.map nameOf := by
  rw [← listed.names, ← lookup_isSome_iff, missing]
  exact Bool.false_ne_true

end Listed

section Selected

variable {before : Workspace} {loaded : Loaded} {seat : Nat} {artifact : Artifact}
  (free : before.state.lock.writer = false) (current : before.state.current = some loaded)
  (presents : loaded.Presents seat artifact image) (output : Path)
  {className packageName : Option String}

include free current presents

theorem selected_class {name : String} (asked : className.filter (· ≠ "") = some name) :
    Selected ⟨seat, loaded.load⟩ image output className packageName before
      ((getClass name >>= fun h => do return (← h.saveClass output, [name])).run before) := by
  have searched := run_getClass free current name
  cases known : loaded.classes.lookup (ClassName.normalize name) with
  | none =>
      rw [known] at searched
      rw [run_bind, searched]
      refine .absent fun writes targets selects => ?_
      obtain ⟨c, member, named, -⟩ := (selects_class_iff asked).mp selects
      apply presents.classes.lookup_none known
      rw [← named]
      exact List.mem_map_of_mem member
  | some h =>
      rw [known] at searched
      rw [run_bind_ok searched]
      obtain ⟨i, c, found, named, wraps⟩ := presents.classes.lookup_some known
      refine .there (saves_class wraps found output name) fun others told => ?_
      rw [selects_class_iff asked]
      constructor
      · rintro ⟨d, member, otherNamed, rfl, rfl⟩
        -- No two classes go by one name.
        have isClass := List.mem_of_getElem? found
        obtain rfl := List.inj_on_of_nodup_map (Image.nodup_build presents.built) member isClass
          (otherNamed.trans named.symm)
        exact ⟨rfl, rfl⟩
      · rintro ⟨rfl, rfl⟩
        exact ⟨c, List.mem_of_getElem? found, named, rfl, rfl⟩

theorem selected_package (noClass : className.filter (· ≠ "") = none) {name : String}
    (asked : packageName.filter (· ≠ "") = some name) :
    Selected ⟨seat, loaded.load⟩ image output className packageName before
      ((getPackage name >>= fun h => do return (← h.savePackage output, [name])).run before) := by
  have partition := Image.partition_build presents.built
  have searched := run_getPackage free current name
  cases known : loaded.packages.lookup name with
  | none =>
      rw [known] at searched
      rw [run_bind, searched]
      refine .absent fun writes targets selects => ?_
      obtain ⟨member, -⟩ := (selects_package_iff noClass asked).mp selects
      exact presents.packages.lookup_none known ((partition.named name).mpr member)
  | some h =>
      rw [known] at searched
      rw [run_bind_ok searched]
      obtain ⟨i, p, found, rfl, wraps⟩ := presents.packages.lookup_some known
      refine .there (saves_package partition found wraps output) fun others told => ?_
      rw [selects_package_iff noClass asked]
      refine and_iff_right ((partition.named p.1).mp ?_)
      exact List.mem_map_of_mem (List.mem_of_getElem? found)

theorem selected_all (noClass : className.filter (· ≠ "") = none)
    (noPackage : packageName.filter (· ≠ "") = none) :
    Selected ⟨seat, loaded.load⟩ image output className packageName before
      ((allPackages >>= savePackages output).run before) := by
  have partition := Image.partition_build presents.built
  rw [run_bind_ok (run_allPackages free current)]
  refine .there (presents.packages.arePackages.saves partition output) fun others told => ?_
  exact selects_all_iff noClass noPackage

theorem selected_saveSelected :
    Selected ⟨seat, loaded.load⟩ image output className packageName before
      ((Command.saveSelected output className packageName).run before) := by
  unfold Command.saveSelected
  cases isClass : className.filter (· ≠ "") with
  | some name => exact selected_class free current presents output isClass
  | none =>
      cases isPackage : packageName.filter (· ≠ "") with
      | some name => exact selected_package free current presents output isClass isPackage
      | none => exact selected_all free current presents output isClass isPackage

end Selected

namespace Selected

variable {before : Workspace} {output : Path} {className packageName : Option String}
  {result : Except Fault (Bool × List String) × Workspace}
  (selected : Selected origin image output className packageName before result)

include selected

/-- All is said to be saved exactly if it is there and was written. -/
theorem ends_iff (live : Live origin image (fun _ => True) before) {told : List String}
    {after : Files.Tree} :
    (result.1 = .ok (true, told) ∧ result.2.files = after) ↔ ∃ writes,
      Selects image output className packageName writes told ∧
        Written before.files writes after := by
  cases selected with
  | there saves only =>
      rw [saves.ends before live]
      constructor
      · rintro ⟨rfl, written⟩
        exact ⟨_, (only _ _).mpr ⟨rfl, rfl⟩, written⟩
      · rintro ⟨others, selects, written⟩
        obtain ⟨rfl, rfl⟩ := (only _ _).mp selects
        exact ⟨rfl, written⟩
  | absent none => simp [none]

theorem used (live : Live origin image (fun _ => True) before) :
    before.state.Used origin.load result.2.state ∧ result.2.state.lock = before.state.lock := by
  cases selected with
  | there saves =>
      obtain ⟨load, found, -, shown, -⟩ := live.load
      have use := usable_used found fun _ => True
      rw [live.seat, shown.host] at use
      have unused : before.state.Used origin.load before.state ∧ True :=
        ⟨State.Used.refl _ _, trivial⟩
      have kept := saves.uses _ use (fun _ _ _ held => held) before unused
      exact ⟨kept.holds.1, kept.lock⟩
  | absent => exact ⟨State.Used.refl _ _, rfl⟩

end Selected

end DexBrowser.Session

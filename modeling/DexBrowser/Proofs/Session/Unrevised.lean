import DexBrowser.Proofs.Image.Partition
import DexBrowser.Proofs.Session.History
import DexBrowser.Proofs.Session.Listing

/-!
Inputs that answer what their artifacts say. Main statement: while the managed objects are not
replaced by hand, after any history the current inputs of all sessions show images of artifacts, and
their indexes have all classes and packages of these.
-/

namespace DexBrowser.Managed.Load

open Session

variable {validator : Validator}

section Shows

variable {image : Image} {load : Load}

theorem Shows.packageClasses (shown : load.Shows image) {index : Nat} {name : String}
    {places : List Nat} (found : image.packages[index]? = some (name, places)) (readers : Nat) :
    load.answer readers (.object (.package index)) "getClasses" [] =
      .ok (.list ((places.map .classNode).map .object)) :=
  shown.answer (tells_package found rfl) readers

theorem Shows.className (shown : load.Shows image) {index : Nat} {c : Image.ClassImage}
    (found : image.classes[index]? = some c) (readers : Nat) :
    load.answer readers (.object (.classNode index)) "getFullName" [] =
      .ok (.text c.fullName) :=
  shown.answer (tells_class found rfl) readers

end Shows

end DexBrowser.Managed.Load

namespace DexBrowser.Session

open Managed Session.Action

/-! ## What is read through handles -/

section Reading

variable {h : Handle} {host : Host} {holds : Workspace → Prop} {bad : Fault → Prop}

theorem Usable.keeps_fullName (use : Usable (World.originOf h) host holds bad) (name : String)
    (answered : ∀ workspace load readers, holds workspace →
      workspace.state.loads[h.load]? = some load →
      load.answer readers h.target "getFullName" [] = .ok (.text name)) :
    (h.fullName : Action String).Keeps holds (· = name) bad := by
  have asked : (h.invoke "getFullName").Keeps holds (· = .text name) bad :=
    use.keeps_invoke (by decide) fun workspace load readers v held found given =>
      Except.ok.inj (given.symm.trans (answered workspace load readers held found))
  refine keeps_bind asked fun v same => ?_
  subst same
  change (Remote.written (World.originOf h).load (.text name)).Keeps holds (· = name) bad
  exact use.keeps_onLoad (fun _ => .nothing) fun _ _ _ _ => rfl

theorem itemsOf_list {xs targets : List Value} (items : itemsOf (.list xs) = .ok targets) :
    targets = xs := by
  rw [itemsOf_listed] at items
  exact (Except.ok.inj items).symm

end Reading

/-- A handle of a package, under the name that the image has for it. -/
def PackageOf (image : Image) (name : String) (h : Handle) : Prop :=
    h.kind = .package ∧
      ∃ index places, image.packages[index]? = some (name, places) ∧
        h.target = .object (.package index)

/-! ## Inputs that are not revised -/

/-- Artifacts are opened as they are, and managed objects stay as they were made. -/
def Deed.Plain : Deed → Prop
  | .load _ (.memory _ revise) _ _ _ => revise = id
  | .load _ (.machine ..) _ _ _ => False
  | .amend .. => False
  | _ => True

/-- The input was built of an artifact, and its index has all classes and packages of that. -/
structure Loaded.Presents (owner : Nat) (artifact : Artifact) (image : Image) (loaded : Loaded) :
    Prop where
  built : Image.build artifact loaded.options loaded.path.name = .ok image
  classes : Listed ⟨owner, loaded.load⟩ .classNode .classNode
    (image.classes.map Image.ClassImage.fullName) loaded.classes
  packages : Listed ⟨owner, loaded.load⟩ .package .package (image.packages.map (·.1))
    loaded.packages

/-- The current input, if there is one, presents an artifact. -/
def State.Presents (state : State) : Prop :=
    ∀ loaded, state.current = some loaded → ∃ (load : Load) (artifact : Artifact) (image : Image),
      state.loads[loaded.load]? = some load ∧ load.Shows image ∧
        loaded.Presents state.seat artifact image

theorem built_readImage {files : Files.Tree} {path : Path} {options : LoadOptions}
    {image : Image} {count : Nat}
    (read : readImage validator files path options = .ok (image, count)) :
    ∃ artifact, readArtifact validator files path = .ok artifact ∧
      Image.build artifact options path.name = .ok image := by
  unfold readImage at read
  split at read
  case isTrue =>
      obtain ⟨_, refused, -⟩ := bind_eq_ok.mp read
      exact nomatch refused
  case isFalse =>
      obtain ⟨artifact, readable, read⟩ := bind_eq_ok.mp read
      obtain ⟨other, built, read⟩ := bind_eq_ok.mp read
      obtain rfl : other = image := (Prod.mk.inj (Except.ok.inj read)).1
      exact ⟨artifact, readable, built⟩

theorem Engine.Opens.live {files : Files.Tree} {path : Path} {options : LoadOptions} {image : Image}
    {count : Nat} (read : readImage validator files path options = .ok (image, count))
    {fresh : Load}
    (opens : Engine.Opens files path options (.memory validator id) fresh) {within : Workspace}
    {n : Nat}
    (found : within.state.loads[n]? = some fresh) :
    Live ⟨within.state.seat, n⟩ image (fun _ => True) within := by
  cases opens with
  | @memory _ _ other _ again =>
      obtain ⟨rfl, -⟩ := Prod.mk.inj (Except.ok.inj (again.symm.trans read))
      exact ⟨rfl, ⟨_, found, rfl, ⟨rfl, rfl⟩, fun attached => nomatch attached⟩, trivial⟩

section Presents

variable {before after : State}

theorem State.Presents.used (presents : before.Presents) {n : Nat} (used : before.Used n after) :
    after.Presents := by
  intro loaded current
  rw [used.current] at current
  obtain ⟨load, artifact, image, found, shown, rest⟩ := presents loaded current
  obtain ⟨later, atLater, usedLoad⟩ := used.after? found
  rw [← used.seat] at rest
  exact ⟨later, artifact, image, atLater, shown.used usedLoad, rest⟩

theorem State.Presents.push (presents : before.Presents) (load : Load) (minted : Nat) :
    State.Presents { before.push load with minted := minted } := by
  intro loaded current
  obtain ⟨load, artifact, image, found, rest⟩ := presents loaded current
  exact ⟨load, artifact, image, State.push_old found, rest⟩

theorem Ready.presents {path : Path} {options : LoadOptions} {workspace : Workspace}
    {loaded : Loaded} {load : Load}
    (ready : Ready (.memory validator id) path options workspace loaded load) :
    ∃ (artifact : Artifact) (image : Image),
      readArtifact validator workspace.files path = .ok artifact ∧
      load.Shows image ∧ loaded.Presents workspace.state.seat artifact image := by
  obtain ⟨fresh, opens, used, within, found, indexed⟩ := ready.opened
  cases opens with
  | @memory _ _ image _ read =>
      obtain ⟨artifact, readable, built⟩ := built_readImage read
      have shown : load.Shows image := Load.Shows.used ⟨rfl, rfl⟩ used
      have live := Engine.Opens.live read (.memory read) found
      have kept := Live.keeps_index (Image.nodup_build built) (Image.partition_build built).distinct
        within live
      have ends := kept.ends
      rw [indexed] at ends
      obtain ⟨classes, packages⟩ := ends
      have ownClasses := ready.classes
      have ownPackages := ready.packages
      rw [shown.host] at ownClasses ownPackages
      rw [← ready.path, ← ready.options] at built
      exact ⟨artifact, image, readable, shown, built, classes.owned ownClasses,
        packages.owned ownPackages⟩

theorem presents_install (state : State) {loaded : Loaded} {load : Load} {artifact : Artifact}
    {image : Image} (newest : loaded.load = state.loads.length) (shown : load.Shows image)
    (presents : loaded.Presents state.seat artifact image) (minted : Nat) :
    (state.install loaded load minted).Presents := by
  intro other current
  obtain rfl := Option.some.inj current
  refine ⟨{ load with attached := true }, artifact, image, ?_, ⟨shown.host, shown.heap⟩, presents⟩
  rw [newest]
  exact State.push_getElem state _

theorem State.Presents.loading {workspace : Workspace} (presents : workspace.state.Presents)
    {prepared : Except Fault Loaded} {outcome : Except Fault Unit}
    (loading : Loading (.memory validator id) workspace prepared outcome after) :
    after.Presents := by
  cases loading with
  | refused => exact presents
  | failed prepared =>
      cases prepared with
      | refused => exact presents
      | broken minted | dropped minted => exact presents.push _ minted
  | first minted ready =>
      obtain ⟨artifact, image, -, shown, presented⟩ := ready.presents
      exact presents_install _ ready.newest shown presented minted
  | @replaced _ _ _ previous _ old minted ready =>
      obtain ⟨artifact, image, -, shown, presented⟩ := ready.presents
      have newest := ready.newest.trans (workspace.state.letGo_length previous.load old).symm
      exact presents_install (workspace.state.letGo previous.load old) newest shown presented minted

theorem State.Presents.closing (presents : before.Presents) {outcome : Except Fault Unit}
    (closing : Closing before outcome after) : after.Presents := by
  cases closing with
  | idle => exact presents
  | closed => exact fun loaded current => by simp [State.letGo] at current

theorem State.Step.presents {deed : Deed} (plain : deed.Plain)
    (step : State.Step deed before after) (presents : before.Presents) : after.Presents := by
  cases step with
  | stay => exact presents
  | use used => exact presents.used used
  | @load _ engine _ _ _ _ _ _ _ loading =>
      cases engine with
      | memory _ revise =>
          obtain rfl : revise = id := plain
          exact presents.loading loading
      | machine => exact plain.elim
  | close closing => exact presents.closing closing
  | amend => exact plain.elim

end Presents

def Scene.Presents (scene : Scene) : Prop :=
    ∀ (seat : Nat) (state : State), scene.world.sessions[seat]? = some state → state.Presents

theorem Scene.Step.presents {deed : Deed} {before after : Scene} (plain : deed.Plain)
    (step : Scene.Step deed before after) (presents : before.Presents) : after.Presents :=
  step.each (fun _ loaded current => by contradiction)
    (fun _ _ _ _ step presents => step.presents plain presents) presents

/-- After any history without revisions, the current inputs present the artifacts they come from. -/
theorem Scene.presents_after {deeds : List Deed} (plain : ∀ deed ∈ deeds, deed.Plain) :
    (Scene.after deeds).Sound ∧ (Scene.after deeds).Presents :=
  Scene.after_induction Scene.Presents (fun _ _ found => by simp at found)
    fun deed member _ _ _ step presents => step.presents (plain deed member) presents

/-! ## Packages by their names -/

/-- The current input, if there is one, shows an image that was built of an artifact. -/
def State.Faithful (state : State) : Prop :=
    ∀ loaded, state.current = some loaded → ∃ (load : Load) (image : Image),
      state.loads[loaded.load]? = some load ∧ load.Shows image ∧ image.WellNamed ∧
        ∀ entry ∈ loaded.packages, PackageOf image entry.1 entry.2

theorem State.Presents.faithful {state : State} (presents : state.Presents) : state.Faithful := by
  intro loaded current
  obtain ⟨load, artifact, image, found, shown, presented⟩ := presents loaded current
  refine ⟨load, image, found, shown, Image.wellNamed_build presented.built, ?_⟩
  rintro ⟨name, h⟩ member
  obtain ⟨index, atName, -, wraps⟩ := presented.packages.place member
  rw [List.getElem?_map] at atName
  obtain ⟨⟨_, places⟩, atPackage, rfl⟩ := Option.map_eq_some_iff.mp atName
  exact ⟨wraps.kind, index, places, atPackage, wraps.target⟩

def Scene.Faithful (scene : Scene) : Prop :=
    ∀ (seat : Nat) (state : State), scene.world.sessions[seat]? = some state → state.Faithful

theorem Scene.faithful_after {deeds : List Deed} (plain : ∀ deed ∈ deeds, deed.Plain) :
    (Scene.after deeds).Sound ∧ (Scene.after deeds).Faithful := by
  obtain ⟨sound, presents⟩ := Scene.presents_after plain
  exact ⟨sound, fun seat state found => (presents seat state found).faithful⟩

end DexBrowser.Session

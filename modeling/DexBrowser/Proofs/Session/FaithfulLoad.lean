import DexBrowser.Validation.Lax
import DexBrowser.Proofs.Session.AskingBeside
import DexBrowser.Proofs.Session.FreshLoad
import DexBrowser.Proofs.Session.LoadFaults

/-!
Loading an artifact whose names are kept. Main statement: it is refused exactly if two of its
classes have one full name; else the session has its classes and their methods in order, each with
the name, the flags and the types that the artifact gives it.
-/

namespace DexBrowser.Image

variable {validator : Validator}

/-! ## Names that are kept -/

def canonicalName (spelling : String) : String :=
    let normal := ClassName.normalize spelling
    ClassName.package normal ++ "." ++ ClassName.simple normal

def fullNames (artifact : Artifact) : List String :=
    artifact.classes.map fun entry => canonicalName entry.fullName

structure NamedMethod.Unrenamed (entry : MethodEntry) (method : NamedMethod) : Prop where
  same : method.entry = entry
  name : method.name = entry.name

structure NamedClass.Unrenamed (entry : ClassEntry) (c : NamedClass) : Prop where
  same : c.entry = entry
  fullName : c.fullName = canonicalName entry.fullName
  methods : List.Forall₂ NamedMethod.Unrenamed entry.methods c.methods

section Naming

variable {options : LoadOptions}

theorem forall₂_nameMethods {classFullName : String} {r : MethodEntry → NamedMethod → Prop}
    (named : ∀ count entry, r entry (nameMethod options classFullName count entry).1) (count : Nat)
    (entries : List MethodEntry) :
    List.Forall₂ r entries (nameMethods options classFullName count entries).1 := by
  induction entries generalizing count with
  | nil => exact .nil
  | cons entry rest ih => exact .cons (named count entry) (ih _)

theorem forall₂_nameClasses {r : ClassEntry → NamedClass → Prop}
    (named : ∀ count entry, r entry (nameClass options count entry).1) (count : Nat)
    (entries : List ClassEntry) : List.Forall₂ r entries (nameClasses options count entries) := by
  induction entries generalizing count with
  | nil => exact .nil
  | cons entry rest ih => exact .cons (named count entry) (ih _)

end Naming

section Off

variable {options : LoadOptions} (off : options.deobfuscate = false)

include off

theorem unrenamed_nameMethods (classFullName : String) (count : Nat) (entries : List MethodEntry) :
    List.Forall₂ NamedMethod.Unrenamed entries
      (nameMethods options classFullName count entries).1 := by
  refine forall₂_nameMethods (fun count entry => ⟨rfl, ?_⟩) count entries
  simp only [nameMethod, rename_of_off off]

theorem unrenamed_nameClass (count : Nat) (entry : ClassEntry) :
    (nameClass options count entry).1.Unrenamed entry where
  same := rfl
  fullName := by simp only [nameClass, NamedClass.fullName, rename_of_off off, canonicalName]
  methods := unrenamed_nameMethods off _ _ _

theorem unrenamed_nameClasses (count : Nat) (entries : List ClassEntry) :
    List.Forall₂ NamedClass.Unrenamed entries (nameClasses options count entries) :=
  forall₂_nameClasses (unrenamed_nameClass off) count entries

theorem nameClasses_fullName (artifact : Artifact) :
    (nameClasses options 0 artifact.classes).map NamedClass.fullName = fullNames artifact := by
  have kept := unrenamed_nameClasses off 0 artifact.classes
  exact Session.eq_map_of_forall₂ <| List.forall₂_map_right_iff.mpr <|
    kept.imp fun _ _ class_kept => class_kept.fullName

theorem build_refused_iff {artifact : Artifact} (sourceName : String) :
    (∃ name, Image.build artifact options sourceName = .error (.load (.duplicateClass name))) ↔
      ¬ (fullNames artifact).Nodup := by
  rw [← nameClasses_fullName off]
  cases built : Image.build artifact options sourceName with
  | error fault =>
      obtain ⟨name, rfl⟩ := build_refused built
      refine ⟨fun _ distinct => ?_, fun _ => ⟨name, rfl⟩⟩
      rw [build_eq_ok_iff.mpr ⟨distinct, rfl⟩] at built
      contradiction
  | ok image => simpa using (build_eq_ok_iff.mp built).1

end Off

/-! ## Flags and code -/

def entryFlags (entry : MethodEntry) : AccessFlags :=
    let flags := AccessFlags.ofInt entry.accessFlags
    if entry.name = constructorName ∨ entry.name = initializerName then flags.withConstructor
    else flags

theorem NamedMethod.Unrenamed.flags {entry : MethodEntry} {method : NamedMethod}
    (kept : NamedMethod.Unrenamed entry method) :
    Managed.methodFlags method = entryFlags entry := by
  simp only [Managed.methodFlags, kept.same, kept.name, entryFlags, Bool.or_eq_true,
    decide_eq_true_eq]

def shownCode (options : LoadOptions) (code : String) : String :=
    if options.escapeUnicode then Text.escapeUnicode code else code

theorem renderClass_readyMade {c : NamedClass} {code : String}
    (readyMade : c.entry.code = some code)
    (options : LoadOptions) (sourceName : String) :
    renderClass options sourceName c =
      ⟨c, shownCode options code, 0, c.methods.map fun _ => 0⟩ := by
  simp only [renderClass, readyMade, shownCode]

end DexBrowser.Image

namespace DexBrowser.Session

open Managed Session.Action Image

/-! ## What handles tell of an artifact -/

/-- A handle of a type is shown as the spelling of the type, without the blanks around it. -/
def Handle.ShowsType (h : Handle) (seat : Nat) (world : World) (spelling : String) : Prop :=
    (world.run seat h.toText).1 = .ok (trimmed spelling)

structure Handle.ShowsMethod (h : Handle) (seat : Nat) (world : World) (entry : MethodEntry) :
    Prop where
  name : (world.run seat (h.name : Action String)).1 = .ok entry.name
  access : world.Gives seat (h.access : Action Handle) fun view _ => view.flags = entryFlags entry
  returnType : world.Gives seat (h.returnType : Action Handle) fun type after =>
    type.ShowsType seat after entry.returnType
  arguments : world.Gives seat (h.arguments : Action (List Handle)) fun types after =>
    List.Forall₂ (fun spelling (type : Handle) => type.ShowsType seat after spelling)
      entry.arguments types

structure Handle.ShowsClass (h : Handle) (seat : Nat) (world : World) (options : LoadOptions)
    (entry : ClassEntry) : Prop where
  fullName : (world.run seat (h.fullName : Action String)).1 =
    .ok (canonicalName entry.fullName)
  access : world.Gives seat (h.access : Action Handle) fun view _ =>
    view.flags = AccessFlags.ofInt entry.accessFlags
  methods : world.Gives seat (h.methods : Action (List Handle)) fun methods after =>
    List.Forall₂ (fun method (m : Handle) => m.ShowsMethod seat after method) entry.methods methods
  readyMade : ∀ code, entry.code = some code →
    (world.run seat (h.code : Action String)).1 = .ok (shownCode options code) ∧
      (world.run seat (h.line : Action Int)).1 = .ok Handle.noLine ∧
        world.Gives seat (h.methods : Action (List Handle)) fun methods after =>
          ∀ m ∈ methods, (after.run seat (m.line : Action Int)).1 = .ok Handle.noLine

/-! ## What the load of an artifact tells -/

theorem forall₂_places {first : α → β → Prop} {second : Nat → γ → Prop} {xs : List α} {ys : List β}
    {zs : List γ} (one : List.Forall₂ first xs ys)
    (two : List.Forall₂ second (List.range ys.length) zs) :
    List.Forall₂ (fun x z => ∃ j y, ys[j]? = some y ∧ first x y ∧ second j z) xs zs := by
  have places : List.Forall₂ (fun x j => ∃ y, ys[j]? = some y ∧ first x y) xs
      (List.range ys.length) := by
    refine List.forall₂_iff_get.mpr ⟨by simp [one.length_eq], fun j bound _ => ?_⟩
    have inside : j < ys.length := one.length_eq ▸ bound
    exact ⟨ys[j], by simp [inside], (List.forall₂_iff_get.mp one).2 j bound inside⟩
  refine (forall₂_comp places two).imp ?_
  rintro x z ⟨j, ⟨y, found, related⟩, here⟩
  exact ⟨j, y, found, related, here⟩

theorem Asking.Firm.keeps {origin : LoadId} {image : Image} {good : α → Prop} {steps : Action α}
    (firm : (askingAlone origin image).Firm good steps) :
    steps.Keeps (Live origin image fun _ => True) good noFault :=
  (firm.told rfl).mono (fun _ ended => ended.1) fun _ failed => failed

namespace World.Live

variable {origin : LoadId} {image : Image} {world : World} {i : Nat} {c : ClassImage}

theorem showsType (live : world.Live origin image) {type : Handle} {spelling : String}
    (wraps : type.Wraps origin .argType (typeId spelling)) :
    type.ShowsType origin.seat world spelling :=
  live.answers (Session.Live.keeps_toText wraps (tells_type _))

section Class

variable (found : image.classes[i]? = some c)

include found

theorem showsMethod (live : world.Live origin image) {j : Nat} {method : NamedMethod}
    (foundMethod : c.named.methods[j]? = some method) {entry : MethodEntry}
    (kept : NamedMethod.Unrenamed entry method) {m : Handle}
    (wraps : m.Wraps origin .method (.method i j)) : m.ShowsMethod origin.seat world entry where
  name := by
    rw [← kept.name]
    exact live.answers (Session.Live.keeps_methodName wraps found foundMethod)
  access := by
    have told := Asking.Firm.keeps (Asking.firm_methodAccess wraps found foundMethod)
    refine (live.gives told).mono fun view _ ⟨⟨_, flags⟩, _⟩ => ?_
    rw [flags, kept.flags]
  returnType := by
    have told := Asking.Firm.keeps (Asking.firm_returnType wraps found foundMethod)
    rw [kept.same] at told
    exact (live.gives told).mono fun type _ ⟨wrapsType, after⟩ => after.showsType wrapsType
  arguments := by
    have told := Asking.Firm.keeps (Asking.firm_arguments wraps found foundMethod)
    rw [kept.same] at told
    exact (live.gives told).mono fun types _ ⟨all, after⟩ =>
      all.imp fun _ _ wrapsType => after.showsType wrapsType

theorem showsClass (live : world.Live origin image) {options : LoadOptions} {sourceName : String}
    {named : NamedClass} (rendered : c = renderClass options sourceName named) {entry : ClassEntry}
    (kept : NamedClass.Unrenamed entry named) {h : Handle}
    (wraps : h.Wraps origin .classNode (.classNode i)) :
    h.ShowsClass origin.seat world options entry := by
  have isNamed : c.named = named := by rw [rendered, named_renderClass]
  have methods := live.gives (Session.Live.keeps_methods wraps found)
  constructor
  case fullName =>
    have named : c.fullName = canonicalName entry.fullName := by
      rw [ClassImage.fullName, isNamed, kept.fullName]
    rw [← named]
    exact live.answers (Session.Live.keeps_fullName wraps (tells_class found rfl))
  case access =>
    have told := Asking.Firm.keeps (Asking.firm_classAccess wraps found)
    refine (live.gives told).mono ?_
    rintro view _ ⟨⟨_, flags⟩, -⟩
    rw [flags, Query.classFlags, isNamed, kept.same]
  case methods =>
    refine methods.mono ?_
    rintro ms after ⟨all, later⟩
    refine (forall₂_places kept.methods (isNamed ▸ all)).imp ?_
    rintro method m ⟨j, unrenamed, foundMethod, isKept, wrapsMethod⟩
    exact later.showsMethod found (isNamed ▸ foundMethod) isKept wrapsMethod
  case readyMade =>
    intro code isCode
    rw [renderClass_readyMade (kept.same ▸ isCode)] at rendered
    refine ⟨?_, ?_, methods.mono ?_⟩
    · have shown : c.code = shownCode options code := by rw [rendered]
      rw [← shown]
      exact live.answers (Session.Live.keeps_code wraps found)
    · have line : toldLine c.line = Handle.noLine := by rw [rendered]; rfl
      rw [← line]
      exact live.answers (Session.Live.keeps_line wraps (tells_class found rfl))
    · rintro ms after ⟨all, later⟩ m member
      obtain ⟨j, isPlace, wrapsMethod⟩ := exists_of_mem_right all member
      have foundMethod := List.getElem?_eq_getElem (List.mem_range.mp isPlace)
      have line : toldLine (c.methodLines.getD j 0) = Handle.noLine := by
        have none : c.methodLines.getD j 0 = 0 := by
          rw [rendered, List.map_const']
          simp only [List.getD, List.getElem?_replicate]
          split <;> rfl
        rw [none]
        rfl
      rw [← line]
      exact later.answers
        (Session.Live.keeps_line wrapsMethod (tells_method found foundMethod rfl))

end Class

end World.Live

theorem World.Presents.shows {world : World} {seat : Nat} {loaded : Loaded} {artifact : Artifact}
    {image : Image} (presents : world.Presents seat loaded artifact image)
    (off : loaded.options.deobfuscate = false) :
    ∃ hs, (world.run seat allClasses).1 = .ok hs ∧
      List.Forall₂ (fun entry (h : Handle) => h.ShowsClass seat world loaded.options entry)
        artifact.classes hs := by
  refine ⟨loaded.classes.map (·.2), ?_, ?_⟩
  · rw [presents.looks fun _ free current => run_allClasses free current]
  · have kept :=
      forall₂_comp (unrenamed_nameClasses off 0 artifact.classes) presents.forall₂_classes
    refine List.forall₂_map_right_iff.mpr (kept.imp ?_)
    rintro entry ⟨_, h⟩ ⟨named, unrenamed, -, i, found, wraps⟩
    exact presents.live.showsClass found rfl unrenamed wraps

/-! ## Loading -/

section Load

variable {before : Workspace} {argument : Files.PathArgument} {given : Option LoadOptions}
  {changes : List (String × Json)} {path : Path} {options : LoadOptions} {artifact : Artifact}

theorem load_refused_of_build {seat : Nat} (sound : before.state.Sound seat)
    (isPath : argument.toPath = .ok path)
    (valid : LoadOptions.resolve validator given changes = .ok options)
    (isFile : before.files.isFile path = .ok true)
    (suffix : Machine.foldedSuffix path = artifactSuffix)
    (read : readArtifact validator before.files path = .ok artifact) {fault : Fault}
    (refused : Image.build artifact options path.name = .error fault) :
    ((load (.memory validator id) argument given changes).run before).1 = .error fault := by
  have image : readImage validator before.files path options = .error fault := by
    simp [readImage, suffix, read, refused, bind, Except.bind]
  have prepared : ((prepareLoad (.memory validator id) argument given changes).run before).1 =
      .error fault := by
    have resolved : LoadOptions.resolve (Engine.memory validator id).rules given changes =
        .ok options := valid
    rw [run_prepareLoad_checked isPath resolved sound.lock,
      checkInput_eq_ok_iff.mpr ⟨isFile, isReadable_of_readArtifact read⟩]
    refine run_prepare_refused ?_
    have notOpened :=
      openArtifact_outcome validator id path options (setLock (·.enter .exclusive) before)
    exact notOpened.trans (congrArg (Except.map _) image)
  obtain ⟨loading, -⟩ := loading_load sound.idle (.memory validator id) argument given changes
  rw [prepared] at loading
  generalize ((load (.memory validator id) argument given changes).run before).1 = outcome,
    ((load (.memory validator id) argument given changes).run before).2.state = after at loading ⊢
  cases loading <;> rfl

end Load

/-- After any history without revisions, an artifact whose names are kept is refused for a class
that it has twice exactly if two of its classes have one full name. Else the session has its
classes in order, and each tells what the artifact says of it. -/
theorem load_faithful {deeds : List Deed} (plain : ∀ deed ∈ deeds, deed.Plain) {seat : Nat}
    (opened : seat < (Scene.after deeds).world.sessions.length) {argument : Files.PathArgument}
    {given : Option LoadOptions} {changes : List (String × Json)} {path : Path}
    {options : LoadOptions} {artifact : Artifact} (isPath : argument.toPath = .ok path)
    (valid : LoadOptions.resolve validator given changes = .ok options)
    (off : options.deobfuscate = false)
    (isFile : (Scene.after deeds).world.files.isFile path = .ok true)
    (suffix : Machine.foldedSuffix path = artifactSuffix)
    (read : readArtifact validator (Scene.after deeds).world.files path = .ok artifact) :
    let run :=
        (Scene.after deeds).world.run seat (load (.memory validator id) argument given changes)
    ((∃ name, run.1 = .error (.load (.duplicateClass name))) ↔ ¬ (fullNames artifact).Nodup) ∧
      ((fullNames artifact).Nodup → run.1 = .ok () ∧
        ∃ hs, (run.2.run seat allClasses).1 = .ok hs ∧
          List.Forall₂ (fun entry (h : Handle) => h.ShowsClass seat run.2 options entry)
            artifact.classes hs) := by
  intro run
  have ends : (fullNames artifact).Nodup → run.1 = .ok () := by
    intro distinct
    have built := build_eq_ok_iff.mpr
      ⟨(nameClasses_fullName off artifact).symm ▸ distinct, (rfl : ofNamed _ path.name _ = _)⟩
    exact (Scene.load_ends_ok_iff plain opened).mpr
      ⟨path, options, artifact, _, isPath, valid, isFile, suffix, read, built⟩
  refine ⟨⟨fun ⟨name, failed⟩ distinct => ?_, fun repeated => ?_⟩,
    fun distinct => ⟨ends distinct, ?_⟩⟩
  · rw [ends distinct] at failed
    contradiction
  · obtain ⟨name, refused⟩ := (build_refused_iff off path.name).mpr repeated
    have found := List.getElem?_eq_getElem opened
    have sound := (Scene.sound_after deeds).sessions seat _ found
    exact ⟨name, (World.run_of_session found _).1.trans
      (load_refused_of_build sound isPath valid isFile suffix read refused)⟩
  · obtain ⟨loaded, other, image, current, presents, samePath, sameOptions, readable⟩ :=
      Scene.load_presents plain (ends distinct)
    obtain rfl := Except.ok.inj (isPath.symm.trans samePath)
    obtain rfl := Except.ok.inj (valid.symm.trans sameOptions)
    obtain rfl := Except.ok.inj (read.symm.trans readable)
    exact presents.shows off

def faithfulClasses : List ClassEntry :=
    [{ fullName := "a/B", code := some "x" },
      { fullName := "C", accessFlags := -1,
        methods := [{ name := "<init>", arguments := [" int "] }] }]

def faithfulText : String :=
    "\x7b\"classes\":[\x7b\"fullname\":\"a/B\",\"code\":\"x\"\x7d,\x7b\"fullname\":\"C\"," ++
      "\"access_flags\":-1,\"methods\":[\x7b\"name\":\"<init>\"," ++
        "\"arguments\":[\" int \"]\x7d]\x7d]\x7d"

def repeatedText : String :=
    "\x7b\"classes\":[\x7b\"fullname\":\"La/B;\"\x7d,\x7b\"fullname\":\"a.B\"\x7d]\x7d"

def faithfulFiles : Files.Tree :=
    (({} : Files.Tree).put ["a.json"] (.file faithfulText.toUTF8)).put ["b.json"]
      (.file repeatedText.toUTF8)

def faithfulStored : List Deed :=
    [.openSession, .replaceFiles faithfulFiles]

/-- One artifact is loaded as it is, the other has a class under two spellings. -/
theorem load_faithful_stored :
    let world := (Scene.after faithfulStored).world
    let kept := world.run 0 (load (.memory .lax id) (.path (Path.ofString "a.json")) none [])
    kept.1 = .ok () ∧
      (∃ hs, (kept.2.run 0 allClasses).1 = .ok hs ∧
        List.Forall₂ (fun entry (h : Handle) => h.ShowsClass 0 kept.2 {} entry)
          faithfulClasses hs) ∧
      ∃ name, (world.run 0 (load (.memory .lax id) (.path (Path.ofString "b.json")) none [])).1 =
        .error (.load (.duplicateClass name)) := by
  intro world kept
  have plain : ∀ deed ∈ faithfulStored, deed.Plain := by simp [faithfulStored, Deed.Plain]
  have opened : 0 < world.sessions.length := by decide +kernel
  have read : readArtifact .lax world.files (Path.ofString "a.json") = .ok ⟨faithfulClasses⟩ := by
    decide +kernel
  have readTwice : readArtifact .lax world.files (Path.ofString "b.json") =
      .ok ⟨[{ fullName := "La/B;" }, { fullName := "a.B" }]⟩ := by
    decide +kernel
  have valid : LoadOptions.resolve .lax none [] = .ok {} := by decide +kernel
  have isPath (path : Path) : (Files.PathArgument.path path).toPath = .ok path := rfl
  obtain ⟨-, loaded⟩ := load_faithful plain opened (isPath _) valid rfl (by decide +kernel)
    (by decide +kernel) read
  obtain ⟨refused, -⟩ := load_faithful plain opened (isPath _) valid rfl (by decide +kernel)
    (by decide +kernel) readTwice
  obtain ⟨ended, shown⟩ := loaded (by decide +kernel)
  exact ⟨ended, shown, refused.mpr (by decide +kernel)⟩

end DexBrowser.Session

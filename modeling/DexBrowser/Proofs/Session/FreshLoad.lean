import DexBrowser.Proofs.Session.Answers

/-!
Loading an artifact while managed objects answer what the artifacts say. Main statements: loading
ends well exactly if the file is there, its artifact can be read and an image can be built of it;
the input presents that artifact then.
-/

namespace DexBrowser.Session

open Managed Session.Action

variable {validator : Validator}

/-- A file with an artifact, of which an image can be built. -/
structure Loadable (validator : Validator) (files : Files.Tree) (path : Path)
    (options : LoadOptions) (artifact : Artifact) (image : Image) : Prop where
  isFile : files.isFile path = .ok true
  suffix : Machine.foldedSuffix path = artifactSuffix
  read : readArtifact validator files path = .ok artifact
  built : Image.build artifact options path.name = .ok image

theorem Loadable.unique {files : Files.Tree} {path : Path} {options : LoadOptions}
    {artifact other : Artifact} {image otherImage : Image}
    (loadable : Loadable validator files path options artifact image)
    (otherLoadable : Loadable validator files path options other otherImage) :
    artifact = other ∧ image = otherImage := by
  obtain rfl := Except.ok.inj (loadable.read.symm.trans otherLoadable.read)
  exact ⟨rfl, Except.ok.inj (loadable.built.symm.trans otherLoadable.built)⟩

theorem readImage_eq_ok_iff {files : Files.Tree} {path : Path} {options : LoadOptions}
    {image : Image} {count : Nat} :
    readImage validator files path options = .ok (image, count) ↔
      Machine.foldedSuffix path = artifactSuffix ∧ ∃ artifact,
        readArtifact validator files path = .ok artifact ∧
          Image.build artifact options path.name = .ok image ∧ artifact.classes.length = count := by
  unfold readImage
  by_cases known : Machine.foldedSuffix path = artifactSuffix
  · simp [known, bind_eq_ok, pure, Except.pure]
  · simp [known, bind_eq_ok, throw, throwThe, MonadExceptOf.throw]

/-! ## Checking, opening and indexing -/

theorem fetch_eq_ok_iff {files : Files.Tree} {path : Path} {content : ByteArray} :
    files.fetch path = .ok content ↔
      files.read path = .ok content ∧ files.isReadable path = true := by
  unfold Files.Tree.fetch
  cases files.read path with
  | error refusal => simp [bind, Except.bind]
  | ok found =>
      cases files.isReadable path <;>
        simp [bind, Except.bind, pure, Except.pure, throw, throwThe, MonadExceptOf.throw]

theorem isReadable_of_readArtifact {files : Files.Tree} {path : Path} {artifact : Artifact}
    (read : readArtifact validator files path = .ok artifact) : files.isReadable path = true := by
  unfold readArtifact at read
  cases fetched : files.fetch path with
  | error refusal => simp [fetched] at read
  | ok content => exact (fetch_eq_ok_iff.mp fetched).2

theorem checkInput_eq_ok_iff {files : Files.Tree} {path : Path} :
    checkInput files path = .ok () ↔
      files.isFile path = .ok true ∧ files.isReadable path = true := by
  unfold checkInput
  rcases files.isFile path with refusal | _ | _ <;> simp

theorem Loadable.checked {files : Files.Tree} {path : Path} {options : LoadOptions}
    {artifact : Artifact} {image : Image}
    (loadable : Loadable validator files path options artifact image) :
    checkInput files path = .ok () :=
  checkInput_eq_ok_iff.mpr ⟨loadable.isFile, isReadable_of_readArtifact loadable.read⟩

theorem run_checkLoad_eq_ok_iff {argument : Files.PathArgument} {given : Option LoadOptions}
    {changes : List (String × Json)} {before : Workspace} {path : Path} {options : LoadOptions} :
    ((checkLoad validator argument given changes).run before).1 = .ok (path, options) ↔
      argument.toPath = .ok path ∧ LoadOptions.resolve validator given changes = .ok options ∧
        checkInput before.files path = .ok () := by
  rw [checkLoad, run_bind, run_ofExcept]
  cases argument.toPath with
  | error fault => simp
  | ok path =>
      dsimp only
      rw [run_bind]
      cases LoadOptions.resolve validator given changes with
      | error issues => simp [ofChecked]
      | ok options =>
          change ((get >>= _ : Action _).run before).1 = _ ↔ _
          rw [run_bind, run_get]
          dsimp only
          rw [run_bind, run_ofExcept]
          cases checked : checkInput before.files path with
          | error fault =>
              simp only [reduceCtorEq, Except.ok.injEq, false_iff, not_and]
              rintro rfl - present
              rw [checked] at present
              contradiction
          | ok _ =>
              simp only [run_pure, Except.ok.injEq, Prod.mk.injEq]
              constructor
              · rintro ⟨rfl, rfl⟩
                exact ⟨rfl, rfl, checked⟩
              · rintro ⟨rfl, rfl, -⟩
                exact ⟨rfl, rfl⟩

section Opened

variable {before : Workspace} {path : Path} {options : LoadOptions} {image : Image} {count : Nat}
  (read : readImage validator before.files path options = .ok (image, count))

include read

theorem run_openArtifact :
    ∃ journal, (openArtifact validator id path options).run before = (.ok before.state.loads.length,
      { before with
        state := before.state.push { heap := { image := image } }, journal := journal }) := by
  refine ⟨before.journal ++ [⟨.info, .engine,
    "Loaded in-memory artifact " ++ path.text ++ " (" ++ toString count ++ " classes)"⟩], ?_⟩
  rw [openArtifact, run_bind_ok (run_get before), run_bind, run_ofExcept, read]
  rfl

theorem run_index_opened (journal : List Line) :
    ∃ named between load, (index before.state.loads.length).run { before with
        state := before.state.push { heap := { image := image } }, journal := journal } =
          (.ok named, between) ∧ between.state.loads[before.state.loads.length]? = some load := by
  obtain ⟨artifact, -, built⟩ := built_readImage read
  have newest := State.push_getElem before.state { heap := { image := image } }
  let within : Workspace := { before with
    state := before.state.push { heap := { image := image } }, journal := journal }
  have live : Live ⟨within.state.seat, before.state.loads.length⟩ image (fun _ => True) within :=
    Engine.Opens.live read (.memory read) newest
  have kept := Live.keeps_index (Image.nodup_build built) (Image.partition_build built).distinct
    _ live
  generalize (index before.state.loads.length).run _ = result at kept ⊢
  obtain ⟨outcome, between⟩ := result
  cases outcome with
  | error fault => exact kept.ends.elim
  | ok named =>
      obtain ⟨load, found, -⟩ := kept.holds.load
      exact ⟨named, between, load, rfl, found⟩

end Opened

theorem prepare_ends_ok_iff {before : Workspace} {path : Path} {options : LoadOptions} :
    (∃ loaded, ((prepare (.memory validator id) path options).run before).1 = .ok loaded) ↔
      ∃ image count, readImage validator before.files path options = .ok (image, count) := by
  constructor
  · rintro ⟨loaded, ended⟩
    have prepared := (prepared_prepare (.memory validator id) path options before).1
    rw [ended] at prepared
    obtain ⟨load, -, ready, -⟩ := prepared.ready?
    obtain ⟨fresh, opens, -⟩ := ready.opened
    cases opens with
    | memory read => exact ⟨_, _, read⟩
  · rintro ⟨image, count, read⟩
    obtain ⟨journal, opened⟩ := run_openArtifact read
    have split : (prepare (.memory validator id) path options).run before =
        (openArtifact validator id path options >>= enlist path options).run before := rfl
    obtain ⟨named, between, load, indexed, found⟩ := run_index_opened read journal
    rw [split, run_bind_ok opened, run_enlist indexed found]
    exact ⟨_, rfl⟩

/-! ## Loading -/

theorem closing_shows {image : Image} {load : Load} (shown : load.Shows image) (readers : Nat) :
    load.closing readers = .ok () := by
  have found : imageObject? image .decompiler = some (decompilerObject image) := rfl
  have member : load.heap.member? .decompiler Load.closeMember = some .closes :=
    shown.member? found _
  simp only [Load.closing, shown.host, Load.answer, Load.object?, shown.object? found,
    Option.map_some, member]
  rfl

section Load

variable {before : Workspace} {argument : Files.PathArgument} {given : Option LoadOptions}
  {changes : List (String × Json)}

theorem Loading.ends_ok {loaded : Loaded} {outcome : Except Fault Unit} {after : State}
    (loading : Loading (.memory validator id) before (.ok loaded) outcome after)
    (presents : before.state.Presents) : outcome = .ok () := by
  cases loading with
  | first => rfl
  | replaced minted ready current found =>
      obtain ⟨load, _, image, atLoad, shown, -⟩ := presents _ current
      obtain rfl := Option.some.inj (found.symm.trans atLoad)
      exact closing_shows shown 0

theorem prepareLoad_eq_ok_iff (free : before.state.lock = {}) {loaded : Loaded} :
    ((prepareLoad (.memory validator id) argument given changes).run before).1 = .ok loaded ↔
      ∃ path options, (argument.toPath = .ok path ∧
        LoadOptions.resolve validator given changes = .ok options ∧
          checkInput before.files path = .ok ()) ∧
          ((prepare (.memory validator id) path options).run
              (setLock (·.enter .exclusive) before)).1 =
            .ok loaded := by
  have same := run_checkLoad validator argument given changes before
  have split : (prepareLoad (.memory validator id) argument given changes).run before =
      (checkLoad validator argument given changes >>= fun checked =>
        inSection .exclusive (prepare (.memory validator id) checked.1 checked.2)).run before := rfl
  simp only [← run_checkLoad_eq_ok_iff]
  rw [split, run_bind]
  generalize (checkLoad validator argument given changes).run before = result at same ⊢
  obtain ⟨outcome, between⟩ := result
  obtain rfl : between = before := same
  cases outcome with
  | error fault => simp
  | ok checked =>
      obtain ⟨path, options⟩ := checked
      dsimp only
      rw [run_exclusive free]
      dsimp only
      constructor
      · exact fun ended => ⟨path, options, rfl, ended⟩
      · rintro ⟨other, others, isChecked, ended⟩
        obtain ⟨rfl, rfl⟩ := Prod.mk.inj (Except.ok.inj isChecked)
        exact ended

theorem prepareLoad_ends_ok_iff (free : before.state.lock = {}) :
    (∃ loaded, ((prepareLoad (.memory validator id) argument given changes).run before).1 =
        .ok loaded) ↔
      ∃ path options artifact image, argument.toPath = .ok path ∧
        LoadOptions.resolve validator given changes = .ok options ∧
          Loadable validator before.files path options artifact image := by
  simp only [prepareLoad_eq_ok_iff free]
  constructor
  · rintro ⟨loaded, path, options, ⟨isPath, isOptions, checked⟩, ended⟩
    obtain ⟨image, count, read⟩ := prepare_ends_ok_iff.mp ⟨loaded, ended⟩
    obtain ⟨suffix, artifact, readable, built, -⟩ := readImage_eq_ok_iff.mp read
    exact ⟨path, options, artifact, image, isPath, isOptions,
      (checkInput_eq_ok_iff.mp checked).1, suffix, readable, built⟩
  · rintro ⟨path, options, artifact, image, isPath, isOptions, loadable⟩
    have read := readImage_eq_ok_iff.mpr
      ⟨loadable.suffix, artifact, loadable.read, loadable.built, rfl⟩
    obtain ⟨loaded, ended⟩ : ∃ loaded, ((prepare (.memory validator id) path options).run
        (setLock (·.enter .exclusive) before)).1 = .ok loaded :=
      prepare_ends_ok_iff.mpr ⟨image, _, read⟩
    exact ⟨loaded, path, options, ⟨isPath, isOptions, loadable.checked⟩, ended⟩

/-- Loading ends well exactly if an image can be built of the artifact in the file. -/
theorem load_ends_ok_iff {seat : Nat} (sound : before.state.Sound seat)
    (presents : before.state.Presents) :
    ((load (.memory validator id) argument given changes).run before).1 = .ok () ↔
      ∃ path options artifact image, argument.toPath = .ok path ∧
        LoadOptions.resolve validator given changes = .ok options ∧
          Loadable validator before.files path options artifact image := by
  rw [← prepareLoad_ends_ok_iff sound.lock]
  obtain ⟨loading, -⟩ := loading_load sound.idle (.memory validator id) argument given changes
  generalize ((prepareLoad (.memory validator id) argument given changes).run before).1 = prepared
    at loading ⊢
  cases prepared with
  | ok loaded => simp [loading.ends_ok presents]
  | error fault =>
      generalize ((load (.memory validator id) argument given changes).run before).1 = outcome,
        ((load (.memory validator id) argument given changes).run before).2.state = after
      at loading ⊢
      cases loading <;> simp

theorem Loading.installed {prepared : Except Fault Loaded} {outcome : Except Fault Unit}
    {after : State} (loading : Loading (.memory validator id) before prepared outcome after)
    (ended : outcome = .ok ()) :
    ∃ (loaded : Loaded) (load : Load) (path : Path) (options : LoadOptions),
      prepared = .ok loaded ∧ Ready (.memory validator id) path options before loaded load ∧
        after.current = some loaded ∧
          after.loads[loaded.load]? = some { load with attached := true } := by
  cases loading with
  | refused | failed => contradiction
  | first minted ready =>
      refine ⟨_, _, _, _, rfl, ready, rfl, ?_⟩
      rw [ready.newest]
      exact State.push_getElem before.state _
  | @replaced _ _ _ previous _ old minted ready =>
      refine ⟨_, _, _, _, rfl, ready, rfl, ?_⟩
      rw [ready.newest, ← before.state.letGo_length previous.load old]
      exact State.push_getElem (before.state.letGo previous.load old) _

theorem load_presents {seat : Nat} (sound : before.state.Sound seat)
    (ended : ((load (.memory validator id) argument given changes).run before).1 = .ok ()) :
    ∃ (loaded : Loaded) (load : Load) (artifact : Artifact) (image : Image),
      let after := ((Session.load (.memory validator id) argument given changes).run before).2.state
      after.Sound seat ∧ after.current = some loaded ∧ after.loads[loaded.load]? = some load ∧
        load.Shows image ∧ loaded.Presents seat artifact image ∧
          argument.toPath = .ok loaded.path ∧
            LoadOptions.resolve validator given changes = .ok loaded.options ∧
              readArtifact validator before.files loaded.path = .ok artifact := by
  obtain ⟨loading, -⟩ := loading_load sound.idle (.memory validator id) argument given changes
  obtain ⟨loaded, load, path, options, prepared, ready, current, found⟩ := loading.installed ended
  obtain ⟨artifact, image, readable, shown, presented⟩ := ready.presents
  rw [sound.seated] at presented
  rw [← ready.path] at readable
  obtain ⟨other, others, ⟨isPath, isOptions, -⟩, again⟩ :=
    (prepareLoad_eq_ok_iff sound.lock).mp prepared
  have entered := (prepared_prepare (.memory validator id) other others
    (setLock (·.enter .exclusive) before)).1
  rw [again] at entered
  obtain ⟨_, -, checked, -⟩ := entered.ready?
  rw [← checked.path] at isPath
  rw [← checked.options] at isOptions
  exact ⟨loaded, _, artifact, image, sound.loading loading, current, found,
    ⟨shown.host, shown.heap⟩, presented, isPath, isOptions, readable⟩

end Load

/-! ## In a world -/

section World

variable {deeds : List Deed} {seat : Nat} {argument : Files.PathArgument}
  {given : Option LoadOptions} {changes : List (String × Json)}

/-- After any history without revisions, whether an artifact can be loaded depends on the file and
the options only. -/
theorem Scene.load_ends_ok_iff (plain : ∀ deed ∈ deeds, deed.Plain)
    (opened : seat < (Scene.after deeds).world.sessions.length) :
    ((Scene.after deeds).world.run seat (load (.memory validator id) argument given changes)).1 =
        .ok () ↔
      ∃ path options artifact image, argument.toPath = .ok path ∧
        LoadOptions.resolve validator given changes = .ok options ∧
          Loadable validator (Scene.after deeds).world.files path options artifact image := by
  obtain ⟨sound, presents⟩ := Scene.presents_after plain
  have found := List.getElem?_eq_getElem opened
  rw [(World.run_of_session found _).1]
  exact Session.load_ends_ok_iff (sound.sessions seat _ found) (presents seat _ found)

theorem Scene.load_presents (plain : ∀ deed ∈ deeds, deed.Plain)
    (ended : ((Scene.after deeds).world.run seat
      (load (.memory validator id) argument given changes)).1 = .ok ()) :
    ∃ loaded artifact image,
      let after := ((Scene.after deeds).world.run seat
        (load (.memory validator id) argument given changes)).2
      after.current seat = some loaded ∧ after.Presents seat loaded artifact image ∧
        argument.toPath = .ok loaded.path ∧
          LoadOptions.resolve validator given changes = .ok loaded.options ∧
            readArtifact validator (Scene.after deeds).world.files loaded.path = .ok artifact := by
  obtain ⟨sound, -⟩ := Scene.presents_after plain
  cases found : (Scene.after deeds).world.sessions[seat]? with
  | none =>
      rw [World.run_of_none found] at ended
      contradiction
  | some state =>
      obtain ⟨outcome, sessions, -⟩ :=
        World.run_of_session found (load (.memory validator id) argument given changes)
      rw [outcome] at ended
      obtain ⟨loaded, load, artifact, image, soundAfter, current, atLoad, shown, presented, rest⟩ :=
        Session.load_presents (sound.sessions seat state found) ended
      obtain ⟨bound, -⟩ := List.getElem?_eq_some_iff.mp found
      have atState := (congrArg (·[seat]?) sessions).trans (List.getElem?_set_self bound)
      refine ⟨loaded, artifact, image, Option.bind_eq_some_iff.mpr ⟨_, atState, current⟩, ?_, rest⟩
      exact World.presents_of atState soundAfter current atLoad shown presented

end World

end DexBrowser.Session

import DexBrowser.Validation.Lax
import DexBrowser.Proofs.Files.Confinement
import DexBrowser.Proofs.Session.Unrevised

/-!
Where packages are saved. Main statement: the classes of a package stay below the directory that is
named, whatever the files hold, unless the name of the package starts with a dot. The paths of its
classes are absolute then, so that it does not matter which directory is named.
-/

namespace DexBrowser.Session

open Managed Session.Action

/-! ## The classes of a package -/

structure ClassIn (package fullName : String) : Prop where
  normal : ClassName.Normal fullName.toList
  head : fullName.toList.head? = package.toList.head?

theorem classIn_image {image : Image} (wellNamed : image.WellNamed) {p : String × List Nat}
    (member : p ∈ image.packages) {index : Nat} (inside : index ∈ p.2) :
    ∃ c, image.classes[index]? = some c ∧ ClassIn p.1 c.fullName := by
  have placed := wellNamed.packages p member index inside
  rw [List.getElem?_map] at placed
  obtain ⟨c, found, same⟩ := Option.map_eq_some_iff.mp placed
  obtain ⟨nonempty, normal⟩ := wellNamed.classes c (List.mem_of_getElem? found)
  refine ⟨c, found, normal, ?_⟩
  rw [same] at nonempty
  have spelled : c.fullName.toList = p.1.toList ++ ("." ++ c.named.name).toList := by
    rw [← same, ← String.toList_append, ← String.append_assoc]
    rfl
  rw [spelled]
  cases package : p.1.toList with
  | nil => exact absurd (String.toList_eq_nil_iff.mp package) nonempty
  | cons first rest => rfl

section Members

variable {h : Handle} {host : Host} {holds : Workspace → Prop} {image : Image} {name : String}

/-- A handle of a class of a package, which tells its name. -/
structure MemberOf (holds : Workspace → Prop) (package : String) (h c : Handle) : Prop where
  origin : World.originOf c = World.originOf h
  named : ∃ fullName, ClassIn package fullName ∧
    (c.fullName : Action String).Keeps holds (· = fullName) anyFault

theorem Usable.keeps_members (use : Usable (World.originOf h) host holds anyFault)
    (faithful : ∀ workspace load, holds workspace →
      workspace.state.loads[h.load]? = some load → load.Shows image)
    (wellNamed : image.WellNamed) (package : PackageOf image name h) :
    (h.classes : Action (List Handle)).Keeps holds
      (fun hs => ∀ c ∈ hs, MemberOf holds name h c) anyFault := by
  obtain ⟨-, index, places, atPackage, target⟩ := package
  let listing : Value := .list ((places.map .classNode).map .object)
  have listed : ∀ workspace load readers v, holds workspace →
      workspace.state.loads[h.load]? = some load →
      load.answer readers h.target "getClasses" [] = .ok v → v = listing := by
    intro workspace load readers v held found given
    rw [target] at given
    have answer := (faithful workspace load held found).packageClasses atPackage readers
    exact Except.ok.inj (given.symm.trans answer)
  refine (use.keeps_askAll .classNode (by decide) listed).mono (fun hs all c member => ?_)
    fun _ any => any
  obtain ⟨own, -, v, targets, rfl, items, isTarget⟩ := all c member
  have sameOrigin := own.origin
  rw [itemsOf_list items] at isTarget
  obtain ⟨id, isId, isObject⟩ := List.mem_map.mp isTarget
  obtain ⟨place, inside, rfl⟩ := List.mem_map.mp isId
  have isPackage := List.mem_of_getElem? atPackage
  obtain ⟨found, atClass, classIn⟩ := classIn_image wellNamed isPackage inside
  refine ⟨sameOrigin, found.fullName, classIn, ?_⟩
  have sameLoad : c.load = h.load := congrArg LoadId.load sameOrigin
  rw [← sameOrigin] at use
  refine use.keeps_fullName _ fun workspace load readers held atLoad => ?_
  rw [sameLoad] at atLoad
  rw [← isObject]
  exact (faithful workspace load held atLoad).className atClass readers

end Members

/-! ## Saving -/

/-- A handle of a package, in a session whose input shows an image. -/
structure Packaged (state : State) (image : Image) (name : String) (h : Handle) : Prop where
  seated : state.seat = h.seat
  shown : ∃ load, state.loads[h.load]? = some load ∧ load.Shows image
  wellNamed : image.WellNamed
  package : PackageOf image name h

/-- What the use of the handle leaves of a session, with the files as they are said to be. -/
def Handle.Leaves (h : Handle) (state : State) (files : Files.Tree → Prop)
    (workspace : Workspace) : Prop :=
    state.Used h.load workspace.state ∧ files workspace.files

section Saving

variable {state : State} {image : Image} {name : String} {h : Handle}

theorem Packaged.usable (packaged : Packaged state image name h) (files : Files.Tree → Prop) :
    Usable (World.originOf h) .memory (h.Leaves state files) anyFault := by
  obtain ⟨load, found, shown⟩ := packaged.shown
  have use := usable_used found files
  rw [packaged.seated, shown.host] at use
  exact use

theorem Packaged.keeps_members (packaged : Packaged state image name h)
    (files : Files.Tree → Prop) :
    (h.classes : Action (List Handle)).Keeps (h.Leaves state files)
      (fun hs => ∀ c ∈ hs, MemberOf (h.Leaves state files) name h c) anyFault := by
  obtain ⟨load, found, shown⟩ := packaged.shown
  exact (packaged.usable files).keeps_members
    (fun _ _ held atLater => shown.used (held.1.load found atLater)) packaged.wellNamed
    packaged.package

theorem Packaged.respects_saveMember (packaged : Packaged state image name h)
    {files : Files.Tree → Prop} {directory : Path}
    (writable : ∀ fullName, ClassIn name fullName →
      Writable (h.Leaves state files) (memberPath directory fullName)) {c : Handle}
    (own : MemberOf (h.Leaves state files) name h c) :
    (Handle.saveMember directory c).Respects (h.Leaves state files) anyFault := by
  obtain ⟨fullName, classIn, named⟩ := own.named
  have use := packaged.usable files
  rw [← own.origin] at use
  exact use.respects_saveMember named fun other same => same ▸ writable fullName classIn

theorem Packaged.respects_savePackage (packaged : Packaged state image name h)
    {files : Files.Tree → Prop} {directory : Path}
    (writable : ∀ fullName, ClassIn name fullName →
      Writable (h.Leaves state files) (memberPath directory fullName)) :
    (h.savePackage directory : Action Bool).Respects (h.Leaves state files) anyFault :=
  (packaged.usable files).respects_savePackage <|
    (packaged.keeps_members files).mono
      (fun _ all c member => packaged.respects_saveMember writable (all c member)) fun _ any => any

/-- A class of a package whose name starts with no dot is saved below the directory. -/
theorem writable_below {files : Files.Tree} {fullName : String} (classIn : ClassIn name fullName)
    (plain : name.toList.head? ≠ some '.') (directory : Path) :
    Writable (h.Leaves state (Files.Tree.Confined directory files))
      (memberPath directory fullName) := by
  intro workspace code held
  have relative : (Path.ofString (ClassName.sourceFile fullName)).isAbsolute = false := by
    rw [Bool.eq_false_iff, Ne, ClassName.isAbsolute_sourceFile classIn.normal, classIn.head]
    exact plain
  have down := ClassName.down_sourceFile classIn.normal
  exact ⟨held.1, held.2.trans (Files.Tree.confined_writeSource workspace.files relative down code)⟩

/-- A class of a package whose name starts with a dot goes to one place, whatever the directory. -/
theorem memberPath_absolute {fullName : String} (classIn : ClassIn name fullName)
    (dotted : name.toList.head? = some '.') (directory : Path) :
    memberPath directory fullName = Path.ofString (ClassName.sourceFile fullName) := by
  apply Path.join_absolute
  rw [ClassName.isAbsolute_sourceFile classIn.normal, classIn.head, dotted]

theorem Packaged.agrees_savePackage (packaged : Packaged state image name h)
    (dotted : name.toList.head? = some '.') (one other : Path) :
    Agrees (h.Leaves state fun _ => True) (h.savePackage one : Action Bool)
      (h.savePackage other) := by
  have use := packaged.usable fun _ => True
  have members := packaged.keeps_members fun _ => True
  have writable : ∀ fullName, ClassIn name fullName →
      Writable (h.Leaves state fun _ => True) (memberPath one fullName) :=
    fun _ _ _ _ held => held
  have saves {c : Handle} (own : MemberOf (h.Leaves state fun _ => True) name h c) :
      (Handle.saveMember one c).Respects (h.Leaves state fun _ => True) anyFault :=
    packaged.respects_saveMember writable own
  have saved : Agrees (h.Leaves state fun _ => True) (h.saveMembers one) (h.saveMembers other) := by
    refine agrees_shared use.toSectioned ((agrees_refl _).bind members fun hs all => ?_)
    refine agrees_mapM (fun c member => saves (all c member)) fun c member => ?_
    obtain ⟨fullName, classIn, named⟩ := (all c member).named
    refine (agrees_refl _).bind named fun told same => ?_
    subst same
    have onePath := memberPath_absolute classIn dotted one
    have otherPath := memberPath_absolute classIn dotted other
    rw [memberPath] at onePath otherPath
    rw [onePath, otherPath]
    exact agrees_refl _
  refine saved.bind (use.respects_saveMembers (members.mono ?_ fun _ any => any)) fun _ _ =>
    agrees_refl _
  exact fun hs all c member => saves (all c member)

end Saving

/-! ## In a world -/

def World.saved (world : World) (files : Files.Tree) (h : Handle) (directory : Path) : Files.Tree :=
    ({ world with files := files }.run h.seat (h.save (.path directory) : Action Bool)).2.files

section World

variable {world : World} {state : State} {image : Image} {name : String} {h : Handle}

theorem Packaged.saved_eq (packaged : Packaged state image name h)
    (found : world.sessions[h.seat]? = some state) (files : Files.Tree) (directory : Path) :
    world.saved files h directory =
      ((h.savePackage directory : Action Bool).run ⟨state, files, world.journal⟩).2.files := by
  have found' : ({ world with files := files } : World).sessions[h.seat]? = some state := found
  obtain ⟨-, -, after, -⟩ := World.run_of_session found' (h.save (.path directory) : Action Bool)
  rw [World.saved, after, save_of_toPath packaged.package.1 rfl]

theorem Packaged.confined (packaged : Packaged state image name h)
    (found : world.sessions[h.seat]? = some state) (plain : name.toList.head? ≠ some '.')
    (files : Files.Tree) (directory : Path) :
    files.Confined directory (world.saved files h directory) := by
  rw [packaged.saved_eq found]
  have writable : ∀ fullName, ClassIn name fullName →
      Writable (h.Leaves state (files.Confined directory)) (memberPath directory fullName) :=
    fun _ classIn => writable_below classIn plain directory
  have untouched := Files.Tree.confined_refl directory files
  exact (packaged.respects_savePackage writable ⟨state, files, world.journal⟩
    ⟨State.Used.refl _ _, untouched⟩).holds.2

theorem Packaged.saved_same (packaged : Packaged state image name h)
    (found : world.sessions[h.seat]? = some state) (dotted : name.toList.head? = some '.')
    (files : Files.Tree) (one other : Path) :
    world.saved files h one = world.saved files h other := by
  rw [packaged.saved_eq found, packaged.saved_eq found,
    packaged.agrees_savePackage dotted one other _ ⟨State.Used.refl _ _, trivial⟩]

theorem Packaged.workingDirectory_saved (packaged : Packaged state image name h)
    (found : world.sessions[h.seat]? = some state) (files : Files.Tree) (directory : Path) :
    (world.saved files h directory).workingDirectory = files.workingDirectory := by
  rw [packaged.saved_eq found]
  have writable : ∀ fullName, ClassIn name fullName →
      Writable (h.Leaves state (·.workingDirectory = files.workingDirectory))
        (memberPath directory fullName) :=
    fun _ _ workspace code held =>
      ⟨held.1, (workspace.files.workingDirectory_writeSource _ code).trans held.2⟩
  exact (packaged.respects_savePackage writable ⟨state, files, world.journal⟩
    ⟨State.Used.refl _ _, rfl⟩).holds.2

end World

theorem exists_apart (first : String) :
    ∃ directory : Path, ∀ (before after : Files.Tree) (rest : List String),
      before.Confined directory after →
        after.get? (first :: rest) = before.get? (first :: rest) := by
  obtain ⟨other, apart, part, place⟩ : ∃ other, other ≠ first ∧ isPart other = true ∧
      Files.resolve [] [other] = [other] := by
    by_cases isA : first = "a"
    · exact ⟨"b", by simp [isA], by decide, by decide⟩
    · exact ⟨"a", Ne.symm isA, by decide, by decide⟩
  refine ⟨⟨.root, [other], by simpa using part⟩, fun before after rest confined => ?_⟩
  have root : before.start .root = [] := rfl
  rcases confined.places (first :: rest) with same | below | ⟨⟨names, front, leads⟩, -⟩
  · exact same
  · rw [Files.Tree.place, root, place] at below
    exact absurd (List.cons_prefix_cons.mp below).1 apart
  · rw [root] at leads
    rcases List.prefix_concat_iff.mp (show names <+: [] ++ [other] from front) with rfl | nothing
    · rw [List.nil_append, place] at leads
      exact absurd (List.cons.inj leads).1.symm apart
    · rw [List.prefix_nil.mp nothing] at leads
      contradiction

/-- While managed objects answer what the artifacts say, saving a package changes nothing but what
is below the directory, whichever it is, exactly if the name of the package starts with no dot or
nothing is saved at all. -/
theorem package_save_confined_iff {deeds : List Deed} (plain : ∀ deed ∈ deeds, deed.Plain)
    {seat : Nat} {loaded : Loaded}
    (current : (Scene.after deeds).world.current seat = some loaded) {name : String} {h : Handle}
    (member : (name, h) ∈ loaded.packages) (files : Files.Tree) :
    let saved := (Scene.after deeds).world.saved files h
    (∀ directory, files.Confined directory (saved directory)) ↔
      name.toList.head? ≠ some '.' ∨
        ∀ directory location, (saved directory).get? location = files.get? location := by
  intro saved
  obtain ⟨sound, faithful⟩ := Scene.faithful_after plain
  obtain ⟨state, found, current⟩ := Option.bind_eq_some_iff.mp current
  obtain ⟨load, image, atLoad, shown, wellNamed, packages⟩ :=
    faithful seat state found loaded current
  obtain ⟨_, -, -, -, owned⟩ := (sound.sessions seat state found).current loaded current
  have origin : World.originOf h = ⟨seat, loaded.load⟩ := (owned (name, h) member).origin
  have sameSeat : h.seat = seat := congrArg LoadId.seat origin
  have sameLoad : h.load = loaded.load := congrArg LoadId.load origin
  have packaged : Packaged state image name h :=
    { seated := (sound.sessions seat state found).seated.trans sameSeat.symm
      shown := ⟨load, by rw [sameLoad, atLoad], shown⟩
      wellNamed := wellNamed
      package := packages (name, h) member }
  rw [← sameSeat] at found
  constructor
  · intro confined
    by_cases dotted : name.toList.head? = some '.'
    case neg => exact .inl dotted
    case pos =>
        -- As all directories come to the same, one that is apart from the place may be taken.
        refine .inr fun directory location => ?_
        cases location with
        | nil => rfl
        | cons first rest =>
            obtain ⟨apart, nothing⟩ := exists_apart first
            have same : saved directory = saved apart := packaged.saved_same found dotted files _ _
            rw [same]
            exact nothing files (saved apart) rest (confined apart)
  · rintro (undotted | unchanged) directory
    · exact packaged.confined found undotted files directory
    · exact ⟨packaged.workingDirectory_saved found files directory, fun location =>
        .inl (unchanged directory location)⟩

def rooted : Files.Tree :=
    ({} : Files.Tree).put ["a.json"] (artifactOf "/tmp/dexbrowser/B")

def rootedLoaded : List Deed :=
    [.openSession, .replaceFiles rooted,
      .load 0 (.memory .lax id) (.path (Path.ofString "a.json")) none []]

theorem rooted_package_leaves :
    let world := (Scene.after rootedLoaded).world
    ∃ loaded name h, world.current 0 = some loaded ∧ (name, h) ∈ loaded.packages ∧
      ¬ ∀ directory, rooted.Confined directory (world.saved rooted h directory) := by
  intro world
  have some_changed : (world.current 0).any (fun loaded =>
      loaded.packages.any fun entry => entry.1.toList.head? == some '.' &&
        (world.saved rooted entry.2 (Path.ofString "out")).get? ["tmp"] != rooted.get? ["tmp"]) =
          true := by
    decide +kernel
  obtain ⟨loaded, current, some_package⟩ := (Option.any_eq_true _ _).mp some_changed
  obtain ⟨⟨name, h⟩, member, changed⟩ := List.any_eq_true.mp some_package
  rw [Bool.and_eq_true, beq_iff_eq, bne_iff_ne] at changed
  have plain : ∀ deed ∈ rootedLoaded, deed.Plain := by simp [rootedLoaded, Deed.Plain]
  refine ⟨loaded, name, h, current, member, fun confined => ?_⟩
  rcases (package_save_confined_iff plain current member rooted).mp confined with undotted | same
  · exact undotted changed.1
  · exact changed.2 (same _ _)

end DexBrowser.Session

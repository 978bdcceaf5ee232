import DexBrowser.Validation.Lax
import DexBrowser.Proofs.Image.AccessBits
import DexBrowser.Proofs.Image.Renaming
import DexBrowser.Proofs.Session.FaithfulLoad
import DexBrowser.Proofs.Session.LockDiscipline

/-!
Views of access flags. Main statement: a view that is made of an object says what the bits of its
raw value say, and the views of a loaded artifact's classes and methods say what the bits of the
numbers say that the artifact gives, where constructors and initializers are marked as such.
-/

namespace DexBrowser.Image

variable {validator : Validator}

/-! ## Constructors and initializers -/

def isMarkedName (name : String) : Bool :=
    name = constructorName || name = initializerName

theorem entryFlags_eq (entry : MethodEntry) : entryFlags entry =
    AccessFlags.marking (isMarkedName entry.name) (AccessFlags.ofInt entry.accessFlags) := by
  simp only [entryFlags, AccessFlags.marking, isMarkedName, Bool.or_eq_true, decide_eq_true_eq]

theorem fixed_of_marked {name : String} (marked : isMarkedName name = true) :
    isFixedName name.toList = true := by
  simp only [isMarkedName, Bool.or_eq_true, decide_eq_true_eq] at marked
  cases marked with
  | inl same => subst same; decide
  | inr same => subst same; decide

/-- A marked name is kept, and no replacement is one. -/
theorem isMarkedName_rename (options : LoadOptions) (count : Nat) (name : String) :
    isMarkedName (rename options methodNames count name).1 = isMarkedName name := by
  cases kept : keepsName options name.toList with
  | true => rw [rename_kept kept]
  | false =>
      rw [rename_replaced kept]
      have unmarked {other : String} (free : isFixedName other.toList = false) :
          isMarkedName other = false := by
        rw [Bool.eq_false_iff]
        intro marked
        rw [fixed_of_marked marked] at free
        contradiction
      have replaced : isFixedName name.toList = false := by
        simp only [keepsName, Bool.or_eq_false_iff] at kept
        exact kept.1.2
      rw [unmarked replaced]
      apply unmarked
      rw [String.toList_ofList, replacement_eq]
      rfl

theorem methodFlags_nameMethod (options : LoadOptions) (owner : String) (count : Nat)
    (entry : MethodEntry) :
    Managed.methodFlags (nameMethod options owner count entry).1 = entryFlags entry := by
  rw [entryFlags_eq, ← isMarkedName_rename options count]
  rfl

end DexBrowser.Image

namespace DexBrowser.Managed

/-! ## Raw values -/

/-- An object of the class of access flags that answers a number, in a load that is alive. -/
structure Load.CarriesRaw (load : Load) (id : ObjectId) (v : Int) : Prop where
  alive : load.alive = true
  belongs : load.isInstance (.object id) accessClass.name = .ok true
  raw : load.heap.member? id "rawValue" = some (.constant (.int v))

namespace Load

variable {load later : Load} {id : ObjectId} {v : Int}

theorem Used.isInstance (used : load.Used later) (id : ObjectId) (className : String) :
    later.isInstance (.object id) className = load.isInstance (.object id) className := by
  simp only [Load.isInstance, Load.belongs, Load.object?, used.host, used.object?]

theorem CarriesRaw.used (carries : load.CarriesRaw id v) (used : load.Used later) :
    later.CarriesRaw id v where
  alive := used.alive.trans carries.alive
  belongs := (used.isInstance id _).trans carries.belongs
  raw := (used.member? id _).trans carries.raw

theorem CarriesRaw.answer (carries : load.CarriesRaw id v) (readers : Nat) :
    load.answer readers (.object id) "rawValue" [] = .ok (.int v) := by
  unfold Load.answer
  cases hosted : load.host with
  | machine running known =>
      simp only [machineAnswer, Load.member?, carries.raw]
      rfl
  | memory =>
      have belongs := carries.belongs
      rw [Load.isInstance, hosted] at belongs
      cases object : load.heap.object? id with
      | none => simp [Load.belongs, Load.object?, object] at belongs
      | some found =>
          simp only [Load.object?, object, Option.map_some, carries.raw]
          rfl

end Load

end DexBrowser.Managed

namespace DexBrowser.Session

open Managed Session.Action Image AccessFlags

section Raw

variable {before : Workspace} {n : Nat} {load : Load} {id : ObjectId} {v : Int}

theorem run_remote (found : before.state.loads[n]? = some load)
    (step : Nat → Load → Except Fault α × Load) :
    (do onLoad n (step (← Remote.readers))).run before =
      ((step before.state.lock.readers load).1,
        before.setLoad n (step before.state.lock.readers load).2) := by
  have readers : Remote.readers.run before = (.ok before.state.lock.readers, before) := rfl
  rw [run_bind_ok readers, run_onLoad found]

theorem run_invokeRaw {h : Handle} (found : before.state.loads[h.load]? = some load)
    (free : before.state.lock.writer = false) (target : h.target = .object id)
    (carries : load.CarriesRaw id v) :
    ∃ after, (h.invoke "rawValue").run before = (.ok (.int v), after) := by
  have asking : h.invoke "rawValue" = h.asking (.ok ()) fun readers load =>
      load.invoke true readers (.object id) "rawValue" [] := by
    rw [Handle.asking_ok, ← target]
    rfl
  rw [asking, run_asking found free, if_pos carries.alive]
  exact ⟨_, Prod.ext (carries.answer _) rfl⟩

/-- The object's class is asked for, then whether it is the right one, then the raw value. -/
theorem run_makeAccess (found : before.state.loads[n]? = some load)
    (free : before.state.lock.writer = false) (carries : load.CarriesRaw id v)
    (short : Number.isLong v = false)
    (reflects : ∀ readers, ∃ cls, (load.classOf true readers (.object id)).1 = .ok cls) :
    ∃ h, ((Handle.make n .access (.object id) : Action Handle).run before).1 = .ok h ∧
      h.target = .object id ∧ h.flags = AccessFlags.ofInt v := by
  obtain ⟨cls, reflected⟩ := reflects before.state.lock.readers
  have used := (load.asked_classOf true before.state.lock.readers (.object id)).used
  have classOf : (Remote.classOf n true (.object id)).run before = _ :=
    run_remote found fun readers load => load.classOf true readers (.object id)
  rw [reflected] at classOf
  generalize (load.classOf true before.state.lock.readers (.object id)).2 = later at used classOf
  have carriesLater := carries.used used
  have inside : (before.setLoad n later).state.loads[n]? = some later := by
    obtain ⟨bound, -⟩ := List.getElem?_eq_some_iff.mp found
    exact List.getElem?_set_self bound
  have isInstance : (Remote.isInstance n (.object id) accessClass.name).run
      (before.setLoad n later) = (.ok true, before.setLoad n later) := by
    rw [Remote.isInstance, run_onLoad inside, carriesLater.belongs, Workspace.setLoad_self inside]
  have checked : (Handle.checkClass n .access (.object id) cls).run (before.setLoad n later) =
      (.ok (), before.setLoad n later) := run_bind_ok isInstance _
  obtain ⟨made, minted, bare, isMade, unlocked, there⟩ : ∃ made minted,
      (Handle.bare n .access (.object id) none).run before = (.ok made, minted) ∧
        (made.load = n ∧ made.target = .object id) ∧ minted.state.lock = before.state.lock ∧
          minted.state.loads[n]? = some later := by
    have steps : Handle.bare n .access (.object id) none = (do
        let cls ← Remote.classOf n true (.object id)
        Handle.checkClass n .access (.object id) cls
        Handle.issue n .access (.object id) cls) := rfl
    rw [steps, run_bind_ok classOf, run_bind_ok checked]
    exact ⟨_, _, rfl, ⟨rfl, rfl⟩, rfl, inside⟩
  obtain ⟨rfl, target⟩ := isMade
  obtain ⟨after, told⟩ := run_invokeRaw there (unlocked ▸ free) target carriesLater
  refine ⟨{ made with flags := AccessFlags.ofInt v }, ?_, target, rfl⟩
  have steps : (Handle.make made.load .access (.object id) : Action Handle) = (do
      let handle ← Handle.bare made.load .access (.object id) none
      let raw ← handle.invoke "rawValue"
      let flags ← Action.ofExcept ((toWhole raw).bind AccessFlags.read)
      return { handle with flags := flags }) := rfl
  have read : (toWhole (.int v)).bind AccessFlags.read = .ok (AccessFlags.ofInt v) :=
    AccessFlags.read_of_others (AccessFlags.isLong_others_ofInt short)
  rw [steps, run_bind_ok bare, run_bind_ok told, read]
  rfl

end Raw

/-! ## Views of classes and methods -/

/-- An access view says what the bits of a number say, and is shown as the words of its bits. -/
structure Handle.ReadsAccess (h : Handle) (seat : Nat) (world : World)
    (modifiers : List (Nat × String)) (v : Int) (marked : Bool) : Prop where
  flags : h.flags.Reads v marked
  words : (world.run seat h.toText).1 = .ok (" ".intercalate (wordsOf modifiers v))

/-- The access views of a class and of its methods say what the artifact's numbers say. -/
structure Handle.ViewsAccess (h : Handle) (seat : Nat) (world : World) (entry : ClassEntry) :
    Prop where
  access : world.Gives seat (h.access : Action Handle) fun view after =>
    view.ReadsAccess seat after classModifierBits entry.accessFlags false
  methods : world.Gives seat (h.methods : Action (List Handle)) fun methods after =>
    List.Forall₂ (fun method (m : Handle) =>
      after.Gives seat (m.access : Action Handle) fun view later =>
        view.ReadsAccess seat later methodModifierBits method.accessFlags
          (isMarkedName method.name)) entry.methods methods

section Views

variable {origin : LoadId} {image : Image} {world : World} {h : Handle} {i : Nat} {c : ClassImage}

theorem World.Live.readsAccess (live : world.Live origin image) {id : ObjectId}
    (wraps : h.Wraps origin .access id) {modifiers : List (Nat × String)} {v : Int} {marked : Bool}
    (known : imageObject? image id =
      some (accessObject (marking marked (ofInt v)) (wordsOf modifiers v)))
    (flags : h.flags = marking marked (ofInt v)) (short : Number.isLong v = false) :
    h.ReadsAccess origin.seat world modifiers v marked where
  flags := flags ▸ reads_marking marked short
  words := live.answers (Session.Live.keeps_toText wraps ⟨_, known, rfl⟩)

theorem World.Live.viewsMethodAccess (live : world.Live origin image)
    (found : image.classes[i]? = some c) {j : Nat} {method : NamedMethod}
    (foundMethod : c.named.methods[j]? = some method) {entry : MethodEntry}
    (same : methodFlags method = entryFlags entry) (wraps : h.Wraps origin .method (.method i j)) :
    world.Gives origin.seat (h.access : Action Handle) fun view after =>
      view.ReadsAccess origin.seat after methodModifierBits entry.accessFlags
        (isMarkedName entry.name) := by
  have known := methodAccess_known found foundMethod
  have told := Asking.Firm.keeps (Asking.firm_methodAccess wraps found foundMethod)
  rw [same, entryFlags_eq] at known told
  rw [(words_marking _ _).2] at known
  refine (live.gives told).mono ?_
  intro view after gives
  obtain ⟨⟨wrapsView, flags⟩, later⟩ := gives
  exact later.readsAccess wrapsView known flags entry.short

theorem World.Live.viewsAccess (live : world.Live origin image)
    (found : image.classes[i]? = some c) {entry : ClassEntry} (same : c.named.entry = entry)
    (methods : List.Forall₂ (fun entry method => methodFlags method = entryFlags entry)
      entry.methods c.named.methods)
    (wraps : h.Wraps origin .classNode (.classNode i)) :
    h.ViewsAccess origin.seat world entry := by
  constructor
  case access =>
    have known := classAccess_known found
    have told := Asking.Firm.keeps (Asking.firm_classAccess wraps found)
    rw [Query.classFlags, same, ← marking_false (ofInt entry.accessFlags)] at known told
    rw [(words_marking false entry.accessFlags).1] at known
    refine (live.gives told).mono ?_
    intro view after gives
    obtain ⟨⟨wrapsView, flags⟩, later⟩ := gives
    exact later.readsAccess wrapsView known flags entry.short
  case methods =>
    refine (live.gives (Session.Live.keeps_methods wraps found)).mono ?_
    intro made after gives
    obtain ⟨all, later⟩ := gives
    refine (forall₂_places methods all).imp ?_
    intro method m here
    obtain ⟨j, _, foundMethod, flags, wrapsMethod⟩ := here
    exact later.viewsMethodAccess found foundMethod flags wrapsMethod

end Views

/-! ## Loading -/

/-- Of every whole number that can be written out, an access view says what its bits say, of
whatever sign it is: a view that is made of an object with that raw value, and after any history
without revisions the views of a loaded artifact's classes and methods. Those of constructors and
initializers have the constructor's bit besides. -/
theorem access_views_read :
    (∀ (before : Workspace) (n : Nat) (load : Load) (id : ObjectId) (v : Int),
      before.state.loads[n]? = some load → before.state.lock.writer = false →
        load.CarriesRaw id v → Number.isLong v = false →
          (∀ readers, ∃ cls, (load.classOf true readers (.object id)).1 = .ok cls) →
            ∃ view, ((Handle.make n .access (.object id) : Action Handle).run before).1 = .ok view ∧
              view.target = .object id ∧ view.flags.Reads v false) ∧
      ∀ (deeds : List Deed), (∀ deed ∈ deeds, deed.Plain) →
        ∀ (seat : Nat) (argument : Files.PathArgument) (given : Option LoadOptions)
          (changes : List (String × Json)),
          let ran := (Scene.after deeds).world.run seat
              (load (.memory validator id) argument given changes)
          ran.1 = .ok () →
            ∃ loaded artifact, ran.2.current seat = some loaded ∧
              argument.toPath = .ok loaded.path ∧
                readArtifact validator (Scene.after deeds).world.files loaded.path = .ok artifact ∧
                  List.Forall₂ (fun entry c => Handle.ViewsAccess c.2 seat ran.2 entry)
                    artifact.classes loaded.classes := by
  constructor
  · intro before n load id v found free carries short reflects
    obtain ⟨view, made, target, flags⟩ := run_makeAccess found free carries short reflects
    exact ⟨view, made, target, flags ▸ reads_marking false short⟩
  · intro deeds plain seat argument given changes ran ended
    obtain ⟨loaded, artifact, image, current, presents, isPath, -, readable⟩ :=
      Scene.load_presents plain ended
    refine ⟨loaded, artifact, current, isPath, readable, ?_⟩
    have named : List.Forall₂ (fun (entry : ClassEntry) (c : NamedClass) => c.entry = entry ∧
        List.Forall₂ (fun entry method => methodFlags method = entryFlags entry) entry.methods
          c.methods) artifact.classes (nameClasses loaded.options 0 artifact.classes) := by
      refine forall₂_nameClasses (fun count entry => ⟨rfl, ?_⟩) 0 artifact.classes
      rw [nameClass_methods]
      exact forall₂_nameMethods (methodFlags_nameMethod _ _) _ _
    refine (forall₂_comp named presents.forall₂_classes).imp ?_
    intro entry c related
    obtain ⟨renamed, ⟨same, methods⟩, -, i, found, wraps⟩ := related
    refine presents.live.viewsAccess found ?_ ?_ wraps
    · rw [named_renderClass, same]
    · rw [named_renderClass]
      exact methods

def flaggedClasses : List ClassEntry :=
    [{ fullName := "a.A", accessFlags := -3,
       methods := [{ name := "<init>" }, { name := "m", accessFlags := -131074 }] }]

def flaggedArtifact : Files.Entry :=
    .file ("\x7b\"classes\":[\x7b\"fullname\":\"a.A\",\"access_flags\":-3,\"methods\":[" ++
      "\x7b\"name\":\"<init>\"\x7d," ++
      "\x7b\"name\":\"m\",\"access_flags\":-131074\x7d]\x7d]\x7d").toUTF8

def flaggedStored : List Deed :=
    [.openSession, .replaceFiles (({} : Files.Tree).put ["a.json"] flaggedArtifact)]

def flaggedByHand : Load :=
    { heap := { given := [("flags", ⟨accessClass, [numberMember "rawValue" (-3)], none, false⟩)] } }

theorem access_views_read_flagged :
    (∃ view, ((Handle.make 0 .access (.object (.given "flags")) : Action Handle).run
      { state := { loads := [flaggedByHand] } }).1 = .ok view ∧ view.flags.Reads (-3) false) ∧
      let ran := (Scene.after flaggedStored).world.run 0
        (load (.memory .lax id) (.path (Path.ofString "a.json")) none [])
      ran.1 = .ok () ∧ ∃ loaded, ran.2.current 0 = some loaded ∧
        List.Forall₂ (fun entry c => Handle.ViewsAccess c.2 0 ran.2 entry) flaggedClasses
          loaded.classes := by
  obtain ⟨views, loads⟩ := access_views_read
  constructor
  · have carries : flaggedByHand.CarriesRaw (.given "flags") (-3) := ⟨rfl, rfl, rfl⟩
    obtain ⟨view, made, -, reads⟩ := views { state := { loads := [flaggedByHand] } } 0 flaggedByHand
      (.given "flags") (-3) rfl rfl carries (by decide +kernel) fun readers => ⟨_, rfl⟩
    exact ⟨view, made, reads⟩
  · intro ran
    have plain : ∀ deed ∈ flaggedStored, deed.Plain := by simp [flaggedStored, Deed.Plain]
    obtain ⟨_, ended⟩ := faultOf?_eq_none.mp (show faultOf? ran.1 = none by decide +kernel)
    obtain ⟨loaded, artifact, current, isPath, readable, all⟩ := loads _ plain 0 _ _ _ ended
    have path := Except.ok.inj isPath
    have known :
        readArtifact .lax (Scene.after flaggedStored).world.files (Path.ofString "a.json") =
        .ok ⟨flaggedClasses⟩ := by decide +kernel
    rw [← path, known] at readable
    obtain rfl := Except.ok.inj readable
    exact ⟨ended, loaded, current, all⟩

def Handle.methodValues (h : Handle) : Action (List Int) := do
    (← h.methods).mapM fun m => do return (← m.access).flags.value

/-- A constructor whose number is one is reported with the constructor's bit as well. -/
theorem constructor_value_not_kept :
    let after := ((Scene.after flaggedStored).world.run 0
      (load (.memory .lax id) (.path (Path.ofString "a.json")) none [])).2
    (flaggedClasses.map fun entry => entry.methods.map (·.accessFlags)) = [[1, -131074]] ∧
      readArtifact .lax (Scene.after flaggedStored).world.files (Path.ofString "a.json") =
        .ok ⟨flaggedClasses⟩ ∧
      ∃ loaded, after.current 0 = some loaded ∧ ∃ c ∈ loaded.classes, ∃ constructor others,
        (after.run 0 c.2.methodValues).1.toOption = some (constructor :: others) ∧
          constructor ≠ 1 := by
  intro after
  refine ⟨by decide, by decide +kernel, ?_⟩
  obtain ⟨loaded, current, seen⟩ := (Option.any_eq_true _ _).mp (show (after.current 0).any
    (fun loaded => loaded.classes.any fun c =>
      (after.run 0 c.2.methodValues).1.toOption == some [65537, 131070]) = true by decide +kernel)
  obtain ⟨c, member, values⟩ := List.any_eq_true.mp seen
  exact ⟨loaded, current, c, member, _, _, beq_iff_eq.mp values, by decide⟩

end DexBrowser.Session

import DexBrowser.Validation.Lax
import DexBrowser.Proofs.Image.RespelledTypes
import DexBrowser.Proofs.Session.MethodEquality

/-!
Two sessions with artifacts that differ in the blanks of their types. Main statement: types of one
place are equal, and rows of overviews show them alike, exactly if their trimmed spellings are the
same; methods are equal, are told as one text and have one default body only as far as the spellings
themselves agree.
-/

namespace DexBrowser.Session

open Managed Session.Action Image

variable {validator : Validator}

theorem forall₂_zip {first : α → β → Prop} {second : γ → δ → Prop} {xs : List α} {ys : List β}
    {us : List γ} {vs : List δ} (one : List.Forall₂ first xs ys)
    (two : List.Forall₂ second us vs) :
    List.Forall₂ (fun p q => first p.1 q.1 ∧ second p.2 q.2) (xs.zip us) (ys.zip vs) := by
  induction one generalizing us vs with
  | nil => exact .nil
  | cons here _ ih =>
      cases two with
      | nil => exact .nil
      | cons there rest => exact .cons ⟨here, there⟩ (ih rest)

/-! ## Two loads that are asked -/

section Both

variable {world : World} {origin elsewhere : LoadId} {image otherImage : Image}

theorem World.Idle.gives_both (idle : world.Idle origin image)
    (others : world.Idle elsewhere otherImage) (apart : elsewhere.seat ≠ origin.seat)
    {first : Action α} {second : Action β} {good : α → Prop} {fine : β → Prop}
    (keeps : first.Keeps (Session.Live origin image fun _ => True) good noFault)
    (otherKeeps : second.Keeps (Session.Live elsewhere otherImage fun _ => True) fine noFault) :
    world.Gives origin.seat first fun a after => after.Gives elsewhere.seat second fun b later =>
      good a ∧ fine b ∧ later.Idle origin image ∧ later.Idle elsewhere otherImage := by
  refine (idle.gives keeps).mono ?_
  rintro a after ⟨isGood, own, beside⟩
  refine ((beside _ _ apart others).gives otherKeeps).mono ?_
  rintro b later ⟨isFine, last, besideLast⟩
  exact ⟨isGood, isFine, besideLast _ _ apart.symm own, last⟩

theorem World.Idle.same_iff (idle : world.Idle origin image)
    (others : world.Idle elsewhere otherImage) {first second : Handle} {kind otherKind : Kind}
    {id otherId : ObjectId} {object otherObject : Object} (wraps : first.Wraps origin kind id)
    (otherWraps : second.Wraps elsewhere otherKind otherId)
    (known : imageObject? image id = some object)
    (otherKnown : imageObject? otherImage otherId = some otherObject) :
    world.Same first second ↔ tokenOf origin id object = tokenOf elsewhere otherId otherObject := by
  obtain ⟨_, reaches⟩ := idle.reaches wraps known
  obtain ⟨_, otherReaches⟩ := others.reaches otherWraps otherKnown
  rw [reaches.same_iff otherReaches, wraps.origin, otherWraps.origin]

end Both

/-- Two methods as they are told by two sessions, by what they are spelled with. -/
structure World.ComparesMethods (world : World) (seat other : Nat) (h g : Handle)
    (method twin : NamedMethod) : Prop where
  same : world.Same h g ↔ method.entry.arguments = twin.entry.arguments
  returnType : world.Gives seat (h.returnType : Action Handle) fun type after =>
    after.Gives other (g.returnType : Action Handle) fun otherType later =>
      (later.Same type otherType ↔
        trimmed method.entry.returnType = trimmed twin.entry.returnType)
  arguments : world.Gives seat (h.arguments : Action (List Handle)) fun types after =>
    after.Gives other (g.arguments : Action (List Handle)) fun otherTypes later =>
      List.Forall₂ (fun spellings handles =>
        (later.Same handles.1 handles.2 ↔ trimmed spellings.1 = trimmed spellings.2))
        (method.entry.arguments.zip twin.entry.arguments) (types.zip otherTypes)
  text : world.Gives seat h.toText fun text after => after.Gives other g.toText fun otherText _ =>
    (text = otherText ↔ method.entry.arguments = twin.entry.arguments ∧
      method.entry.returnType = twin.entry.returnType)
  row : world.Gives seat (Query.methodRow h : Action Query.MethodRow) fun row after =>
    after.Gives other (Query.methodRow g : Action Query.MethodRow) fun otherRow _ =>
      (row.returnType = otherRow.returnType ↔
        trimmed method.entry.returnType = trimmed twin.entry.returnType) ∧
      (row.signature = otherRow.signature ↔
        method.entry.arguments.map trimmed = twin.entry.arguments.map trimmed)
  defaultBody : defaultBody method.entry = Image.defaultBody twin.entry ↔
    method.entry.name = constructorName ∨ method.entry.name = initializerName ∨
      isPrimitive method.entry.returnType = isPrimitive twin.entry.returnType

theorem signatureOf_eq_iff {owner : String} {method twin : NamedMethod}
    (respelled : RespelledNamedMethod owner method twin) :
    Query.signatureOf method = Query.signatureOf twin ↔
      method.entry.arguments.map trimmed = twin.entry.arguments.map trimmed := by
  constructor
  · intro same
    have texts := congrArg String.toList same
    simp only [Query.signatureOf, respelled.name, String.toList_append, List.append_assoc,
      List.append_cancel_left_eq] at texts
    exact (eq_of_listed (sameInk_trimmed respelled.entry.arguments) texts).1
  · intro same
    rw [Query.signatureOf, Query.signatureOf, respelled.name, same]

section Methods

variable {world : World} {origin elsewhere : LoadId} {image otherImage : Image}
  {i j k l : Nat} {c d : ClassImage} {method twin : NamedMethod} {h g : Handle}

theorem World.Idle.comparesMethods (idle : world.Idle origin image)
    (others : world.Idle elsewhere otherImage) (apart : elsewhere.seat ≠ origin.seat)
    (wraps : h.Wraps origin .method (.method i j))
    (otherWraps : g.Wraps elsewhere .method (.method k l))
    (found : image.classes[i]? = some c) (foundMethod : c.named.methods[j]? = some method)
    (otherFound : otherImage.classes[k]? = some d) (foundTwin : d.named.methods[l]? = some twin)
    (owner : c.fullName = d.fullName)
    (respelled : RespelledNamedMethod c.fullName method twin) :
    world.ComparesMethods origin.seat elsewhere.seat h g method twin where
  same := by
    have known := imageObject?_method found foundMethod
    have otherKnown := imageObject?_method otherFound foundTwin
    rw [idle.same_iff others wraps otherWraps known otherKnown, token_method_iff]
    simp [owner, respelled.name]
  returnType := by
    have told := Asking.Firm.keeps (Asking.firm_returnType wraps found foundMethod)
    have otherTold := Asking.Firm.keeps (Asking.firm_returnType otherWraps otherFound foundTwin)
    refine (idle.gives_both others apart told otherTold).mono fun type after gives => ?_
    refine gives.mono fun otherType later ⟨wrapsType, otherWrapsType, own, other⟩ => ?_
    exact (own.same_iff other wrapsType otherWrapsType rfl rfl).trans token_type_iff
  arguments := by
    have told := Asking.Firm.keeps (Asking.firm_arguments wraps found foundMethod)
    have otherTold := Asking.Firm.keeps (Asking.firm_arguments otherWraps otherFound foundTwin)
    refine (idle.gives_both others apart told otherTold).mono fun types after gives => ?_
    refine gives.mono fun otherTypes later ⟨all, otherAll, own, other⟩ => ?_
    exact (forall₂_zip all otherAll).imp fun _ _ ⟨wrapsType, otherWrapsType⟩ =>
      (own.same_iff other wrapsType otherWrapsType rfl rfl).trans token_type_iff
  text := by
    have told : h.toText.Keeps (Session.Live origin image fun _ => True) (· = method.signature)
        noFault :=
      Live.keeps_toText wraps (tells_method found foundMethod rfl)
    have otherTold : g.toText.Keeps (Session.Live elsewhere otherImage fun _ => True)
        (· = twin.signature) noFault :=
      Live.keeps_toText otherWraps (tells_method otherFound foundTwin rfl)
    refine (idle.gives_both others apart told otherTold).mono fun text after gives => ?_
    refine gives.mono fun otherText later ⟨same, otherSame, _⟩ => ?_
    rw [same, otherSame]
    exact signature_eq_iff respelled
  row := by
    have told := Asking.Firm.keeps (Asking.firm_methodRow wraps found foundMethod)
    have otherTold := Asking.Firm.keeps (Asking.firm_methodRow otherWraps otherFound foundTwin)
    refine (idle.gives_both others apart told otherTold).mono fun row after gives => ?_
    refine gives.mono fun otherRow later ⟨same, otherSame, _⟩ => ?_
    rw [same, otherSame]
    exact ⟨Iff.rfl, signatureOf_eq_iff respelled⟩
  defaultBody := defaultBody_eq_iff respelled.entry

end Methods

/-- Two classes as they are told by two sessions: their code, and their methods by their places. -/
structure World.ComparesClasses (world : World) (seat other : Nat) (h g : Handle)
    (c d : ClassImage) : Prop where
  code : world.Gives seat (h.code : Action String) fun code after =>
    after.Gives other (g.code : Action String) fun otherCode _ =>
      code = c.code ∧ otherCode = d.code
  methods : world.Gives seat (h.methods : Action (List Handle)) fun methods after =>
    after.Gives other (g.methods : Action (List Handle)) fun twins later =>
      List.Forall₂ (fun named handles =>
        later.ComparesMethods seat other handles.1 handles.2 named.1 named.2)
        (c.named.methods.zip d.named.methods) (methods.zip twins)

section Classes

variable {world : World} {origin elsewhere : LoadId} {image otherImage : Image} {i k : Nat}
  {h g : Handle}

theorem World.Idle.comparesClasses (idle : world.Idle origin image)
    (others : world.Idle elsewhere otherImage) (apart : elsewhere.seat ≠ origin.seat)
    {c d : ClassImage} (wraps : h.Wraps origin .classNode (.classNode i))
    (otherWraps : g.Wraps elsewhere .classNode (.classNode k))
    (found : image.classes[i]? = some c) (otherFound : otherImage.classes[k]? = some d)
    (respelled : RespelledNamedClass c.named d.named) :
    world.ComparesClasses origin.seat elsewhere.seat h g c d where
  code := by
    have given := idle.gives_both others apart (Live.keeps_code wraps found)
      (Live.keeps_code otherWraps otherFound)
    refine given.mono fun code after gives => ?_
    exact gives.mono fun otherCode later ⟨told, otherTold, _⟩ => ⟨told, otherTold⟩
  methods := by
    have given := idle.gives_both others apart (Live.keeps_methods wraps found)
      (Live.keeps_methods otherWraps otherFound)
    refine given.mono fun methods after gives => ?_
    refine gives.mono fun twins later ⟨all, otherAll, own, other⟩ => ?_
    have same (xs : List NamedMethod) : List.Forall₂ (· = ·) xs xs :=
      List.forall₂_same.mpr fun _ _ => rfl
    have handles := forall₂_zip (forall₂_places (same c.named.methods) all)
      (forall₂_places (same d.named.methods) otherAll)
    have known := (List.forall₂_and_left ..).mpr
      ⟨fun p (member : p ∈ c.named.methods.zip d.named.methods) =>
        List.forall₂_zip respelled.methods member, handles⟩
    refine known.imp ?_
    rintro ⟨method, twin⟩ ⟨m, t⟩
      ⟨isRespelled, ⟨j, _, foundMethod, rfl, wrapsMethod⟩, l, _, foundTwin, rfl, wrapsTwin⟩
    exact own.comparesMethods other apart wrapsMethod wrapsTwin found foundMethod otherFound
      foundTwin respelled.fullName isRespelled

end Classes

/-! ## Loading both -/

theorem World.Presents.beside {world : World} {seat other : Nat} {loaded : Loaded}
    {artifact : Artifact} {image : Image} (presents : world.Presents seat loaded artifact image)
    (apart : other ≠ seat) (action : Action α) :
    (world.run other action).2.Presents seat loaded artifact image := by
  obtain ⟨state, found, current, lock⟩ := presents.session
  obtain ⟨_, again, live⟩ := presents.live
  obtain rfl := Option.some.inj (found.symm.trans again)
  cases atOther : world.sessions[other]? with
  | none =>
      rw [World.run_of_none atOther]
      exact presents
  | some elsewhere =>
      obtain ⟨-, sessions, -⟩ := World.run_of_session atOther action
      have still : (world.run other action).2.sessions[seat]? = some state := by
        rw [sessions, List.getElem?_set_ne apart, found]
      exact ⟨⟨state, still, current, lock⟩, ⟨state, still, live.seat, live.load, trivial⟩,
        presents.presents⟩

/-- What follows a load goes on from a longer history, in which the load is the last deed. -/
theorem Scene.after_load {deeds : List Deed} (plain : ∀ deed ∈ deeds, deed.Plain) (seat : Nat)
    (argument : Files.PathArgument) (given : Option LoadOptions) (changes : List (String × Json)) :
    ∃ longer, (∀ deed ∈ longer, deed.Plain) ∧ (Scene.after longer).world =
      ((Scene.after deeds).world.run seat
          (load (.memory validator id) argument given changes)).2 := by
  refine ⟨deeds ++ [.load seat (.memory validator id) argument given changes],
    List.forall_mem_append.mpr ⟨plain, by simp [Deed.Plain]⟩, ?_⟩
  rw [Scene.after, List.foldl_append]
  rfl

theorem Scene.load_respelled {deeds : List Deed} (plain : ∀ deed ∈ deeds, deed.Plain)
    {seat other : Nat} {loaded : Loaded} {artifact otherArtifact : Artifact} {image : Image}
    (presents : (Scene.after deeds).world.Presents seat loaded artifact image)
    (respelled : Respelled artifact otherArtifact)
    (opened : other < (Scene.after deeds).world.sessions.length)
    {argument : Files.PathArgument} {path : Path} (isPath : argument.toPath = .ok path)
    {given : Option LoadOptions} {changes : List (String × Json)}
    (resolved : LoadOptions.resolve validator given changes = .ok loaded.options)
    (isFile : (Scene.after deeds).world.files.isFile path = .ok true)
    (suffix : Machine.foldedSuffix path = artifactSuffix)
    (read : readArtifact validator (Scene.after deeds).world.files path = .ok otherArtifact) :
    let second :=
        (Scene.after deeds).world.run other (load (.memory validator id) argument given changes)
    second.1 = .ok () ∧ ∃ otherLoaded otherImage,
      second.2.Presents other otherLoaded otherArtifact otherImage ∧
        loaded.options = otherLoaded.options := by
  intro second
  obtain ⟨_, built⟩ := respelled.built presents.presents.built
  have ended : second.1 = .ok () := (Scene.load_ends_ok_iff plain opened).mpr
    ⟨path, loaded.options, otherArtifact, _, isPath, resolved, isFile, suffix, read, built⟩
  obtain ⟨otherLoaded, _, otherImage, -, others, samePath, sameOptions, readable⟩ :=
    Scene.load_presents plain ended
  obtain rfl := Except.ok.inj (isPath.symm.trans samePath)
  obtain rfl := Except.ok.inj (read.symm.trans readable)
  exact ⟨ended, otherLoaded, otherImage, others, Except.ok.inj (resolved.symm.trans sameOptions)⟩

theorem World.Presents.comparesClasses {world : World} {seat other : Nat}
    {loaded otherLoaded : Loaded} {artifact otherArtifact : Artifact} {image otherImage : Image}
    (presents : world.Presents seat loaded artifact image)
    (others : world.Presents other otherLoaded otherArtifact otherImage) (apart : other ≠ seat)
    (options : loaded.options = otherLoaded.options)
    (names : List.Forall₂ RespelledNamedClass (nameClasses loaded.options 0 artifact.classes)
      (nameClasses loaded.options 0 otherArtifact.classes)) :
    List.Forall₂ (fun classes entries =>
      world.ComparesClasses seat other entries.1.2 entries.2.2
        (renderClass loaded.options loaded.path.name classes.1)
        (renderClass loaded.options otherLoaded.path.name classes.2))
      ((nameClasses loaded.options 0 artifact.classes).zip
        (nameClasses loaded.options 0 otherArtifact.classes))
      (loaded.classes.zip otherLoaded.classes) := by
  have twins := others.forall₂_classes
  rw [← options] at twins
  have known := (List.forall₂_and_left ..).mpr
    ⟨fun p member => List.forall₂_zip names member, forall₂_zip presents.forall₂_classes twins⟩
  refine known.imp ?_
  rintro ⟨c, d⟩ ⟨entry, twin⟩ ⟨isRespelled, ⟨-, i, found, wraps⟩, -, k, otherFound, otherWraps⟩
  refine presents.idle.comparesClasses others.idle apart wraps otherWraps found otherFound ?_
  rwa [named_renderClass, named_renderClass]

/-- After any history without revisions, if one session loads an artifact, another one can load an
artifact with other blanks in its types, under the same options; their classes and methods go by the
same names, and each of them is told by both sessions as far alike as the spellings of its types
are. -/
theorem respelled_loads_compare {deeds : List Deed} (plain : ∀ deed ∈ deeds, deed.Plain)
    {seat other : Nat} (apart : other ≠ seat) {argument otherArgument : Files.PathArgument}
    {given : Option LoadOptions} {changes : List (String × Json)} {path otherPath : Path}
    {artifact otherArtifact : Artifact} (respelled : Respelled artifact otherArtifact)
    (isPath : argument.toPath = .ok path) (isOtherPath : otherArgument.toPath = .ok otherPath)
    (read : readArtifact validator (Scene.after deeds).world.files path = .ok artifact) :
    let first :=
        (Scene.after deeds).world.run seat (load (.memory validator id) argument given changes)
    let second := first.2.run other (load (.memory validator id) otherArgument given changes)
    first.1 = .ok () → other < first.2.sessions.length →
      first.2.files.isFile otherPath = .ok true →
        Machine.foldedSuffix otherPath = artifactSuffix →
          readArtifact validator first.2.files otherPath = .ok otherArtifact →
            second.1 = .ok () ∧ ∃ loaded otherLoaded, second.2.current seat = some loaded ∧
              second.2.current other = some otherLoaded ∧ loaded.options = otherLoaded.options ∧
                LoadOptions.resolve validator given changes = .ok loaded.options ∧
                let named := nameClasses loaded.options 0 artifact.classes
                let twins := nameClasses loaded.options 0 otherArtifact.classes
                List.Forall₂ RespelledNamedClass named twins ∧
                  List.Forall₂ (fun classes entries =>
                    second.2.ComparesClasses seat other entries.1.2 entries.2.2
                      (renderClass loaded.options loaded.path.name classes.1)
                      (renderClass loaded.options otherLoaded.path.name classes.2))
                    (named.zip twins) (loaded.classes.zip otherLoaded.classes) := by
  intro first second ended opened isFile suffix otherRead
  obtain ⟨loaded, _, image, -, presents, samePath, resolved, readable⟩ :=
    Scene.load_presents plain ended
  obtain rfl := Except.ok.inj (isPath.symm.trans samePath)
  obtain rfl := Except.ok.inj (read.symm.trans readable)
  obtain ⟨longer, plainLonger, later⟩ := Scene.after_load plain seat argument given changes
  have twin := Scene.load_respelled plainLonger (later ▸ presents) respelled (later ▸ opened)
    isOtherPath resolved (later ▸ isFile) suffix (later ▸ otherRead)
  rw [later] at twin
  obtain ⟨otherEnded, otherLoaded, otherImage, others, options⟩ := twin
  have still : second.2.Presents seat loaded artifact image := presents.beside apart _
  have names : List.Forall₂ RespelledNamedClass (nameClasses loaded.options 0 artifact.classes)
      (nameClasses loaded.options 0 otherArtifact.classes) :=
    respelled_nameClasses respelled 0
  exact ⟨otherEnded, loaded, otherLoaded, still.current, others.current, options, resolved, names,
    still.comparesClasses others apart options names⟩

def oneMethodClasses (spelling : String) : List ClassEntry :=
    [{ fullName := "a.A",
       methods := [{ name := "m", returnType := spelling, arguments := [spelling] }] }]

def oneMethodFile (spelling : String) : Files.Entry :=
    .file ("\x7b\"classes\": [\x7b\"fullname\": \"a.A\", \"methods\": [" ++
      "\x7b\"name\": \"m\", \"return_type\": \"" ++ spelling ++ "\", \"arguments\": [\"" ++
      spelling ++ "\"]\x7d]\x7d]\x7d").toUTF8

def respelledStored : List Deed :=
    [.openSession, .openSession, .replaceFiles ((({} : Files.Tree).put ["a.json"]
      (oneMethodFile "int")).put ["b.json"] (oneMethodFile " int "))]

def World.loadNamed (world : World) (seat : Nat) (name : String) : Except Fault Unit × World :=
    world.run seat (load (.memory .lax id) (.path (Path.ofString name)) none [])

/-- Blanks around a type are not seen in the type, and are in all that is made of its spelling. -/
theorem respelled_loads_compare_padded :
    let first := (Scene.after respelledStored).world.loadNamed 0 "a.json"
    let second := first.2.loadNamed 1 "b.json"
    second.1 = .ok () ∧ ∃ h g : Handle,
        second.2.Gives 0 (h.methods : Action (List Handle)) fun methods after =>
      after.Gives 1 (g.methods : Action (List Handle)) fun twins later =>
        ∃ p ∈ methods.zip twins, ∃ method twin : NamedMethod,
          later.ComparesMethods 0 1 p.1 p.2 method twin ∧ ¬later.Same p.1 p.2 ∧
            trimmed method.entry.returnType = trimmed twin.entry.returnType ∧
            defaultBody method.entry ≠ defaultBody twin.entry := by
  have plain : ∀ deed ∈ respelledStored, deed.Plain := by simp [respelledStored, Deed.Plain]
  have isPath (path : Path) : (Files.PathArgument.path path).toPath = .ok path := rfl
  obtain ⟨read, isLoaded, opened, isFile, otherRead⟩ :
      readArtifact .lax (Scene.after respelledStored).world.files (Path.ofString "a.json") =
          .ok ⟨oneMethodClasses "int"⟩ ∧
        faultOf? ((Scene.after respelledStored).world.loadNamed 0 "a.json").1 = none ∧
        1 < ((Scene.after respelledStored).world.loadNamed 0 "a.json").2.sessions.length ∧
        ((Scene.after respelledStored).world.loadNamed 0 "a.json").2.files.isFile
          (Path.ofString "b.json") = .ok true ∧
        readArtifact .lax ((Scene.after respelledStored).world.loadNamed 0 "a.json").2.files
          (Path.ofString "b.json") = .ok ⟨oneMethodClasses " int "⟩ := by
    decide +kernel
  obtain ⟨_, ended⟩ := faultOf?_eq_none.mp isLoaded
  have same : SameType "int" " int " :=
    ⟨0, "int".toList, .of_primitive (by decide +kernel),
      .bare (elementOf?_eq_none.mp (by decide +kernel))⟩
  have respelled : Respelled ⟨oneMethodClasses "int"⟩ ⟨oneMethodClasses " int "⟩ :=
    .cons ⟨rfl, rfl, rfl, rfl, .cons ⟨rfl, rfl, rfl, same, .cons same .nil⟩ .nil⟩ .nil
  obtain ⟨otherEnded, loaded, otherLoaded, -, -, -, options, -, compares⟩ :=
    respelled_loads_compare plain (by decide) respelled (isPath _) (isPath _) read ended opened
      isFile (by decide +kernel) otherRead
  have isDefault : loaded.options = {} :=
    Except.ok.inj (options.symm.trans (by decide +kernel))
  rw [isDefault] at compares
  obtain ⟨entries, _, here, -, -⟩ := List.forall₂_cons_left_iff.mp compares
  refine ⟨otherEnded, entries.1.2, entries.2.2, here.methods.mono fun methods after gives => ?_⟩
  refine gives.mono fun twins later all => ?_
  rw [named_renderClass, named_renderClass] at all
  obtain ⟨p, _, told, -, isZip⟩ := List.forall₂_cons_left_iff.mp all
  refine ⟨p, isZip ▸ List.mem_cons_self, _, _, told, ?_, ?_, ?_⟩
  · rw [told.same]
    decide +kernel
  · decide +kernel
  · decide +kernel

end DexBrowser.Session

import DexBrowser.Validation.Lax
import DexBrowser.Proofs.Session.Equality
import DexBrowser.Proofs.Session.FaithfulLoad

/-!
Equality of methods and of types. Main statement: two methods are equal exactly if their classes go
by one name, they themselves do, and their arguments are spelled alike to the last blank. What they
return is not looked at.
-/

namespace DexBrowser.Managed

open Image

theorem method_of_belongs {image : Image} {id : ObjectId} {object : Object}
    (known : imageObject? image id = some object)
    (belongs : object.cls.name = methodClass.name ∨ methodClass.name ∈ object.cls.supertypes) :
    ∃ i j c method, id = .method i j ∧ image.classes[i]? = some c ∧
      c.named.methods[j]? = some method := by
  have kind : Load.kindOf id = .method := Load.kindOf_of_belongs known rfl belongs
  cases id with
  | method i j =>
      obtain ⟨c, found, known⟩ := Option.bind_eq_some_iff.mp known
      obtain ⟨method, foundMethod, -⟩ := Option.bind_eq_some_iff.mp known
      exact ⟨i, j, c, method, rfl, found, foundMethod⟩
  | _ => contradiction

theorem imageObject?_method {image : Image} {i j : Nat} {c : ClassImage} {method : NamedMethod}
    (found : image.classes[i]? = some c) (foundMethod : c.named.methods[j]? = some method) :
    imageObject? image (.method i j) = some (methodObject i j c method) := by
  rw [imageObject?, found]
  simp only [Option.bind_eq_bind, Option.bind_some, foundMethod, Option.pure_def]

end DexBrowser.Managed

namespace DexBrowser.Session

open Managed Session.Action Image

/-! ## What methods and types are known by -/

theorem token_method_iff {origin elsewhere : LoadId} {i j k l : Nat} {c d : ClassImage}
    {method other : NamedMethod} :
    tokenOf origin (.method i j) (methodObject i j c method) =
      tokenOf elsewhere (.method k l) (methodObject k l d other) ↔
        c.fullName = d.fullName ∧ method.name = other.name ∧
          method.entry.arguments = other.entry.arguments := by
  have texts : Function.Injective (List.map Value.text) :=
    List.map_injective_iff.mpr fun _ _ same => Value.text.inj same
  simp only [tokenOf, methodObject, Token.keyed.injEq, Value.tuple.injEq, List.cons.injEq,
    Value.text.injEq, texts.eq_iff, and_true, true_and]

/-- Types are known by their spellings. What class of types they are of follows from these. -/
theorem token_type_iff {origin elsewhere : LoadId} {spelling other : String} :
    tokenOf origin (.argType spelling) (typeObject spelling) =
      tokenOf elsewhere (.argType other) (typeObject other) ↔ spelling = other := by
  have keyed (origin : LoadId) (id : ObjectId) (spelling : String) :
      tokenOf origin id (typeObject spelling) =
        .keyed (typeObject spelling).cls.name (.text spelling) := by
    obtain ⟨cls, -, _, _, _, _, same⟩ := typeObject_shape spelling
    rw [same]
    rfl
  rw [keyed, keyed]
  constructor
  · intro same
    exact Value.text.inj (Token.keyed.inj same).2
  · intro same
    rw [same]

/-! ## Handles that are held -/

/-- The signature of a method as it is told: its class, its name and its types, which are asked for
one by one. -/
structure ToldSignature where
  owner : String
  name : String
  arguments : List String
  returnType : String
  deriving DecidableEq

def Handle.toldSignature (h : Handle) : Action ToldSignature := do
    let owner ← (← h.declaringClass).fullName
    let name ← h.name
    let arguments ← (← h.arguments).mapM fun type => type.toText
    return ⟨owner, name, arguments, ← (← h.returnType).toText⟩

def ToldSignature.of (c : ClassImage) (method : NamedMethod) : ToldSignature :=
    ⟨c.fullName, method.name, method.entry.arguments.map trimmed, trimmed method.entry.returnType⟩

theorem Live.keeps_toldSignature {origin : LoadId} {image : Image} {h : Handle} {i j : Nat}
    {c : ClassImage} {method : NamedMethod} (wraps : h.Wraps origin .method (.method i j))
    (found : image.classes[i]? = some c) (foundMethod : c.named.methods[j]? = some method) :
    h.toldSignature.Keeps (Live origin image fun _ => True) (· = .of c method) noFault := by
  refine keeps_bind (keeps_declaringClass wraps found foundMethod) fun owner wrapsOwner => ?_
  refine keeps_bind (keeps_fullName wrapsOwner (tells_class found rfl)) ?_
  rintro _ rfl
  refine keeps_bind (keeps_methodName wraps found foundMethod) ?_
  rintro _ rfl
  have arguments := Asking.Firm.keeps (Asking.firm_arguments wraps found foundMethod)
  refine keeps_bind arguments fun types all => ?_
  have texts : (types.mapM fun (type : Handle) => type.toText).Keeps
      (Live origin image fun _ => True)
      (List.Forall₂ (fun spelling text => text = trimmed spelling) method.entry.arguments)
      noFault :=
    keeps_mapM_related all fun spelling type wrapsType => keeps_toText wrapsType (tells_type _)
  refine keeps_bind texts fun shown same => ?_
  obtain rfl := eq_map_of_forall₂ same
  have returnType := Asking.Firm.keeps (Asking.firm_returnType wraps found foundMethod)
  refine keeps_bind returnType fun type wrapsType => ?_
  refine keeps_bind (keeps_toText wrapsType (tells_type _)) ?_
  rintro _ rfl
  exact keeps_pure rfl

/-- A handle of a method of the current input of its session. -/
structure World.Denotes (world : World) (h : Handle) (c : ClassImage) (method : NamedMethod) :
    Prop where
  presented : ∃ loaded artifact image, world.Presents h.seat loaded artifact image ∧
    loaded.load = h.load ∧ c ∈ image.classes
  member : method ∈ c.named.methods
  tells : (world.run h.seat h.toldSignature).1 = .ok (.of c method)

section Leads

variable {world : World} {first second : Handle} {loaded otherLoaded : Loaded}
  {artifact otherArtifact : Artifact} {image otherImage : Image} {id otherId : ObjectId}
  {object otherObject : Object} (leads : world.Leads first loaded artifact image id object)

include leads

theorem World.Leads.denotes (isMethod : first.kind = .method) :
    ∃ i j c method, id = .method i j ∧ object = methodObject i j c method ∧
      world.Denotes first c method := by
  have required : first.kind.required? = some methodClass.name := by
    rw [isMethod]
    rfl
  obtain ⟨i, j, c, method, rfl, found, foundMethod⟩ :=
    method_of_belongs leads.known (leads.belongs _ required)
  have known := leads.known.symm.trans (imageObject?_method found foundMethod)
  refine ⟨i, j, c, method, rfl, Option.some.inj known, ?_, List.mem_of_getElem? foundMethod, ?_⟩
  · exact ⟨loaded, artifact, image, leads.presents, leads.load, List.mem_of_getElem? found⟩
  · exact leads.idle.live.answers
      (Live.keeps_toldSignature (leads.wraps isMethod) found foundMethod)

theorem World.Leads.same_iff
    (others : world.Leads second otherLoaded otherArtifact otherImage otherId otherObject) :
    world.Same first second ↔ tokenOf (World.originOf first) id object =
      tokenOf (World.originOf second) otherId otherObject := by
  obtain ⟨_, reaches⟩ := leads.reaches
  obtain ⟨_, otherReaches⟩ := others.reaches
  exact reaches.same_iff otherReaches

end Leads

/-- After any history without revisions, two methods that are held and can be used are equal exactly
if their classes go by one name, they themselves do, and their arguments are spelled alike. -/
theorem method_handles_same_iff {deeds : List Deed} (plain : ∀ deed ∈ deeds, deed.Plain)
    {first second : Handle} (held : first ∈ (Scene.after deeds).held)
    (otherHeld : second ∈ (Scene.after deeds).held)
    (lives : (Scene.after deeds).world.lives (World.originOf first) = true)
    (otherLives : (Scene.after deeds).world.lives (World.originOf second) = true)
    (isMethod : first.kind = .method) (otherMethod : second.kind = .method) :
    let world := (Scene.after deeds).world
    ∃ c method d other, world.Denotes first c method ∧ world.Denotes second d other ∧
      (world.Same first second ↔ c.fullName = d.fullName ∧ method.name = other.name ∧
        method.entry.arguments = other.entry.arguments) := by
  intro world
  obtain ⟨_, _, _, _, _, leads⟩ := Scene.leads_of_held plain held lives
  obtain ⟨_, _, _, _, _, others⟩ := Scene.leads_of_held plain otherHeld otherLives
  obtain ⟨i, j, c, method, rfl, rfl, denotes⟩ := leads.denotes isMethod
  obtain ⟨k, l, d, other, rfl, rfl, otherDenotes⟩ := others.denotes otherMethod
  refine ⟨c, method, d, other, denotes, otherDenotes, ?_⟩
  rw [leads.same_iff others, token_method_iff]

def bridgedClass : Files.Entry :=
    .file ("\x7b\"classes\": [\x7b\"fullname\": \"a.A\", \"methods\": [" ++
      "\x7b\"name\": \"get\", \"return_type\": \"int\"\x7d, " ++
      "\x7b\"name\": \"get\", \"return_type\": \"java.lang.Object\"\x7d]\x7d]\x7d").toUTF8

def bridgedLoaded : List Deed :=
    [.openSession, .replaceFiles (({} : Files.Tree).put ["a.json"] bridgedClass),
      .load 0 (.memory .lax id) (.path (Path.ofString "a.json")) none [], .search 0 .classes,
      .read 0 .methods]

/-- A method equals its bridge, which returns another type. -/
theorem bridge_equals_method :
    let world := (Scene.after bridgedLoaded).world
    ∃ first second, world.Same first second ∧
      (world.run first.seat first.toldSignature).1 = .ok ⟨"a.A", "get", [], "int"⟩ ∧
      (world.run second.seat second.toldSignature).1 =
        .ok ⟨"a.A", "get", [], "java.lang.Object"⟩ := by
  intro world
  let told (h : Handle) : Option ToldSignature := (world.run h.seat h.toldSignature).1.toOption
  have searched : (Scene.after bridgedLoaded).held.any (fun first =>
      (Scene.after bridgedLoaded).held.any fun second =>
        first.kind == .method && second.kind == .method &&
          world.lives (World.originOf first) && world.lives (World.originOf second) &&
          told first == some ⟨"a.A", "get", [], "int"⟩ &&
          told second == some ⟨"a.A", "get", [], "java.lang.Object"⟩) = true := by
    decide +kernel
  obtain ⟨first, held, rest⟩ := List.any_eq_true.mp searched
  obtain ⟨second, otherHeld, facts⟩ := List.any_eq_true.mp rest
  simp only [Bool.and_eq_true, beq_iff_eq] at facts
  obtain ⟨⟨⟨⟨⟨isMethod, otherMethod⟩, lives⟩, otherLives⟩, isFirst⟩, isSecond⟩ := facts
  have plain : ∀ deed ∈ bridgedLoaded, deed.Plain := by simp [bridgedLoaded, Deed.Plain]
  obtain ⟨c, method, d, other, denotes, otherDenotes, sameIff⟩ :=
    method_handles_same_iff plain held otherHeld lives otherLives isMethod otherMethod
  have isOf := Option.some.inj ((congrArg Except.toOption denotes.tells).symm.trans isFirst)
  have otherIsOf :=
    Option.some.inj ((congrArg Except.toOption otherDenotes.tells).symm.trans isSecond)
  refine ⟨first, second, sameIff.mpr ?_, isOf ▸ denotes.tells, otherIsOf ▸ otherDenotes.tells⟩
  obtain ⟨owner, name, arguments, -⟩ := ToldSignature.mk.inj isOf
  obtain ⟨otherOwner, otherName, otherArguments, -⟩ := ToldSignature.mk.inj otherIsOf
  rw [List.map_eq_nil_iff.mp arguments, List.map_eq_nil_iff.mp otherArguments]
  exact ⟨owner.trans otherOwner.symm, name.trans otherName.symm, rfl⟩

end DexBrowser.Session

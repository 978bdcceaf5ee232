import DexBrowser.Validation.Lax
import DexBrowser.Proofs.Managed.TypeTable
import DexBrowser.Proofs.Session.FaithfulLoad

/-!
What handles of types tell. Main statement: of every type of a loaded artifact it is told whether it
is an array or primitive, its root and its primitive word, as the base and the brackets of its
spelling have it, and there is one object for each trimmed spelling, in whatever order they occur.
-/

namespace DexBrowser.Image

open Text

variable {validator : Validator}

def wordOf (depth : Nat) (base : String) : String :=
    if 0 < depth then "ARRAY" else if base ∈ primitiveWords then base else "OBJECT"

end DexBrowser.Image

namespace DexBrowser.Managed

open Image Text

/-! ## Objects of types -/

/-- The members of a type, by the base and the brackets of its spelling. -/
def typeMembers (shown : String) (depth : Nat) (base : String) : List (String × Member) :=
    [flagMember "isPrimitive" (decide (depth = 0 ∧ base ∈ primitiveWords)),
      flagMember "isArray" (decide (0 < depth)),
      objectMember "getArrayRootElement" (typeId base),
      objectMember "getPrimitiveType" (.primitive (wordOf depth base)),
      textMember "toString" shown]

variable {image : Image} {spelling : String} {depth : Nat} {base : List Char}
  (peels : Peels spelling.toList depth base)

include peels

theorem typeId_base : typeId (String.ofList base) = .argType (String.ofList base) := by
  rw [typeId, trimmed, String.toList_ofList, peels.base_bare.1]

theorem members_typeObject :
    (typeObject (trimmed spelling)).members =
      typeMembers (trimmed spelling) depth (String.ofList base) := by
  have root : baseOf (trimmed spelling).toList = base := by
    rw [trimmed, String.toList_ofList, baseOf_strip, peels.baseOf_eq]
  have isArray : 0 < depth ↔ (elementOf? (trimmed spelling).toList).isSome := by
    rw [trimmed, String.toList_ofList]
    exact peels.depth_pos
  rw [typeMembers, typeId_base peels, typeObject]
  by_cases positive : 0 < depth
  case pos =>
      have apart : ¬ depth = 0 := Nat.ne_of_gt positive
      rw [if_pos (isArray.mp positive), root, wordOf, if_pos positive]
      simp [positive, apart]
  case neg =>
      have zero : depth = 0 := Nat.eq_zero_of_not_pos positive
      have shown : trimmed spelling = String.ofList base := by
        rw [trimmed, peels.depth_eq_zero zero]
      rw [if_neg (mt isArray.mpr positive), shown, wordOf, if_neg positive]
      by_cases isWord : String.ofList base ∈ primitiveWords
      case pos =>
          rw [if_pos ((isPrimitive_iff _).mpr isWord), if_pos isWord]
          simp [zero, isWord]
      case neg =>
          rw [if_neg (mt (isPrimitive_iff _).mp isWord), if_neg isWord]
          simp [zero, isWord]

theorem tells_of_peels {name : String} {v : Value}
    (member : (typeMembers (trimmed spelling) depth (String.ofList base)).lookup name =
      some (.constant v)) : Tells image (typeId spelling) name v := by
  refine ⟨typeObject (trimmed spelling), rfl, ?_⟩
  rw [Object.member?, members_typeObject peels, member]

end DexBrowser.Managed

namespace DexBrowser.Session

open Managed Session.Action Image

/-! ## Asking for types and words -/

theorem wrappable_primitive {image : Image} (word : String) :
    Wrappable image .primitive (.primitive word) := by
  refine ⟨by decide, primitiveObject word, rfl, ?_⟩
  rintro _ ⟨⟩
  exact .inl rfl

section Optional

variable {m : Type → Type} [Monad m] [LawfulMonad m] [MonadLiftT Action m] {origin : LoadId}
  {image : Image} {ask : Asking m origin image} {h : Handle} {kind : Kind} {id : ObjectId}

theorem Asking.firm_askOptional (wraps : h.Wraps origin kind id) {name : String} {member : ObjectId}
    (tells : Tells image id name (.object member)) (other : name ≠ Load.closeMember) {part : Kind}
    (wrappable : Wrappable image part member) :
    ask.Firm (fun found => ∃ made, found = some made ∧ made.Wraps origin part member)
      (h.askOptional part name : m (Option Handle)) := by
  obtain rfl := wraps.origin
  refine firm_bind (firm_invoke wraps tells other) ?_
  rintro _ rfl
  exact told_bind (told_make wrappable.fitting wrappable.1) fun made wrapsMade =>
    told_pure ⟨made, rfl, wrapsMade⟩

end Optional

/-- What is told of a type, by the base and the brackets of its spelling. -/
structure Handle.ViewsType (h : Handle) (seat : Nat) (world : World) (depth : Nat) (base : String) :
    Prop where
  isArray : (world.run seat (h.isArray : Action Bool)).1 = .ok (decide (0 < depth))
  arrayRoot : world.Gives seat (h.arrayRoot : Action (Option Handle)) fun root after =>
    (root = none ↔ depth = 0) ∧ ∀ type ∈ root,
      (after.run seat (type.isArray : Action Bool)).1 = .ok false ∧
        (after.run seat type.toText).1 = .ok base
  isPrimitive : (world.run seat (h.isPrimitive : Action Bool)).1 =
    .ok (decide (depth = 0 ∧ base ∈ primitiveWords))
  primitiveType : world.Gives seat (h.primitiveType : Action (Option Handle)) fun word after =>
    ∃ type, word = some type ∧
      (after.run seat (type.longName : Action String)).1 = .ok (wordOf depth base)

/-- A handle of the object that a load has for a spelling, which tells what the spelling says. -/
structure Handle.ViewsSpelling (h : Handle) (origin : LoadId) (world : World) (spelling : String) :
    Prop where
  own : World.originOf h = origin
  object : h.target = .object (typeId spelling)
  views : ∃ depth base, Peels spelling.toList depth base ∧
    h.ViewsType origin.seat world depth (String.ofList base)

/-- The types of a method tell what their spellings say. -/
structure Handle.ViewsTypes (h : Handle) (origin : LoadId) (world : World) (entry : MethodEntry) :
    Prop where
  returnType : world.Gives origin.seat (h.returnType : Action Handle) fun type after =>
    type.ViewsSpelling origin after entry.returnType
  arguments : world.Gives origin.seat (h.arguments : Action (List Handle)) fun types after =>
    List.Forall₂ (fun spelling (type : Handle) => type.ViewsSpelling origin after spelling)
      entry.arguments types

section Views

variable {origin : LoadId} {image : Image} {world : World} {h : Handle} {spelling : String}

theorem World.Live.isArray (live : world.Live origin image)
    (wraps : h.Wraps origin .argType (typeId spelling)) {depth : Nat} {base : List Char}
    (peels : Peels spelling.toList depth base) :
    (world.run origin.seat (h.isArray : Action Bool)).1 = .ok (decide (0 < depth)) := by
  have tells : Tells image (typeId spelling) "isArray" (.bool (decide (0 < depth))) :=
    tells_of_peels peels rfl
  exact live.answers (Asking.Firm.keeps (Asking.firm_askFlag wraps tells (by decide)))

theorem Live.keeps_root (wraps : h.Wraps origin .argType (typeId spelling)) {depth : Nat}
    {base : List Char} (peels : Peels spelling.toList depth base) :
    (h.arrayRoot : Action (Option Handle)).Keeps (Session.Live origin image fun _ => True)
      (fun root => (root = none ↔ depth = 0) ∧
        ∀ type ∈ root, type.Wraps origin .argType (typeId (String.ofList base))) noFault := by
  have isArray : Tells image (typeId spelling) "isArray" (.bool (decide (0 < depth))) :=
    tells_of_peels peels rfl
  have tells : Tells image (typeId spelling) "getArrayRootElement"
      (.object (typeId (String.ofList base))) := tells_of_peels peels rfl
  have found : (askingAlone origin image).Firm _ (h.askOptional .argType "getArrayRootElement") :=
    Asking.firm_askOptional wraps tells (by decide) (wrappable_type _)
  apply Asking.Firm.keeps
  refine Asking.firm_bind (Asking.firm_askFlag wraps isArray (by decide)) ?_
  rintro _ rfl
  by_cases positive : 0 < depth
  case pos =>
      rw [if_pos (decide_eq_true positive)]
      refine found.told.mono ?_
      rintro _ ⟨type, rfl, wrapsType⟩
      refine ⟨by simp [Nat.ne_of_gt positive], ?_⟩
      rintro _ ⟨⟩
      exact wrapsType
  case neg =>
      rw [if_neg (by simpa using positive)]
      exact Asking.told_pure ⟨by simpa using positive, by simp⟩

theorem World.Live.viewsType (live : world.Live origin image)
    (wraps : h.Wraps origin .argType (typeId spelling)) {depth : Nat} {base : List Char}
    (peels : Peels spelling.toList depth base) :
    h.ViewsType origin.seat world depth (String.ofList base) := by
  constructor
  case isArray => exact live.isArray wraps peels
  case isPrimitive =>
    have tells : Tells image (typeId spelling) "isPrimitive" (.bool _) := tells_of_peels peels rfl
    exact live.answers (Asking.Firm.keeps (Asking.firm_askFlag wraps tells (by decide)))
  case primitiveType =>
    have tells : Tells image (typeId spelling) "getPrimitiveType"
        (.object (.primitive (wordOf depth (String.ofList base)))) := tells_of_peels peels rfl
    have told := Asking.Firm.keeps
      (Asking.firm_askOptional wraps tells (by decide) (wrappable_primitive _))
    refine (live.gives told).mono ?_
    rintro _ after ⟨⟨word, rfl, wrapsWord⟩, later⟩
    have name : Tells image (.primitive (wordOf depth (String.ofList base))) "getLongName"
        (.text (wordOf depth (String.ofList base))) := ⟨_, rfl, rfl⟩
    exact ⟨word, rfl, later.answers
      (Asking.Firm.keeps (Asking.firm_askText wrapsWord name (by decide)))⟩
  case arrayRoot =>
    refine (live.gives (Live.keeps_root wraps peels)).mono ?_
    rintro root after ⟨⟨isNone, wrapped⟩, later⟩
    refine ⟨isNone, fun type isRoot => ?_⟩
    have wrapsType := wrapped type isRoot
    have bare : Peels (String.ofList base).toList 0 base := by
      rw [String.toList_ofList]
      exact peels.base_peels
    refine ⟨later.isArray wrapsType bare, ?_⟩
    rw [later.showsType wrapsType, trimmed, String.toList_ofList, peels.base_bare.1]

theorem World.Live.viewsSpelling (live : world.Live origin image)
    (wraps : h.Wraps origin .argType (typeId spelling)) :
    h.ViewsSpelling origin world spelling := by
  obtain ⟨depth, peels⟩ := peels_baseOf spelling.toList
  exact ⟨wraps.origin, wraps.target, depth, _, peels, live.viewsType wraps peels⟩

theorem World.Live.viewsTypes (live : world.Live origin image) {i j : Nat} {c : ClassImage}
    {method : NamedMethod} (wraps : h.Wraps origin .method (.method i j))
    (found : image.classes[i]? = some c) (foundMethod : c.named.methods[j]? = some method) :
    h.ViewsTypes origin world method.entry where
  returnType := by
    have told := Asking.Firm.keeps (Asking.firm_returnType wraps found foundMethod)
    exact (live.gives told).mono fun type _ ⟨wrapsType, later⟩ => later.viewsSpelling wrapsType
  arguments := by
    have told := Asking.Firm.keeps (Asking.firm_arguments wraps found foundMethod)
    exact (live.gives told).mono fun types _ ⟨all, later⟩ =>
      all.imp fun _ _ wrapsType => later.viewsSpelling wrapsType

end Views

/-! ## Loading -/

/-- After any history without revisions, the types of the methods of a loaded artifact tell the base
and the brackets of their spellings, of which every spelling has one each. They are told by one
object for each trimmed spelling: the one that the table has for it, whatever spellings came before
and in whatever order. -/
theorem types_view_spellings {deeds : List Deed} (plain : ∀ deed ∈ deeds, deed.Plain)
    {seat : Nat} {argument : Files.PathArgument} {given : Option LoadOptions}
    {changes : List (String × Json)}
    (ended : ((Scene.after deeds).world.run seat
      (load (.memory validator id) argument given changes)).1 = .ok ()) :
    let after :=
        ((Scene.after deeds).world.run seat (load (.memory validator id) argument given changes)).2
    (∀ spelling : List Char, ∃! peeled : Nat × List Char, Peels spelling peeled.1 peeled.2) ∧
      ∃ loaded artifact image, after.current seat = some loaded ∧
        argument.toPath = .ok loaded.path ∧
          readArtifact validator (Scene.after deeds).world.files loaded.path = .ok artifact ∧
            after.Presents seat loaded artifact image ∧
              List.Forall₂ (fun c entry => after.Gives seat (entry.2.methods : Action (List Handle))
                fun methods later => List.Forall₂ (fun method (m : Handle) =>
                  m.ViewsTypes ⟨seat, loaded.load⟩ later method.entry) c.methods methods)
                (nameClasses loaded.options 0 artifact.classes) loaded.classes ∧
              ∀ earlier spellings : List String,
                let before := (({} : TypeTable).types earlier).2
                let made := before.types spellings
                (∀ place object, before.object? place = some object →
                  made.2.object? place = some object) ∧
                  List.Forall₂ (fun spelling place =>
                    made.2.object? place = imageObject? image (typeId spelling)) spellings made.1 ∧
                    ∀ p ∈ spellings.zip made.1, ∀ q ∈ spellings.zip made.1,
                      (p.2 = q.2 ↔ trimmed p.1 = trimmed q.1) := by
  intro after
  obtain ⟨loaded, artifact, image, current, presents, isPath, -, readable⟩ :=
    Scene.load_presents plain ended
  refine ⟨fun spelling => ?_, loaded, artifact, image, current, isPath, readable, presents, ?_,
    TypeTable.types_of_image image⟩
  · obtain ⟨depth, peels⟩ := peels_baseOf spelling
    refine ⟨(depth, baseOf spelling), peels, fun other others => ?_⟩
    obtain ⟨sameDepth, sameBase⟩ := others.unique peels
    exact Prod.ext sameDepth sameBase
  · refine presents.forall₂_classes.imp ?_
    rintro c entry ⟨_, i, found, wraps⟩
    refine (presents.live.gives (Live.keeps_methods wraps found)).mono ?_
    rintro methods later ⟨all, live⟩
    rw [named_renderClass] at all
    have own : List.Forall₂ (· = ·) c.methods c.methods := List.forall₂_same.mpr fun _ _ => rfl
    refine (forall₂_places own all).imp ?_
    rintro method m ⟨j, _, foundMethod, rfl, wrapsMethod⟩
    exact live.viewsTypes wrapsMethod found (by rwa [named_renderClass])

def paddedTypes : Files.Entry :=
    .file ("\x7b\"classes\": [\x7b\"fullname\": \"a.A\", \"methods\": [" ++
      "\x7b\"name\": \"m\", \"return_type\": \" int [] []\"," ++
      " \"arguments\": [\"[]\", \"int[][]\", \" int \", \"a.B\"]\x7d]\x7d]\x7d").toUTF8

def paddedStored : List Deed :=
    [.openSession, .replaceFiles (({} : Files.Tree).put ["a.json"] paddedTypes)]

def Handle.argumentShapes (h : Handle) : Action (List (List (Bool × Bool × String))) := do
    (← h.methods).mapM fun m => do
      (← m.arguments).mapM fun type => do
        return (← type.isArray, ← type.isPrimitive, ← type.toText)

theorem types_view_spellings_padded :
    let load := load (.memory .lax id) (.path (Path.ofString "a.json")) none []
    let after := ((Scene.after paddedStored).world.run 0 load).2
    ∃ (loaded : Loaded) (artifact : Artifact), after.current 0 = some loaded ∧
      List.Forall₂ (fun c entry => after.Gives 0 (entry.2.methods : Action (List Handle))
        fun methods later => List.Forall₂ (fun method (m : Handle) =>
          m.ViewsTypes ⟨0, loaded.load⟩ later method.entry) c.methods methods)
        (nameClasses loaded.options 0 artifact.classes) loaded.classes ∧
      ∃ entry ∈ loaded.classes, (after.run 0 entry.2.argumentShapes).1.toOption =
        some [[(true, false, "[]"), (true, false, "int[][]"), (false, true, "int"),
          (false, false, "a.B")]] := by
  intro load after
  have plain : ∀ deed ∈ paddedStored, deed.Plain := by simp [paddedStored, Deed.Plain]
  obtain ⟨_, ended⟩ := faultOf?_eq_none.mp (show faultOf? ((Scene.after paddedStored).world.run 0
    load).1 = none by decide +kernel)
  obtain ⟨-, loaded, artifact, image, current, -, -, -, all, -⟩ := types_view_spellings plain ended
  refine ⟨loaded, artifact, current, all, ?_⟩
  obtain ⟨_, current', seen⟩ := (Option.any_eq_true _ _).mp (show (after.current 0).any
    (fun loaded => loaded.classes.any fun entry =>
      (after.run 0 entry.2.argumentShapes).1.toOption == some [[(true, false, "[]"),
        (true, false, "int[][]"), (false, true, "int"), (false, false, "a.B")]]) = true by
    decide +kernel)
  obtain rfl := Option.some_inj.mp (current.symm.trans current')
  obtain ⟨entry, member, tells⟩ := List.any_eq_true.mp seen
  exact ⟨entry, member, beq_iff_eq.mp tells⟩

end DexBrowser.Session

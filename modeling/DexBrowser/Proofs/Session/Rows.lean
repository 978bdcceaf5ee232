import DexBrowser.Proofs.Image.AccessBits
import DexBrowser.Proofs.Session.Asking
import DexBrowser.Session.Query

/-!
The rows of overviews. Main statements: in any monad, an overview of a load that shows an image
gives the rows that the image has, and whoever gets a row was asking a load that had not been let
go.
-/

namespace DexBrowser.Session

open Managed Session.Action

/-! ## Rows of an image -/

namespace Query

open Image

def ClassRow.of (c : ClassImage) : ClassRow :=
    ⟨c.fullName, c.named.methods.length, toldLine c.line⟩

def PackageRow.of (package : String × List Nat) : PackageRow :=
    ⟨package.1, package.2.length⟩

def signatureOf (method : NamedMethod) : String :=
    method.name ++ "(" ++ ", ".intercalate (method.entry.arguments.map trimmed) ++ ")"

/-- The line of a method by its place in the class. -/
def methodLine (c : ClassImage) (index : Nat) : Int :=
    toldLine (c.methodLines.getD index 0)

def MethodRow.of (c : ClassImage) (index : Nat) (method : NamedMethod) : MethodRow :=
    ⟨" ".intercalate (methodFlags method).methodWords, trimmed method.entry.returnType,
      signatureOf method, methodLine c index⟩

def MethodDetail.of (c : ClassImage) (index : Nat) (method : NamedMethod) : MethodDetail :=
    ⟨method.name, signatureOf method, trimmed method.entry.returnType,
      method.name = constructorName, methodLine c index⟩

def classFlags (c : ClassImage) : AccessFlags :=
    AccessFlags.ofInt c.named.entry.accessFlags

def ClassDetail.of (c : ClassImage) : ClassDetail :=
    ⟨c.fullName, c.named.name, c.package, " ".intercalate (classFlags c).classWords,
      (classFlags c).isInterface, (classFlags c).isAbstract, toldLine c.line,
      c.named.methods.mapIdx (MethodDetail.of c)⟩

theorem forall₂_firstItems {related : α → β → Prop} {xs : List α} {ys : List β}
    (all : List.Forall₂ related xs ys) (limit : Int) :
    List.Forall₂ related (firstItems limit xs) (firstItems limit ys) := by
  cases limit with
  | ofNat n => exact List.forall₂_take n all
  | negSucc n =>
      simp only [firstItems, all.length_eq]
      exact List.forall₂_take _ all

end Query

theorem eq_mapIdx_of_forall₂ {f : Nat → α → β} {xs : List α} {ys : List β}
    (all : List.Forall₂ (fun i y => ∀ x, xs[i]? = some x → y = f i x) (List.range xs.length) ys) :
    ys = xs.mapIdx f := by
  have length := all.length_eq
  rw [List.length_range] at length
  apply List.ext_getElem
  · rw [List.length_mapIdx, length]
  · intro i bound _
    rw [← length] at bound
    have here := (List.forall₂_iff_get.mp all).2 i (by rwa [List.length_range]) (by rwa [← length])
    have same := here xs[i] (by simp)
    simpa using same

/-! ## Objects of access views and types -/

section Objects

variable {image : Image} {i j : Nat} {c : Image.ClassImage} {method : Image.NamedMethod}

theorem fitting_access {id : ObjectId} {flags : AccessFlags} {words : List String}
    (known : imageObject? image id = some (accessObject flags words)) :
    Fitting image .access id := by
  refine ⟨_, known, ?_⟩
  rintro _ ⟨⟩
  exact .inl rfl

theorem wrappable_type (spelling : String) : Wrappable image .argType (.argType spelling) := by
  refine ⟨by decide, typeObject spelling, rfl, ?_⟩
  rintro _ ⟨⟩
  obtain ⟨cls, isType, _, _, _, _, same⟩ := typeObject_shape spelling
  have every : ∀ cls ∈ typeClasses, typeClassName ∈ cls.supertypes := by decide
  rw [same]
  exact .inr (every cls isType)

theorem tells_type (spelling : String) :
    Tells image (.argType spelling) "toString" (.text spelling) := by
  refine ⟨typeObject spelling, rfl, ?_⟩
  obtain ⟨cls, -, _, _, _, _, same⟩ := typeObject_shape spelling
  rw [same]
  rfl

theorem classAccess_known (found : image.classes[i]? = some c) :
    imageObject? image (.classAccess i) =
      some (accessObject (Query.classFlags c) (Query.classFlags c).classWords) := by
  rw [imageObject?, found]
  rfl

theorem isLong_methodFlags (method : Image.NamedMethod) :
    Number.isLong (methodFlags method).others = false := by
  have short := AccessFlags.isLong_others_ofInt method.entry.short
  unfold methodFlags
  dsimp only
  split
  · rw [AccessFlags.others_withConstructor]
    exact short
  · exact short

theorem methodAccess_known (found : image.classes[i]? = some c)
    (foundMethod : c.named.methods[j]? = some method) :
    imageObject? image (.methodAccess i j) =
      some (accessObject (methodFlags method) (methodFlags method).methodWords) := by
  rw [imageObject?, found]
  simp only [Option.bind_eq_bind, Option.bind_some, foundMethod, Option.pure_def]

end Objects

namespace Asking

variable {m : Type → Type} [Monad m] [LawfulMonad m] [MonadLiftT Action m] {origin : LoadId}
  {image : Image} {ask : Asking m origin image}

/-! ## Classes, packages and methods -/

theorem told_makeAccess {id : ObjectId} {flags : AccessFlags} {words : List String}
    (known : imageObject? image id = some (accessObject flags words))
    (short : Number.isLong flags.others = false) :
    ask.Told (fun made => made.Wraps origin .access id ∧ made.flags = flags)
      (Handle.make origin.load .access (.object id) : m Handle) := by
  refine told_bind (told_calm (calm_bare (fitting_access known))) fun made wraps => ?_
  rw [if_pos rfl]
  have raw : Tells image id "rawValue" (.int flags.value) := ⟨_, known, rfl⟩
  refine told_bind (firm_invoke wraps raw (by decide)).told ?_
  rintro _ rfl
  have read : (toWhole (.int flags.value)).bind AccessFlags.read = .ok flags :=
    AccessFlags.read_value short
  refine told_bind (told_calm (calm_ofExcept read rfl)) ?_
  rintro _ rfl
  exact told_pure
    ⟨⟨⟨wraps.origin, wraps.reflected, wraps.object⟩, wraps.kind, wraps.target⟩, rfl⟩

section Class

variable {h : Handle} {i : Nat} {c : Image.ClassImage}
  (wraps : h.Wraps origin .classNode (.classNode i)) (found : image.classes[i]? = some c)

include wraps found

theorem firm_classAccess :
    ask.Firm (fun made => made.Wraps origin .access (.classAccess i) ∧
      made.flags = Query.classFlags c) (h.access : m Handle) := by
  obtain rfl := wraps.origin
  unfold Handle.access
  rw [wraps.kind, if_pos rfl]
  refine firm_bind (firm_invoke wraps (tells_class found rfl) (by decide)) ?_
  rintro _ rfl
  exact told_makeAccess (classAccess_known found)
    (AccessFlags.isLong_others_ofInt c.named.entry.short)

theorem firm_classFullName : ask.Firm (· = c.fullName) (h.fullName : m String) :=
  firm_askText wraps (tells_class found rfl) (by decide)

theorem firm_className : ask.Firm (· = c.named.name) (h.name : m String) := by
  unfold Handle.name
  rw [wraps.kind]
  exact firm_askText wraps (tells_class found rfl) (by decide)

theorem firm_packageName : ask.Firm (· = c.package) (h.packageName : m String) :=
  firm_askText wraps (tells_class found rfl) (by decide)

theorem firm_methods :
    ask.Firm (List.Forall₂ (fun j made => made.Wraps origin .method (.method i j))
      (List.range c.named.methods.length)) (h.methods : m (List Handle)) := by
  refine firm_askAll wraps (tells_class found rfl) (by decide) fun j isPlace => ?_
  exact wrappable_method found (List.getElem?_eq_getElem (List.mem_range.mp isPlace))

omit wraps found in
theorem told_eachMethod {row : Handle → m β} {expected : Nat → Image.NamedMethod → β}
    (each : ∀ j method made, c.named.methods[j]? = some method →
      made.Wraps origin .method (.method i j) → ask.Firm (· = expected j method) (row made))
    {hs : List Handle}
    (all : List.Forall₂ (fun j made => made.Wraps origin .method (.method i j))
      (List.range c.named.methods.length) hs) :
    ask.Told (· = c.named.methods.mapIdx expected) (hs.mapM row) := by
  have known := (List.forall₂_and_left ..).mpr
    ⟨fun j (member : j ∈ List.range c.named.methods.length) => member, all⟩
  let good (j : Nat) (b : β) : Prop :=
    ∀ method, c.named.methods[j]? = some method → b = expected j method
  have rows : ask.Told (List.Forall₂ good (List.range c.named.methods.length)) (hs.mapM row) :=
    told_mapM_related known ?_
  · exact rows.mono fun bs same => eq_mapIdx_of_forall₂ same
  intro j made ⟨bound, wrapsMethod⟩
  have here := List.getElem?_eq_getElem (List.mem_range.mp bound)
  refine (each j _ made here wrapsMethod).told.mono fun b same method isMethod => ?_
  obtain rfl := Option.some.inj (here.symm.trans isMethod)
  exact same

theorem firm_classRow : ask.Firm (· = .of c) (Query.classRow h : m Query.ClassRow) := by
  refine firm_bind (firm_classFullName wraps found) ?_
  rintro _ rfl
  refine told_bind (firm_methods wraps found).told fun methods all => ?_
  have length := all.length_eq
  rw [List.length_range] at length
  refine told_bind (firm_line wraps (tells_class found rfl)).told ?_
  rintro _ rfl
  exact told_pure (by rw [Query.ClassRow.of, length])

end Class

section Method

variable {h : Handle} {i j : Nat} {c : Image.ClassImage} {method : Image.NamedMethod}
  (wraps : h.Wraps origin .method (.method i j)) (found : image.classes[i]? = some c)
  (foundMethod : c.named.methods[j]? = some method)

include wraps found foundMethod

theorem firm_methodAccess :
    ask.Firm (fun made => made.Wraps origin .access (.methodAccess i j) ∧
      made.flags = methodFlags method) (h.access : m Handle) := by
  obtain rfl := wraps.origin
  unfold Handle.access
  rw [wraps.kind, if_neg (by decide)]
  refine firm_bind (firm_invoke wraps (tells_method found foundMethod rfl) (by decide)) ?_
  rintro _ rfl
  exact told_makeAccess (methodAccess_known found foundMethod) (isLong_methodFlags method)

theorem firm_methodName : ask.Firm (· = method.name) (h.name : m String) := by
  unfold Handle.name
  rw [wraps.kind]
  exact firm_askText wraps (tells_method found foundMethod rfl) (by decide)

theorem firm_returnType :
    ask.Firm (·.Wraps origin .argType (typeId method.entry.returnType)) (h.returnType : m Handle) :=
  firm_askOne wraps (tells_method found foundMethod rfl) (by decide) (wrappable_type _)

theorem firm_arguments :
    ask.Firm (List.Forall₂ (fun spelling made => made.Wraps origin .argType (typeId spelling))
      method.entry.arguments) (h.arguments : m (List Handle)) :=
  firm_askAll wraps (tells_method found foundMethod rfl) (by decide) fun _ _ => wrappable_type _

theorem firm_methodLine :
    ask.Firm (· = Query.methodLine c j) (h.line : m Int) :=
  firm_line wraps (tells_method found foundMethod rfl)

theorem firm_signature :
    ask.Firm (· = Query.signatureOf method) (Query.signature h : m String) := by
  refine firm_bind (firm_arguments wraps found foundMethod) fun arguments all => ?_
  refine (firm_bind_text (texts_mapM all fun spelling => tells_type _) fun texts => ?_).told
  refine firm_bind (firm_methodName wraps found foundMethod) ?_
  rintro _ rfl
  refine told_pure ?_
  rintro rfl
  rfl

theorem firm_methodRow : ask.Firm (· = .of c j method) (Query.methodRow h : m Query.MethodRow) := by
  have words : Tells image (.methodAccess i j) "toString"
      (.text (" ".intercalate (methodFlags method).methodWords)) :=
    ⟨_, methodAccess_known found foundMethod, rfl⟩
  refine firm_bind (firm_methodAccess wraps found foundMethod) fun access ⟨wrapsAccess, _⟩ => ?_
  refine (firm_bind_text (fun _ => ask.text wrapsAccess words) fun accessText => ?_).told
  refine firm_bind (firm_returnType wraps found foundMethod) fun returned wrapsType => ?_
  refine (firm_bind_text (fun _ => ask.text wrapsType (tells_type _)) fun typeText => ?_).told
  refine firm_bind (firm_signature wraps found foundMethod) ?_
  rintro _ rfl
  refine told_bind (firm_methodLine wraps found foundMethod).told ?_
  rintro _ rfl
  refine told_pure ?_
  rintro rfl rfl
  rfl

theorem firm_methodDetail :
    ask.Firm (· = .of c j method) (Query.methodDetail h : m Query.MethodDetail) := by
  refine firm_bind (firm_methodName wraps found foundMethod) ?_
  rintro _ rfl
  refine told_bind (firm_signature wraps found foundMethod).told ?_
  rintro _ rfl
  refine told_bind (firm_returnType wraps found foundMethod).told fun returned wrapsType => ?_
  refine (firm_bind_text (fun _ => ask.text wrapsType (tells_type _)) fun typeText => ?_).told
  have flag : ask.Firm (· = decide (method.name = Image.constructorName))
      (h.isConstructor : m Bool) :=
    firm_askFlag wraps (tells_method found foundMethod rfl) (by decide)
  refine firm_bind flag ?_
  rintro _ rfl
  refine told_bind (firm_methodLine wraps found foundMethod).told ?_
  rintro _ rfl
  refine told_pure ?_
  rintro rfl
  rfl

end Method

theorem firm_classDetail {h : Handle} {i : Nat} {c : Image.ClassImage}
    (wraps : h.Wraps origin .classNode (.classNode i)) (found : image.classes[i]? = some c) :
    ask.Firm (· = .of c) (Query.classDetail h : m Query.ClassDetail) := by
  have words : Tells image (.classAccess i) "toString"
      (.text (" ".intercalate (Query.classFlags c).classWords)) :=
    ⟨_, classAccess_known found, rfl⟩
  refine firm_bind (firm_classAccess wraps found) fun access ⟨wrapsAccess, flags⟩ => ?_
  refine told_bind (firm_classFullName wraps found).told ?_
  rintro _ rfl
  refine told_bind (firm_className wraps found).told ?_
  rintro _ rfl
  refine told_bind (firm_packageName wraps found).told ?_
  rintro _ rfl
  refine (firm_bind_text (fun _ => ask.text wrapsAccess words) fun accessText => ?_).told
  refine firm_bind (firm_line wraps (tells_class found rfl)) ?_
  rintro _ rfl
  refine told_bind (firm_methods wraps found).told fun methods all => ?_
  refine told_bind (told_eachMethod (fun j method made isMethod wrapsMethod =>
    firm_methodDetail wrapsMethod found isMethod) all) ?_
  rintro _ rfl
  refine told_pure ?_
  rintro rfl
  rw [flags]
  rfl

/-! ## All rows -/

theorem told_classRows {cs : List Image.ClassImage} {hs : List Handle}
    (all : List.Forall₂ (fun c h => ∃ i, image.classes[i]? = some c ∧
      h.Wraps origin .classNode (.classNode i)) cs hs) (limit : Int) :
    ask.Told (· = (Query.firstItems limit cs).map .of)
      ((Query.firstItems limit hs).mapM Query.classRow : m (List Query.ClassRow)) := by
  have each (c : Image.ClassImage) (h : Handle) (here : ∃ i, image.classes[i]? = some c ∧
      h.Wraps origin .classNode (.classNode i)) :
      ask.Told (· = .of c) (Query.classRow h : m Query.ClassRow) := by
    obtain ⟨_, found, wraps⟩ := here
    exact (firm_classRow wraps found).told
  exact (told_mapM_related (Query.forall₂_firstItems all limit) each).mono
    fun _ same => eq_map_of_forall₂ same

theorem told_methodRows {h : Handle} {i : Nat} {c : Image.ClassImage}
    (wraps : h.Wraps origin .classNode (.classNode i)) (found : image.classes[i]? = some c) :
    ask.Told (· = c.named.methods.mapIdx (.of c))
      (do (← h.methods).mapM Query.methodRow : m (List Query.MethodRow)) :=
  told_bind (firm_methods wraps found).told fun _ all =>
    told_eachMethod
      (fun _ _ _ isMethod wrapsMethod => firm_methodRow wrapsMethod found isMethod) all

section Package

variable {package : String × List Nat}
  (known : ∀ place ∈ package.2, ∃ c, image.classes[place]? = some c)

include known

theorem firm_packageClasses {h : Handle} {i : Nat} (wraps : h.Wraps origin .package (.package i))
    (found : image.packages[i]? = some package) :
    ask.Firm (List.Forall₂ (fun place made => made.Wraps origin .classNode (.classNode place))
      package.2) (h.classes : m (List Handle)) :=
  firm_askAll wraps (tells_package found rfl) (by decide)
    fun place isPlace => wrappable_class (known place isPlace).choose_spec

theorem firm_packageRow {h : Handle} {i : Nat} (wraps : h.Wraps origin .package (.package i))
    (found : image.packages[i]? = some package) :
    ask.Firm (· = .of package)
      (do return ⟨← h.fullName, (← h.classes).length⟩ : m Query.PackageRow) := by
  refine firm_bind (firm_askText wraps (tells_package found rfl) (by decide)) ?_
  rintro _ rfl
  refine told_bind (firm_packageClasses known wraps found).told fun members all => ?_
  exact told_pure (by rw [Query.PackageRow.of, all.length_eq])

end Package

theorem told_packageRows {packages : List (String × List Nat)} {hs : List Handle}
    (all : List.Forall₂ (fun package h => ∃ i, image.packages[i]? = some package ∧
      h.Wraps origin .package (.package i)) packages hs)
    (known : ∀ package ∈ image.packages, ∀ place ∈ package.2, ∃ c, image.classes[place]? = some c) :
    ask.Told (· = packages.map .of)
      (hs.mapM fun h => do return ⟨← h.fullName, (← h.classes).length⟩ :
        m (List Query.PackageRow)) := by
  have each (package : String × List Nat) (h : Handle) (here : ∃ i,
      image.packages[i]? = some package ∧ h.Wraps origin .package (.package i)) :
      ask.Told (· = .of package)
        (do return ⟨← h.fullName, (← h.classes).length⟩ : m Query.PackageRow) := by
    obtain ⟨_, found, wraps⟩ := here
    exact (firm_packageRow (known package (List.mem_of_getElem? found)) wraps found).told
  exact (told_mapM_related all each).mono fun _ same => eq_map_of_forall₂ same

end Asking

end DexBrowser.Session

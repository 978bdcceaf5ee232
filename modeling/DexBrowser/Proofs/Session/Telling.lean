import DexBrowser.Proofs.Session.Attribute

/-!
Asking a load that shows an image. Main statements: while such a load is alive, what is asked
through its handles is answered as the image says, without fail, and the handles that come of it are
those of the objects that the image names.
-/

namespace DexBrowser.Managed

/-! ## What an image says -/

/-- An object of the image has a member that answers so. -/
def Tells (image : Image) (id : ObjectId) (name : String) (v : Value) : Prop :=
    ∃ object, imageObject? image id = some object ∧ object.member? name = some (.constant v)

section Tells

variable {image : Image} {name : String} {v : Value}

theorem tells_decompiler (member : (decompilerObject image).member? name = some (.constant v)) :
    Tells image .decompiler name v :=
  ⟨_, rfl, member⟩

theorem tells_package {index : Nat} {p : String × List Nat}
    (found : image.packages[index]? = some p)
    (member : (packageObject p.1 p.2).member? name = some (.constant v)) :
    Tells image (.package index) name v :=
  ⟨_, by rw [imageObject?, found, Option.map_some], member⟩

theorem tells_class {index : Nat} {c : Image.ClassImage} (found : image.classes[index]? = some c)
    (member : (classObject index c).member? name = some (.constant v)) :
    Tells image (.classNode index) name v :=
  ⟨_, by rw [imageObject?, found, Option.map_some], member⟩

theorem tells_method {classIndex index : Nat} {c : Image.ClassImage} {method : Image.NamedMethod}
    (found : image.classes[classIndex]? = some c)
    (foundMethod : c.named.methods[index]? = some method)
    (member : (methodObject classIndex index c method).member? name = some (.constant v)) :
    Tells image (.method classIndex index) name v :=
  ⟨_, by rw [imageObject?, found]; simp only [Option.bind_eq_bind, Option.bind_some, foundMethod,
    Option.pure_def], member⟩

end Tells

namespace Load

/-- A load in memory with the objects of an image, and no others. -/
structure Shows (image : Image) (load : Load) : Prop where
  host : load.host = .memory
  heap : load.heap = { image := image, closed := load.heap.closed }

section Shows

variable {image : Image} {load later : Load}

theorem Shows.used (shown : load.Shows image) (used : load.Used later) : later.Shows image :=
  ⟨used.host.trans shown.host, by rw [used.heap, shown.heap]⟩

theorem Shows.object? (shown : load.Shows image) {id : ObjectId} {object : Object}
    (found : imageObject? image id = some object) : load.heap.object? id = some object := by
  rw [shown.heap]
  cases id with
  | given => contradiction
  | _ => exact found

theorem Shows.member? (shown : load.Shows image) {id : ObjectId} {object : Object}
    (found : imageObject? image id = some object) (name : String) :
    load.heap.member? id name = object.member? name := by
  have unchanged : load.heap.changes = [] := by rw [shown.heap]
  simp only [Heap.member?, unchanged, shown.object? found, List.lookup_nil, Option.bind_some]

theorem Shows.answer (shown : load.Shows image) {id : ObjectId} {name : String} {v : Value}
    (tells : Tells image id name v) (readers : Nat) :
    load.answer readers (.object id) name [] = .ok v := by
  obtain ⟨object, found, member⟩ := tells
  simp only [Load.answer, shown.host, Load.object?, shown.object? found, Option.map_some,
    shown.member? found, member, memoryAnswer]

end Shows

end Load

end DexBrowser.Managed

namespace DexBrowser.Session

open Managed Session.Action

def noFault (_ : Fault) : Prop :=
    False

theorem itemsOf_listed (xs : List Value) : itemsOf (.list xs) = .ok xs := by
  cases xs <;> rfl

/-! ## Lists of related items -/

theorem forall₂_comp {first : α → β → Prop} {second : β → γ → Prop} {xs : List α} {ys : List β}
    {zs : List γ} (one : List.Forall₂ first xs ys) (two : List.Forall₂ second ys zs) :
    List.Forall₂ (fun x z => ∃ y, first x y ∧ second y z) xs zs := by
  induction one generalizing zs with
  | nil =>
      cases two
      exact .nil
  | cons related _ ih =>
      obtain _ | ⟨next, rest⟩ := two
      exact .cons ⟨_, related, next⟩ (ih rest)

theorem exists_of_mem_right {related : α → β → Prop} {xs : List α} {ys : List β}
    (all : List.Forall₂ related xs ys) {y : β} (member : y ∈ ys) : ∃ x ∈ xs, related x y := by
  induction all with
  | nil => contradiction
  | cons here _ ih =>
      rcases List.mem_cons.mp member with rfl | later
      · exact ⟨_, List.mem_cons_self, here⟩
      · obtain ⟨x, isItem, found⟩ := ih later
        exact ⟨x, List.mem_cons_of_mem _ isItem, found⟩

theorem forall_iff_of_forall₂ {related : α → β → Prop} {xs : List α} {ys : List β}
    {first : α → Prop} {second : β → Prop} (all : List.Forall₂ related xs ys)
    (same : ∀ x y, related x y → (first x ↔ second y)) :
    (∀ x ∈ xs, first x) ↔ ∀ y ∈ ys, second y := by
  induction all with
  | nil => simp
  | cons here _ ih => rw [List.forall_mem_cons, List.forall_mem_cons, same _ _ here, ih]

theorem eq_map_of_forall₂ {f : α → β} {xs : List α} {ys : List β}
    (all : List.Forall₂ (fun x y => y = f x) xs ys) : ys = xs.map f := by
  induction all with
  | nil => rfl
  | cons same _ ih => rw [same, ih, List.map_cons]

theorem map_range_getD (xs : List α) (fallback : α) (f : α → β) :
    (List.range xs.length).map (fun i => f (xs.getD i fallback)) = xs.map f := by
  apply List.ext_getElem
  · simp
  · intro i bound _
    have inside : i < xs.length := by simpa using bound
    simp [List.getD, inside]

/-- How a line is told; 0 says that there is no line. -/
def toldLine (line : Nat) : Int :=
    if line = 0 then Handle.noLine else line

/-! ## Loads that can be asked -/

/-- A session of which one load is alive, shows an image and need not wait. -/
structure Live (origin : LoadId) (image : Image) (files : Files.Tree → Prop)
    (workspace : Workspace) : Prop where
  seat : workspace.state.seat = origin.seat
  load : ∃ load, workspace.state.loads[origin.load]? = some load ∧ load.alive = true ∧
    load.Shows image ∧ (load.attached = true → workspace.state.lock.writer = false)
  files : files workspace.files

/-- A handle of one object of a load in memory. -/
structure Handle.Wraps (origin : LoadId) (kind : Kind) (id : ObjectId) (h : Handle) : Prop
    extends h.Of origin .memory where
  kind : h.kind = kind
  target : h.target = .object id

/-- The image has the object, and a handle of the kind takes it. -/
def Wrappable (image : Image) (kind : Kind) (id : ObjectId) : Prop :=
    kind ≠ .access ∧ ∃ object, imageObject? image id = some object ∧
      ∀ required, kind.required? = some required →
        object.cls.name = required ∨ required ∈ object.cls.supertypes

section Wrappable

variable {image : Image}

theorem wrappable_package {index : Nat} {p : String × List Nat}
    (found : image.packages[index]? = some p) : Wrappable image .package (.package index) := by
  refine ⟨by decide, packageObject p.1 p.2, by rw [imageObject?, found, Option.map_some], ?_⟩
  rintro _ ⟨⟩
  exact .inl rfl

theorem wrappable_class {index : Nat} {c : Image.ClassImage}
    (found : image.classes[index]? = some c) : Wrappable image .classNode (.classNode index) := by
  refine ⟨by decide, classObject index c, by rw [imageObject?, found, Option.map_some], ?_⟩
  rintro _ ⟨⟩
  exact .inl rfl

theorem wrappable_method {classIndex index : Nat} {c : Image.ClassImage}
    {method : Image.NamedMethod} (found : image.classes[classIndex]? = some c)
    (foundMethod : c.named.methods[index]? = some method) :
    Wrappable image .method (.method classIndex index) := by
  refine ⟨by decide, methodObject classIndex index c method, ?_, ?_⟩
  · rw [imageObject?, found]
    simp only [Option.bind_eq_bind, Option.bind_some, foundMethod, Option.pure_def]
  · rintro _ ⟨⟩
    exact .inl rfl

end Wrappable

/-- One step for each method of a class, one after the other. -/
def Handle.eachMethod (h : Handle) (step : Handle → Action β) : Action (List β) := do
    (← h.methods).mapM step

namespace Live

variable {origin : LoadId} {image : Image} {files : Files.Tree → Prop}

theorem usable : Usable origin .memory (Live origin image files) anyFault where
  enter _ live := ⟨live.seat, live.load, live.files⟩
  leave _ live := ⟨live.seat, live.load, live.files⟩
  seat _ live := live.seat
  hosted workspace load live found := by
    obtain ⟨other, atOther, -, shown, -⟩ := live.load
    obtain rfl := Option.some.inj (found.symm.trans atOther)
    exact shown.host
  call workspace load byHandle readers target name live found other := by
    obtain ⟨first, atFirst, alive, shown, free⟩ := live.load
    obtain rfl := Option.some.inj (found.symm.trans atFirst)
    obtain ⟨bound, -⟩ := List.getElem?_eq_some_iff.mp found
    have used := load.used_record byHandle readers target other
    refine ⟨live.seat, ⟨_, ?_, used.alive.trans alive, shown.used used, fun attached => ?_⟩,
      live.files⟩
    · simp [Workspace.setLoad, bound]
    · exact free (used.attached.symm.trans attached)
  mint _ _ live := ⟨live.seat, live.load, live.files⟩
  journal _ _ live := ⟨live.seat, live.load, live.files⟩
  managed _ := trivial
  unshown := .inl fun _ _ => trivial
  missing _ _ _ := trivial
  waits _ _ _ _ _ _ := trivial
  engine := .inr trivial

theorem keeps_onLoad {good : α → Prop} {step : Load → Except Fault α × Load}
    (asked : ∀ load : Load, load.Asked (step load).2)
    (ends : ∀ load : Load, load.alive = true → load.Shows image → Ends good noFault (step load).1) :
    (onLoad origin.load step).Keeps (Live origin image files) good noFault := by
  intro before live
  obtain ⟨load, found, alive, shown, -⟩ := live.load
  have kept := usable.respects_onLoad asked before live
  refine ⟨kept.holds, kept.lock, ?_⟩
  rw [run_onLoad found]
  exact ends load alive shown

theorem keeps_loadAt :
    (loadAt origin.load).Keeps (Live origin image files) (·.alive = true) noFault :=
  keeps_onLoad (fun _ => .nothing) fun _ alive _ => alive

theorem keeps_shared {good : α → Prop} {action : Action α}
    (keeps : action.Keeps (Live origin image files) good noFault) :
    (shared origin.load action).Keeps (Live origin image files) good noFault := by
  refine Action.keeps_shared usable.toSectioned (fun workspace live missing => ?_)
    (fun workspace load live found attached writer => ?_) keeps
  · obtain ⟨load, found, -⟩ := live.load
    rw [missing] at found
    contradiction
  · obtain ⟨other, atOther, -, -, free⟩ := live.load
    obtain rfl := Option.some.inj (found.symm.trans atOther)
    rw [free attached] at writer
    contradiction

theorem keeps_log (level : Level) (channel : Channel) (text : String) :
    (log level channel text).Keeps (Live origin image files) (fun _ => True) noFault :=
  Action.keeps_log trivial usable.journal level channel text

/-! ## Calls -/

theorem keeps_call {id : ObjectId} {name : String} {v : Value} (tells : Tells image id name v)
    (other : name ≠ Load.closeMember) (byHandle : Bool) :
    (Remote.invoke origin.load byHandle (.object id) name []).Keeps (Live origin image files)
      (· = v) noFault := by
  refine keeps_bind respects_readers fun readers _ => keeps_onLoad
    (fun load => load.asked_invoke byHandle readers _ other []) fun load _ shown => ?_
  change Ends (· = v) noFault (load.answer readers (.object id) name [])
  rw [shown.answer tells]
  exact rfl

theorem keeps_written (s : String) :
    (Remote.written origin.load (.text s)).Keeps (Live origin image files) (· = s) noFault :=
  keeps_onLoad (fun _ => .nothing) fun _ _ _ => rfl

theorem keeps_classOf {id : ObjectId} {object : Object}
    (found : imageObject? image id = some object) (byHandle : Bool) :
    (Remote.classOf origin.load byHandle (.object id)).Keeps (Live origin image files)
      (· = .reflected object.cls) noFault := by
  refine keeps_bind respects_readers fun readers _ => keeps_onLoad
    (fun load => load.asked_classOf byHandle readers _) fun load _ shown => ?_
  simp only [Load.classOf, shown.host, Load.object?, shown.object? found, Option.map_some]
  exact rfl

theorem keeps_isInstance {id : ObjectId} {object : Object}
    (found : imageObject? image id = some object) {className : String}
    (belongs : object.cls.name = className ∨ className ∈ object.cls.supertypes) :
    (Remote.isInstance origin.load (.object id) className).Keeps (Live origin image files)
      (· = true) noFault := by
  refine keeps_onLoad (fun _ => .nothing) fun load _ shown => ?_
  simp only [Load.isInstance, shown.host, Load.belongs, Load.object?, shown.object? found,
    Option.map_some]
  change (object.cls.name == className || object.cls.supertypes.contains className) = true
  simpa using belongs

/-! ## Handles -/

theorem keeps_checkClass {kind : Kind} {id : ObjectId} {object : Object}
    (found : imageObject? image id = some object)
    (belongs : ∀ required, kind.required? = some required →
      object.cls.name = required ∨ required ∈ object.cls.supertypes) (cls : Value) :
    (Handle.checkClass origin.load kind (.object id) cls).Keeps (Live origin image files)
      (fun _ => True) noFault := by
  unfold Handle.checkClass
  split
  case h_1 => exact respects_pure _
  case h_2 required isRequired =>
      refine keeps_bind (keeps_isInstance found (belongs required isRequired)) ?_
      rintro _ rfl
      exact respects_pure _

theorem keeps_make {kind : Kind} {id : ObjectId} (wrappable : Wrappable image kind id) :
    (Handle.make origin.load kind (.object id) : Action Handle).Keeps (Live origin image files)
      (·.Wraps origin kind id) noFault := by
  obtain ⟨other, object, found, belongs⟩ := wrappable
  have bare : (Handle.bare origin.load kind (.object id) none).Keeps (Live origin image files)
      (·.Wraps origin kind id) noFault := by
    refine keeps_bind (keeps_classOf found true) fun cls reflected => ?_
    refine keeps_bind (keeps_checkClass found belongs cls) fun _ _ => ?_
    have seated : Action.state.Keeps (Live origin image files) (·.seat = origin.seat) noFault :=
      keeps_state fun _ live => live.seat
    refine keeps_bind seated fun state seat => ?_
    have minted : Handle.mint.Keeps (Live origin image files) (fun _ => True) noFault := by
      intro before live
      have kept := usable.respects_mint before live
      exact ⟨kept.holds, kept.lock, trivial⟩
    refine keeps_bind minted fun serial _ => keeps_pure ?_
    exact ⟨⟨by rw [World.originOf, seat], fun _ => ⟨_, reflected⟩, fun _ => ⟨id, rfl⟩⟩, rfl, rfl⟩
  refine keeps_bind bare fun h wraps => ?_
  rw [if_neg other]
  exact keeps_pure wraps

section OneHandle

variable {kind : Kind} {id : ObjectId} {h : Handle}

theorem keeps_checkAlive (own : World.originOf h = origin) :
    h.checkAlive.Keeps (Live origin image files) (fun _ => True) noFault := by
  subst own
  refine keeps_bind keeps_loadAt fun load alive => ?_
  rw [alive]
  exact respects_pure _

theorem keeps_invoke (wraps : h.Wraps origin kind id) {name : String} {v : Value}
    (tells : Tells image id name v) (other : name ≠ Load.closeMember) :
    (h.invoke name).Keeps (Live origin image files) (· = v) noFault := by
  obtain rfl := wraps.origin
  refine keeps_shared (keeps_bind (keeps_checkAlive rfl) fun _ _ => ?_)
  rw [wraps.target]
  exact keeps_call tells other true

theorem keeps_askText (wraps : h.Wraps origin kind id) (name : String) {s : String}
    (tells : Tells image id name (.text s)) (other : name ≠ Load.closeMember) :
    (h.askText name : Action String).Keeps (Live origin image files) (· = s) noFault := by
  obtain rfl := wraps.origin
  refine keeps_bind (keeps_invoke wraps tells other) ?_
  rintro _ rfl
  exact keeps_written s

theorem keeps_askAll (wraps : h.Wraps origin kind id) (name : String) {places : List Nat}
    {part : Nat → ObjectId}
    (tells : Tells image id name (.list ((places.map part).map .object)))
    (other : name ≠ Load.closeMember) {partKind : Kind}
    (wrappable : ∀ place ∈ places, Wrappable image partKind (part place)) :
    (h.askAll partKind name : Action (List Handle)).Keeps (Live origin image files)
      (List.Forall₂ (fun place made => made.Wraps origin partKind (part place)) places)
      noFault := by
  obtain rfl := wraps.origin
  refine keeps_bind (keeps_invoke wraps tells other) ?_
  rintro _ rfl
  have items : Ends (· = (places.map part).map .object) noFault
      (itemsOf (.list ((places.map part).map .object))) := by
    rw [itemsOf_listed]
    exact rfl
  refine keeps_bind (keeps_ofExcept items) ?_
  rintro _ rfl
  rw [List.map_map, List.mapM_map]
  exact keeps_mapM_each fun place isPlace => keeps_make (wrappable place isPlace)

theorem keeps_askOne (wraps : h.Wraps origin kind id) (name : String) {member : ObjectId}
    (tells : Tells image id name (.object member)) (other : name ≠ Load.closeMember) {part : Kind}
    (wrappable : Wrappable image part member) :
    (h.askOne part name : Action Handle).Keeps (Live origin image files)
      (·.Wraps origin part member) noFault := by
  obtain rfl := wraps.origin
  refine keeps_bind (keeps_invoke wraps tells other) ?_
  rintro _ rfl
  exact keeps_make wrappable

theorem keeps_fullName (wraps : h.Wraps origin kind id) {s : String}
    (tells : Tells image id "getFullName" (.text s)) :
    (h.fullName : Action String).Keeps (Live origin image files) (· = s) noFault :=
  keeps_askText wraps "getFullName" tells (by decide)

theorem keeps_line (wraps : h.Wraps origin kind id) {n : Nat}
    (tells : Tells image id "getDecompiledLine" (.int n)) :
    (h.line : Action Int).Keeps (Live origin image files) (· = toldLine n) noFault := by
  refine keeps_bind (keeps_invoke wraps tells (by decide)) ?_
  rintro _ rfl
  have whole : Ends (· = (n : Int)) noFault (toWhole (.int n)) := rfl
  refine keeps_bind (keeps_ofExcept whole) ?_
  rintro _ rfl
  refine keeps_pure ?_
  have least : ((n : Int) ≤ 0) ↔ n = 0 := by omega
  simp only [least, toldLine]

end OneHandle

/-! ## Classes, methods and packages -/

section Class

variable {h : Handle} {i : Nat} {c : Image.ClassImage}
  (wraps : h.Wraps origin .classNode (.classNode i)) (found : image.classes[i]? = some c)

include wraps found

theorem keeps_className :
    (h.name : Action String).Keeps (Live origin image files) (· = c.named.name) noFault := by
  unfold Handle.name
  rw [wraps.kind]
  exact keeps_askText wraps "getName" (tells_class found rfl) (by decide)

theorem keeps_packageName :
    (h.packageName : Action String).Keeps (Live origin image files) (· = c.package) noFault :=
  keeps_askText wraps "getPackage" (tells_class found rfl) (by decide)

theorem keeps_code :
    (h.code : Action String).Keeps (Live origin image files) (· = c.code) noFault := by
  obtain rfl := wraps.origin
  refine keeps_bind (keeps_invoke wraps (tells_class found rfl) (by decide)) ?_
  rintro _ rfl
  exact keeps_written c.code

theorem keeps_methods :
    (h.methods : Action (List Handle)).Keeps (Live origin image files)
      (List.Forall₂ (fun j made => made.Wraps origin .method (.method i j))
        (List.range c.named.methods.length)) noFault :=
  keeps_askAll wraps "getMethods" (tells_class found rfl) (by decide)
    fun _ isPlace => wrappable_method found
      (List.getElem?_eq_getElem (List.mem_range.mp isPlace))

end Class

theorem keeps_methodName {h : Handle} {i j : Nat} {c : Image.ClassImage}
    {method : Image.NamedMethod} (wraps : h.Wraps origin .method (.method i j))
    (found : image.classes[i]? = some c) (foundMethod : c.named.methods[j]? = some method) :
    (h.name : Action String).Keeps (Live origin image files) (· = method.name) noFault := by
  unfold Handle.name
  rw [wraps.kind]
  exact keeps_askText wraps "getName" (tells_method found foundMethod rfl) (by decide)

theorem keeps_eachMethod {h : Handle} {i : Nat} {c : Image.ClassImage} {step : Handle → Action β}
    {answer : Nat → β} (wraps : h.Wraps origin .classNode (.classNode i))
    (found : image.classes[i]? = some c)
    (each : ∀ j method made, c.named.methods[j]? = some method →
      made.Wraps origin .method (.method i j) →
        (step made).Keeps (Live origin image files) (· = answer j) noFault) :
    (h.eachMethod step).Keeps (Live origin image files)
      (· = (List.range c.named.methods.length).map answer) noFault := by
  refine keeps_bind (keeps_methods wraps found) fun methods all => ?_
  have known := (List.forall₂_and_left ..).mpr
    ⟨fun j (member : j ∈ List.range c.named.methods.length) => member, all⟩
  have steps : (methods.mapM step).Keeps (Live origin image files)
      (List.Forall₂ (fun j b => b = answer j) (List.range c.named.methods.length)) noFault := by
    refine keeps_mapM_related known fun j made ⟨bound, wrapsMethod⟩ => ?_
    exact each j _ made (List.getElem?_eq_getElem (List.mem_range.mp bound)) wrapsMethod
  exact steps.mono (fun _ same => eq_map_of_forall₂ same) fun _ impossible => impossible

theorem keeps_declaringClass {h : Handle} {i j : Nat} {c : Image.ClassImage}
    {method : Image.NamedMethod} (wraps : h.Wraps origin .method (.method i j))
    (found : image.classes[i]? = some c) (foundMethod : c.named.methods[j]? = some method) :
    (h.declaringClass : Action Handle).Keeps (Live origin image files)
      (·.Wraps origin .classNode (.classNode i)) noFault :=
  keeps_askOne wraps "getDeclaringClass" (tells_method found foundMethod rfl) (by decide)
    (wrappable_class found)

theorem keeps_classes {h : Handle} {i : Nat} {p : String × List Nat}
    (wraps : h.Wraps origin .package (.package i)) (found : image.packages[i]? = some p)
    (known : ∀ place ∈ p.2, ∃ c, image.classes[place]? = some c) :
    (h.classes : Action (List Handle)).Keeps (Live origin image files)
      (List.Forall₂ (fun place made => made.Wraps origin .classNode (.classNode place)) p.2)
      noFault :=
  keeps_askAll wraps "getClasses" (tells_package found rfl) (by decide)
    fun place isPlace => wrappable_class (known place isPlace).choose_spec

end Live

end DexBrowser.Session

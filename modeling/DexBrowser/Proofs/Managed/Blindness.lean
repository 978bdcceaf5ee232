import DexBrowser.Managed.Load

/-!
Loads with images of the same objects. Main statement: what is asked of the objects of a load, or
told of it, is blind to all else in its image.
-/

namespace DexBrowser.Managed

/-- Two images that answer alike have the same objects. -/
def SameObjects (image other : Image) : Prop :=
    imageObject? other = imageObject? image

namespace Load

def withImage (load : Load) (image : Image) : Load :=
    { load with heap := { load.heap with image := image } }

/-- The loads are the same but for what no object of their images tells. -/
def Resembles (load other : Load) : Prop :=
    ∃ image, SameObjects load.heap.image image ∧ other = load.withImage image

theorem resembles_refl (load : Load) : load.Resembles load :=
  ⟨load.heap.image, rfl, rfl⟩

theorem Resembles.attached {load other : Load} (resembles : load.Resembles other) :
    load.attached = other.attached := by
  obtain ⟨image, -, rfl⟩ := resembles
  rfl

theorem Resembles.alive {load other : Load} (resembles : load.Resembles other) :
    load.alive = other.alive := by
  obtain ⟨image, -, rfl⟩ := resembles
  rfl

theorem Resembles.host {load other : Load} (resembles : load.Resembles other) :
    load.host = other.host := by
  obtain ⟨image, -, rfl⟩ := resembles
  rfl

/-! ## What is blind -/

section Blind

variable {load : Load} {image : Image} (same : SameObjects load.heap.image image)

include same

theorem object?_withImage : (load.withImage image).heap.object? = load.heap.object? := by
  funext id
  have here := congrFun same id
  cases id with
  | given _ => rfl
  | _ => exact here

theorem member?_withImage : (load.withImage image).heap.member? = load.heap.member? := by
  funext id name
  rw [Heap.member?, Heap.member?, object?_withImage same]
  rfl

theorem describe_withImage : (load.withImage image).heap.describe = load.heap.describe := by
  funext id
  rw [Heap.describe, Heap.describe, object?_withImage same]

theorem written_withImage (v : Value) : (load.withImage image).written v = load.written v := by
  rw [written, written, describe_withImage same]

theorem shown_withImage (v : Value) : (load.withImage image).shown v = load.shown v := by
  rw [shown, shown, describe_withImage same]

theorem valueObject?_withImage : (load.withImage image).object? = load.object? := by
  funext v
  cases v with
  | object id => rw [object?, object?, object?_withImage same]
  | _ => rfl

theorem valueMember?_withImage : (load.withImage image).member? = load.member? := by
  funext v name
  cases v with
  | object id => rw [member?, member?, member?_withImage same]
  | _ => rfl

omit same in
theorem memoryAnswer_withImage (image : Image) (readers : Nat) (owner : Except Fault String)
    (name : String) (arguments : List Value) (member : Member) :
    (load.withImage image).memoryAnswer readers owner name arguments member =
      load.memoryAnswer readers owner name arguments member := by
  cases member <;> rfl

theorem told?_withImage : (load.withImage image).told? = load.told? := by
  funext readers target name
  simp only [told?, valueMember?_withImage same, memoryAnswer_withImage image]

theorem owner_withImage (readers : Nat) (target : Value) :
    (load.withImage image).owner readers target = load.owner readers target := by
  have typeName : (load.withImage image).typeName target = load.typeName target := rfl
  simp only [owner, ownClass?, valueMember?_withImage same, valueObject?_withImage same,
    told?_withImage same, written_withImage same, typeName]

theorem answer_withImage (readers : Nat) (target : Value) (name : String) (arguments : List Value) :
    (load.withImage image).answer readers target name arguments =
      load.answer readers target name arguments := by
  have host : (load.withImage image).host = load.host := rfl
  simp only [answer, machineAnswer, host, memoryAnswer_withImage image, ownClass?,
    valueMember?_withImage same, valueObject?_withImage same, member?_withImage same,
    told?_withImage same, shown_withImage same, owner_withImage same]

theorem record_withImage (byHandle : Bool) (readers : Nat) (target : Value) (name : String) :
    (load.withImage image).record byHandle readers target name =
      (load.record byHandle readers target name).withImage image := by
  simp only [record, valueMember?_withImage same]
  cases target with
  | object id => cases load.member? (.object id) name <;> rfl
  | _ => rfl

omit same in
theorem image_record (load : Load) (byHandle : Bool) (readers : Nat) (target : Value)
    (name : String) : (load.record byHandle readers target name).heap.image = load.heap.image := by
  unfold record
  split <;> rfl

theorem written_record (byHandle : Bool) (readers : Nat) (target : Value) (name : String)
    (v : Value) : ((load.record byHandle readers target name).withImage image).written v =
      (load.record byHandle readers target name).written v :=
  written_withImage (by rwa [image_record]) v

theorem belongs_withImage (target : Value) (className : String) :
    (load.withImage image).belongs target className = load.belongs target className := by
  simp only [belongs, valueObject?_withImage same]

end Blind

/-- What a step does is blind to all but the objects of the image. -/
def Blind (step : Load → Except Fault α × Load) : Prop :=
    ∀ load image, SameObjects load.heap.image image →
      step (load.withImage image) = ((step load).1, (step load).2.withImage image)

theorem Blind.resembles {step : Load → Except Fault α × Load} (blind : Blind step)
    {load other : Load} (resembles : load.Resembles other) :
    (step other).1 = (step load).1 ∧ (step load).2.Resembles (step other).2 := by
  obtain ⟨image, same, rfl⟩ := resembles
  -- With the image that it had the load is as it was, so that the step keeps the image.
  have kept : (step load).2 = (step load).2.withImage load.heap.image :=
    congrArg Prod.snd (blind load load.heap.image rfl)
  rw [blind load image same]
  refine ⟨rfl, image, ?_, rfl⟩
  rw [kept]
  exact same

theorem blind_look {look : Load → Except Fault α} (same : ∀ load image,
    SameObjects load.heap.image image → look (load.withImage image) = look load) :
    Blind fun load => (look load, load) := by
  intro load image sameObjects
  exact Prod.ext (same load image sameObjects) rfl

theorem blind_change {change : Load → Load}
    (same : ∀ load image, change (load.withImage image) = (change load).withImage image) :
    Blind fun load => (.ok (), change load) := by
  intro load image _
  exact Prod.ext rfl (same load image)

theorem blind_invoke (byHandle : Bool) (readers : Nat) (target : Value) (name : String)
    (arguments : List Value) :
    Blind fun load => load.invoke byHandle readers target name arguments := by
  intro load image same
  simp only [invoke, answer_withImage same, record_withImage same]

theorem blind_toText (byHandle : Bool) (readers : Nat) (target : Value) :
    Blind fun load => load.toText byHandle readers target := by
  intro load image same
  have host : (load.withImage image).host = load.host := rfl
  simp only [toText, invoke, host, answer_withImage same, record_withImage same,
    valueObject?_withImage same, member?_withImage same, shown_withImage same,
    owner_withImage same, written_record same]
  cases load.host with
  | machine => rfl
  | memory =>
      cases load.object? target with
      | none => rfl
      | some found =>
          dsimp only
          cases load.heap.member? found.1 "toString" <;> rfl

theorem blind_hashCode (byHandle : Bool) (readers : Nat) (target : Value) :
    Blind fun load => load.hashCode byHandle readers target := by
  intro load image same
  have host : (load.withImage image).host = load.host := rfl
  simp only [hashCode, invoke, host, answer_withImage same, record_withImage same,
    valueObject?_withImage same, member?_withImage same, shown_withImage same]
  cases load.host with
  | machine => rfl
  | memory =>
      cases load.object? target with
      | none => rfl
      | some found =>
          dsimp only
          cases load.heap.member? found.1 "hashCode" with
          | some _ => rfl
          | none =>
              cases found.2.key with
              | none => rfl
              | some key =>
                  dsimp only
                  cases unhashable? key <;> rfl

theorem blind_equals (byHandle : Bool) (readers : Nat) (target other : Value) :
    Blind fun load => load.equals byHandle readers target other := by
  intro load image same
  have host : (load.withImage image).host = load.host := rfl
  have sameObject (id : ObjectId) (object : Object) :
      (load.withImage image).sameObject id object other = load.sameObject id object other := by
    simp only [Load.sameObject, object?_withImage same]
  simp only [equals, invoke, host, answer_withImage same, record_withImage same,
    valueObject?_withImage same, member?_withImage same, shown_withImage same, sameObject]
  cases load.host with
  | machine => rfl
  | memory =>
      cases load.object? target with
      | none => rfl
      | some found =>
          dsimp only
          cases load.heap.member? found.1 "equals" <;> rfl

theorem blind_identity (target : Value) : Blind fun load => (load.identity target, load) := by
  refine blind_look fun load image same => ?_
  have host : (load.withImage image).host = load.host := rfl
  simp only [identity, host, valueObject?_withImage same, shown_withImage same]
  rfl

theorem blind_isInstance (target : Value) (className : String) :
    Blind fun load => (load.isInstance target className, load) := by
  refine blind_look fun load image same => ?_
  have host : (load.withImage image).host = load.host := rfl
  simp only [isInstance, host, belongs_withImage same]

theorem blind_address (target : Value) : Blind fun load =>
    (.ok (load.address target : Int), load) :=
  blind_look fun _ _ _ => rfl

theorem blind_written (v : Value) : Blind fun load => (load.written v, load) :=
  blind_look fun _ _ same => written_withImage same v

theorem blind_closeInMachine (readers : Nat) :
    Blind fun load =>
        (load.closeInMachine, load.record false readers (.object .decompiler) "close") := by
  intro load image same
  simp only [closeInMachine, member?_withImage same, record_withImage same]
  rfl

theorem blind_classOf (byHandle : Bool) (readers : Nat) (target : Value) :
    Blind fun load => load.classOf byHandle readers target := by
  intro load image same
  have host : (load.withImage image).host = load.host := rfl
  have invoked := blind_invoke byHandle readers target "getClass" [] load image same
  simp only [classOf, host, invoked, valueObject?_withImage same, shown_withImage same]
  cases load.host with
  | machine => rfl
  | memory => cases load.object? target <;> rfl

theorem blind_className (byHandle : Bool) (readers : Nat) (cls : Value) :
    Blind fun load => load.className byHandle readers cls := by
  intro load image same
  have host : (load.withImage image).host = load.host := rfl
  simp only [className, host, invoke, answer_withImage same, record_withImage same,
    shown_withImage same]
  cases load.host with
  | machine =>
      have written : ((load.record byHandle readers cls "getName").withImage image).written =
          (load.record byHandle readers cls "getName").written :=
        funext fun v => written_record same byHandle readers cls "getName" v
      dsimp only
      rw [written]
  | memory => cases cls <;> rfl

end Load

end DexBrowser.Managed

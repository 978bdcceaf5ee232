import DexBrowser.Proofs.Image.Naming
import DexBrowser.Proofs.Managed.Blindness

/-!
Bodies of methods that are hidden. Those of inconsistent classes are not read while such code is
hidden, so that an image may be built without them. Main statement: artifacts that differ in hidden
bodies only make images of the same objects, or are refused alike.
-/

namespace DexBrowser

/-! ## Artifacts without what is hidden -/

def MethodEntry.withoutBody (entry : MethodEntry) : MethodEntry :=
    { entry with body := [] }

/-- An inconsistent class without the bodies of its methods; any other class as it is. -/
def ClassEntry.withoutHidden (entry : ClassEntry) : ClassEntry :=
    if entry.inconsistent then { entry with methods := entry.methods.map .withoutBody } else entry

def Artifact.withoutHidden (artifact : Artifact) : Artifact :=
    ⟨artifact.classes.map .withoutHidden⟩

@[simp] theorem ClassEntry.fullName_withoutHidden (entry : ClassEntry) :
    entry.withoutHidden.fullName = entry.fullName := by
  unfold withoutHidden
  split <;> rfl

@[simp] theorem ClassEntry.accessFlags_withoutHidden (entry : ClassEntry) :
    entry.withoutHidden.accessFlags = entry.accessFlags := by
  unfold withoutHidden
  split <;> rfl

@[simp] theorem ClassEntry.inconsistent_withoutHidden (entry : ClassEntry) :
    entry.withoutHidden.inconsistent = entry.inconsistent := by
  unfold withoutHidden
  split <;> rfl

@[simp] theorem ClassEntry.code_withoutHidden (entry : ClassEntry) :
    entry.withoutHidden.code = entry.code := by
  unfold withoutHidden
  split <;> rfl

theorem Artifact.length_of_withoutHidden {artifact other : Artifact}
    (same : artifact.withoutHidden = other.withoutHidden) :
    artifact.classes.length = other.classes.length := by
  have lengths := congrArg (fun a : Artifact => a.classes.length) same
  simpa [withoutHidden] using lengths

namespace Image

/-! ## Names -/

def NamedMethod.withoutBody (method : NamedMethod) : NamedMethod :=
    { method with entry := method.entry.withoutBody }

def NamedClass.withoutHidden (c : NamedClass) : NamedClass :=
    { c with
      entry := c.entry.withoutHidden
      methods := if c.entry.inconsistent then c.methods.map .withoutBody else c.methods }

@[simp] theorem NamedClass.fullName_withoutHidden (c : NamedClass) :
    c.withoutHidden.fullName = c.fullName := rfl

theorem nameMethods_withoutBody (options : LoadOptions) (owner : String) (count : Nat)
    (entries : List MethodEntry) :
    nameMethods options owner count (entries.map .withoutBody) =
      ((nameMethods options owner count entries).1.map .withoutBody,
        (nameMethods options owner count entries).2) := by
  induction entries generalizing count with
  | nil => rfl
  | cons entry rest ih =>
      have first : nameMethod options owner count entry.withoutBody =
          ((nameMethod options owner count entry).1.withoutBody,
            (nameMethod options owner count entry).2) := rfl
      simp only [List.map_cons, nameMethods, first, ih]

theorem nameClass_withoutHidden (options : LoadOptions) (count : Nat) (entry : ClassEntry) :
    nameClass options count entry.withoutHidden =
      ((nameClass options count entry).1.withoutHidden, (nameClass options count entry).2) := by
  cases inconsistent : entry.inconsistent with
  | false =>
      have same : entry.withoutHidden = entry := by simp [ClassEntry.withoutHidden, inconsistent]
      simp [nameClass, NamedClass.withoutHidden, same, inconsistent]
  | true =>
      have methods : entry.withoutHidden.methods = entry.methods.map .withoutBody := by
        simp [ClassEntry.withoutHidden, inconsistent]
      simp only [nameClass, NamedClass.withoutHidden, inconsistent, methods,
        ClassEntry.fullName_withoutHidden, nameMethods_withoutBody, if_true]

/-! ## Code -/

def ClassImage.withoutHidden (c : ClassImage) : ClassImage :=
    { c with named := c.named.withoutHidden }

def withoutHidden (image : Image) : Image :=
    { image with classes := image.classes.map .withoutHidden }

section Hides

variable {options : LoadOptions} (hides : options.showInconsistent = false)

include hides

theorem methodLines_withoutBody (className : String) (method : NamedMethod) :
    methodLines options true className method.withoutBody =
      methodLines options true className method := by
  have body : bodyLines options true method.withoutBody = bodyLines options true method := by
    simp [bodyLines, hides, NamedMethod.withoutBody]
  rw [methodLines, methodLines, body]
  rfl

theorem methodBlocks_withoutBody (className : String) (first : Bool) (methods : List NamedMethod) :
    methodBlocks options true className first (methods.map .withoutBody) =
      methodBlocks options true className first methods := by
  induction methods generalizing first with
  | nil => rfl
  | cons method rest ih =>
      simp only [List.map_cons, methodBlocks, methodLines_withoutBody hides, ih]

theorem blocksOf_withoutHidden (c : NamedClass) :
    blocksOf options c.withoutHidden = blocksOf options c := by
  rw [blocksOf, blocksOf]
  simp only [NamedClass.withoutHidden, ClassEntry.inconsistent_withoutHidden]
  cases inconsistent : c.entry.inconsistent with
  | false => rfl
  | true => exact methodBlocks_withoutBody hides _ _ _

theorem renderClass_withoutHidden (sourceName : String) (c : NamedClass) :
    renderClass options sourceName c.withoutHidden =
      (renderClass options sourceName c).withoutHidden := by
  have head : headLines sourceName c.withoutHidden = headLines sourceName c := by
    simp only [headLines, headerLine, NamedClass.withoutHidden,
      ClassEntry.accessFlags_withoutHidden]
  have code : c.withoutHidden.entry.code = c.entry.code := c.entry.code_withoutHidden
  have lines : sourceLines options sourceName c.withoutHidden =
      sourceLines options sourceName c := by
    rw [sourceLines, sourceLines, head, blocksOf_withoutHidden hides]
  have count : (c.withoutHidden.methods.map fun _ => 0) = c.methods.map fun _ => 0 := by
    simp only [NamedClass.withoutHidden]
    split
    · rw [List.map_map]
      rfl
    · rfl
  simp only [renderClass, code, head, lines, count, blocksOf_withoutHidden hides]
  cases c.entry.code <;> rfl

theorem buildClasses_withoutHidden (sourceName : String) (count : Nat) (seen : List String)
    (entries : List ClassEntry) :
    buildClasses options sourceName count seen (entries.map .withoutHidden) =
      (buildClasses options sourceName count seen entries).map (List.map .withoutHidden) := by
  induction entries generalizing count seen with
  | nil => rfl
  | cons entry rest ih =>
      simp only [List.map_cons, buildClasses, nameClass_withoutHidden,
        NamedClass.fullName_withoutHidden, ih, renderClass_withoutHidden hides]
      split
      · rfl
      · cases buildClasses options sourceName (nameClass options count entry).2
          ((nameClass options count entry).1.fullName :: seen) rest <;> rfl

theorem build_withoutHidden (artifact : Artifact) (sourceName : String) :
    Image.build artifact.withoutHidden options sourceName =
      (Image.build artifact options sourceName).map withoutHidden := by
  rw [Image.build, Image.build, Artifact.withoutHidden, buildClasses_withoutHidden hides]
  cases buildClasses options sourceName 0 [] artifact.classes with
  | error fault => rfl
  | ok classes =>
      have packages : (classes.map ClassImage.withoutHidden).map ClassImage.package =
          classes.map ClassImage.package := by
        rw [List.map_map]
        rfl
      simp only [Except.map, bind, Except.bind, pure, Except.pure, packages, withoutHidden]

end Hides

end Image

namespace Managed

open Image

/-! ## Objects -/

theorem length_methods_withoutHidden (c : NamedClass) :
    c.withoutHidden.methods.length = c.methods.length := by
  simp only [NamedClass.withoutHidden]
  split
  · exact List.length_map _
  · rfl

theorem bind_methods_withoutHidden {look : NamedMethod → Option α}
    (blind : ∀ method, look method.withoutBody = look method) (c : NamedClass) (j : Nat) :
    c.withoutHidden.methods[j]?.bind look = c.methods[j]?.bind look := by
  simp only [NamedClass.withoutHidden]
  split
  · rw [List.getElem?_map]
    cases c.methods[j]? with
    | none => rfl
    | some method => exact blind method
  · rfl

/-- No object tells a body. -/
theorem imageObject?_withoutHidden (image : Image) :
    imageObject? image.withoutHidden = imageObject? image := by
  have found (i : Nat) : image.withoutHidden.classes[i]? =
      image.classes[i]?.map ClassImage.withoutHidden := List.getElem?_map ..
  have each {tell : ClassImage → Option Object}
      (blind : ∀ c : ClassImage, tell c.withoutHidden = tell c) (i : Nat) :
      image.withoutHidden.classes[i]?.bind tell = image.classes[i]?.bind tell := by
    rw [found, Option.bind_map]
    exact congrArg _ (funext blind)
  funext id
  cases id with
  | decompiler => simp [imageObject?, decompilerObject, withoutHidden]
  | package _ | argType _ | primitive _ | given _ => rfl
  | classNode i =>
      rw [imageObject?, imageObject?, Option.map_eq_bind, Option.map_eq_bind]
      refine each (fun c => congrArg some ?_) i
      simp only [classObject, ClassImage.withoutHidden, length_methods_withoutHidden]
      rfl
  | classAccess i =>
      rw [imageObject?, imageObject?, Option.map_eq_bind, Option.map_eq_bind]
      refine each (fun c => congrArg some ?_) i
      simp only [ClassImage.withoutHidden, NamedClass.withoutHidden,
        ClassEntry.accessFlags_withoutHidden]
  | method i j =>
      exact each (fun c => bind_methods_withoutHidden (fun _ => rfl) c.named j) i
  | methodAccess i j =>
      exact each (fun c => bind_methods_withoutHidden (fun _ => rfl) c.named j) i

/-- While inconsistent code is hidden, images of artifacts that differ in hidden bodies only are
refused for the same, or have the same objects. -/
theorem build_alike {options : LoadOptions} (hides : options.showInconsistent = false)
    {artifact other : Artifact} (same : artifact.withoutHidden = other.withoutHidden)
    (sourceName : String) :
    (∃ fault, Image.build artifact options sourceName = .error fault ∧
      Image.build other options sourceName = .error fault) ∨
      ∃ image twin, Image.build artifact options sourceName = .ok image ∧
        Image.build other options sourceName = .ok twin ∧ SameObjects image twin := by
  have one := build_withoutHidden hides artifact sourceName
  have two := build_withoutHidden hides other sourceName
  rw [same, two] at one
  cases first : Image.build artifact options sourceName with
  | error fault =>
      rw [first] at one
      cases second : Image.build other options sourceName with
      | error others =>
          rw [second] at one
          exact .inl ⟨fault, rfl, congrArg _ (Except.error.inj one)⟩
      | ok twin =>
          rw [second] at one
          cases one
  | ok image =>
      rw [first] at one
      cases second : Image.build other options sourceName with
      | error others =>
          rw [second] at one
          cases one
      | ok twin =>
          rw [second] at one
          have hidden : twin.withoutHidden = image.withoutHidden := Except.ok.inj one
          refine .inr ⟨image, twin, rfl, rfl, ?_⟩
          rw [SameObjects, ← imageObject?_withoutHidden twin, hidden, imageObject?_withoutHidden]

end Managed

end DexBrowser

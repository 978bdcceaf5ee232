import DexBrowser.Proofs.Image.Dimensions
import DexBrowser.Proofs.Image.Naming
import Mathlib.Data.List.Forall2

/-!
Artifacts of which the types are spelled with other blanks. Main statements: the names are the same,
the texts of two methods are the same only if all their types are spelled alike, and their default
bodies are the same exactly if both return types or none is spelled as a primitive word.
-/

namespace DexBrowser

namespace Image

open Text

/-! ## Artifacts -/

/-- Two spellings of one type: they have one base and as many brackets. -/
def SameType (spelling other : String) : Prop :=
    ∃ depth base, Peels spelling.toList depth base ∧ Peels other.toList depth base

structure RespelledMethod (entry other : MethodEntry) : Prop where
  name : entry.name = other.name
  accessFlags : entry.accessFlags = other.accessFlags
  body : entry.body = other.body
  returnType : SameType entry.returnType other.returnType
  arguments : List.Forall₂ SameType entry.arguments other.arguments

structure RespelledClass (entry other : ClassEntry) : Prop where
  fullName : entry.fullName = other.fullName
  accessFlags : entry.accessFlags = other.accessFlags
  inconsistent : entry.inconsistent = other.inconsistent
  code : entry.code = other.code
  methods : List.Forall₂ RespelledMethod entry.methods other.methods

/-- The artifacts differ in the blanks around types and before their brackets only. -/
def Respelled (artifact other : Artifact) : Prop :=
    List.Forall₂ RespelledClass artifact.classes other.classes

/-! ## Names -/

def spelledSignature (owner : String) (method : NamedMethod) : String :=
    owner ++ "." ++ method.name ++ "(" ++ ", ".intercalate method.entry.arguments ++ "):" ++
      method.entry.returnType

structure RespelledNamedMethod (owner : String) (method other : NamedMethod) : Prop where
  entry : RespelledMethod method.entry other.entry
  name : method.name = other.name
  signature : method.signature = spelledSignature owner method
  otherSignature : other.signature = spelledSignature owner other

structure RespelledNamedClass (c other : NamedClass) : Prop where
  entry : RespelledClass c.entry other.entry
  package : c.package = other.package
  name : c.name = other.name
  methods : List.Forall₂ (RespelledNamedMethod c.fullName) c.methods other.methods

theorem RespelledNamedClass.fullName {c other : NamedClass}
    (respelled : RespelledNamedClass c other) : c.fullName = other.fullName := by
  rw [NamedClass.fullName, NamedClass.fullName, respelled.package, respelled.name]

theorem respelled_nameMethods {options : LoadOptions} {owner : String}
    {entries others : List MethodEntry} (respelled : List.Forall₂ RespelledMethod entries others)
    (count : Nat) :
    List.Forall₂ (RespelledNamedMethod owner) (nameMethods options owner count entries).1
      (nameMethods options owner count others).1 ∧
        (nameMethods options owner count entries).2 =
          (nameMethods options owner count others).2 := by
  induction respelled generalizing count with
  | nil => exact ⟨.nil, rfl⟩
  | @cons entry other entries others same _ ih =>
      simp only [nameMethods, nameMethod, same.name]
      obtain ⟨later, counted⟩ := ih (rename options methodNames count other.name).2
      exact ⟨.cons ⟨same, rfl, rfl, rfl⟩ later, counted⟩

theorem respelled_nameClasses {options : LoadOptions} {entries others : List ClassEntry}
    (respelled : List.Forall₂ RespelledClass entries others) (count : Nat) :
    List.Forall₂ RespelledNamedClass (nameClasses options count entries)
      (nameClasses options count others) := by
  induction respelled generalizing count with
  | nil => exact .nil
  | @cons entry other entries others same _ ih =>
      have named : RespelledNamedClass (nameClass options count entry).1
          (nameClass options count other).1 ∧
            (nameClass options count entry).2 = (nameClass options count other).2 := by
        simp only [nameClass, same.fullName]
        obtain ⟨methods, counted⟩ := respelled_nameMethods same.methods _
        exact ⟨⟨same, rfl, rfl, methods⟩, counted⟩
      have later : List.Forall₂ RespelledNamedClass
          (nameClasses options (nameClass options count entry).2 entries)
          (nameClasses options (nameClass options count other).2 others) := by
        rw [named.2]
        exact ih _
      exact .cons named.1 later

theorem Respelled.built {artifact other : Artifact} (respelled : Respelled artifact other)
    {options : LoadOptions} {source otherSource : String} {image : Image}
    (built : Image.build artifact options source = .ok image) :
    ∃ otherImage, Image.build other options otherSource = .ok otherImage := by
  obtain ⟨distinct, -⟩ := build_eq_ok_iff.mp built
  have names : List.Forall₂ (· = ·)
      ((nameClasses options 0 artifact.classes).map NamedClass.fullName)
      ((nameClasses options 0 other.classes).map NamedClass.fullName) := by
    rw [List.forall₂_map_left_iff, List.forall₂_map_right_iff]
    exact (respelled_nameClasses respelled 0).imp fun _ _ => (·.fullName)
  rw [List.forall₂_eq_eq_eq] at names
  exact ⟨_, build_eq_ok_iff.mpr ⟨names ▸ distinct, rfl⟩⟩

/-! ## Texts -/

/-- What is not blank and follows one text after as many characters other than blanks as it does
another is at the same place. -/
theorem eq_of_cut {front other rest later : List Char} {c d : Char} (ink : isBlank c = false)
    (otherInk : isBlank d = false) (counts : (inked front).length = (inked other).length)
    (whole : front ++ c :: rest = other ++ d :: later) : front = other ∧ rest = later := by
  have longer {short long more : List Char} {c : Char} (ink : isBlank c = false)
      (parts : long = short ++ c :: more) : (inked short).length < (inked long).length := by
    have kept : inked (c :: more) = c :: inked more := List.filter_cons_of_pos (by simp [ink])
    rw [parts, inked_append, kept]
    simp
  rcases List.append_eq_append_iff.mp whole with ⟨middle, parts, tail⟩ | ⟨middle, parts, tail⟩
  · cases middle with
    | nil =>
        rw [List.append_nil] at parts
        exact ⟨parts.symm, (List.cons.inj tail).2⟩
    | cons e more =>
        obtain ⟨rfl, -⟩ := List.cons.inj tail
        exact absurd counts (Nat.ne_of_lt (longer ink parts))
  · cases middle with
    | nil =>
        rw [List.append_nil] at parts
        exact ⟨parts, (List.cons.inj tail).2.symm⟩
    | cons e more =>
        obtain ⟨rfl, -⟩ := List.cons.inj tail
        exact absurd counts.symm (Nat.ne_of_lt (longer otherInk parts))

def SameInk (s t : String) : Prop :=
    (inked s.toList).length = (inked t.toList).length

theorem eq_of_listed {ss ts : List String} (ink : List.Forall₂ SameInk ss ts)
    {rest later : List Char}
    (whole : (", ".intercalate ss).toList ++ ')' :: rest =
      (", ".intercalate ts).toList ++ ')' :: later) : ss = ts ∧ rest = later := by
  induction ink with
  | nil => exact ⟨rfl, (List.cons.inj whole).2⟩
  | @cons s t ss ts here others ih =>
      cases others with
      | nil =>
          rw [String.intercalate_singleton, String.intercalate_singleton] at whole
          obtain ⟨same, tail⟩ := eq_of_cut (by decide) (by decide) here whole
          rw [String.toList_injective same]
          exact ⟨rfl, tail⟩
      | @cons u v _ _ _ _ =>
          rw [String.intercalate_cons_of_ne_nil (List.cons_ne_nil _ _),
            String.intercalate_cons_of_ne_nil (List.cons_ne_nil _ _)] at whole
          simp only [String.toList_append, List.append_assoc] at whole
          obtain ⟨same, tail⟩ := eq_of_cut (by decide) (by decide) here whole
          obtain ⟨sameRest, tail⟩ := ih (List.cons.inj tail).2
          rw [String.toList_injective same, sameRest]
          exact ⟨rfl, tail⟩

theorem SameType.ink {spelling other : String} (same : SameType spelling other) :
    SameInk spelling other := by
  obtain ⟨depth, base, peels, others⟩ := same
  rw [SameInk, peels.inked, others.inked]

theorem SameType.trimmed_ink {spelling other : String} (same : SameType spelling other) :
    SameInk (trimmed spelling) (trimmed other) := by
  have ink : (inked spelling.toList).length = (inked other.toList).length := same.ink
  rw [SameInk, trimmed, trimmed, String.toList_ofList, String.toList_ofList, inked_strip,
    inked_strip, ink]

theorem sameInk_trimmed {ss ts : List String} (same : List.Forall₂ SameType ss ts) :
    List.Forall₂ SameInk (ss.map trimmed) (ts.map trimmed) := by
  rw [List.forall₂_map_left_iff, List.forall₂_map_right_iff]
  exact same.imp fun _ _ => (·.trimmed_ink)

theorem signature_eq_iff {owner : String} {method other : NamedMethod}
    (respelled : RespelledNamedMethod owner method other) :
    method.signature = other.signature ↔ method.entry.arguments = other.entry.arguments ∧
      method.entry.returnType = other.entry.returnType := by
  rw [respelled.signature, respelled.otherSignature]
  constructor
  · intro same
    have texts := congrArg String.toList same
    simp only [spelledSignature, respelled.name, String.toList_append, List.append_assoc,
      List.append_cancel_left_eq] at texts
    obtain ⟨arguments, tail⟩ :=
      eq_of_listed (respelled.entry.arguments.imp fun _ _ => (·.ink)) texts
    exact ⟨arguments, String.toList_injective (List.cons.inj tail).2⟩
  · rintro ⟨arguments, returnType⟩
    rw [spelledSignature, spelledSignature, respelled.name, arguments, returnType]

/-! ## Default bodies -/

theorem Peels.of_primitive {spelling : String} (isWord : isPrimitive spelling = true) :
    Peels spelling.toList 0 spelling.toList := by
  have every : ∀ word ∈ primitiveWords,
      strip word.toList = word.toList ∧ elementOf? word.toList = none := by
    decide +kernel
  obtain ⟨shown, bare⟩ := every spelling ((isPrimitive_iff spelling).mp isWord)
  have peels : Peels spelling.toList 0 (strip spelling.toList) :=
    .bare (elementOf?_eq_none.mp (by rw [shown, bare]))
  rwa [shown] at peels

theorem SameType.eq_of_primitive {spelling other : String} (same : SameType spelling other)
    (isWord : isPrimitive spelling = true) (otherWord : isPrimitive other = true) :
    spelling = other := by
  obtain ⟨depth, base, peels, others⟩ := same
  have base_eq := (peels.unique (.of_primitive isWord)).2
  have other_eq := (others.unique (.of_primitive otherWord)).2
  exact String.toList_injective (base_eq.symm.trans other_eq)

theorem defaultBody_special {entry : MethodEntry}
    (special : entry.name = constructorName ∨ entry.name = initializerName) :
    defaultBody entry = [] := by
  rw [defaultBody, if_pos]
  simpa [or_assoc] using Or.inr special

theorem defaultBody_null_iff {entry : MethodEntry}
    (usual : ¬(entry.name = constructorName ∨ entry.name = initializerName)) :
    defaultBody entry = ["return null;"] ↔ isPrimitive entry.returnType = false := by
  rw [not_or] at usual
  unfold defaultBody
  simp only [usual.1, usual.2, decide_false, Bool.or_false, decide_eq_true_eq]
  by_cases isVoid : entry.returnType = "void"
  case pos =>
      rw [if_pos isVoid, isVoid]
      decide
  case neg =>
      rw [if_neg isVoid]
      by_cases isBoolean : entry.returnType = "boolean"
      case pos =>
          rw [if_pos isBoolean, isBoolean]
          decide
      case neg =>
          rw [if_neg isBoolean]
          cases isPrimitive entry.returnType <;> decide

/-- Two methods have one default body exactly if they have none by their name, or if both return
types or none is spelled as a primitive word. -/
theorem defaultBody_eq_iff {entry other : MethodEntry} (respelled : RespelledMethod entry other) :
    defaultBody entry = defaultBody other ↔
      entry.name = constructorName ∨ entry.name = initializerName ∨
        isPrimitive entry.returnType = isPrimitive other.returnType := by
  rw [← or_assoc]
  by_cases special : entry.name = constructorName ∨ entry.name = initializerName
  case pos =>
      have otherSpecial := respelled.name ▸ special
      rw [defaultBody_special special, defaultBody_special otherSpecial]
      simp [special]
  case neg =>
      have null := defaultBody_null_iff special
      have otherNull := defaultBody_null_iff (respelled.name ▸ special)
      simp only [special, false_or]
      constructor
      · intro same
        rw [same] at null
        rw [Bool.eq_iff_iff, ← not_iff_not, Bool.not_eq_true, Bool.not_eq_true, ← null, ← otherNull]
      · intro same
        cases isWord : isPrimitive entry.returnType with
        | false => rw [null.mpr isWord, otherNull.mpr (same.symm.trans isWord)]
        | true =>
            have spelled := respelled.returnType.eq_of_primitive isWord (same.symm.trans isWord)
            rw [defaultBody, defaultBody, spelled, respelled.name]

end Image

end DexBrowser

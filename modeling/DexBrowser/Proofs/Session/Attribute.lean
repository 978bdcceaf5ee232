import DexBrowser.Proofs.Session.HandleUse

/-!
The attributes of handles and what reading them gives. Main statements: reading an attribute keeps
what the use of the handle's load keeps, and every handle that it gives belongs to that load.
-/

namespace DexBrowser.Session

open Managed Session.Action

inductive Attribute where
  | name
  | fullName
  | line
  | packageName
  | code
  | highlightedCode
  | access
  | methods
  | innerClasses
  | classes
  | returnType
  | arguments
  | isConstructor
  | isClassInit
  | declaringClass
  | isPrimitive
  | isArray
  | arrayRoot
  | primitiveType
  | longName
  | shortName
  | flag (test : AccessFlags → Bool)
  | managedClassName

inductive Answer where
  | text (s : String)
  | flag (b : Bool)
  | number (i : Int)
  | handles (hs : List Handle)

namespace Answer

def given : Answer → List Handle
  | handles hs => hs
  | _ => []

@[simp] theorem given_text (s : String) : (text s).given = [] := rfl

@[simp] theorem given_flag (b : Bool) : (flag b).given = [] := rfl

@[simp] theorem given_number (i : Int) : (number i).given = [] := rfl

@[simp] theorem given_handles (hs : List Handle) : (handles hs).given = hs := rfl

end Answer

namespace Attribute

def read (asked : Attribute) (h : Handle) : Action Answer :=
    match asked with
    | name => return .text (← h.name)
    | fullName => return .text (← h.fullName)
    | line => return .number (← h.line)
    | packageName => return .text (← h.packageName)
    | code => return .text (← h.code)
    | highlightedCode => return .text (← h.highlightedCode)
    | access => return .handles [← h.access]
    | methods => return .handles (← h.methods)
    | innerClasses => return .handles (← h.innerClasses)
    | classes => return .handles (← h.classes)
    | returnType => return .handles [← h.returnType]
    | arguments => return .handles (← h.arguments)
    | isConstructor => return .flag (← h.isConstructor)
    | isClassInit => return .flag (← h.isClassInit)
    | declaringClass => return .handles [← h.declaringClass]
    | isPrimitive => return .flag (← h.isPrimitive)
    | isArray => return .flag (← h.isArray)
    | arrayRoot => return .handles (← h.arrayRoot).toList
    | primitiveType => return .handles (← h.primitiveType).toList
    | longName => return .text (← h.longName)
    | shortName => return .text (← h.shortName)
    | flag test => return .flag (test h.flags)
    | managedClassName => return .text (← h.managedClassName)

/-- Reading the attribute calls the managed object. The flags were read when the handle was made,
and the class is known by its own name. -/
def callsManaged : Attribute → Bool
  | flag _ | managedClassName => false
  | _ => true

end Attribute

section Reading

variable {h : Handle} {host : Host} {holds : Workspace → Prop} {bad : Fault → Prop}

theorem Usable.respects_askText (use : Usable (World.originOf h) host holds bad) {name : String}
    (other : name ≠ Load.closeMember) : (h.askText name : Action String).Respects holds bad :=
  keeps_bind (use.wordable_invoke other) fun _ wordable => use.respects_written wordable

theorem Usable.respects_fullName (use : Usable (World.originOf h) host holds bad) :
    (h.fullName : Action String).Respects holds bad :=
  use.respects_askText (by decide)

theorem Usable.respects_askFlag (use : Usable (World.originOf h) host holds bad) {name : String}
    (other : name ≠ Load.closeMember) : (h.askFlag name : Action Bool).Respects holds bad :=
  keeps_bind (use.respects_invoke other) fun _ _ => respects_pure _

theorem Usable.respects_name (use : Usable (World.originOf h) host holds bad) :
    (h.name : Action String).Respects holds bad := by
  unfold Handle.name
  split
  · exact keeps_bind use.respects_fullName fun _ _ => respects_pure _
  · exact use.respects_askText (by decide)

theorem Usable.respects_line (use : Usable (World.originOf h) host holds anyFault) :
    (h.line : Action Int).Respects holds anyFault := by
  refine keeps_bind (use.respects_invoke (by decide)) fun answered _ => ?_
  split
  · exact respects_pure _
  · exact keeps_bind (respects_ofExcept _) fun _ _ => respects_pure _

theorem Usable.respects_code (use : Usable (World.originOf h) host holds bad) :
    (h.code : Action String).Respects holds bad := by
  refine keeps_bind (use.wordable_invoke (by decide)) fun answered wordable => ?_
  split
  · exact respects_pure _
  · exact use.respects_written wordable

/-- The flags of an access view are numbers read from text at times, so that making one may fail in
other ways too. -/
theorem Usable.keeps_makeAccess {origin : LoadId} (use : Usable origin host holds anyFault)
    (target : Value) :
    (Handle.make origin.load .access target : Action Handle).Keeps holds
      (fun h => h.Of origin host ∧ h.kind = .access ∧ h.target = target) anyFault := by
  refine keeps_bind (use.keeps_bare .access target) fun made ⟨of, kind, same⟩ => ?_
  have own := of.origin
  subst own
  refine keeps_bind (use.respects_invoke (by decide)) fun raw _ => ?_
  exact keeps_bind (respects_ofExcept _) fun _ _ => keeps_pure
    ⟨⟨rfl, of.reflected, of.object⟩, kind, same⟩

theorem Usable.keeps_makeOther {origin : LoadId} (use : Usable origin host holds bad)
    {kind : Kind} (other : kind ≠ .access) (target : Value) :
    (Handle.make origin.load kind target : Action Handle).Keeps holds
      (fun h => h.Of origin host ∧ h.kind = kind ∧ h.target = target) bad := by
  refine keeps_bind (use.keeps_bare kind target) fun made facts => ?_
  rw [if_neg other]
  exact keeps_pure facts

theorem Usable.keeps_make {origin : LoadId} (use : Usable origin host holds anyFault)
    (kind : Kind) (target : Value) :
    (Handle.make origin.load kind target : Action Handle).Keeps holds
      (fun h => h.Of origin host ∧ h.kind = kind ∧ h.target = target) anyFault := by
  by_cases access : kind = .access
  · subst access
    exact use.keeps_makeAccess target
  · exact use.keeps_makeOther access target

theorem Usable.keeps_askAll (use : Usable (World.originOf h) host holds anyFault) (kind : Kind)
    {name : String} (other : name ≠ Load.closeMember) {good : Value → Prop}
    (answered : ∀ workspace load readers v, holds workspace →
      workspace.state.loads[h.load]? = some load →
      load.answer readers h.target name [] = .ok v → good v) :
    (h.askAll kind name : Action (List Handle)).Keeps holds
      (fun hs => ∀ made ∈ hs, made.Of (World.originOf h) host ∧ made.kind = kind ∧
        ∃ v targets, good v ∧ itemsOf v = .ok targets ∧ made.target ∈ targets) anyFault := by
  refine keeps_bind (use.keeps_invoke other answered) fun v fine => ?_
  have items : (Action.ofExcept (itemsOf v)).Keeps holds (itemsOf v = .ok ·) anyFault :=
    keeps_ofExcept <| by
      cases itemsOf v with
      | ok targets => rfl
      | error fault => trivial
  refine keeps_bind items fun targets listed => ?_
  refine keeps_mapM fun target member => ?_
  refine (use.keeps_make kind target).mono (fun made facts => ?_) fun _ any => any
  obtain ⟨of, isKind, same⟩ := facts
  exact ⟨of, isKind, v, targets, fine, listed, same ▸ member⟩

theorem Usable.keeps_made {origin : LoadId} (use : Usable origin host holds anyFault) (kind : Kind)
    (target : Value) :
    (Handle.make origin.load kind target : Action Handle).Keeps holds (·.Of origin host) anyFault :=
  (use.keeps_make kind target).mono (fun _ made => made.1) fun _ any => any

/-! ## Handles that are read off handles -/

section Made

variable {good : Handle → Prop} (use : Usable (World.originOf h) host holds anyFault)
  (make : ∀ kind target,
    (Handle.make h.load kind target : Action Handle).Keeps holds good anyFault)

include use make

theorem Usable.keeps_askOne (kind : Kind) {name : String} (other : name ≠ Load.closeMember) :
    (h.askOne kind name : Action Handle).Keeps holds good anyFault :=
  keeps_bind (use.respects_invoke other) fun v _ => make kind v

theorem Usable.keeps_askEach (kind : Kind) {name : String} (other : name ≠ Load.closeMember) :
    (h.askAll kind name : Action (List Handle)).Keeps holds (fun hs => ∀ made ∈ hs, good made)
      anyFault := by
  refine keeps_bind (use.respects_invoke other) fun v _ => ?_
  exact keeps_bind (respects_ofExcept _) fun targets _ => keeps_mapM fun v _ => make kind v

theorem Usable.keeps_askOptional (kind : Kind) {name : String} (other : name ≠ Load.closeMember) :
    (h.askOptional kind name : Action (Option Handle)).Keeps holds
      (fun found => ∀ made ∈ found, good made) anyFault := by
  refine keeps_bind (use.respects_invoke other) fun v _ => ?_
  split
  · exact keeps_pure (by simp)
  · exact keeps_bind (make kind v) fun made fine => keeps_pure (by simpa using fine)

theorem Usable.keeps_arrayRoot :
    (h.arrayRoot : Action (Option Handle)).Keeps holds (fun found => ∀ made ∈ found, good made)
      anyFault := by
  refine keeps_bind (use.respects_askFlag (by decide)) fun isArray _ => ?_
  split
  · exact use.keeps_askOptional make .argType (by decide)
  · exact keeps_pure (by simp)

/-- Whatever is read, what is known of all handles that are made is known of those that it gives. -/
theorem Usable.keeps_readMade (asked : Attribute) :
    (asked.read h).Keeps holds (fun answer => ∀ made ∈ answer.given, good made) anyFault := by
  cases asked with
  | name => exact keeps_bind use.respects_name fun _ _ => keeps_pure (by simp)
  | line => exact keeps_bind use.respects_line fun _ _ => keeps_pure (by simp)
  | code => exact keeps_bind use.respects_code fun _ _ => keeps_pure (by simp)
  | highlightedCode =>
      have shown : (h.highlightedCode : Action String).Respects holds anyFault :=
        keeps_bind use.respects_code fun _ _ => respects_pure _
      exact keeps_bind shown fun _ _ => keeps_pure (by simp)
  | fullName | packageName | longName | shortName =>
      exact keeps_bind (use.respects_askText (by decide)) fun _ _ => keeps_pure (by simp)
  | isConstructor | isClassInit | isPrimitive | isArray =>
      exact keeps_bind (use.respects_askFlag (by decide)) fun _ _ => keeps_pure (by simp)
  | access =>
      refine keeps_bind (use.keeps_askOne make .access ?_) fun _ fine =>
        keeps_pure (by simpa using fine)
      split <;> decide
  | returnType | declaringClass =>
      exact keeps_bind (use.keeps_askOne make _ (by decide)) fun _ fine =>
        keeps_pure (by simpa using fine)
  | methods | innerClasses | classes | arguments =>
      exact keeps_bind (use.keeps_askEach make _ (by decide)) fun _ fine => keeps_pure fine
  | arrayRoot =>
      exact keeps_bind (use.keeps_arrayRoot make) fun _ fine => keeps_pure (by simpa using fine)
  | primitiveType =>
      exact keeps_bind (use.keeps_askOptional make _ (by decide)) fun _ fine =>
        keeps_pure (by simpa using fine)
  | flag test => exact keeps_pure (by simp)
  | managedClassName =>
      exact keeps_bind use.respects_managedClassName fun _ _ => keeps_pure (by simp)

end Made

theorem Usable.keeps_read (use : Usable (World.originOf h) host holds anyFault)
    (asked : Attribute) :
    (asked.read h).Keeps holds
      (fun answer => ∀ made ∈ answer.given, made.Of (World.originOf h) host) anyFault :=
  use.keeps_readMade use.keeps_made asked

end Reading

end DexBrowser.Session

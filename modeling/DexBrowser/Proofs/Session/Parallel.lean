import DexBrowser.Proofs.Managed.Blindness
import DexBrowser.Proofs.Session.Requests
import DexBrowser.Proofs.Session.Rows
import DexBrowser.Proofs.Session.Searching

/-!
Actions that run in parallel: two actions of which one does to one session what the other does to
another. What handles tell is proved to run in parallel from a few rules, which say so of single
steps. Main statements: whatever is read, shown, hashed, compared or saved through handles that
correspond to each other runs in parallel, and so do overviews.
-/

namespace DexBrowser.Managed.Load

/-! ## Calls through handles -/

/-- One member at most is run, through a handle, and nobody waits. Only objects are seen. -/
structure IsCall (step : Nat → Load → Except Fault α × Load) : Prop where
  blind : ∀ readers, Blind (step readers)
  effect : ∀ readers load, (step readers load).2 = load ∨
    ∃ target name, (step readers load).2 = load.record true readers target name
  fine : ∀ readers load, (step readers load).1 ≠ .error .wouldWait

theorem blamed_ne_wouldWait {fault : Fault} (blamed : Blamed fault) : fault ≠ .wouldWait := by
  rcases blamed with ⟨cause, rfl⟩ | unshown
  · simp
  · cases unshown <;> simp

theorem blame_ne_wouldWait {owner : Except Fault String} (cause : String → ManagedCause)
    (fails : ∀ fault, owner = .error fault → fault.IsUnshown) : blame owner cause ≠ .wouldWait :=
  blamed_ne_wouldWait (blamed_blame cause fails)

theorem notObject_ne_wouldWait (load : Load) (target : Value) :
    blame (load.shown target) .notObject ≠ .wouldWait :=
  blame_ne_wouldWait _ fun _ failed => load.shown_fails failed

theorem written_ne_wouldWait (load : Load) (v : Value) : load.written v ≠ .error .wouldWait := by
  intro waits
  exact blamed_ne_wouldWait (.inr (load.written_fails waits)) rfl

theorem answer_ne_wouldWait (load : Load) (readers : Nat) (target : Value) (name : String)
    (arguments : List Value) : load.answer readers target name arguments ≠ .error .wouldWait := by
  intro waits
  exact blamed_ne_wouldWait (answer_blamed waits) rfl

theorem toWhole_ne_wouldWait (v : Value) : toWhole v ≠ .error .wouldWait := by
  unfold toWhole
  split
  case h_3 x => split <;> simp
  case h_4 s => split <;> simp
  all_goals simp

theorem readFlags_ne_wouldWait (i : Int) : AccessFlags.read i ≠ .error .wouldWait := by
  unfold AccessFlags.read
  dsimp only
  split <;> simp

theorem itemsOf_ne_wouldWait (v : Value) : itemsOf v ≠ .error .wouldWait := by
  unfold itemsOf
  split
  · simp
  · split <;> simp

theorem bind_ne_wouldWait {outcome : Except Fault α} {next : α → Except Fault β}
    (fine : outcome ≠ .error .wouldWait) (nextFine : ∀ a, next a ≠ .error .wouldWait) :
    outcome.bind next ≠ .error .wouldWait := by
  cases outcome with
  | ok a => exact nextFine a
  | error fault => simpa [Except.bind] using fine

theorem map_ne_wouldWait {outcome : Except Fault α} (f : α → β)
    (fine : outcome ≠ .error .wouldWait) : outcome.map f ≠ .error .wouldWait := by
  cases outcome with
  | ok a => simp [Except.map]
  | error fault => simpa [Except.map] using fine

theorem isCall_invoke (target : Value) (name : String) (arguments : List Value) :
    IsCall fun readers load => load.invoke true readers target name arguments where
  blind readers := blind_invoke true readers target name arguments
  effect _ _ := .inr ⟨target, name, rfl⟩
  fine readers load := load.answer_ne_wouldWait readers target name arguments

theorem isCall_toText (target : Value) :
    IsCall fun readers load => load.toText true readers target where
  blind readers := blind_toText true readers target
  effect readers load := by
    simp only [toText, invoke]
    split
    · exact .inr ⟨target, "toString", rfl⟩
    · split
      · exact .inl rfl
      · split
        · exact .inr ⟨target, "toString", rfl⟩
        · exact .inl rfl
  fine readers load := by
    have called (owner : Except Fault String)
        (fails : ∀ fault, owner = .error fault → fault.IsUnshown) (later : Load) :
        (load.answer readers target "toString" []).bind (fun v =>
          if v.isNull then .error (blame owner .nullText) else later.written v) ≠
            .error .wouldWait := by
      refine bind_ne_wouldWait (load.answer_ne_wouldWait _ _ _ _) fun v => ?_
      split
      · simpa using blame_ne_wouldWait _ fails
      · exact later.written_ne_wouldWait v
    simp only [toText, invoke]
    split
    · exact called _ (fun _ failed => load.owner_fails failed) _
    · split
      · simpa using load.notObject_ne_wouldWait target
      · split
        · exact called _ (fun _ impossible => by contradiction) _
        · simp

theorem isCall_hashCode (target : Value) :
    IsCall fun readers load => load.hashCode true readers target where
  blind readers := blind_hashCode true readers target
  effect readers load := by
    simp only [hashCode, invoke]
    split
    · exact .inr ⟨target, "hashCode", rfl⟩
    · split
      · exact .inl rfl
      · split
        · exact .inr ⟨target, "hashCode", rfl⟩
        · exact .inl rfl
        · split <;> exact .inl rfl
  fine readers load := by
    have called : (load.answer readers target "hashCode" []).bind
        (fun v => (toWhole v).map HashCode.number) ≠ .error .wouldWait :=
      bind_ne_wouldWait (load.answer_ne_wouldWait _ _ _ _)
        fun v => map_ne_wouldWait _ (toWhole_ne_wouldWait v)
    simp only [hashCode, invoke]
    split
    · exact called
    · split
      · simpa using load.notObject_ne_wouldWait target
      · split
        · exact called
        · simp
        · split <;> simp

theorem isCall_equals (target other : Value) :
    IsCall fun readers load => load.equals true readers target other where
  blind readers := blind_equals true readers target other
  effect readers load := by
    simp only [equals, invoke]
    split
    · exact .inr ⟨target, "equals", rfl⟩
    · split
      · exact .inl rfl
      · split
        · exact .inr ⟨target, "equals", rfl⟩
        · exact .inl rfl
  fine readers load := by
    have called : (load.answer readers target "equals" [other]).map Value.isTrue ≠
        .error .wouldWait := map_ne_wouldWait _ (load.answer_ne_wouldWait _ _ _ _)
    simp only [equals, invoke]
    split
    · exact called
    · split
      · simpa using load.notObject_ne_wouldWait target
      · split
        · exact called
        · simp

theorem identity_ne_wouldWait (load : Load) (target : Value) :
    load.identity target ≠ .error .wouldWait := by
  unfold identity
  split
  · split
    · simpa using load.notObject_ne_wouldWait target
    · simp
  · dsimp only
    split
    · simp
    · split
      · simp
      · exact toWhole_ne_wouldWait _

theorem isInstance_ne_wouldWait (load : Load) (target : Value) (className : String) :
    load.isInstance target className ≠ .error .wouldWait := by
  unfold isInstance
  split
  · simp
  · split
    · simp
    · split <;> simp

end DexBrowser.Managed.Load

namespace DexBrowser.Session

open Managed Session.Action

/-! ## Rules -/

/-- Two outcomes are related values, or one fault. -/
inductive Alike (related : α → β → Prop) : Except Fault α → Except Fault β → Prop
  | ok {a : α} {b : β} (same : related a b) : Alike related (.ok a) (.ok b)
  | error (fault : Fault) : Alike related (.error fault) (.error fault)

theorem alike_refl (outcome : Except Fault α) : Alike Eq outcome outcome := by
  cases outcome with
  | ok a => exact .ok rfl
  | error fault => exact .error fault

structure Handle.Twin (h g : Handle) : Prop where
  kind : h.kind = g.kind
  target : h.target = g.target
  reflected : h.reflected = g.reflected
  flags : h.flags = g.flags

/-- One call through a handle, if a check lets it pass. -/
def Handle.asking (h : Handle) (check : Except Fault Unit)
    (step : Nat → Load → Except Fault α × Load) : Action α :=
    shared h.load do
      h.checkAlive
      Action.ofExcept check
      onLoad h.load (step (← Remote.readers))

theorem Handle.asking_ok (h : Handle) (step : Nat → Load → Except Fault α × Load) :
    h.asking (.ok ()) step = shared h.load (do
      h.checkAlive
      onLoad h.load (step (← Remote.readers))) := by
  simp only [Handle.asking, Action.ofExcept, pure_bind]

/-- A new handle of an object, before its flags are read. -/
def Handle.issue (n : Nat) (kind : Kind) (target cls : Value) : Action Handle := do
    return ⟨(← state).seat, n, ← Handle.mint, kind, target, cls, ⟨0⟩⟩

/-- How actions of two sessions run in parallel, and which paths, loads and handles of theirs
correspond.
`Runs related first second` says of what the two come to that it is alike. -/
structure Parallel where
  SamePath : Path → Path → Prop
  SameLoad : Nat → Nat → Prop
  SameHandle : Handle → Handle → Prop
  Runs {α β : Type} : (α → β → Prop) → Action α → Action β → Prop
  twin {h g : Handle} : SameHandle h g → h.Twin g
  load {h g : Handle} : SameHandle h g → SameLoad h.load g.load
  flagged {h g : Handle} (flags : AccessFlags) : SameHandle h g →
    SameHandle { h with flags := flags } { g with flags := flags }
  given {α β : Type} {related : α → β → Prop} {one : Except Fault α} {other : Except Fault β} :
    Alike related one other → one ≠ .error .wouldWait →
      Runs related (Action.ofExcept one) (Action.ofExcept other)
  andThen {α β γ δ : Type} {related : α → β → Prop} {last : γ → δ → Prop} {first : Action α}
    {second : Action β} {next : α → Action γ} {other : β → Action δ} :
    Runs related first second → (∀ a b, related a b → Runs last (next a) (other b)) →
      Runs last (first >>= next) (second >>= other)
  caught {α β : Type} {related : α → β → Prop} {first : Action α} {second : Action β}
    {handler : ManagedCause → Action α} {other : ManagedCause → Action β} :
    Runs related first second → (∀ cause, Runs related (handler cause) (other cause)) →
      Runs related (catchManaged first handler) (catchManaged second other)
  asked {α : Type} {h g : Handle} {check : Except Fault Unit}
    {step : Nat → Load → Except Fault α × Load} :
    SameHandle h g → check ≠ .error .wouldWait → Load.IsCall step →
      Runs Eq (h.asking check step) (g.asking check step)
  looked {α : Type} {n m : Nat} {look : Load → Except Fault α} :
    SameLoad n m → Load.Blind (fun load => (look load, load)) →
      (∀ load, look load ≠ .error .wouldWait) →
        Runs Eq (onLoad n fun load => (look load, load)) (onLoad m fun load => (look load, load))
  classOf {n m : Nat} (target : Value) : SameLoad n m →
    Runs Eq (Remote.classOf n true target) (Remote.classOf m true target)
  className {n m : Nat} (cls : Value) : SameLoad n m →
    Runs Eq (Remote.className n true cls) (Remote.className m true cls)
  issued {n m : Nat} (kind : Kind) (target cls : Value) : SameLoad n m →
    Runs SameHandle (Handle.issue n kind target cls) (Handle.issue m kind target cls)

namespace Parallel

variable {walk : Parallel} {α β γ δ : Type}

theorem value {related : α → β → Prop} {a : α} {b : β} (same : related a b) :
    walk.Runs related (pure a) (pure b) :=
  walk.given (.ok same) (by simp)

theorem failed {related : α → β → Prop} {fault : Fault} (fine : fault ≠ .wouldWait) :
    walk.Runs related (fail fault) (fail fault) :=
  walk.given (.error fault) (by simpa using fine)

theorem mono {related last : α → β → Prop} {first : Action α} {second : Action β}
    (runs : walk.Runs related first second) (weaker : ∀ a b, related a b → last a b) :
    walk.Runs last first second := by
  have ended := walk.andThen runs fun a b same => value (weaker a b same)
  rwa [bind_pure, bind_pure] at ended

theorem onward {last : γ → δ → Prop} {first second : Action α} {next : α → Action γ}
    {other : α → Action δ} (runs : walk.Runs Eq first second)
    (nextRuns : ∀ a, walk.Runs last (next a) (other a)) :
    walk.Runs last (first >>= next) (second >>= other) :=
  walk.andThen runs fun a _ same => same ▸ nextRuns a

theorem mapM {inputs : α → β → Prop} {outputs : γ → δ → Prop} {first : α → Action γ}
    {second : β → Action δ} {xs : List α} {ys : List β} (all : List.Forall₂ inputs xs ys)
    (each : ∀ x y, inputs x y → walk.Runs outputs (first x) (second y)) :
    walk.Runs (List.Forall₂ outputs) (xs.mapM first) (ys.mapM second) := by
  induction all with
  | nil => exact value .nil
  | @cons x y xs ys same _ ih =>
      rw [List.mapM_cons, List.mapM_cons]
      refine walk.andThen (each x y same) fun a b here => ?_
      exact walk.andThen ih fun _ _ rest => value (.cons here rest)

/-! ## Calls -/

section Handles

variable {h g : Handle} (same : walk.SameHandle h g)

include same

theorem called {step : Nat → Load → Except Fault α × Load} (isCall : Load.IsCall step) :
    walk.Runs Eq (h.asking (.ok ()) step) (g.asking (.ok ()) step) :=
  walk.asked same (by simp) isCall

theorem invoke (name : String) : walk.Runs Eq (h.invoke name) (g.invoke name) := by
  have asked := called same (Load.isCall_invoke h.target name [])
  simp only [Handle.asking_ok] at asked
  rw [Handle.invoke, Handle.invoke, ← (walk.twin same).target]
  exact asked

theorem written (v : Value) :
    walk.Runs Eq (Remote.written h.load v) (Remote.written g.load v) := by
  exact walk.looked (walk.load same) (Load.blind_written v) fun load => load.written_ne_wouldWait v

theorem managedClassName : walk.Runs Eq h.managedClassName g.managedClassName := by
  rw [Handle.managedClassName, Handle.managedClassName, (walk.twin same).reflected]
  exact walk.className _ (walk.load same)

theorem fallbackText : walk.Runs Eq h.fallbackText g.fallbackText := by
  have named : walk.Runs Eq (catchManaged h.managedClassName fun _ => pure h.kind.name)
      (catchManaged g.managedClassName fun _ => pure g.kind.name) :=
    walk.caught (managedClassName same) fun _ => value (by rw [(walk.twin same).kind])
  have identified : walk.Runs Eq
      (catchManaged (Remote.identity h.load h.target) fun _ => Remote.address h.load h.target)
      (catchManaged (Remote.identity g.load g.target) fun _ =>
        Remote.address g.load g.target) := by
    rw [(walk.twin same).target]
    exact walk.caught (walk.looked (walk.load same) (Load.blind_identity _)
      fun load => load.identity_ne_wouldWait _) fun _ =>
        walk.looked (walk.load same) (Load.blind_address _) (by simp)
  refine onward named fun className => ?_
  refine onward identified fun identity => ?_
  exact value rfl

theorem toText : walk.Runs Eq h.toText g.toText := by
  have asked := called same (Load.isCall_toText h.target)
  simp only [Handle.asking_ok] at asked
  rw [Handle.toText, Handle.toText, ← (walk.twin same).target]
  exact walk.caught asked fun _ => fallbackText same

theorem inspect : walk.Runs Eq h.inspect g.inspect := by
  refine onward (toText same) fun text => ?_
  exact value (by rw [(walk.twin same).kind])

theorem hash : walk.Runs Eq h.hash g.hash := by
  have asked := called same (Load.isCall_hashCode h.target)
  simp only [Handle.asking_ok] at asked
  rw [Handle.hash, Handle.hash, ← (walk.twin same).target]
  exact asked

omit same in
theorem equals_eq (h : Handle) (peer : Handle.Peer) :
    h.equals peer = h.asking
      (if peer.alive then .ok () else .error (.managed (.stale peer.kind.name)))
      fun readers load => load.equals true readers h.target peer.value := by
  unfold Handle.equals Handle.asking
  cases peer.alive with
  | true => simp [Action.ofExcept, Remote.equals]
  | false => simp [Action.ofExcept, Remote.equals]

theorem equals (peer : Handle.Peer) : walk.Runs Eq (h.equals peer) (g.equals peer) := by
  rw [equals_eq, equals_eq, ← (walk.twin same).target]
  refine walk.asked same ?_ (Load.isCall_equals h.target peer.value)
  cases peer.alive <;> simp

end Handles

/-! ## Making handles -/

section Loads

variable {n m : Nat} (same : walk.SameLoad n m)

include same

theorem checkClass (kind : Kind) (target cls : Value) :
    walk.Runs Eq (Handle.checkClass n kind target cls) (Handle.checkClass m kind target cls) := by
  unfold Handle.checkClass
  cases kind.required? with
  | none => exact value rfl
  | some required =>
      have belongs := walk.looked same (Load.blind_isInstance target required)
        fun load => load.isInstance_ne_wouldWait target required
      refine onward belongs fun isInstance => ?_
      cases isInstance with
      | true => exact value rfl
      | false =>
          refine onward (walk.className cls same) fun name => ?_
          exact failed (by simp)

theorem bare (kind : Kind) (target : Value) :
    walk.Runs walk.SameHandle (Handle.bare n kind target none)
      (Handle.bare m kind target none) := by
  have made : walk.Runs walk.SameHandle
      (do
        let cls ← Remote.classOf n true target
        Handle.checkClass n kind target cls
        Handle.issue n kind target cls)
      (do
        let cls ← Remote.classOf m true target
        Handle.checkClass m kind target cls
        Handle.issue m kind target cls) := by
    refine onward (walk.classOf target same) fun cls => ?_
    exact walk.andThen (checkClass same kind target cls) fun _ _ _ =>
      walk.issued kind target cls same
  unfold Handle.bare
  cases target.isNull with
  | true =>
      have refused : walk.Runs Eq (fail (.managed (.nullReference kind.name)) : Action Unit)
          (fail (.managed (.nullReference kind.name))) := failed (by simp)
      exact walk.andThen refused fun _ _ _ => made
  | false => exact made

theorem make (kind : Kind) (target : Value) :
    walk.Runs walk.SameHandle (Handle.make n kind target) (Handle.make m kind target) := by
  refine walk.andThen (bare same kind target) fun h g made => ?_
  split
  · refine onward (invoke made "rawValue") fun raw => ?_
    refine onward (walk.given (alike_refl ((toWhole raw).bind AccessFlags.read)) ?_) ?_
    · exact Load.bind_ne_wouldWait (Load.toWhole_ne_wouldWait raw) fun i =>
        Load.readFlags_ne_wouldWait i
    intro flags
    exact value (walk.flagged _ made)
  · exact value made

end Loads

/-! ## Attributes -/

section Attributes

variable {h g : Handle} (same : walk.SameHandle h g)

include same

theorem askText (name : String) :
    walk.Runs Eq (h.askText name : Action String) (g.askText name) := by
  refine onward (invoke same name) fun v => ?_
  exact written same v

theorem askFlag (name : String) : walk.Runs Eq (h.askFlag name : Action Bool) (g.askFlag name) := by
  refine onward (invoke same name) fun v => ?_
  exact value rfl

theorem askOne (kind : Kind) (name : String) :
    walk.Runs walk.SameHandle (h.askOne kind name : Action Handle) (g.askOne kind name) := by
  refine onward (invoke same name) fun v => ?_
  exact make (walk.load same) kind v

theorem askAll (kind : Kind) (name : String) :
    walk.Runs (List.Forall₂ walk.SameHandle) (h.askAll kind name : Action (List Handle))
      (g.askAll kind name) := by
  refine onward (invoke same name) fun v => ?_
  refine onward (walk.given (alike_refl (itemsOf v)) (Load.itemsOf_ne_wouldWait v)) fun items => ?_
  have each : List.Forall₂ Eq items items := List.forall₂_same.mpr fun _ _ => rfl
  refine mapM each ?_
  rintro v _ rfl
  exact make (walk.load same) kind v

theorem askOptional (kind : Kind) (name : String) :
    walk.Runs (Option.Rel walk.SameHandle) (h.askOptional kind name : Action (Option Handle))
      (g.askOptional kind name) := by
  refine onward (invoke same name) fun v => ?_
  split
  · exact value .none
  · exact walk.andThen (make (walk.load same) kind v) fun _ _ made => value (.some made)

theorem name : walk.Runs Eq (h.name : Action String) g.name := by
  unfold Handle.name
  rw [(walk.twin same).kind]
  split
  · refine onward (askText same "getFullName") fun text => ?_
    exact value rfl
  · exact askText same "getName"

theorem line : walk.Runs Eq (h.line : Action Int) g.line := by
  refine onward (invoke same "getDecompiledLine") fun v => ?_
  split
  · exact value rfl
  · refine onward (walk.given (alike_refl (toWhole v)) (Load.toWhole_ne_wouldWait v)) fun line => ?_
    exact value rfl

theorem code : walk.Runs Eq (h.code : Action String) g.code := by
  refine onward (invoke same "getCode") fun v => ?_
  split
  · exact value rfl
  · exact written same v

theorem highlightedCode : walk.Runs Eq (h.highlightedCode : Action String) g.highlightedCode := by
  refine onward (code same) fun text => ?_
  exact value rfl

theorem access : walk.Runs walk.SameHandle (h.access : Action Handle) g.access := by
  unfold Handle.access
  rw [(walk.twin same).kind]
  exact askOne same .access _

theorem arrayRoot :
    walk.Runs (Option.Rel walk.SameHandle) (h.arrayRoot : Action (Option Handle)) g.arrayRoot := by
  refine onward (askFlag same "isArray") fun isArray => ?_
  split
  · exact askOptional same .argType "getArrayRootElement"
  · exact value .none

end Attributes

/-- Answers that are the same but for handles, which correspond. -/
inductive SameAnswer (walk : Parallel) : Answer → Answer → Prop
  | text (s : String) : SameAnswer walk (.text s) (.text s)
  | flag (b : Bool) : SameAnswer walk (.flag b) (.flag b)
  | number (i : Int) : SameAnswer walk (.number i) (.number i)
  | handles {hs gs : List Handle} (all : List.Forall₂ walk.SameHandle hs gs) :
      SameAnswer walk (.handles hs) (.handles gs)

theorem forall₂_toList {related : α → β → Prop} {one : Option α} {other : Option β}
    (same : Option.Rel related one other) : List.Forall₂ related one.toList other.toList := by
  cases same with
  | none => exact .nil
  | some same => exact .cons same .nil

theorem read {h g : Handle} (same : walk.SameHandle h g) (asked : Attribute) :
    walk.Runs walk.SameAnswer (asked.read h) (asked.read g) := by
  have text {first second : Action String} (runs : walk.Runs Eq first second) :
      walk.Runs walk.SameAnswer (do return .text (← first)) (do return .text (← second)) := by
    refine onward runs fun s => ?_
    exact value (.text s)
  have flag {first second : Action Bool} (runs : walk.Runs Eq first second) :
      walk.Runs walk.SameAnswer (do return .flag (← first)) (do return .flag (← second)) := by
    refine onward runs fun b => ?_
    exact value (.flag b)
  have one {first second : Action Handle} (runs : walk.Runs walk.SameHandle first second) :
      walk.Runs walk.SameAnswer (do return .handles [← first]) (do return .handles [← second]) :=
    walk.andThen runs fun _ _ made => value (.handles (.cons made .nil))
  have all {first second : Action (List Handle)}
      (runs : walk.Runs (List.Forall₂ walk.SameHandle) first second) :
      walk.Runs walk.SameAnswer (do return .handles (← first)) (do return .handles (← second)) :=
    walk.andThen runs fun _ _ made => value (.handles made)
  have optional {first second : Action (Option Handle)}
      (runs : walk.Runs (Option.Rel walk.SameHandle) first second) :
      walk.Runs walk.SameAnswer (do return .handles (← first).toList)
        (do return .handles (← second).toList) :=
    walk.andThen runs fun _ _ made => value (.handles (forall₂_toList made))
  cases asked with
  | name => exact text (name same)
  | fullName | packageName | longName | shortName => exact text (askText same _)
  | code => exact text (code same)
  | highlightedCode => exact text (highlightedCode same)
  | managedClassName => exact text (managedClassName same)
  | line =>
      refine onward (line same) fun i => ?_
      exact value (.number i)
  | access => exact one (access same)
  | returnType | declaringClass => exact one (askOne same _ _)
  | methods | innerClasses | classes | arguments => exact all (askAll same _ _)
  | arrayRoot => exact optional (arrayRoot same)
  | primitiveType => exact optional (askOptional same _ _)
  | isConstructor | isClassInit | isPrimitive | isArray => exact flag (askFlag same _)
  | flag test =>
      refine value ?_
      rw [(walk.twin same).flags]
      exact .flag _

/-! ## Searches -/

section Search

/-- What a session answers by its current input, in a shared section. -/
def looking (answer : Option Loaded → Except Fault α) : Action α :=
    inSection .shared do
      Action.ofExcept (answer (← state).current)

theorem searching_eq (answer : Loaded → Except Fault α) :
    searching answer = looking fun current => current.elim (.error .notLoaded) answer := by
  refine congrArg (inSection .shared) ?_
  simp only [requireLoaded, bind_assoc]
  refine bind_congr fun state => ?_
  cases state.current <;> rfl

/-- Inputs of corresponding places and loads, with corresponding handles by the same names. -/
structure SameInput (walk : Parallel) (one other : Loaded) : Prop where
  path : walk.SamePath one.path other.path
  options : one.options = other.options
  load : walk.SameLoad one.load other.load
  classes : List.Forall₂ (fun a b => a.1 = b.1 ∧ walk.SameHandle a.2 b.2) one.classes other.classes
  packages : List.Forall₂ (fun a b => a.1 = b.1 ∧ walk.SameHandle a.2 b.2) one.packages
    other.packages

/-- What goes by the current input runs in parallel, too. -/
structure Looks (walk : Parallel) : Prop where
  looking {α β : Type} {related : α → β → Prop} {one : Option Loaded → Except Fault α}
    {other : Option Loaded → Except Fault β} :
    (∀ c d, Option.Rel walk.SameInput c d → Alike related (one c) (other d)) →
      (∀ c, one c ≠ .error .wouldWait) → walk.Runs related (looking one) (looking other)
  told {α β : Type} {related : α → β → Prop} {tell : Option Loaded → α}
    {other : Option Loaded → β} :
    (∀ c d, Option.Rel walk.SameInput c d → related (tell c) (other d)) →
      walk.Runs related (do return tell (← state).current) (do return other (← state).current)

theorem rel_lookup {related : Handle → Handle → Prop} {xs ys : List (String × Handle)}
    (all : List.Forall₂ (fun a b => a.1 = b.1 ∧ related a.2 b.2) xs ys) (name : String) :
    Option.Rel related (xs.lookup name) (ys.lookup name) := by
  induction all with
  | nil => exact .none
  | @cons a b xs ys same _ ih =>
      obtain ⟨key, h⟩ := a
      obtain ⟨_, g⟩ := b
      obtain ⟨rfl, here⟩ := same
      simp only [List.lookup_cons]
      split
      · exact .some here
      · exact ih

theorem rel_isSome {related : α → β → Prop} {one : Option α} {other : Option β}
    (same : Option.Rel related one other) : one.isSome = other.isSome := by
  cases same <;> rfl

variable (looks : walk.Looks)

include looks

theorem isLoaded : walk.Runs Eq isLoaded isLoaded :=
  looks.told fun _ _ same => rel_isSome same

theorem currentInput :
    walk.Runs (Option.Rel fun one other => walk.SamePath one.1 other.1 ∧ one.2 = other.2)
      currentInput currentInput := by
  refine looks.told fun c d same => ?_
  cases same with
  | none => exact .none
  | some same => exact .some ⟨same.path, same.options⟩

theorem searching {related : α → β → Prop} {one : Loaded → Except Fault α}
    {other : Loaded → Except Fault β}
    (alike : ∀ c d, walk.SameInput c d → Alike related (one c) (other d))
    (fine : ∀ c, one c ≠ .error .wouldWait) :
    walk.Runs related (Session.searching one) (Session.searching other) := by
  rw [searching_eq, searching_eq]
  refine looks.looking ?_ ?_
  · intro c d same
    cases same with
    | none => exact .error _
    | some same => exact alike _ _ same
  · intro c
    cases c with
    | none => simp
    | some loaded => exact fine loaded

theorem handleNamed {part : Loaded → List (String × Handle)}
    (parts : ∀ c d, walk.SameInput c d →
      List.Forall₂ (fun a b => a.1 = b.1 ∧ walk.SameHandle a.2 b.2) (part c) (part d))
    {absent : Fault} (fine : absent ≠ .wouldWait) (name : String) :
    walk.Runs walk.SameHandle
      (Session.searching fun loaded => Session.handleNamed absent (part loaded) name)
      (Session.searching fun loaded => Session.handleNamed absent (part loaded) name) := by
  refine searching looks (fun c d same => ?_) fun c => ?_
  · unfold Session.handleNamed
    have found := rel_lookup (parts c d same) name
    generalize (part c).lookup name = one, (part d).lookup name = other at found ⊢
    cases found with
    | none => exact .error absent
    | some here => exact .ok here
  · unfold Session.handleNamed
    cases (part c).lookup name with
    | none => simpa using fine
    | some h => simp

theorem getClass (name : String) :
    walk.Runs walk.SameHandle (Session.getClass name) (Session.getClass name) := by
  rw [getClass_eq]
  exact handleNamed looks (fun _ _ same => same.classes) (by simp) _

theorem getPackage (name : String) :
    walk.Runs walk.SameHandle (Session.getPackage name) (Session.getPackage name) := by
  rw [getPackage_eq]
  exact handleNamed looks (fun _ _ same => same.packages) (by simp) _

theorem listed {part : Loaded → List (String × Handle)}
    (parts : ∀ c d, walk.SameInput c d →
      List.Forall₂ (fun a b => a.1 = b.1 ∧ walk.SameHandle a.2 b.2) (part c) (part d)) :
    walk.Runs (List.Forall₂ walk.SameHandle)
      (Session.searching fun loaded => .ok ((part loaded).map (·.2)))
      (Session.searching fun loaded => .ok ((part loaded).map (·.2))) := by
  refine searching looks (fun c d same => .ok ?_) (by simp)
  rw [List.forall₂_map_left_iff, List.forall₂_map_right_iff]
  exact (parts c d same).imp fun _ _ here => here.2

theorem allClasses :
    walk.Runs (List.Forall₂ walk.SameHandle) Session.allClasses Session.allClasses :=
  listed looks fun _ _ same => same.classes

theorem allPackages :
    walk.Runs (List.Forall₂ walk.SameHandle) Session.allPackages Session.allPackages :=
  listed looks fun _ _ same => same.packages

theorem search (asked : Search) :
    walk.Runs (List.Forall₂ walk.SameHandle) asked.run asked.run := by
  cases asked with
  | classes => exact allClasses looks
  | packages => exact allPackages looks
  | classNamed name =>
      exact walk.andThen (getClass looks name) fun _ _ same => value (.cons same .nil)
  | packageNamed name =>
      exact walk.andThen (getPackage looks name) fun _ _ same => value (.cons same .nil)

theorem hasClass (name : String) :
    walk.Runs Eq (Session.hasClass name) (Session.hasClass name) := by
  have known : Session.hasClass name = looking fun current => .ok <| current.any fun loaded =>
      (loaded.classes.lookup (ClassName.normalize name)).isSome := rfl
  rw [known]
  refine looks.looking (fun c d same => .ok ?_) (by simp)
  cases same with
  | none => rfl
  | some same => exact rel_isSome (rel_lookup same.classes _)

theorem hasPackage (name : String) :
    walk.Runs Eq (Session.hasPackage name) (Session.hasPackage name) := by
  have known : Session.hasPackage name = looking fun current => .ok <| current.any fun loaded =>
      (loaded.packages.lookup name).isSome := rfl
  rw [known]
  refine looks.looking (fun c d same => .ok ?_) (by simp)
  cases same with
  | none => rfl
  | some same => exact rel_isSome (rel_lookup same.packages _)

end Search

/-! ## Overviews -/

section Rows

variable {h g : Handle} (same : walk.SameHandle h g)

include same

theorem signature : walk.Runs Eq (Query.signature h : Action String) (Query.signature g) := by
  refine walk.andThen (askAll same .argType "getArguments") fun hs gs all => ?_
  have texts : walk.Runs (List.Forall₂ Eq) (hs.mapM fun a => a.toText)
      (gs.mapM fun a => a.toText) := mapM all fun _ _ here => toText here
  refine walk.andThen texts fun one other alike => ?_
  obtain rfl : one = other := List.forall₂_eq_eq_eq ▸ alike
  refine onward (name same) fun text => ?_
  exact value rfl

theorem classRow : walk.Runs Eq (Query.classRow h : Action Query.ClassRow) (Query.classRow g) := by
  refine onward (askText same "getFullName") fun fullName => ?_
  refine walk.andThen (askAll same .method "getMethods") fun hs gs all => ?_
  refine onward (line same) fun line => ?_
  exact value (by rw [all.length_eq])

theorem methodRow :
    walk.Runs Eq (Query.methodRow h : Action Query.MethodRow) (Query.methodRow g) := by
  refine walk.andThen (access same) fun access other view => ?_
  refine onward (toText view) fun accessText => ?_
  refine walk.andThen (askOne same .argType "getReturnType") fun type other type_same => ?_
  refine onward (toText type_same) fun typeText => ?_
  refine onward (signature same) fun text => ?_
  refine onward (line same) fun line => ?_
  exact value rfl

theorem methodDetail :
    walk.Runs Eq (Query.methodDetail h : Action Query.MethodDetail) (Query.methodDetail g) := by
  refine onward (name same) fun name => ?_
  refine onward (signature same) fun text => ?_
  refine walk.andThen (askOne same .argType "getReturnType") fun type other type_same => ?_
  refine onward (toText type_same) fun typeText => ?_
  refine onward (askFlag same "isConstructor") fun isConstructor => ?_
  refine onward (line same) fun line => ?_
  exact value rfl

omit same in
theorem rows {row : Handle → Action α} {hs gs : List Handle}
    (all : List.Forall₂ walk.SameHandle hs gs)
    (each : ∀ h g, walk.SameHandle h g → walk.Runs Eq (row h) (row g)) :
    walk.Runs Eq (hs.mapM row) (gs.mapM row) :=
  mono (mapM all each) fun _ _ alike => List.forall₂_eq_eq_eq ▸ alike

theorem classDetail :
    walk.Runs Eq (Query.classDetail h : Action Query.ClassDetail) (Query.classDetail g) := by
  refine walk.andThen (access same) fun access other view => ?_
  refine onward (askText same "getFullName") fun fullName => ?_
  refine onward (name same) fun name => ?_
  refine onward (askText same "getPackage") fun package => ?_
  refine onward (toText view) fun accessText => ?_
  refine onward (line same) fun line => ?_
  refine walk.andThen (askAll same .method "getMethods") fun hs gs all => ?_
  refine onward (rows all fun _ _ here => methodDetail here) fun methods => ?_
  exact value (by rw [(walk.twin view).flags])

end Rows

section Overviews

variable (looks : walk.Looks)

include looks

theorem classRows (package : Option String) (limit : Int) :
    walk.Runs Eq (Query.classes package limit : Action (List Query.ClassRow))
      (Query.classes package limit) := by
  have firstRows (hs gs : List Handle) (all : List.Forall₂ walk.SameHandle hs gs) :
      walk.Runs Eq ((Query.firstItems limit hs).mapM Query.classRow : Action (List Query.ClassRow))
        ((Query.firstItems limit gs).mapM Query.classRow) :=
    rows (Query.forall₂_firstItems all limit) fun _ _ here => classRow here
  by_cases whole : package = none ∨ package = some ""
  · rw [Query.classes_whole whole limit]
    exact walk.andThen (allClasses looks) firstRows
  · obtain ⟨some, named⟩ := not_or.mp whole
    obtain ⟨name, rfl⟩ := Option.ne_none_iff_exists'.mp some
    rw [Query.classes_named (fun same => named (congrArg _ same)) limit, ← getPackage_eq]
    exact walk.andThen (getPackage looks name) fun _ _ same =>
      walk.andThen (askAll same .classNode "getClasses") firstRows

theorem packageRows :
    walk.Runs Eq (Query.packages : Action (List Query.PackageRow)) Query.packages := by
  refine walk.andThen (allPackages looks) fun _ _ all => rows all fun h g here => ?_
  refine onward (askText here "getFullName") fun fullName => ?_
  exact walk.andThen (askAll here .classNode "getClasses") fun _ _ members =>
    value (by rw [members.length_eq])

theorem methodRows (className : String) :
    walk.Runs Eq (Query.methods className : Action (List Query.MethodRow))
      (Query.methods className) :=
  walk.andThen (getClass looks className) fun _ _ same =>
    walk.andThen (askAll same .method "getMethods") fun _ _ all =>
      rows all fun _ _ here => methodRow here

end Overviews

/-! ## Saving -/

section Saves

/-- Writing files and noting things down runs in parallel, too, and so do sections. -/
structure Saves (walk : Parallel) : Prop where
  shared {α β : Type} {related : α → β → Prop} {n m : Nat} {first : Action α} {second : Action β} :
    walk.SameLoad n m → walk.Runs related first second →
      walk.Runs related (shared n first) (shared m second)
  tryWrite (path : Path) (code : String) : walk.Runs Eq (tryWrite path code) (tryWrite path code)
  log (level : Level) (channel : Channel) (text : String) :
    walk.Runs Eq (log level channel text) (log level channel text)

variable (saves : walk.Saves)

include saves

theorem writeClass {h g : Handle} (same : walk.SameHandle h g) (path : Path) :
    walk.Runs Eq (h.writeClass path) (g.writeClass path) := by
  refine saves.shared (walk.load same) (onward (code same) fun code => ?_)
  refine onward (saves.tryWrite path code) fun failure => ?_
  dsimp only
  split
  · refine onward (askText same "getFullName") fun fullName => ?_
    exact onward (saves.log _ _ _) fun _ => value rfl
  · exact value rfl

theorem saveClass {h g : Handle} (same : walk.SameHandle h g) (path : Path) :
    walk.Runs Eq (h.saveClass path : Action Bool) (g.saveClass path) := by
  refine onward (writeClass saves same path) fun failure => ?_
  split
  · exact value rfl
  · refine onward (askText same "getFullName") fun fullName => ?_
    exact onward (saves.log _ _ _) fun _ => value rfl

/-- A package is saved in one section, its classes in one each, and these are read in sections. -/
theorem savePackage {h g : Handle} (same : walk.SameHandle h g) (directory : Path) :
    walk.Runs Eq (h.savePackage directory : Action Bool) (g.savePackage directory) := by
  have member (c d : Handle) (here : walk.SameHandle c d) :
      walk.Runs Eq (Handle.saveMember directory c) (Handle.saveMember directory d) := by
    refine onward (askText here "getFullName") fun fullName => ?_
    refine onward (saveClass saves here _) fun saved => ?_
    exact value rfl
  have members : walk.Runs Eq (h.saveMembers directory) (g.saveMembers directory) :=
    saves.shared (walk.load same) <|
      walk.andThen (askAll same .classNode "getClasses") fun _ _ all => rows all member
  refine onward members fun outcomes => ?_
  dsimp only
  split
  · exact value rfl
  · refine onward (askText same "getFullName") fun fullName => ?_
    exact onward (saves.log _ _ _) fun _ => value rfl

omit saves in
theorem toPath_ne_wouldWait (argument : Files.PathArgument) :
    argument.toPath ≠ .error .wouldWait := by
  cases argument with
  | other value =>
      refine Load.bind_ne_wouldWait (fun waits => ?_) (by simp)
      have unshown := Value.shown_fails (fun _ _ impossible => by contradiction) value _ waits
      exact Load.blamed_ne_wouldWait (.inr unshown) rfl
  | pathLike kind asked shown =>
      rcases asked with what | _ | _ | _ <;> cases shown <;> simp [Files.PathArgument.toPath]
  | _ => simp [Files.PathArgument.toPath]

theorem save {h g : Handle} (same : walk.SameHandle h g) (argument : Files.PathArgument) :
    walk.Runs Eq (h.save argument : Action Bool) (g.save argument) := by
  refine onward (walk.given (alike_refl _) (toPath_ne_wouldWait argument)) fun path => ?_
  rw [(walk.twin same).kind]
  split
  · exact savePackage saves same path
  · exact saveClass saves same path

end Saves

end Parallel

end DexBrowser.Session

import DexBrowser.Proofs.Session.History
import DexBrowser.Proofs.Text.HexNumbers

/-!
Handles of loads that were let go. Main statements: whatever asks the managed object through such a
handle is refused before anything is done, and its text is still given.
-/

namespace DexBrowser.Managed

namespace Load

/-- The engine can tell the object from others, or fails to on the managed side. A virtual machine
that answers with anything but a number would do neither. -/
def Identifies (load : Load) (target : Value) : Prop :=
    ∀ fault, load.identity target = .error fault → ∃ cause, fault = .managed cause

/-- The name of a class is told, or asking for it fails on the managed side. A virtual machine that
answers with what cannot be put as text would do neither. -/
def Names (load : Load) (cls : Value) : Prop :=
    ∀ readers fault, (load.className true readers cls).1 = .error fault →
      ∃ cause, fault = .managed cause

theorem identifies_object {load : Load} (memory : load.host = .memory) (id : ObjectId) :
    load.Identifies (.object id) := by
  intro fault failed
  unfold identity at failed
  rw [memory] at failed
  dsimp only at failed
  cases found : load.heap.object? id with
  | some object => simp [object?, found] at failed
  | none =>
      have shown : load.shown (.object id) = .ok "" := by
        simp [Load.shown, Value.shown, Heap.describe, found]
      simp only [object?, found, Option.map_none, shown, blame] at failed
      exact ⟨_, (Except.error.inj failed).symm⟩

theorem names_reflected {load : Load} (memory : load.host = .memory) (cls : ObjectClass) :
    load.Names (.reflected cls) := by
  intro readers fault failed
  simp [className, memory] at failed

theorem Asked.used {before after : Load} (asked : before.Asked after) : before.Used after := by
  cases asked with
  | nothing => exact Used.refl before
  | call byHandle readers target name other =>
      exact before.used_record byHandle readers target other

theorem Used.describe {before after : Load} (used : before.Used after) :
    after.heap.describe = before.heap.describe := by
  funext id
  simp only [Heap.describe, used.object?]

theorem Used.outside {before after : Load} (used : before.Used after) :
    after.heap.outside = before.heap.outside := by
  rw [used.heap]

theorem Used.address {before after : Load} (used : before.Used after) (target : Value) :
    after.address target = before.address target := by
  rw [Load.address, Load.address, used.outside]

theorem Used.identity {before after : Load} (used : before.Used after) (target : Value) :
    after.identity target = before.identity target := by
  have objects : after.object? target = before.object? target := by
    cases target with
    | object id => rw [Load.object?, Load.object?, used.object?]
    | _ => rfl
  have typeName : after.typeName target = before.typeName target := by
    simp only [Load.typeName, used.outside]
  simp only [Load.identity, used.host, objects, typeName, shown, used.describe, used.outside,
    used.address]

theorem className_memory {load : Load} (memory : load.host = .memory) (byHandle : Bool)
    (readers : Nat) (cls : Value) : (load.className byHandle readers cls).2 = load := by
  unfold className
  rw [memory]
  dsimp only
  split <;> rfl

end Load

end DexBrowser.Managed

namespace DexBrowser.Session

open Managed Session.Action

namespace Handle

def staleFault (h : Handle) : Fault :=
    .managed (.stale h.kind.name)

/-- The load of the handle was let go, and no one is about to change the session. -/
structure Stale (h : Handle) (workspace : Workspace) : Prop where
  dead : ∃ load, workspace.state.loads[h.load]? = some load ∧ load.alive = false
  free : workspace.state.lock.writer = false

/-- The action is refused to a stale handle, and leaves everything as it is. -/
def Refused (h : Handle) (action : Action α) : Prop :=
    ∀ workspace, h.Stale workspace → action.run workspace = (.error h.staleFault, workspace)

section Refused

variable {h : Handle}

theorem refused_bind {first : Action α} (refused : h.Refused first) (next : α → Action β) :
    h.Refused (first >>= next) := by
  intro workspace stale
  rw [run_bind, refused workspace stale]

theorem refused_checkAlive (h : Handle) : h.Refused h.checkAlive := by
  intro workspace stale
  obtain ⟨load, found, dead⟩ := stale.dead
  rw [checkAlive, run_bind_ok (run_loadAt found)]
  simp only [dead]
  rfl

theorem refused_shared {action : Action α} (refused : h.Refused action) :
    h.Refused (shared h.load action) := by
  intro workspace stale
  obtain ⟨load, found, dead⟩ := stale.dead
  exact run_shared_refused found stale.free fun lock free =>
    refused _ ⟨⟨load, found, dead⟩, free⟩

theorem refused_asked {action : Action α} : h.Refused (shared h.load (do h.checkAlive; action)) :=
  refused_shared (refused_bind (refused_checkAlive h) _)

theorem refused_invoke (name : String) : h.Refused (h.invoke name) :=
  refused_asked

theorem refused_askText (name : String) : h.Refused (h.askText name : Action String) :=
  refused_bind (refused_invoke name) _

theorem refused_fullName : h.Refused (h.fullName : Action String) :=
  refused_askText _

theorem refused_name : h.Refused (h.name : Action String) := by
  unfold Handle.name
  split
  · exact refused_bind refused_fullName _
  · exact refused_askText _

theorem refused_hash : h.Refused h.hash :=
  refused_asked

theorem refused_equals (other : Peer) : h.Refused (h.equals other) :=
  refused_asked

theorem refused_read {asked : Attribute} (calls : asked.callsManaged = true) :
    h.Refused (asked.read h) := by
  cases asked with
  | flag | managedClassName => contradiction
  | name => exact refused_bind refused_name _
  | fullName | packageName | longName | shortName => exact refused_bind (refused_askText _) _
  | line | code | access | methods | innerClasses | classes | returnType | arguments
  | isConstructor | isClassInit | declaringClass | isPrimitive | isArray | primitiveType =>
      exact refused_bind (refused_bind (refused_invoke _) _) _
  | highlightedCode =>
      exact refused_bind (refused_bind (refused_bind (refused_invoke _) _) _) _
  | arrayRoot =>
      exact refused_bind (refused_bind (refused_bind (refused_invoke _) _) _) _

theorem refused_save {argument : Files.PathArgument} {path : Path}
    (valid : argument.toPath = .ok path) : h.Refused (h.save argument : Action Bool) := by
  have code : h.Refused (h.code : Action String) := refused_bind (refused_invoke _) _
  have classes : h.Refused (h.classes : Action (List Handle)) := refused_bind (refused_invoke _) _
  have written : h.Refused (h.writeClass path) := refused_shared (refused_bind code _)
  have members : h.Refused (h.saveMembers path) := refused_shared (refused_bind classes _)
  have one : h.Refused (h.saveClass path : Action Bool) := refused_bind written _
  have all : h.Refused (h.savePackage path : Action Bool) := refused_bind members _
  intro workspace stale
  change (Action.ofExcept argument.toPath >>= fun path =>
    if h.kind = .package then h.savePackage path else h.saveClass path : Action Bool).run
      workspace = _
  rw [run_bind, valid, run_ofExcept]
  dsimp only
  split
  · exact all workspace stale
  · exact one workspace stale

theorem run_equals_stale {workspace : Workspace} {load : Load}
    (found : workspace.state.loads[h.load]? = some load)
    (free : workspace.state.lock.writer = false)
    {other : Peer} (dead : other.alive = false) :
    ∃ kind, (kind = h.kind ∨ kind = other.kind) ∧
      (h.equals other).run workspace = (.error (.managed (.stale kind.name)), workspace) := by
  cases alive : load.alive with
  | false =>
      exact ⟨h.kind, .inl rfl, refused_equals other workspace ⟨⟨load, found, alive⟩, free⟩⟩
  | true =>
      refine ⟨other.kind, .inr rfl, run_shared_refused found free fun lock _ => ?_⟩
      have checked : h.checkAlive.run (setLock (fun _ => lock) workspace) =
          (.ok (), setLock (fun _ => lock) workspace) := by
        rw [checkAlive, run_bind_ok (run_loadAt (by exact found))]
        simp only [alive]
        rfl
      rw [run_bind_ok checked]
      simp only [dead]
      rfl

end Refused

section Text

variable {h : Handle} {workspace : Workspace} {load : Load}

/-- The value of an outcome, or another one if a call into the managed side failed. -/
def orElse (instead : α) : Except Fault α → Except Fault α
  | .error (.managed _) => .ok instead
  | outcome => outcome

theorem run_catchManaged_orElse {action : Action α} {instead : α} {workspace : Workspace}
    {other : ManagedCause → Action α}
    (handled : ∀ cause, (other cause).run (action.run workspace).2 =
      (.ok instead, (action.run workspace).2)) :
    (catchManaged action other).run workspace =
      (orElse instead (action.run workspace).1, (action.run workspace).2) := by
  rw [run_catchManaged]
  generalize action.run workspace = result at handled
  obtain ⟨outcome, after⟩ := result
  cases outcome with
  | ok a => rfl
  | error fault =>
      cases fault with
      | managed cause => exact handled cause
      | _ => rfl

theorem orElse_told {outcome : Except Fault α}
    (managed : ∀ fault, outcome = .error fault → ∃ cause, fault = .managed cause) (instead : α) :
    ∃ a, orElse instead outcome = .ok a := by
  cases outcome with
  | ok a => exact ⟨a, rfl⟩
  | error fault =>
      obtain ⟨cause, rfl⟩ := managed fault rfl
      exact ⟨instead, rfl⟩

theorem run_managedClassName (found : workspace.state.loads[h.load]? = some load) :
    h.managedClassName.run workspace =
      ((load.className true workspace.state.lock.readers h.reflected).1,
        workspace.setLoad h.load
          (load.className true workspace.state.lock.readers h.reflected).2) := by
  change (onLoad h.load (·.className true workspace.state.lock.readers h.reflected)).run
    workspace = _
  exact run_onLoad found _

/-- Class and identity: the name of the class that the object is reflected as, or that of the kind
of the handle, and the identity that the engine tells, or the address. -/
def fallback (h : Handle) (load : Load) (readers : Nat) : Except Fault String := do
    let className ← orElse h.kind.name (load.className true readers h.reflected).1
    let identity ← orElse (load.address h.target : Int) (load.identity h.target)
    return className ++ "#" ++ Text.hexInt identity

theorem run_fallbackText (found : workspace.state.loads[h.load]? = some load) :
    h.fallbackText.run workspace =
      (h.fallback load workspace.state.lock.readers,
        workspace.setLoad h.load
          (load.className true workspace.state.lock.readers h.reflected).2) := by
  -- In a virtual machine the name is asked for, so that the identity is that of a load with one
  -- call more.
  have asked := load.asked_className true workspace.state.lock.readers h.reflected
  have named := run_managedClassName found
  have atLater := setLoad_found found
    (load.className true workspace.state.lock.readers h.reflected).2
  generalize (load.className true workspace.state.lock.readers h.reflected).2 = later
    at asked named atLater
  have identified : (Remote.identity h.load h.target).run (workspace.setLoad h.load later) =
      (load.identity h.target, workspace.setLoad h.load later) := by
    rw [Remote.identity, run_onLoad atLater, Workspace.setLoad_self atLater, asked.used.identity]
  have addressed : (Remote.address h.load h.target).run (workspace.setLoad h.load later) =
      (.ok (load.address h.target), workspace.setLoad h.load later) := by
    rw [Remote.address, run_onLoad atLater, Workspace.setLoad_self atLater, asked.used.address]
  have unnamed : (catchManaged h.managedClassName fun _ => pure h.kind.name).run workspace =
      (orElse h.kind.name (h.managedClassName.run workspace).1,
        (h.managedClassName.run workspace).2) :=
    run_catchManaged_orElse fun _ => rfl
  rw [fallbackText, run_bind, unnamed, named, fallback]
  cases orElse h.kind.name (load.className true workspace.state.lock.readers h.reflected).1 with
  | error fault => rfl
  | ok className =>
      dsimp only
      rw [run_bind, run_catchManaged_orElse fun _ => by rw [identified, addressed], identified]
      cases orElse (load.address h.target : Int) (load.identity h.target) <;> rfl

/-- Class and identity are told of a handle if both can be, and in memory nothing is called for
that. -/
theorem run_fallbackText_told (found : workspace.state.loads[h.load]? = some load)
    (names : load.Names h.reflected) (identifies : load.Identifies h.target) :
    ∃ text, (h.fallbackText.run workspace).1 = .ok text ∧
      (load.host = .memory → (h.fallbackText.run workspace).2 = workspace) := by
  obtain ⟨className, told⟩ := orElse_told (names workspace.state.lock.readers) h.kind.name
  obtain ⟨identity, known⟩ := orElse_told identifies (load.address h.target : Int)
  have given : h.fallback load workspace.state.lock.readers =
      .ok (className ++ "#" ++ Text.hexInt identity) := by
    rw [fallback, told, known]
    rfl
  rw [run_fallbackText found]
  refine ⟨_, given, fun memory => ?_⟩
  rw [Load.className_memory memory, Workspace.setLoad_self found]

theorem run_toText_stale (stale : h.Stale workspace)
    (found : workspace.state.loads[h.load]? = some load)
    (names : load.Names h.reflected) (identifies : load.Identifies h.target) :
    ∃ text, (h.toText.run workspace).1 = .ok text ∧
      (load.host = .memory → (h.toText.run workspace).2 = workspace) := by
  have refused : h.Refused (shared h.load (do h.checkAlive; Remote.toText h.load true h.target)) :=
    refused_asked
  have given : h.toText.run workspace = h.fallbackText.run workspace := by
    rw [toText, run_catchManaged, refused workspace stale]
    rfl
  rw [given]
  exact run_fallbackText_told found names identifies

theorem run_inspect_stale (stale : h.Stale workspace)
    (found : workspace.state.loads[h.load]? = some load)
    (names : load.Names h.reflected) (identifies : load.Identifies h.target) :
    ∃ text, (h.inspect.run workspace).1 = .ok text ∧
      (load.host = .memory → (h.inspect.run workspace).2 = workspace) := by
  obtain ⟨text, told, same⟩ := run_toText_stale stale found names identifies
  rw [inspect, run_bind]
  generalize h.toText.run workspace = result at told same ⊢
  obtain ⟨outcome, after⟩ := result
  obtain rfl : outcome = .ok text := told
  exact ⟨_, rfl, same⟩

end Text

end Handle

end DexBrowser.Session

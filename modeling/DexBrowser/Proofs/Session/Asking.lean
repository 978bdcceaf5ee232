import DexBrowser.Proofs.Session.Telling

/-!
Asking a load in any monad. What handles tell is written for every monad into which actions lift,
and so are its proofs: they rest on a few rules only, which say how single steps end. Main
statements: attributes of objects of an image are told as the image says, and whoever is told one
was asking a load that had not been let go.
-/

namespace DexBrowser.Session

open Managed Session.Action

/-! ## Steps that do not look whether the load is alive -/

/-- A session of which one load shows an image, alive or not. -/
structure Shown (origin : LoadId) (image : Image) (workspace : Workspace) : Prop where
  seat : workspace.state.seat = origin.seat
  load : ∃ load, workspace.state.loads[origin.load]? = some load ∧ load.Shows image

theorem Live.shown {origin : LoadId} {image : Image} {files : Files.Tree → Prop}
    {workspace : Workspace} (live : Live origin image files workspace) :
    Shown origin image workspace where
  seat := live.seat
  load := by
    obtain ⟨load, found, -, shown, -⟩ := live.load
    exact ⟨load, found, shown⟩

/-- The workspace with another count of the handles that were made. -/
def Workspace.setMinted (workspace : Workspace) (minted : Nat) : Workspace :=
    { workspace with state := { workspace.state with minted := minted } }

/-- The action ends well whatever the lock is and whether the load is alive or not, and counts
handles at most. -/
def Action.Calm (origin : LoadId) (image : Image) (good : α → Prop) (action : Action α) : Prop :=
    ∀ workspace, Shown origin image workspace →
      ∃ a minted, action.run workspace = (.ok a, workspace.setMinted minted) ∧ good a

section Calm

variable {origin : LoadId} {image : Image}

theorem calm_ofExcept {good : α → Prop} {outcome : Except Fault α} {a : α}
    (known : outcome = .ok a) (fine : good a) :
    Calm origin image good (Action.ofExcept outcome) := by
  intro workspace _
  exact ⟨a, workspace.state.minted, by rw [run_ofExcept, known]; rfl, fine⟩

theorem calm_written (s : String) :
    Calm origin image (· = s) (Remote.written origin.load (.text s)) := by
  intro workspace shown
  obtain ⟨load, found, -⟩ := shown.load
  refine ⟨s, workspace.state.minted, ?_, rfl⟩
  rw [Remote.written, run_onLoad found, Workspace.setLoad_self found]
  rfl

/-- The image has the object, and it belongs to the class of the kind. -/
def Fitting (image : Image) (kind : Kind) (id : ObjectId) : Prop :=
    ∃ object, imageObject? image id = some object ∧ ∀ required, kind.required? = some required →
      object.cls.name = required ∨ required ∈ object.cls.supertypes

theorem Wrappable.fitting {kind : Kind} {id : ObjectId} (wrappable : Wrappable image kind id) :
    Fitting image kind id :=
  wrappable.2

theorem run_classOf_shown {workspace : Workspace} {load : Load} {n : Nat}
    (found : workspace.state.loads[n]? = some load) (shown : load.Shows image) {id : ObjectId}
    {object : Object} (known : imageObject? image id = some object) :
    (Remote.classOf n true (.object id)).run workspace =
      (.ok (.reflected object.cls), workspace) := by
  change (onLoad n (·.classOf true workspace.state.lock.readers (.object id))).run workspace = _
  rw [run_onLoad found]
  simp only [Load.classOf, shown.host, Load.object?, shown.object? known, Option.map_some]
  rw [Workspace.setLoad_self found]

theorem run_checkClass_shown {workspace : Workspace} {load : Load} {n : Nat}
    (found : workspace.state.loads[n]? = some load) (shown : load.Shows image) {kind : Kind}
    {id : ObjectId} (fitting : Fitting image kind id) (cls : Value) :
    (Handle.checkClass n kind (.object id) cls).run workspace = (.ok (), workspace) := by
  obtain ⟨object, known, belongs⟩ := fitting
  unfold Handle.checkClass
  split
  case h_1 => rfl
  case h_2 required isRequired =>
      have isInstance : (Remote.isInstance n (.object id) required).run workspace =
          (.ok true, workspace) := by
        rw [Remote.isInstance, run_onLoad found, Workspace.setLoad_self found]
        simp only [Load.isInstance, shown.host, Load.belongs, Load.object?, shown.object? known,
          Option.map_some]
        simpa using belongs required isRequired
      rw [run_bind_ok isInstance]
      rfl

theorem calm_bare {kind : Kind} {id : ObjectId} (fitting : Fitting image kind id) :
    Calm origin image (·.Wraps origin kind id)
      (Handle.bare origin.load kind (.object id) none) := by
  intro workspace shown
  obtain ⟨object, known, belongs⟩ := fitting
  obtain ⟨load, found, showsImage⟩ := shown.load
  let made : Handle := ⟨workspace.state.seat, origin.load, workspace.state.minted, kind,
    .object id, .reflected object.cls, ⟨0⟩⟩
  refine ⟨made, workspace.state.minted + 1, ?_, ?_⟩
  · have bare : Handle.bare origin.load kind (.object id) none = (do
        let cls ← Remote.classOf origin.load true (.object id)
        Handle.checkClass origin.load kind (.object id) cls
        return ⟨(← Action.state).seat, origin.load, ← Handle.mint, kind, .object id, cls, ⟨0⟩⟩) :=
      rfl
    rw [bare, run_bind_ok (run_classOf_shown found showsImage known),
      run_bind_ok (run_checkClass_shown found showsImage ⟨object, known, belongs⟩ _)]
    rfl
  · exact ⟨⟨congrArg (LoadId.mk · origin.load) shown.seat, fun _ => ⟨_, rfl⟩,
      fun _ => ⟨id, rfl⟩⟩, rfl, rfl⟩

end Calm

/-! ## Rules -/

/-- How a load stands while it is asked: it was not asked yet, nothing was seen of its end, or it
was let go. -/
inductive Standing where
  | unasked
  | kept
  | gone

/-- How steps end in a monad into which actions lift. `Gives s steps post` says of steps that begin
while the load stands as `s` that `post` holds of their value and of how the load stands then. Who
asks a load that was let go is given no value but texts, which may be any. -/
structure Asking (m : Type → Type) [Monad m] [LawfulMonad m] [MonadLiftT Action m]
    (origin : LoadId) (image : Image) where
  Gives {α : Type} : Standing → m α → (α → Standing → Prop) → Prop
  mono {α : Type} {s : Standing} {steps : m α} {post other : α → Standing → Prop} :
    Gives s steps post → (∀ a after, post a after → other a after) → Gives s steps other
  value {α : Type} {s : Standing} {a : α} {post : α → Standing → Prop} :
    post a s → Gives s (pure a) post
  andThen {α β : Type} {s : Standing} {first : m α} {next : α → m β} {mid : α → Standing → Prop}
    {post : β → Standing → Prop} :
    Gives s first mid → (∀ a after, mid a after → Gives after (next a) post) →
      Gives s (first >>= next) post
  calm {α : Type} {s : Standing} {action : Action α} {good : α → Prop} :
    Calm origin image good action → Gives s (liftM action) fun a after => good a ∧ after = s
  invoke {s : Standing} {h : Handle} {kind : Kind} {id : ObjectId} {name : String} {v : Value} :
    h.Wraps origin kind id → Tells image id name v → name ≠ Load.closeMember →
      Gives s (liftM (h.invoke name)) fun a after => s ≠ .gone ∧ a = v ∧ after = .kept
  text {s : Standing} {h : Handle} {kind : Kind} {id : ObjectId} {text : String} :
    h.Wraps origin kind id → Tells image id "toString" (.text text) →
      Gives s (liftM h.toText) fun a after => after ≠ .gone → s ≠ .gone ∧ a = text

namespace Asking

variable {m : Type → Type} [Monad m] [LawfulMonad m] [MonadLiftT Action m] {origin : LoadId}
  {image : Image} (ask : Asking m origin image)

/-- The steps give a good value while nothing is seen of the load's end. -/
def Told (good : α → Prop) (steps : m α) : Prop :=
    ask.Gives .kept steps fun a after => good a ∧ after = .kept

/-- The steps give a good value, and none at all once the load was let go. -/
def Firm (good : α → Prop) (steps : m α) : Prop :=
    ∀ s, ask.Gives s steps fun a after => s ≠ .gone ∧ good a ∧ after = .kept

variable {ask}

theorem Firm.told {good : α → Prop} {steps : m α} (firm : ask.Firm good steps) :
    ask.Told good steps :=
  ask.mono (firm .kept) fun _ _ ended => ended.2

theorem Told.mono {good other : α → Prop} {steps : m α} (told : ask.Told good steps)
    (fine : ∀ a, good a → other a) : ask.Told other steps :=
  Asking.mono ask told fun a _ ended => ⟨fine a ended.1, ended.2⟩

theorem Firm.mono {good other : α → Prop} {steps : m α} (firm : ask.Firm good steps)
    (fine : ∀ a, good a → other a) : ask.Firm other steps :=
  fun s => Asking.mono ask (firm s) fun a _ ended => ⟨ended.1, fine a ended.2.1, ended.2.2⟩

theorem told_pure {good : α → Prop} {a : α} (fine : good a) : ask.Told good (pure a) :=
  ask.value ⟨fine, rfl⟩

theorem told_calm {good : α → Prop} {action : Action α} (calm : Calm origin image good action) :
    ask.Told good (liftM action) :=
  ask.calm calm

theorem told_bind {good : α → Prop} {last : β → Prop} {first : m α} {next : α → m β}
    (told : ask.Told good first) (rest : ∀ a, good a → ask.Told last (next a)) :
    ask.Told last (first >>= next) := by
  refine ask.andThen told ?_
  rintro a _ ⟨fine, rfl⟩
  exact rest a fine

theorem firm_bind {good : α → Prop} {last : β → Prop} {first : m α} {next : α → m β}
    (firm : ask.Firm good first) (rest : ∀ a, good a → ask.Told last (next a)) :
    ask.Firm last (first >>= next) := by
  intro s
  refine ask.andThen (firm s) ?_
  rintro a _ ⟨kept, fine, rfl⟩
  exact ask.mono (rest a fine) fun _ _ ended => ⟨kept, ended⟩

/-- Texts that were told of a load may be any if it was let go; what comes after them says whether
they are right. -/
theorem firm_bind_text {good : α → Prop} {last : β → Prop} {first : m α} {next : α → m β}
    (first_told : ∀ s, ask.Gives s first fun a after => after ≠ .gone → s ≠ .gone ∧ good a)
    (rest : ∀ a, ask.Firm (fun b => good a → last b) (next a)) :
    ask.Firm last (first >>= next) := by
  intro s
  -- Whether the load was there for the first steps is known only after the ones that follow.
  refine ask.andThen (first_told s) fun a between known => ?_
  refine ask.mono (rest a between) ?_
  rintro b _ ⟨kept, fine, rfl⟩
  obtain ⟨before, right⟩ := known kept
  exact ⟨before, fine right, rfl⟩

theorem told_mapM_related {related : γ → α → Prop} {good : γ → β → Prop} {each : α → m β}
    {ks : List γ} {xs : List α} (all : List.Forall₂ related ks xs)
    (told : ∀ k x, related k x → ask.Told (good k) (each x)) :
    ask.Told (List.Forall₂ good ks) (xs.mapM each) := by
  induction all with
  | nil => exact told_pure .nil
  | @cons k x ks xs here _ ih =>
      rw [List.mapM_cons]
      refine told_bind (told k x here) fun y fine => ?_
      exact told_bind ih fun ys rest => told_pure (.cons fine rest)

theorem texts_mapM {kind : Kind} {id : γ → ObjectId} {text : γ → String}
    {ks : List γ} {hs : List Handle}
    (all : List.Forall₂ (fun k (h : Handle) => h.Wraps origin kind (id k)) ks hs)
    (tells : ∀ k, Tells image (id k) "toString" (.text (text k))) (s : Standing) :
    ask.Gives s (hs.mapM fun h => (liftM h.toText : m String)) fun texts after =>
      after ≠ .gone → s ≠ .gone ∧ texts = ks.map text := by
  induction all generalizing s with
  | nil => exact ask.value fun kept => ⟨kept, rfl⟩
  | @cons k h ks hs wraps _ ih =>
      rw [List.mapM_cons]
      refine ask.andThen (ask.text wraps (tells k)) fun t between first => ?_
      refine ask.andThen (ih between) fun ts after rest => ask.value fun kept => ?_
      obtain ⟨middle, right⟩ := rest kept
      obtain ⟨before, same⟩ := first middle
      exact ⟨before, by rw [same, right, List.map_cons]⟩

/-! ## Attributes -/

section Handles

variable {h : Handle} {kind : Kind} {id : ObjectId}

theorem firm_invoke (wraps : h.Wraps origin kind id) {name : String} {v : Value}
    (tells : Tells image id name v) (other : name ≠ Load.closeMember) :
    ask.Firm (· = v) (liftM (h.invoke name)) :=
  fun _ => ask.invoke wraps tells other

theorem firm_askText (wraps : h.Wraps origin kind id) {name s : String}
    (tells : Tells image id name (.text s)) (other : name ≠ Load.closeMember) :
    ask.Firm (· = s) (h.askText name : m String) := by
  obtain rfl := wraps.origin
  refine firm_bind (firm_invoke wraps tells other) ?_
  rintro _ rfl
  exact told_calm (calm_written s)

theorem firm_askFlag (wraps : h.Wraps origin kind id) {name : String} {b : Bool}
    (tells : Tells image id name (.bool b)) (other : name ≠ Load.closeMember) :
    ask.Firm (· = b) (h.askFlag name : m Bool) := by
  refine firm_bind (firm_invoke wraps tells other) ?_
  rintro _ rfl
  exact told_pure rfl

theorem told_make {part : Kind} {member : ObjectId} (fitting : Fitting image part member)
    (other : part ≠ .access) :
    ask.Told (·.Wraps origin part member)
      (Handle.make origin.load part (.object member) : m Handle) := by
  refine told_bind (told_calm (calm_bare fitting)) fun made wraps => ?_
  rw [if_neg other]
  exact told_pure wraps

theorem firm_askOne (wraps : h.Wraps origin kind id) {name : String} {member : ObjectId}
    (tells : Tells image id name (.object member)) (other : name ≠ Load.closeMember) {part : Kind}
    (wrappable : Wrappable image part member) :
    ask.Firm (·.Wraps origin part member) (h.askOne part name : m Handle) := by
  obtain rfl := wraps.origin
  refine firm_bind (firm_invoke wraps tells other) ?_
  rintro _ rfl
  exact told_make wrappable.fitting wrappable.1

theorem firm_askAll (wraps : h.Wraps origin kind id) {name : String} {ks : List γ}
    {member : γ → ObjectId} (tells : Tells image id name (.list ((ks.map member).map .object)))
    (other : name ≠ Load.closeMember) {part : Kind}
    (wrappable : ∀ k ∈ ks, Wrappable image part (member k)) :
    ask.Firm (List.Forall₂ (fun k made => made.Wraps origin part (member k)) ks)
      (h.askAll part name : m (List Handle)) := by
  obtain rfl := wraps.origin
  refine firm_bind (firm_invoke wraps tells other) ?_
  rintro _ rfl
  refine told_bind (told_calm (calm_ofExcept (itemsOf_listed _) rfl)) ?_
  rintro _ rfl
  rw [List.map_map, List.mapM_map]
  have known : List.Forall₂ (fun k x => k ∈ ks ∧ k = x) ks ks :=
    List.forall₂_same.mpr fun k member => ⟨member, rfl⟩
  refine told_mapM_related known ?_
  rintro k _ ⟨isKey, rfl⟩
  exact told_make (wrappable k isKey).fitting (wrappable k isKey).1

theorem firm_line (wraps : h.Wraps origin kind id) {n : Nat}
    (tells : Tells image id "getDecompiledLine" (.int n)) :
    ask.Firm (· = toldLine n) (h.line : m Int) := by
  refine firm_bind (firm_invoke wraps tells (by decide)) ?_
  rintro _ rfl
  have whole : toWhole (.int n) = .ok (n : Int) := rfl
  refine told_bind (told_calm (calm_ofExcept whole rfl)) ?_
  rintro _ rfl
  refine told_pure ?_
  have least : ((n : Int) ≤ 0) ↔ n = 0 := by omega
  simp only [least, toldLine]

end Handles

end Asking

end DexBrowser.Session

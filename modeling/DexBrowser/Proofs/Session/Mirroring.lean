import DexBrowser.Proofs.Session.Parallel
import DexBrowser.Proofs.Session.Saving
import DexBrowser.Proofs.Session.Turnover

/-!
Sessions that are alike but for numbers. One session has loads and handles that the other does not
have, and counts on from there. What is left may be the same, or may be no more than alike. Main
statements: what is asked of one runs in parallel with what is asked of the other, and so does
closing; so do loads of which the like is prepared.
-/

namespace DexBrowser.Session

open Managed Session.Action

variable {validator : Validator}

/-! ## Renumbered sessions -/

/-- The seats of two sessions, and how many loads and handles the first one has before all those
that they have in common. -/
structure Renumbering where
  first : Nat
  second : Nat
  loads : Nat := 0
  serials : Nat := 0

namespace Renumbering

variable (e : Renumbering)

/-- A handle of the second session as the first one numbers it. -/
def handle (h : Handle) : Handle :=
    { h with seat := e.first, load := h.load + e.loads, serial := h.serial + e.serials }

def SameLoad (n m : Nat) : Prop :=
    n = m + e.loads

def SameHandle (h g : Handle) : Prop :=
    g.seat = e.second ∧ h = e.handle g

theorem forall₂_sameHandle {hs gs : List Handle} :
    List.Forall₂ e.SameHandle hs gs ↔ hs = gs.map e.handle ∧ ∀ g ∈ gs, g.seat = e.second := by
  induction gs generalizing hs with
  | nil => simp
  | cons g gs ih =>
      cases hs with
      | nil => simp
      | cons h hs => simp [SameHandle, ih, and_left_comm, and_assoc]

end Renumbering

/-- How alike two sessions are but for numbers: which paths and loads correspond, and what is noted
down. What is blind to images keeps loads alike. -/
structure Likeness where
  SamePath : Path → Path → Prop
  SameContent : Load → Load → Prop
  SameJournal : List Line → List Line → Prop
  resembles {load other : Load} : SameContent load other → load.Resembles other
  stepped {α : Type} {load other : Load} {step : Load → Except Fault α × Load} :
    SameContent load other → Load.Blind step → SameContent (step load).2 (step other).2
  noted {lines others : List Line} (line : Line) : SameJournal lines others →
    SameJournal (lines ++ [line]) (others ++ [line])
  notedPath {lines others : List Line} {path twin : Path} (level : Level) (channel : Channel)
    (before after : String) : SameJournal lines others → SamePath path twin →
      SameJournal (lines ++ [⟨level, channel, before ++ path.text ++ after⟩])
        (others ++ [⟨level, channel, before ++ twin.text ++ after⟩])

/-- Nothing but numbers differs, and what is noted down. -/
def Likeness.exact : Likeness where
  SamePath := Eq
  SameContent := Eq
  SameJournal _ _ := True
  resembles := by
    rintro load _ rfl
    exact load.resembles_refl
  stepped := by
    rintro _ load _ step rfl -
    rfl
  noted _ _ := trivial
  notedPath _ _ _ _ _ _ := trivial

theorem rel_eq {one other : Option α} : Option.Rel Eq one other ↔ one = other := by
  constructor
  · intro same
    cases same with
    | none => rfl
    | some here => rw [here]
  · rintro rfl
    cases one with
    | none => exact .none
    | some a => exact .some rfl

theorem alike_eq {one other : Except Fault α} : Alike Eq one other ↔ one = other := by
  constructor
  · intro same
    cases same with
    | ok here => rw [here]
    | error fault => rfl
  · rintro rfl
    exact alike_refl one

/-- The first session is like the second one with other numbers, and with more loads before. -/
structure State.Mirrors (e : Renumbering) (like : Likeness)
    (currents : Option Loaded → Option Loaded → Prop) (one other : State) : Prop where
  first : one.seat = e.first
  second : other.seat = e.second
  lock : one.lock = other.lock
  length : one.loads.length = other.loads.length + e.loads
  loads : ∀ n, Option.Rel like.SameContent one.loads[n + e.loads]? other.loads[n]?
  minted : one.minted = other.minted + e.serials
  current : currents one.current other.current

structure Workspace.Mirrors (e : Renumbering) (like : Likeness)
    (trees : Files.Tree → Files.Tree → Prop) (currents : Option Loaded → Option Loaded → Prop)
    (one other : Workspace) : Prop where
  state : one.state.Mirrors e like currents other.state
  files : trees one.files other.files
  journal : like.SameJournal one.journal other.journal

/-- From workspaces that mirror each other, two actions come to the like and to such workspaces. -/
def Mirroring (e : Renumbering) (like : Likeness) (trees : Files.Tree → Files.Tree → Prop)
    (currents : Option Loaded → Option Loaded → Prop) (related : α → β → Prop) (first : Action α)
    (second : Action β) : Prop :=
    ∀ one other : Workspace, one.Mirrors e like trees currents other →
      Alike related (first.run one).1 (second.run other).1 ∧
        (first.run one).2.Mirrors e like trees currents (second.run other).2

section Rules

variable {e : Renumbering} {like : Likeness} {trees : Files.Tree → Files.Tree → Prop}
  {currents : Option Loaded → Option Loaded → Prop} {one other : Workspace} {n m : Nat}

theorem State.Mirrors.getElem? {one other : State} (mirrors : one.Mirrors e like currents other)
    (same : e.SameLoad n m) : Option.Rel like.SameContent one.loads[n]? other.loads[m]? := by
  rw [same]
  exact mirrors.loads m

theorem State.Mirrors.set {one other : State} (mirrors : one.Mirrors e like currents other)
    (same : e.SameLoad n m) {load twin : Load} (alike : like.SameContent load twin) :
    State.Mirrors e like currents { one with loads := one.loads.set n load }
      { other with loads := other.loads.set m twin } :=
  { mirrors with
    length := by simpa using mirrors.length
    loads := by
      intro k
      have here := mirrors.loads k
      have length := mirrors.length
      obtain rfl : n = m + e.loads := same
      simp only [List.getElem?_set]
      by_cases atLoad : k = m
      · subst atLoad
        have bounds : k + e.loads < one.loads.length ↔ k < other.loads.length := by omega
        simp only [if_true, bounds]
        split
        · exact .some alike
        · exact .none
      · simpa [Ne.symm atLoad] using here }

theorem State.Mirrors.push {one other : State} (mirrors : one.Mirrors e like currents other)
    {load twin : Load} (alike : like.SameContent load twin) :
    State.Mirrors e like currents (one.push load) (other.push twin) :=
  { mirrors with
    length := by
      have length := mirrors.length
      simp only [State.push, List.length_append, List.length_singleton]
      omega
    loads := by
      intro k
      have length := mirrors.length
      simp only [State.push]
      rcases Nat.lt_trichotomy k other.loads.length with below | rfl | above
      · rw [List.getElem?_append_left below, List.getElem?_append_left (by omega)]
        exact mirrors.loads k
      · simp only [← length, List.getElem?_concat_length]
        exact .some alike
      · rw [List.getElem?_eq_none (by simp; omega), List.getElem?_eq_none (by simp; omega)]
        exact .none }

theorem Workspace.Mirrors.setLoad (mirrors : one.Mirrors e like trees currents other)
    (same : e.SameLoad n m) {load twin : Load} (alike : like.SameContent load twin) :
    (one.setLoad n load).Mirrors e like trees currents (other.setLoad m twin) :=
  ⟨mirrors.state.set same alike, mirrors.files, mirrors.journal⟩

theorem Workspace.Mirrors.setLock (mirrors : one.Mirrors e like trees currents other)
    (change : Lock → Lock) :
    (Action.setLock change one).Mirrors e like trees currents (Action.setLock change other) where
  state := { mirrors.state with lock := congrArg change mirrors.state.lock }
  files := mirrors.files
  journal := mirrors.journal

theorem mirroring_ofExcept {related : α → β → Prop} {first : Except Fault α}
    {second : Except Fault β} (alike : Alike related first second) :
    Mirroring e like trees currents related (Action.ofExcept first) (Action.ofExcept second) := by
  intro one other mirrors
  rw [run_ofExcept, run_ofExcept]
  exact ⟨alike, mirrors⟩

theorem mirroring_pure {related : α → β → Prop} {a : α} {b : β} (same : related a b) :
    Mirroring e like trees currents related (pure a) (pure b) :=
  fun _ _ mirrors => ⟨.ok same, mirrors⟩

theorem mirroring_fail {related : α → β → Prop} (fault : Fault) :
    Mirroring e like trees currents related (fail fault) (fail fault) :=
  fun _ _ mirrors => ⟨.error fault, mirrors⟩

theorem mirroring_bind {related : α → β → Prop} {last : γ → δ → Prop} {first : Action α}
    {second : Action β} {next : α → Action γ} {following : β → Action δ}
    (runs : Mirroring e like trees currents related first second)
    (nextRuns : ∀ a b, related a b → Mirroring e like trees currents last (next a) (following b)) :
    Mirroring e like trees currents last (first >>= next) (second >>= following) := by
  intro one other mirrors
  obtain ⟨alike, after⟩ := runs one other mirrors
  rw [run_bind, run_bind]
  generalize first.run one = ran, second.run other = followed at alike after ⊢
  obtain ⟨outcome, one⟩ := ran
  obtain ⟨_, other⟩ := followed
  cases alike with
  | ok same => exact nextRuns _ _ same one other after
  | error fault => exact ⟨.error fault, after⟩

theorem mirroring_onward {last : γ → δ → Prop} {first second : Action α} {next : α → Action γ}
    {following : α → Action δ} (runs : Mirroring e like trees currents Eq first second)
    (nextRuns : ∀ a, Mirroring e like trees currents last (next a) (following a)) :
    Mirroring e like trees currents last (first >>= next) (second >>= following) :=
  mirroring_bind runs fun a _ same => same ▸ nextRuns a

theorem mirroring_catch {related : α → β → Prop} {first : Action α} {second : Action β}
    {handler : ManagedCause → Action α} {following : ManagedCause → Action β}
    (runs : Mirroring e like trees currents related first second)
    (handled : ∀ cause, Mirroring e like trees currents related (handler cause) (following cause)) :
    Mirroring e like trees currents related (catchManaged first handler)
      (catchManaged second following) := by
  intro one other mirrors
  obtain ⟨alike, after⟩ := runs one other mirrors
  rw [run_catchManaged, run_catchManaged]
  generalize first.run one = ran, second.run other = followed at alike after ⊢
  obtain ⟨outcome, one⟩ := ran
  obtain ⟨_, other⟩ := followed
  cases alike with
  | ok same => exact ⟨.ok same, after⟩
  | error fault =>
      cases fault with
      | managed cause => exact handled cause one other after
      | _ => exact ⟨.error _, after⟩

theorem mirroring_state :
    Mirroring e like trees currents (State.Mirrors e like currents) Action.state Action.state :=
  fun _ _ mirrors => ⟨.ok mirrors.state, mirrors⟩

theorem mirroring_get :
    Mirroring e like trees currents (Workspace.Mirrors e like trees currents)
      (get : Action Workspace) get :=
  fun _ _ mirrors => ⟨.ok mirrors, mirrors⟩

theorem mirroring_log (level : Level) (channel : Channel) (text : String) :
    Mirroring e like trees currents Eq (log level channel text) (log level channel text) :=
  fun _ _ mirrors => ⟨.ok rfl, ⟨mirrors.state, mirrors.files, like.noted _ mirrors.journal⟩⟩

theorem mirroring_logPath {path twin : Path} (same : like.SamePath path twin) (level : Level)
    (channel : Channel) (before after : String) :
    Mirroring e like trees currents Eq (log level channel (before ++ path.text ++ after))
      (log level channel (before ++ twin.text ++ after)) :=
  fun _ _ mirrors =>
    ⟨.ok rfl, ⟨mirrors.state, mirrors.files, like.notedPath _ _ _ _ mirrors.journal same⟩⟩

theorem mirroring_onLoads (same : e.SameLoad n m) {related : α → β → Prop}
    {step : Load → Except Fault α × Load} {following : Load → Except Fault β × Load}
    (steps : ∀ load twin, like.SameContent load twin →
      Alike related (step load).1 (following twin).1 ∧
        like.SameContent (step load).2 (following twin).2) :
    Mirroring e like trees currents related (onLoad n step) (onLoad m following) := by
  intro one other mirrors
  have found := mirrors.state.getElem? same
  generalize atFirst : one.state.loads[n]? = a, atSecond : other.state.loads[m]? = b at found
  cases found with
  | none =>
      rw [run_onLoad_none atFirst, run_onLoad_none atSecond]
      exact ⟨.error _, mirrors⟩
  | @some load twin alike =>
      rw [run_onLoad atFirst, run_onLoad atSecond]
      obtain ⟨outcome, after⟩ := steps load twin alike
      exact ⟨outcome, mirrors.setLoad same after⟩

theorem mirroring_onLoad (same : e.SameLoad n m) {step : Load → Except Fault α × Load}
    (blind : Load.Blind step) :
    Mirroring e like trees currents Eq (onLoad n step) (onLoad m step) := by
  refine mirroring_onLoads same fun load twin alike => ⟨?_, like.stepped alike blind⟩
  rw [(blind.resembles (like.resembles alike)).1]
  exact alike_refl _

theorem mirroring_loadAt (same : e.SameLoad n m) :
    Mirroring e like trees currents like.SameContent (loadAt n) (loadAt m) :=
  mirroring_onLoads same fun _ _ alike => ⟨.ok alike, alike⟩

theorem mirroring_section {related : α → β → Prop} {first : Action α} {second : Action β}
    (s : Section) (runs : Mirroring e like trees currents related first second) :
    Mirroring e like trees currents related (inSection s first) (inSection s second) := by
  intro one other mirrors
  simp only [inSection, run_ofRun, mirrors.state.lock]
  split
  · obtain ⟨alike, after⟩ := runs _ _ (mirrors.setLock (·.enter s))
    exact ⟨alike, after.setLock (·.leave s)⟩
  · exact ⟨.error _, mirrors⟩

theorem mirroring_shared {related : α → β → Prop} {first : Action α} {second : Action β}
    (same : e.SameLoad n m) (runs : Mirroring e like trees currents related first second) :
    Mirroring e like trees currents related (shared n first) (shared m second) := by
  refine mirroring_bind (mirroring_loadAt same) fun load twin alike => ?_
  rw [(like.resembles alike).attached]
  split
  · exact mirroring_section .shared runs
  · exact runs

theorem mirroring_readers :
    Mirroring e like trees currents Eq Remote.readers Remote.readers :=
  mirroring_bind mirroring_state fun _ _ mirrors => mirroring_pure (by rw [mirrors.lock])

theorem mirroring_remote (same : e.SameLoad n m) {step : Nat → Load → Except Fault α × Load}
    (blind : ∀ readers, Load.Blind (step readers)) :
    Mirroring e like trees currents Eq (do onLoad n (step (← Remote.readers)))
      (do onLoad m (step (← Remote.readers))) := by
  refine mirroring_onward mirroring_readers fun readers => ?_
  exact mirroring_onLoad same (blind readers)

theorem mirroring_asking {h g : Handle} (same : e.SameHandle h g) (check : Except Fault Unit)
    {step : Nat → Load → Except Fault α × Load} (blind : ∀ readers, Load.Blind (step readers)) :
    Mirroring e like trees currents Eq (h.asking check step) (g.asking check step) := by
  obtain ⟨-, rfl⟩ := same
  have sameLoad : e.SameLoad (e.handle g).load g.load := rfl
  have alive : Mirroring e like trees currents Eq (e.handle g).checkAlive g.checkAlive := by
    refine mirroring_bind (mirroring_loadAt sameLoad) fun load twin alike => ?_
    rw [(like.resembles alike).alive]
    split
    · exact mirroring_fail _
    · exact mirroring_pure rfl
  refine mirroring_shared sameLoad (mirroring_bind alive fun _ _ _ => ?_)
  refine mirroring_bind (mirroring_ofExcept (alike_refl check)) fun _ _ _ => ?_
  exact mirroring_remote sameLoad blind

theorem mirroring_issue (same : e.SameLoad n m) (kind : Kind) (target cls : Value) :
    Mirroring e like trees currents e.SameHandle (Handle.issue n kind target cls)
      (Handle.issue m kind target cls) := by
  have minted : Mirroring e like trees currents (fun n m => n = m + e.serials) Handle.mint
      Handle.mint := by
    intro one other mirrors
    refine ⟨.ok mirrors.state.minted, { mirrors with state := { mirrors.state with minted := ?_ } }⟩
    change one.state.minted + 1 = other.state.minted + 1 + e.serials
    rw [mirrors.state.minted]
    omega
  refine mirroring_bind mirroring_state fun _ _ mirrors => ?_
  refine mirroring_bind minted ?_
  rintro _ serial rfl
  refine mirroring_pure ⟨mirrors.second, ?_⟩
  rw [mirrors.first, same]
  rfl

end Rules

/-- What is asked of sessions that are alike but for numbers. -/
def mirroring (e : Renumbering) (like : Likeness) (trees : Files.Tree → Files.Tree → Prop)
    (currents : Option Loaded → Option Loaded → Prop) : Parallel where
  SamePath := like.SamePath
  SameLoad := e.SameLoad
  SameHandle := e.SameHandle
  Runs := Mirroring e like trees currents
  twin := by
    rintro h g ⟨-, rfl⟩
    exact ⟨rfl, rfl, rfl, rfl⟩
  load := by
    rintro h g ⟨-, rfl⟩
    rfl
  flagged := by
    rintro h g flags ⟨seat, rfl⟩
    exact ⟨seat, rfl⟩
  given alike _ := mirroring_ofExcept alike
  andThen := mirroring_bind
  caught := mirroring_catch
  asked same _ isCall := mirroring_asking same _ isCall.blind
  looked same blind _ := mirroring_onLoad same blind
  classOf target same := mirroring_remote same fun readers => Load.blind_classOf true readers target
  className cls same := mirroring_remote same fun readers => Load.blind_className true readers cls
  issued kind target cls same := mirroring_issue same kind target cls

/-! ## Current inputs -/

/-- Inputs of like places, the second of which has the numbers of the second session. -/
def Renumbering.SameInput (e : Renumbering) (like : Likeness) : Loaded → Loaded → Prop :=
    (mirroring e like (fun _ _ => True) fun _ _ => True).SameInput

abbrev Renumbering.SameCurrent (e : Renumbering) (like : Likeness) :
    Option Loaded → Option Loaded → Prop :=
    Option.Rel (e.SameInput like)

def Renumbering.SameNamed (e : Renumbering) :
    List (String × Handle) → List (String × Handle) → Prop :=
    List.Forall₂ fun one other => one.1 = other.1 ∧ e.SameHandle one.2 other.2

theorem sameInput_iff {e : Renumbering} {like : Likeness} {trees : Files.Tree → Files.Tree → Prop}
    {currents : Option Loaded → Option Loaded → Prop} {one other : Loaded} :
    (mirroring e like trees currents).SameInput one other ↔ e.SameInput like one other :=
  ⟨fun same => ⟨same.path, same.options, same.load, same.classes, same.packages⟩,
    fun same => ⟨same.path, same.options, same.load, same.classes, same.packages⟩⟩

theorem rel_sameInput_iff {e : Renumbering} {like : Likeness}
    {trees : Files.Tree → Files.Tree → Prop} {currents : Option Loaded → Option Loaded → Prop}
    {one other : Option Loaded} :
    Option.Rel (mirroring e like trees currents).SameInput one other ↔
      Option.Rel (e.SameInput like) one other := by
  constructor
  · intro same
    cases same with
    | none => exact .none
    | some same => exact .some (sameInput_iff.mp same)
  · intro same
    cases same with
    | none => exact .none
    | some same => exact .some (sameInput_iff.mpr same)

theorem State.Mirrors.mono {e : Renumbering} {like more : Likeness}
    (contents : ∀ load twin, like.SameContent load twin → more.SameContent load twin)
    (paths : ∀ path twin, like.SamePath path twin → more.SamePath path twin) {one other : State}
    (mirrors : one.Mirrors e like (e.SameCurrent like) other) :
    one.Mirrors e more (e.SameCurrent more) other := by
  refine { mirrors with loads := fun n => ?_, current := ?_ }
  · have loads := mirrors.loads n
    generalize one.loads[n + e.loads]? = a, other.loads[n]? = b at loads
    cases loads with
    | none => exact .none
    | some alike => exact .some (contents _ _ alike)
  · have current := mirrors.current
    generalize one.current = a, other.current = b at current
    cases current with
    | none => exact .none
    | some same =>
        exact .some ⟨paths _ _ same.path, same.options, same.load, same.classes, same.packages⟩

/-- What is written into both of two trees comes to the same, and they stay related. -/
def Rewrites (trees : Files.Tree → Files.Tree → Prop) : Prop :=
    ∀ files others, trees files others → ∀ path code,
      (others.writeSource path code).2 = (files.writeSource path code).2 ∧
        trees (files.writeSource path code).1 (others.writeSource path code).1

section Whole

variable {e : Renumbering} {like : Likeness} {trees : Files.Tree → Files.Tree → Prop}

theorem mirroring_looks : (mirroring e like trees (e.SameCurrent like)).Looks where
  looking alike _ := mirroring_section .shared <| mirroring_bind mirroring_state fun _ _ mirrors =>
    mirroring_ofExcept (alike _ _ (rel_sameInput_iff.mpr mirrors.current))
  told tells := mirroring_bind mirroring_state fun _ _ mirrors =>
    mirroring_pure (tells _ _ (rel_sameInput_iff.mpr mirrors.current))

theorem mirroring_saves {currents : Option Loaded → Option Loaded → Prop}
    (rewrites : Rewrites trees) : (mirroring e like trees currents).Saves where
  shared same runs := mirroring_shared same runs
  log level channel text := mirroring_log level channel text
  tryWrite := by
    intro path code one other mirrors
    obtain ⟨outcome, after⟩ := rewrites _ _ mirrors.files path code
    have written : (tryWrite path code).run other =
        (((tryWrite path code).run one).1,
          { other with files := (other.files.writeSource path code).1 }) := by
      simp only [tryWrite, run_ofRun, writeSource]
      generalize one.files.writeSource path code = result,
        other.files.writeSource path code = twin at outcome ⊢
      obtain ⟨files, _⟩ := result
      obtain ⟨others, ended⟩ := twin
      obtain rfl := outcome
      cases ended with
      | ok _ => rfl
      | error fault => cases fault <;> rfl
    rw [written, run_tryWrite_after]
    exact ⟨alike_refl _, mirrors.state, after, mirrors.journal⟩

/-! ## Indexing -/

variable {currents : Option Loaded → Option Loaded → Prop} {n m : Nat}

theorem mirroring_foldlM {related : β → γ → Prop} {step : β → α → Action β}
    {following : γ → α → Action γ} (runs : ∀ b c, related b c → ∀ x,
      Mirroring e like trees currents related (step b x) (following c x)) (xs : List α)
    {b : β} {c : γ} (same : related b c) :
    Mirroring e like trees currents related (xs.foldlM step b) (xs.foldlM following c) := by
  induction xs generalizing b c with
  | nil => exact mirroring_pure same
  | cons x xs ih =>
      rw [List.foldlM_cons, List.foldlM_cons]
      exact mirroring_bind (runs b c same x) fun _ _ next => ih next

theorem sameNamed_addFirst {named others : List (String × Handle)} (all : e.SameNamed named others)
    (name : String) {h g : Handle} (same : e.SameHandle h g) :
    e.SameNamed (addFirst named name h) (addFirst others name g) := by
  unfold addFirst
  rw [Parallel.rel_isSome (Parallel.rel_lookup all name)]
  split
  · exact all
  · exact List.rel_append all (.cons ⟨rfl, same⟩ .nil)

theorem mirroring_invoke (same : e.SameLoad n m) (byHandle : Bool) (target : Value) (name : String)
    (arguments : List Value) :
    Mirroring e like trees currents Eq (Remote.invoke n byHandle target name arguments)
      (Remote.invoke m byHandle target name arguments) :=
  mirroring_remote same fun readers => Load.blind_invoke byHandle readers target name arguments

theorem mirroring_indexObjects (same : e.SameLoad n m) (kind : Kind) (member : String) :
    Mirroring e like trees currents e.SameNamed (indexObjects n kind member)
      (indexObjects m kind member) := by
  refine mirroring_onward (mirroring_invoke same _ _ _ _) fun listed => ?_
  refine mirroring_onward (mirroring_ofExcept (alike_refl (itemsOf listed))) fun items => ?_
  have make (target : Value) : (mirroring e like trees currents).Runs e.SameHandle
      (Handle.make n kind target) (Handle.make m kind target) := Parallel.make same kind target
  have fullName {h g : Handle} (made : e.SameHandle h g) :
      (mirroring e like trees currents).Runs Eq (h.fullName : Action String) g.fullName :=
    Parallel.askText made _
  refine mirroring_foldlM (fun named others all target => ?_) items .nil
  refine mirroring_bind (make target) fun h g made => ?_
  refine mirroring_onward (fullName made) fun name => ?_
  exact mirroring_pure (sameNamed_addFirst all name made)

theorem mirroring_index (same : e.SameLoad n m) :
    Mirroring e like trees currents
      (fun one other => e.SameNamed one.1 other.1 ∧ e.SameNamed one.2 other.2) (index n)
      (index m) := by
  refine mirroring_bind (mirroring_indexObjects same _ _) fun _ _ classes => ?_
  refine mirroring_bind (mirroring_indexObjects same _ _) fun _ _ packages => ?_
  rw [classes.length_eq, packages.length_eq]
  exact mirroring_onward (mirroring_log _ _ _) fun _ => mirroring_pure ⟨classes, packages⟩

/-! ## Closing -/

theorem mirroring_modifyLoad (same : e.SameLoad n m) {change : Load → Load}
    (blind : ∀ load image, change (load.withImage image) = (change load).withImage image) :
    Mirroring e like trees currents Eq (modifyLoad n change) (modifyLoad m change) :=
  mirroring_onLoad same (Load.blind_change blind)

theorem mirroring_closeDecompiler (same : e.SameLoad n m) :
    Mirroring e like trees currents Eq (closeDecompiler n) (closeDecompiler m) := by
  have closed : Mirroring e like trees currents Eq
      (do let _ ← Remote.invoke n false (.object .decompiler) "close" [])
      (do let _ ← Remote.invoke m false (.object .decompiler) "close" []) :=
    mirroring_onward (mirroring_invoke same _ _ _ _) fun _ => mirroring_pure rfl
  refine mirroring_bind (mirroring_loadAt same) fun load twin alike => ?_
  rw [(like.resembles alike).host]
  split
  · exact closed
  · refine mirroring_onward mirroring_readers fun readers => ?_
    refine mirroring_onward (mirroring_onLoad same (Load.blind_closeInMachine readers)) ?_
    rintro (_ | what)
    · exact mirroring_pure rfl
    · exact mirroring_log _ _ _

theorem mirroring_replace {one other : Option Loaded}
    (same : Option.Rel (e.SameInput like) one other) :
    Mirroring e like trees (e.SameCurrent like) Eq (replace one) (replace other) := by
  have replaced : Mirroring e like trees (e.SameCurrent like)
      (e.SameCurrent like) (replaceCurrent one) (replaceCurrent other) := by
    intro first second mirrors
    exact ⟨.ok mirrors.state.current,
      ⟨{ mirrors.state with current := same }, mirrors.files, mirrors.journal⟩⟩
  refine mirroring_bind replaced fun previous before samePrevious => ?_
  cases samePrevious with
  | none => exact mirroring_pure rfl
  | @some previous before samePrevious =>
      have noted := @mirroring_logPath e like trees (e.SameCurrent like) previous.path
        before.path samePrevious.path .debug .session "Released " ""
      rw [String.append_empty, String.append_empty] at noted
      refine mirroring_onward (mirroring_modifyLoad samePrevious.load fun _ _ => rfl) fun _ => ?_
      exact mirroring_onward (mirroring_closeDecompiler samePrevious.load) fun _ => noted

theorem mirroring_close :
    Mirroring e like trees (e.SameCurrent like) Eq close close :=
  mirroring_section .exclusive (mirroring_replace .none)

/-! ## Loading -/

theorem mirroring_openArtifact {amend : Heap → Heap} {path twin : Path} {options : LoadOptions}
    (samePath : like.SamePath path twin)
    (reads : ∀ files others, trees files others →
      Alike (fun a b => a.2 = b.2 ∧ like.SameContent { heap := amend { image := a.1 } }
        { heap := amend { image := b.1 } }) (readImage validator files path options)
        (readImage validator others twin options)) :
    Mirroring e like trees currents e.SameLoad (openArtifact validator amend path options)
      (openArtifact validator amend twin options) := by
  refine mirroring_bind mirroring_get fun one other mirrors => ?_
  refine mirroring_bind (mirroring_ofExcept (reads _ _ mirrors.files)) ?_
  rintro ⟨image, count⟩ ⟨other, _⟩ ⟨rfl, alike⟩
  have noted := @mirroring_logPath e like trees currents path twin samePath .info .engine
    "Loaded in-memory artifact " (" (" ++ toString count ++ " classes)")
  simp only [← String.append_assoc] at noted
  refine mirroring_bind noted fun _ _ _ one other mirrors => ?_
  exact ⟨.ok mirrors.state.length, mirrors.state.push alike, mirrors.files, mirrors.journal⟩

theorem mirroring_prepared {amend : Heap → Heap} {path twin : Path} {options : LoadOptions}
    (samePath : like.SamePath path twin)
    (opened : Mirroring e like trees currents e.SameLoad (openArtifact validator amend path options)
      (openArtifact validator amend twin options))
    {indexing following : Nat → Action (List (String × Handle) × List (String × Handle))}
    (indexed : ∀ n m, e.SameLoad n m → Mirroring e like trees currents
      (fun one other => e.SameNamed one.1 other.1 ∧ e.SameNamed one.2 other.2) (indexing n)
        (following m)) :
    Mirroring e like trees currents (e.SameInput like)
      (do
        let n ← openArtifact validator amend path options
        let (classes, packages) ← indexing n
        attach n
        return ⟨path, options, n, classes, packages⟩)
      (do
        let n ← openArtifact validator amend twin options
        let (classes, packages) ← following n
        attach n
        return ⟨twin, options, n, classes, packages⟩) := by
  refine mirroring_bind opened fun n m same => ?_
  refine mirroring_bind (indexed n m same) ?_
  rintro ⟨classes, packages⟩ ⟨others, beside⟩ ⟨sameClasses, samePackages⟩
  refine mirroring_onward (mirroring_modifyLoad same fun _ _ => rfl) fun _ => ?_
  exact mirroring_pure ⟨samePath, rfl, same, sameClasses, samePackages⟩

theorem mirroring_load {amend : Heap → Heap} {path twin : Files.PathArgument}
    {given : Option LoadOptions} {changes : List (String × Json)}
    {checks : Path × LoadOptions → Path × LoadOptions → Prop}
    (checked : Mirroring e like trees (e.SameCurrent like) checks
      (checkLoad validator path given changes) (checkLoad validator twin given changes))
    (prepared : ∀ one other, checks one other → like.SamePath one.1 other.1 ∧
      Mirroring e like trees (e.SameCurrent like) (e.SameInput like)
        (prepare (.memory validator amend) one.1 one.2)
        (prepare (.memory validator amend) other.1 other.2)) :
    Mirroring e like trees (e.SameCurrent like) Eq
      (load (.memory validator amend) path given changes)
      (load (.memory validator amend) twin given changes) := by
  rw [load_eq, load_eq]
  refine mirroring_bind checked fun one other sameChecks => ?_
  obtain ⟨samePath, preparing⟩ := prepared one other sameChecks
  have taken : Mirroring e like trees (e.SameCurrent like) (e.SameInput like)
      (takeOver (.memory validator amend) one.1 one.2)
      (takeOver (.memory validator amend) other.1 other.2) := by
    rw [takeOver_eq, takeOver_eq]
    refine mirroring_bind preparing fun loaded beside same => ?_
    exact mirroring_bind (mirroring_replace (.some same)) fun _ _ _ => mirroring_pure same
  refine mirroring_bind (mirroring_section .exclusive taken) fun loaded beside same => ?_
  have noted := @mirroring_logPath e like trees (e.SameCurrent like) one.1 other.1
    samePath .info .session "Loaded " (": " ++ toString beside.classes.length ++ " classes in " ++
      toString beside.packages.length ++ " packages")
  rw [same.classes.length_eq, same.packages.length_eq]
  simpa only [← String.append_assoc] using noted

end Whole

end DexBrowser.Session

import DexBrowser.Validation.Lax
import DexBrowser.Proofs.Session.History
import Mathlib.Data.List.Induction

/-!
How often decompilers are closed. Main statement: while the decompilers in memory list their classes
and packages as lists, after any history each one that is not current was closed exactly once, and
those that are current were not, but for those whose load ended because something that was listed or
told cannot be put as text: these are not current and were never closed.
-/

namespace DexBrowser.Managed

variable {validator : Validator}

def Value.IsListing (v : Value) : Prop :=
    v = .null ∨ ∃ xs, v = .list xs

def listingMembers : List String :=
    ["getClasses", "getPackages"]

/-- A decompiler that can be closed and lists its classes and packages if it answers at all. Its
other members may answer anything. -/
structure Heap.Tame (heap : Heap) : Prop where
  lists : ∀ load : Load, load.host = .memory →
    load.heap = { heap with closed := load.heap.closed } →
    ∀ member ∈ listingMembers, ∀ readers v,
      load.answer readers (.object .decompiler) member [] = .ok v → v.IsListing
  closes : (heap.member? .decompiler Load.closeMember).isSome = true

theorem Heap.Tame.reclosed {heap other : Heap} (tame : heap.Tame)
    (same : other = { heap with closed := other.closed }) : other.Tame where
  lists load memory within := by
    refine tame.lists load memory ?_
    rw [within, same]
  closes := by
    have member : other.member? .decompiler Load.closeMember =
        heap.member? .decompiler Load.closeMember := by
      rw [same]
      rfl
    rw [member]
    exact tame.closes

theorem Load.Used.tame {before after : Load} (used : before.Used after)
    (tame : before.heap.Tame) : after.heap.Tame :=
  tame.reclosed used.heap

theorem Load.decompiler_answer {load : Load} (memory : load.host = .memory) (readers : Nat)
    (name : String) :
    load.answer readers (.object .decompiler) name [] =
      match load.heap.member? .decompiler name with
      | none => .error (.managed (.noMethod decompilerClass.name name))
      | some member => load.memoryAnswer readers (.ok decompilerClass.name) name [] member := by
  simp only [answer, memory]
  rfl

theorem tame_image (image : Image) : ({ image := image } : Heap).Tame where
  lists load memory same member listing readers v answered := by
    have listed : ∃ xs, load.heap.member? .decompiler member = some (.constant (.list xs)) := by
      rw [same]
      simp only [listingMembers, List.mem_cons, List.not_mem_nil, or_false] at listing
      rcases listing with rfl | rfl <;> exact ⟨_, rfl⟩
    obtain ⟨xs, found⟩ := listed
    have answer : load.answer readers (.object .decompiler) member [] = .ok (.list xs) := by
      rw [Load.decompiler_answer memory, found]
      rfl
    exact .inr ⟨xs, Except.ok.inj (answered.symm.trans answer)⟩
  closes := rfl

section Change

variable {heap : Heap} {id : ObjectId} {name : String} {member : Option Member}

theorem Heap.Tame.listing_change (tame : heap.Tame) {load : Load} (memory : load.host = .memory)
    (same : load.heap = { heap.change id name member with closed := load.heap.closed })
    {listing : String} (isListing : listing ∈ listingMembers)
    (other : (.decompiler, listing) ≠ (id, name)) {readers : Nat} {v : Value}
    (answered : load.answer readers (.object .decompiler) listing [] = .ok v) : v.IsListing := by
  have members : load.heap.member? .decompiler listing = heap.member? .decompiler listing := by
    rw [same]
    exact heap.member?_change_other member other
  let plain : Load := { load with heap := { heap with closed := load.heap.closed } }
  have equal : plain.answer readers (.object .decompiler) listing [] =
      load.answer readers (.object .decompiler) listing [] := by
    have plainMembers : plain.heap.member? .decompiler listing =
        heap.member? .decompiler listing := rfl
    have plainMemory : plain.host = .memory := memory
    rw [Load.decompiler_answer memory, Load.decompiler_answer plainMemory, members, plainMembers]
    cases heap.member? .decompiler listing with
    | none => rfl
    | some found => cases found <;> rfl
  exact tame.lists plain memory rfl listing isListing readers v (equal.trans answered)

theorem Heap.Tame.change (tame : heap.Tame)
    (other : ∀ listing ∈ listingMembers, (.decompiler, listing) ≠ (id, name))
    (closes : (id, name) = (.decompiler, Load.closeMember) → member.isSome = true) :
    (heap.change id name member).Tame where
  lists load memory same listing isListing readers v answered :=
    tame.listing_change memory same isListing (other listing isListing) answered
  closes := by
    by_cases same : (ObjectId.decompiler, Load.closeMember) = (id, name)
    · obtain ⟨rfl, rfl⟩ := Prod.mk.inj same
      rw [heap.member?_change_same]
      exact closes rfl
    · rw [heap.member?_change_other member same]
      exact tame.closes

theorem Heap.Tame.relist (tame : heap.Tame) (listing : name ∈ listingMembers) {v : Value}
    (isListing : v.IsListing) :
    (heap.change .decompiler name (some (.constant v))).Tame where
  lists load memory same asked isAsked readers w answered := by
    by_cases other : asked = name
    · subst other
      have found : load.heap.member? .decompiler asked = some (.constant v) := by
        rw [same]
        exact heap.member?_change_same _ _ _
      rw [Load.decompiler_answer memory, found] at answered
      rw [← Except.ok.inj answered]
      exact isListing
    · exact tame.listing_change memory same isAsked (by simpa using other) answered
  closes := by
    have other : Load.closeMember ≠ name := by
      rintro rfl
      exact absurd listing (by decide)
    rw [heap.member?_change_other _ (by simpa using other)]
    exact tame.closes

end Change

/-- A load that is left over: it takes no lock, and yet it was not let go. -/
def Load.leftOver (load : Load) : Bool :=
    load.alive && !load.attached

theorem Load.Used.leftOver {before after : Load} (used : before.Used after) :
    after.leftOver = before.leftOver := by
  rw [Load.leftOver, used.alive, used.attached, Load.leftOver]

theorem Load.leftOver_attached {load : Load} (attached : load.attached = true) :
    load.leftOver = false := by
  simp [Load.leftOver, attached]

@[simp] theorem Load.leftOver_shut (load : Load) (readers : Nat) :
    (load.shut readers).leftOver = false := by
  simp [Load.leftOver]

theorem Load.closing_memory {load : Load} (memory : load.host = .memory) {readers : Nat}
    {fault : Fault} (failed : load.closing readers = .error fault) :
    ∃ cause, fault = .managed cause := by
  rw [closing, memory] at failed
  dsimp only at failed
  rw [Load.decompiler_answer memory] at failed
  split at failed
  case h_1 => exact ⟨_, (Except.error.inj failed).symm⟩
  case h_2 member _ =>
      cases member with
      | varying answer =>
          simp only [memoryAnswer, blame] at failed
          split at failed
          · contradiction
          · exact ⟨_, (Except.error.inj failed).symm⟩
      | constant | arguments | readers | alive | closes | isClosed => contradiction
      | raises | throws | refuses | stopped => exact ⟨_, (Except.error.inj failed).symm⟩

end DexBrowser.Managed

namespace DexBrowser.Session

open Managed Session.Action

/-- The deeds that keep decompilers in memory tame. -/
def Deed.Tame : Deed → Prop
  | .load _ (.memory _ revise) _ _ _ => ∀ image, (revise { image := image }).Tame
  | .load _ (.machine ..) _ _ _ => False
  | .amend _ change => ∀ heap : Heap, heap.Tame → (change heap).Tame
  | _ => True

/-! ## What a session does to its loads -/

/-- The decompilers of a session are tame, and closed once if they are neither current nor left
over. -/
def State.Settled (state : State) : Prop :=
    ∀ (n : Nat) (load : Load), state.loads[n]? = some load →
      load.host = .memory ∧ load.heap.Tame ∧
        load.closings = if state.holds n || load.leftOver then 0 else 1

/-- The loads that were there are left over if they were. -/
def State.LeavesAlike (before after : State) : Prop :=
    ∀ (n : Nat) (old load : Load), before.loads[n]? = some old → after.loads[n]? = some load →
      load.leftOver = old.leftOver

section Settled

variable {seat : Nat} {state after : State}

theorem State.Settled.used (settled : state.Settled) {n : Nat} (used : state.Used n after) :
    after.Settled := by
  intro m later found
  obtain ⟨load, atLoad, usedLoad⟩ := used.before? found
  obtain ⟨memory, tame, closings⟩ := settled m load atLoad
  refine ⟨usedLoad.host.trans memory, usedLoad.tame tame, ?_⟩
  rw [usedLoad.closings, closings, usedLoad.leftOver, State.holds, State.holds, used.current]

theorem State.Settled.push (settled : state.Settled) (sound : state.Sound seat) {load : Load}
    (memory : load.host = .memory) (tame : load.heap.Tame)
    (closings : load.closings = if load.leftOver then 0 else 1) (minted : Nat) :
    State.Settled { state.push load with minted := minted } := by
  intro n other found
  rcases State.push_getElem_cases found with old | ⟨rfl, rfl⟩
  · exact settled n other old
  · have newest : State.holds { state.push other with minted := minted } state.loads.length =
        false := sound.holds_newest
    rw [newest, Bool.false_or]
    exact ⟨memory, tame, closings⟩

theorem State.Settled.letGo (settled : state.Settled) {loaded : Loaded} {load : Load}
    (current : state.current = some loaded) (found : state.loads[loaded.load]? = some load) :
    (state.letGo loaded.load load).Settled := by
  intro n other atOther
  rw [State.letGo_holds, Bool.false_or]
  rcases State.letGo_cases atOther with ⟨rfl, rfl⟩ | ⟨distinct, old⟩
  · obtain ⟨memory, tame, closings⟩ := settled loaded.load load found
    have held : state.holds loaded.load = true := State.holds_eq_true.mpr ⟨loaded, current, rfl⟩
    refine ⟨by rw [Load.shut_host, memory], tame.reclosed (load.shut_heap 0), ?_⟩
    rw [held] at closings
    rw [Load.closings_shut, closings, tame.closes, Load.leftOver_shut]
    rfl
  · obtain ⟨memory, tame, closings⟩ := settled n other old
    rw [State.holds_other current distinct, Bool.false_or] at closings
    exact ⟨memory, tame, closings⟩

theorem State.Settled.install (settled : state.Settled) (empty : state.current = none)
    {loaded : Loaded} {load : Load} (newest : loaded.load = state.loads.length)
    (memory : load.host = .memory) (tame : load.heap.Tame) (closings : load.closings = 0)
    (minted : Nat) : (state.install loaded load minted).Settled := by
  intro n other found
  rcases State.push_getElem_cases found with old | ⟨rfl, rfl⟩
  · rw [State.install_holds_old newest empty old]
    exact settled n other old
  · rw [State.install_holds_newest newest]
    exact ⟨memory, tame, closings⟩

theorem State.push_newest {load newer : Load} {n : Nat} (missing : state.loads[n]? = none)
    (found : (state.push load).loads[n]? = some newer) : newer = load := by
  rcases State.push_getElem_cases found with old | ⟨-, same⟩
  · rw [missing] at old
    contradiction
  · exact same

theorem State.Settled.amend (settled : state.Settled) (n : Nat) {change : Heap → Heap}
    (tame : ∀ heap : Heap, heap.Tame → (change heap).Tame) :
    State.Settled { state with
      loads := state.loads.modify n fun load => { load with heap := change load.heap } } := by
  intro m later found
  simp only [List.getElem?_modify] at found
  obtain ⟨load, atLoad, rfl⟩ := Option.map_eq_some_iff.mp found
  obtain ⟨memory, isTame, closings⟩ := settled m load atLoad
  split
  · exact ⟨memory, tame load.heap isTame, closings⟩
  · exact ⟨memory, isTame, closings⟩

theorem leavesAlike_refl (state : State) : state.LeavesAlike state := by
  intro n old load atOld atLoad
  obtain rfl := Option.some.inj (atOld.symm.trans atLoad)
  rfl

theorem leavesAlike_push (state : State) (load : Load) :
    state.LeavesAlike (state.push load) := by
  intro n old other atOld atOther
  obtain rfl := Option.some.inj ((State.push_old atOld).symm.trans atOther)
  rfl

theorem State.Sound.leavesAlike_letGo (sound : state.Sound seat) {loaded : Loaded} {load : Load}
    (current : state.current = some loaded) : state.LeavesAlike (state.letGo loaded.load load) := by
  intro n old other atOld atOther
  rcases State.letGo_cases atOther with ⟨rfl, rfl⟩ | ⟨-, same⟩
  · obtain ⟨held, atHeld, attached, -⟩ := sound.current loaded current
    obtain rfl := Option.some.inj (atHeld.symm.trans atOld)
    rw [Load.leftOver_shut, Load.leftOver_attached attached]
  · obtain rfl := Option.some.inj (atOld.symm.trans same)
    rfl

theorem State.Sound.leavesAlike (sound : state.Sound seat) {deed : Deed}
    (step : State.Step deed state after) : state.LeavesAlike after := by
  cases step with
  | stay => exact leavesAlike_refl state
  | use used =>
      intro n old load atOld atLoad
      exact (used.load atOld atLoad).leftOver
  | load loading =>
      cases loading with
      | refused => exact leavesAlike_refl _
      | failed prepared =>
          cases prepared with
          | refused => exact leavesAlike_refl _
          | broken | dropped => exact leavesAlike_push _ _
      | first => exact leavesAlike_push _ _
      | @replaced _ _ _ previous _ gone minted ready current found =>
          intro n old load atOld atLoad
          obtain ⟨between, atBetween, -⟩ := grown_letGo found n old atOld
          exact (leavesAlike_push _ _ n between load atBetween atLoad).trans
            (sound.leavesAlike_letGo current n old between atOld atBetween)
  | close closing =>
      cases closing with
      | idle => exact leavesAlike_refl state
      | closed current => exact sound.leavesAlike_letGo current
  | amend m =>
      intro n old load atOld atLoad
      rw [List.getElem?_modify, atOld] at atLoad
      obtain rfl := Option.some.inj atLoad
      dsimp only
      split <;> rfl

theorem State.Step.opened_new {deed : Deed} (step : State.Step deed state after) {n : Nat}
    (missing : state.loads[n]? = none) {load : Load} (found : after.loads[n]? = some load) :
    ∃ seat engine path given changes, deed = .load seat engine path given changes := by
  -- In the other steps there are as many loads afterwards as before.
  have beyond := List.getElem?_eq_none_iff.mp missing
  obtain ⟨bound, -⟩ := List.getElem?_eq_some_iff.mp found
  cases step with
  | stay => omega
  | use used =>
      rw [used.length] at bound
      omega
  | load => exact ⟨_, _, _, _, _, rfl⟩
  | close closing =>
      cases closing with
      | idle => omega
      | closed =>
          rw [State.letGo_length] at bound
          omega
  | amend =>
      rw [List.length_modify] at bound
      omega

end Settled

/-! ## Loading -/

section Loading

variable {seat : Nat} {before : Workspace} {after : State} {revise : Heap → Heap} {path : Path}
  {options : LoadOptions}

theorem items_end {v : Value} (listing : v.IsListing) (bad : Fault → Prop) :
    Ends (fun _ => True) bad (itemsOf v) := by
  rcases listing with rfl | ⟨xs, rfl⟩
  · trivial
  · unfold itemsOf
    split <;> trivial

theorem index_blamed {within : Workspace} {n : Nat} {load : Load}
    (found : within.state.loads[n]? = some load) (memory : load.host = .memory)
    (attached : load.attached = false) (tame : load.heap.Tame) {fault : Fault}
    (failed : ((index n).run within).1 = .error fault) : Load.Blamed fault := by
  have use := usable_blamed found memory attached
  have answered (workspace : Workspace) (later : Load) (readers : Nat) (v : Value)
      (member : String) (listing : member ∈ listingMembers)
      (held : within.state.Used n workspace.state ∧ True)
      (atLater : workspace.state.loads[n]? = some later)
      (answer : later.answer readers (.object .decompiler) member [] = .ok v) : v.IsListing := by
    have used := held.1.load found atLater
    exact tame.lists later (used.host.trans memory) used.heap member listing readers v answer
  have kept := use.keeps_index answered (fun v listing => items_end listing Load.Blamed) within
    ⟨State.Used.refl n within.state, trivial⟩
  have ends := kept.ends
  rw [failed] at ends
  exact ends

theorem opened_tame (tame : ∀ image, (revise { image := image }).Tame) {files : Files.Tree}
    {fresh : Load} (opens : (Engine.memory validator revise).Opens files path options fresh) :
    fresh.host = .memory ∧ fresh.heap.Tame := by
  cases opens with
  | memory read => exact ⟨rfl, tame _⟩

theorem Ready.tame (tame : ∀ image, (revise { image := image }).Tame) {loaded : Loaded}
    {load : Load} (ready : Ready (.memory validator revise) path options before loaded load) :
    load.host = .memory ∧ load.heap.Tame := by
  obtain ⟨fresh, opens, used, -⟩ := ready.opened
  obtain ⟨memory, isTame⟩ := opened_tame tame opens
  exact ⟨used.host.trans memory, used.tame isTame⟩

/-- The fault of an index that was let go is that of closing, which is one of the managed side, or
that of the index. -/
theorem not_isUnshown_of_dropped {load : Load} (memory : load.host = .memory) {readers : Nat}
    {cause : LoadCause} {fault : Fault}
    (ended : (do load.closing readers; .error (.load cause) : Except Fault Loaded) =
      .error fault) : ¬ fault.IsUnshown := by
  cases closed : load.closing readers with
  | ok _ =>
      rw [closed] at ended
      obtain rfl := Except.error.inj ended
      exact nofun
  | error other =>
      rw [closed] at ended
      obtain rfl := Except.error.inj ended
      obtain ⟨_, rfl⟩ := Load.closing_memory memory closed
      exact nofun

/-- What opening and indexing leaves where it fails: nothing, or a load more that was closed once,
unless the fault is that something cannot be put as text. Then it is left over. -/
theorem Prepared.settled (tame : ∀ image, (revise { image := image }).Tame)
    (settled : before.state.Settled) (sound : before.state.Sound seat) {fault : Fault}
    (prepared : Prepared (.memory validator revise) path options before (.error fault) after) :
    after.Settled ∧ ∀ (n : Nat) (load : Load), before.state.loads[n]? = none →
      after.loads[n]? = some load → (load.leftOver = true ↔ fault.IsUnshown) := by
  cases prepared with
  | refused =>
      refine ⟨settled, fun n load missing found => ?_⟩
      rw [missing] at found
      contradiction
  | @broken fault fresh load minted within opens used found failed other =>
      obtain ⟨memory, isTame⟩ := opened_tame tame opens
      have unshown : fault.IsUnshown := by
        rcases index_blamed found memory opens.attached isTame failed with ⟨cause, rfl⟩ | unshown
        · exact absurd rfl (other cause)
        · exact unshown
      have left : load.leftOver = true := by
        rw [used.leftOver, Load.leftOver, opens.alive, opens.attached]
        rfl
      refine ⟨settled.push sound (used.host.trans memory) (used.tame isTame) ?_ minted, ?_⟩
      · rw [left, used.closings, opens.closings]
        rfl
      · intro n newer missing atNewer
        rw [State.push_newest missing atNewer]
        exact iff_of_true left unshown
  | @dropped fault cause fresh load minted opens used ended =>
      obtain ⟨memory, isTame⟩ := opened_tame tame opens
      have usedMemory := used.host.trans memory
      have usedTame := used.tame isTame
      refine ⟨settled.push sound ?_ (usedTame.reclosed (Load.shut_heap _ _)) ?_ minted, ?_⟩
      · rw [Load.shut_host, usedMemory]
      · rw [Load.closings_shut, used.closings, opens.closings, usedTame.closes,
          Load.leftOver_shut]
        rfl
      · intro n newer missing atNewer
        rw [State.push_newest missing atNewer, Load.leftOver_shut]
        exact iff_of_false Bool.false_ne_true (not_isUnshown_of_dropped usedMemory ended)

theorem Loading.settled (tame : ∀ image, (revise { image := image }).Tame)
    (settled : before.state.Settled) (sound : before.state.Sound seat)
    {prepared : Except Fault Loaded} {outcome : Except Fault Unit}
    (loading : Loading (.memory validator revise) before prepared outcome after) :
    after.Settled ∧ ∀ (n : Nat) (load : Load), before.state.loads[n]? = none →
      after.loads[n]? = some load →
      (load.leftOver = true ↔ ∃ fault, outcome = .error fault ∧ fault.IsUnshown) := by
  cases loading with
  | refused =>
      refine ⟨settled, fun n load missing found => ?_⟩
      rw [missing] at found
      contradiction
  | failed ended =>
      obtain ⟨stillSettled, fresh⟩ := ended.settled tame settled sound
      refine ⟨stillSettled, fun n load missing found => ?_⟩
      rw [fresh n load missing found]
      simp
  | first minted ready empty =>
      obtain ⟨memory, isTame⟩ := ready.tame tame
      refine ⟨settled.install empty ready.newest memory isTame ready.closings minted, ?_⟩
      intro n newer missing found
      rw [State.push_newest missing found, Load.leftOver_attached rfl]
      exact iff_of_false Bool.false_ne_true fun ⟨_, impossible, _⟩ => nomatch impossible
  | @replaced _ _ loaded previous _ old minted ready current found =>
      obtain ⟨memory, isTame⟩ := ready.tame tame
      have newest := ready.newest.trans (before.state.letGo_length previous.load old).symm
      refine ⟨(settled.letGo current found).install rfl newest memory isTame ready.closings minted,
        ?_⟩
      intro n newer missing atNewer
      have closed : ¬ ∃ fault, old.closing 0 = .error fault ∧ fault.IsUnshown := by
        rintro ⟨fault, failed, unshown⟩
        obtain ⟨_, rfl⟩ := Load.closing_memory (settled previous.load old found).1 failed
        contradiction
      have still : (before.state.letGo previous.load old).loads[n]? = none := by
        rw [List.getElem?_eq_none_iff] at missing ⊢
        rw [before.state.letGo_length]
        exact missing
      rw [State.push_newest still atNewer, Load.leftOver_attached rfl]
      exact iff_of_false Bool.false_ne_true closed

theorem State.Settled.step {state : State} {deed : Deed} (settled : state.Settled)
    (sound : state.Sound seat) (tame : deed.Tame) (step : State.Step deed state after) :
    after.Settled := by
  cases step with
  | stay => exact settled
  | use used => exact settled.used used
  | @load _ engine _ _ _ _ _ _ _ loading =>
      cases engine with
      | memory _ revise => exact (loading.settled tame settled sound).1
      | machine => exact tame.elim
  | close closing =>
      cases closing with
      | idle => exact settled
      | closed current found => exact settled.letGo current found
  | amend n => exact settled.amend n tame

end Loading

/-! ## Histories -/

def Scene.Settled (scene : Scene) : Prop :=
    ∀ (seat : Nat) (state : State), scene.world.sessions[seat]? = some state → state.Settled

theorem Scene.Settled.step {before after : Scene} {deed : Deed} (settled : before.Settled)
    (sound : before.Sound) (tame : deed.Tame) (step : Scene.Step deed before after) :
    after.Settled :=
  step.each (fun _ n load atLoad => by simp at atLoad)
    (fun seat old _ atOld step settled => settled.step (sound.sessions seat old atOld) tame step)
    settled

/-- In the world there is a load of this number, and it is left over. -/
def World.leaves (world : World) (id : LoadId) : Prop :=
    ∃ load, world.load? id = some load ∧ load.leftOver = true

/-- A deed opens a load and ends because something cannot be put as text. -/
def Scene.Abandons (scene : Scene) (deed : Deed) (id : LoadId) : Prop :=
    ∃ seat engine path given changes, deed = .load seat engine path given changes ∧
      scene.world.load? id = none ∧ ((scene.perform deed).world.load? id).isSome ∧
      ∃ fault, (scene.world.run seat (load engine path given changes)).1 = .error fault ∧
        fault.IsUnshown

/-- In the course of a history, a deed opened a load and ended because something cannot be put as
text. -/
def Abandoned (deeds : List Deed) (id : LoadId) : Prop :=
    ∃ front deed back, deeds = front ++ deed :: back ∧ (Scene.after front).Abandons deed id

section Histories

variable {before after : Scene} {deed : Deed} {id : LoadId}

theorem Scene.Step.leaves_old (step : Scene.Step deed before after) (sound : before.Sound)
    {old : Load} (found : before.world.load? id = some old) :
    after.world.leaves id ↔ old.leftOver = true := by
  suffices kept : ∃ load, after.world.load? id = some load ∧ load.leftOver = old.leftOver by
    obtain ⟨load, atLoad, same⟩ := kept
    simp [World.leaves, atLoad, same]
  obtain ⟨state, atSeat, atOld⟩ := Option.bind_eq_some_iff.mp found
  cases step with
  | stay sessions => exact ⟨old, by rw [World.load?, sessions]; exact found, rfl⟩
  | openSession sessions =>
      obtain ⟨bound, -⟩ := List.getElem?_eq_some_iff.mp atSeat
      refine ⟨old, ?_, rfl⟩
      rw [World.load?, sessions, List.getElem?_append_left bound]
      exact found
  | @move seat moved new _ atMoved step sessions =>
      by_cases same : id.seat = seat
      · obtain ⟨_, n⟩ := id
        subst same
        obtain rfl := Option.some.inj (atSeat.symm.trans atMoved)
        obtain ⟨later, atLater, -⟩ := step.grown n old atOld
        refine ⟨later, by rw [World.load?_set atMoved sessions, atLater], ?_⟩
        exact (sound.sessions _ state atSeat).leavesAlike step n old later atOld atLater
      · exact ⟨old, by rw [World.load?_set_other sessions same, found], rfl⟩

theorem Scene.Step.opened_new (step : Scene.Step deed before after)
    (missing : before.world.load? id = none) {load : Load}
    (found : after.world.load? id = some load) :
    ∃ seat engine path given changes, deed = .load seat engine path given changes := by
  obtain ⟨state, atSeat, atLoad⟩ := Option.bind_eq_some_iff.mp found
  cases step with
  | stay sessions =>
      rw [World.load?, ← sessions, atSeat, Option.bind_some, atLoad] at missing
      contradiction
  | openSession sessions =>
      rw [sessions] at atSeat
      rcases concat_cases atSeat with old | ⟨-, rfl⟩
      · rw [World.load?, old, Option.bind_some, atLoad] at missing
        contradiction
      · simp at atLoad
  | @move seat moved new _ atMoved step sessions =>
      by_cases same : id.seat = seat
      · obtain ⟨_, n⟩ := id
        subst same
        have gone : moved.loads[n]? = none := by simpa [World.load?, atMoved] using missing
        rw [World.load?_set atMoved sessions] at found
        exact step.opened_new gone found
      · rw [World.load?_set_other sessions same, missing] at found
        contradiction

/-- A load that a deed opens is left over if the deed ends because something cannot be put as
text. -/
theorem Scene.Sound.leftOver_opened (sound : before.Sound) (settled : before.Settled) {seat : Nat}
    {engine : Engine} {path : Files.PathArgument} {given : Option LoadOptions}
    {changes : List (String × Json)} (tame : (Deed.load seat engine path given changes).Tame)
    (missing : before.world.load? id = none) {opened : Load}
    (found : (before.perform (.load seat engine path given changes)).world.load? id =
      some opened) :
    opened.leftOver = true ↔
      ∃ fault, (before.world.run seat (load engine path given changes)).1 = .error fault ∧
        fault.IsUnshown := by
  cases atSeat : before.world.sessions[seat]? with
  | none =>
      have stayed : (before.world.run seat (load engine path given changes)).2.load? id =
          before.world.load? id := by rw [World.run_of_none atSeat]
      exact absurd (stayed.symm.trans found) (by simp [missing])
  | some state =>
      have here :
          (⟨state, before.world.files, before.world.journal⟩ : Workspace).state.Sound seat :=
        sound.sessions seat state atSeat
      obtain ⟨loading, -⟩ := loading_load here.idle engine path given changes
      obtain ⟨outcome, sessions, -⟩ :=
        World.run_of_session atSeat (load engine path given changes)
      rw [outcome]
      by_cases same : id.seat = seat
      · obtain ⟨_, n⟩ := id
        subst same
        have gone : state.loads[n]? = none := by simpa [World.load?, atSeat] using missing
        have atLoad := (World.load?_set atSeat sessions n).symm.trans found
        cases engine with
        | memory _ revise =>
            exact (loading.settled tame (settled _ state atSeat) here).2 n opened gone atLoad
        | machine => exact tame.elim
      · have stayed := World.load?_set_other sessions same
        exact absurd (stayed.symm.trans found) (by simp [missing])

theorem Scene.Sound.leaves_new (sound : before.Sound) (settled : before.Settled)
    (tame : deed.Tame) (missing : before.world.load? id = none) :
    (before.perform deed).world.leaves id ↔ before.Abandons deed id := by
  constructor
  · rintro ⟨load, found, left⟩
    obtain ⟨seat, engine, path, given, changes, rfl⟩ :=
      (sound.step_perform deed).opened_new missing found
    exact ⟨seat, engine, path, given, changes, rfl, missing, by simp [found],
      (sound.leftOver_opened settled tame missing found).mp left⟩
  · rintro ⟨seat, engine, path, given, changes, rfl, -, known, ended⟩
    obtain ⟨load, found⟩ := Option.isSome_iff_exists.mp known
    exact ⟨load, found, (sound.leftOver_opened settled tame missing found).mpr ended⟩

theorem Scene.Sound.leaves_perform (sound : before.Sound) (settled : before.Settled)
    (tame : deed.Tame) (id : LoadId) :
    (before.perform deed).world.leaves id ↔ before.world.leaves id ∨ before.Abandons deed id := by
  cases found : before.world.load? id with
  | none =>
      rw [sound.leaves_new settled tame found]
      simp [World.leaves, found]
  | some old =>
      rw [(sound.step_perform deed).leaves_old sound found]
      simp [World.leaves, Scene.Abandons, found]

theorem abandoned_concat (deeds : List Deed) (deed : Deed) (id : LoadId) :
    Abandoned (deeds ++ [deed]) id ↔
      Abandoned deeds id ∨ (Scene.after deeds).Abandons deed id := by
  constructor
  · rintro ⟨front, other, back, split, abandons⟩
    rcases List.eq_nil_or_concat back with rfl | ⟨back, last, rfl⟩
    · obtain ⟨rfl, same⟩ := List.append_inj' split rfl
      obtain rfl := List.singleton_inj.mp same
      exact .inr abandons
    · rw [List.concat_eq_append, ← List.cons_append, ← List.append_assoc] at split
      obtain ⟨rfl, -⟩ := List.append_inj' split rfl
      exact .inl ⟨front, other, back, rfl, abandons⟩
  · rintro (⟨front, other, back, rfl, abandons⟩ | abandons)
    · exact ⟨front, other, back ++ [deed], by simp, abandons⟩
    · exact ⟨deeds, deed, [], rfl, abandons⟩

theorem Scene.after_concat (deeds : List Deed) (deed : Deed) :
    Scene.after (deeds ++ [deed]) = (Scene.after deeds).perform deed :=
  List.foldl_concat Scene.perform {} deed deeds

end Histories

theorem Scene.settled_after {deeds : List Deed} (tame : ∀ deed ∈ deeds, deed.Tame) :
    (Scene.after deeds).Settled ∧ (Scene.after deeds).world.Recorded := by
  have nothing : ({} : Scene).Settled ∧ ({} : Scene).world.Recorded := by
    refine ⟨fun seat state found => ?_, fun id member => ?_⟩
    · simp at found
    · simp at member
  exact (Scene.after_induction (fun scene => scene.Settled ∧ scene.world.Recorded) nothing
    fun deed inDeeds before after sound step held =>
      ⟨held.1.step sound (tame deed inDeeds) step, step.recorded held.2⟩).2

theorem leaves_iff_abandoned {deeds : List Deed} (tame : ∀ deed ∈ deeds, deed.Tame)
    (id : LoadId) : (Scene.after deeds).world.leaves id ↔ Abandoned deeds id := by
  induction deeds using List.reverseRecOn with
  | nil => simp [World.leaves, Abandoned, Scene.after, World.load?]
  | append_singleton deeds deed ih =>
      have front : ∀ deed ∈ deeds, deed.Tame := fun other member => tame other (by simp [member])
      rw [Scene.after_concat, (Scene.sound_after deeds).leaves_perform
        (Scene.settled_after front).1 (tame deed (by simp)), ih front, abandoned_concat]

/-- After any history in memory with tame decompilers, each decompiler that was opened was closed
once, but for those of the current inputs, which were not closed, and for those that were abandoned
by a load that ended because something could not be put as text. These are not current, and were
never closed. -/
theorem closings_unless_abandoned (deeds : List Deed) (tame : ∀ deed ∈ deeds, deed.Tame) :
    let world := (Scene.after deeds).world
    ∀ id ∈ world.opened, ∃ load, world.load? id = some load ∧
      (¬ Abandoned deeds id → load.closings = if world.holds id then 0 else 1) ∧
      (Abandoned deeds id → world.holds id = false ∧ load.closings = 0) := by
  intro world id member
  obtain ⟨settled, recorded⟩ := Scene.settled_after tame
  obtain ⟨load, found⟩ := recorded id member
  obtain ⟨state, atSeat, atLoad⟩ := Option.bind_eq_some_iff.mp found
  obtain ⟨-, -, closings⟩ := settled id.seat state atSeat id.load load atLoad
  have holds : world.holds id = state.holds id.load := by
    rw [World.holds, atSeat]
    rfl
  have left : load.leftOver = true ↔ Abandoned deeds id := by
    rw [← leaves_iff_abandoned tame, World.leaves]
    simp [found]
  refine ⟨load, found, fun kept => ?_, fun abandoned => ?_⟩
  · rw [closings, holds, Bool.eq_false_iff.mpr (mt left.mp kept), Bool.or_false]
  · have isLeft := left.mpr abandoned
    refine ⟨?_, by rw [closings, isLeft, Bool.or_true]; rfl⟩
    -- The load that is held takes the session's lock, and one that is left over takes none.
    rw [holds, Bool.eq_false_iff, Ne, State.holds_eq_true]
    rintro ⟨loaded, current, same⟩
    obtain ⟨held, atHeld, attached, -⟩ :=
      ((Scene.sound_after deeds).sessions id.seat state atSeat).current loaded current
    rw [same] at atHeld
    obtain rfl := Option.some.inj (atHeld.symm.trans atLoad)
    rw [Load.leftOver_attached attached] at isLeft
    contradiction

/-- A decompiler that raises when it is closed, another input in its place, and a third one whose
list of classes holds a number that has too many digits. -/
def unlistable : List Deed :=
    [.openSession, .replaceFiles twoArtifacts,
      .load 0 (.memory .lax (·.change .decompiler Load.closeMember (some (.raises "boom"))))
        (.path (Path.ofString "a.json")) none [],
      .load 0 (.memory .lax id) (.path (Path.ofString "b.json")) none [],
      .load 0 (.memory .lax (·.change .decompiler "getClasses"
          (some (.constant (.list [.int (Nat.pow 10 Number.digitLimit)])))))
        (.path (Path.ofString "a.json")) none []]

theorem closings_unlistable :
    let world := (Scene.after unlistable).world
    (∀ deed ∈ unlistable, deed.Tame) ∧ world.opened = [⟨0, 0⟩, ⟨0, 1⟩, ⟨0, 2⟩] ∧
      Abandoned unlistable ⟨0, 2⟩ ∧ ∃ load, world.load? ⟨0, 2⟩ = some load ∧
        world.holds ⟨0, 2⟩ = false ∧ load.closings = 0 := by
  have tame : ∀ deed ∈ unlistable, deed.Tame := by
    simp only [unlistable, List.forall_mem_cons, List.not_mem_nil, false_implies,
      implies_true, and_true]
    refine ⟨trivial, trivial, fun image => ?_, tame_image, fun image => ?_⟩
    · exact (tame_image image).change (by decide) fun _ => rfl
    · exact (tame_image image).relist (by simp [listingMembers]) (.inr ⟨_, rfl⟩)
  have abandoned : Abandoned unlistable ⟨0, 2⟩ := by
    refine ⟨unlistable.take 4, _, [], rfl, 0, _, _, _, _, rfl, ?_, by decide +kernel, _, ?_,
        .digits⟩
    · exact Option.isNone_iff_eq_none.mp (by decide +kernel)
    · exact faultOf?_eq_some.mp (by decide +kernel)
  obtain ⟨load, found, -, left⟩ :=
      closings_unless_abandoned unlistable tame ⟨0, 2⟩ (by decide +kernel)
  exact ⟨tame, by decide +kernel, abandoned, load, found, left abandoned⟩

end DexBrowser.Session

import DexBrowser.Proofs.Session.Following

/-!
Asking a load beside others. Main statement: what is run beside others keeps the rules of asking a
load that was current once. Values are those of the load as long as it is current, and who asks it
after it was let go is refused.
-/

namespace DexBrowser.Session

open Managed Session.Action

/-! ## Turns of others -/

namespace Passage

/-- Nothing is revised, neither before nor by the others. -/
structure Fair (passage : Passage) : Prop where
  honest : passage.scene.Honest
  plain : ∀ turn ∈ passage.turns, ∀ deed ∈ turn, deed.Plain

theorem giveWay_keeps {holds : Passage → Prop} {passage : Passage}
    (fair : ∀ passage, holds passage → passage.Fair)
    (fewer : ∀ passage turn turns, passage.turns = turn :: turns → holds passage →
      holds { passage with turns := turns })
    (perform : ∀ passage deed, deed.Plain → holds passage → holds (passage.perform deed))
    (before : holds passage) : holds passage.giveWay := by
  unfold giveWay
  split
  case h_1 => exact before
  case h_2 turn turns split =>
      have plain := (fair passage before).plain turn (by simp [split])
      have begun := fewer passage turn turns split before
      clear split before
      generalize ({ passage with turns := turns } : Passage) = passage at begun
      -- Over the deeds of the turn: each finds what the ones before it have left.
      induction turn generalizing passage with
      | nil => exact begun
      | cons deed rest ih =>
          exact ih (fun other member => plain other (by simp [member])) (passage.perform deed)
            (perform passage deed (plain deed (by simp)) begun)

theorem Fair.perform {passage : Passage} (fair : passage.Fair) {deed : Deed} (plain : deed.Plain) :
    (passage.perform deed).Fair :=
  ⟨fair.honest.perform plain, fair.plain⟩

theorem Fair.fewer {passage : Passage} (fair : passage.Fair) {turn : List Deed}
    {turns : List (List Deed)} (split : passage.turns = turn :: turns) :
    { passage with turns := turns : Passage }.Fair :=
  ⟨fair.honest, fun other member => fair.plain other (by simp [split, member])⟩

theorem act_eq (passage : Passage) (seat : Nat) (action : Action α) :
    passage.act seat action = ((passage.scene.world.run seat action).1,
      (if passage.scene.world.reads seat action then passage.look else passage).moveTo
        (passage.scene.run seat action)) := rfl

theorem seen_look (passage : Passage) :
    passage.look.seen = (if passage.seen.isEmpty then [] else passage.seen ++ passage.since) ++
      [passage.scene.world] := rfl

theorem mem_look (passage : Passage) {world : World} (seen : world ∈ passage.seen) :
    world ∈ passage.look.seen := by
  have some : passage.seen.isEmpty = false := by
    simpa using List.ne_nil_of_mem seen
  simp [seen_look, some, seen]

end Passage

/-! ## How a load stands -/

section Stands

variable (seat : Nat) (loaded : Loaded) (artifact : Artifact) (image : Image) (first : List World)

/-- The load is current, and was in every world since the latest read; or it was let go. -/
def Passage.Now (passage : Passage) : Prop :=
    (passage.scene.world.Presents seat loaded artifact image ∧
        ∀ world ∈ passage.since, world.Presents seat loaded artifact image) ∨
      passage.scene.world.LetGo ⟨seat, loaded.load⟩ image

/-- How the load stands that a run asks. The worlds that were read at first are those given. -/
structure Passage.Stands (s : Standing) (passage : Passage) : Prop extends passage.Fair where
  known : ∀ world ∈ first, world ∈ passage.seen
  now : passage.Now seat loaded artifact image
  unasked : s = .unasked → passage.seen = []
  kept : s = .kept → passage.seen ≠ [] ∧
    ∀ world ∈ passage.seen, world.Presents seat loaded artifact image
  gone : s = .gone → passage.scene.world.LetGo ⟨seat, loaded.load⟩ image

end Stands

namespace Passage.Stands

variable {seat : Nat} {loaded : Loaded} {artifact : Artifact} {image : Image} {first : List World}
  {s : Standing} {passage : Passage} {deed : Deed}

theorem cases (stands : passage.Stands seat loaded artifact image first s) :
    (s ≠ .gone ∧ passage.scene.world.Presents seat loaded artifact image ∧
        ∀ world ∈ passage.since, world.Presents seat loaded artifact image) ∨
      passage.scene.world.LetGo ⟨seat, loaded.load⟩ image := by
  by_cases isGone : s = .gone
  · exact .inr (stands.gone isGone)
  · exact stands.now.imp_left fun now => ⟨isGone, now⟩

theorem moveTo (stands : passage.Stands seat loaded artifact image first s) {scene : Scene}
    (step : Scene.Step deed passage.scene scene) (plain : deed.Plain) (honest : scene.Honest) :
    (passage.moveTo scene).Stands seat loaded artifact image first s where
  honest := honest
  plain := stands.plain
  known := stands.known
  now := by
    -- That the load is current ends in one way only, and does not come back.
    rcases stands.now with ⟨presents, old⟩ | gone
    · rcases presents.follow step plain honest.sound with still | gone
      · refine .inl ⟨still, fun world member => ?_⟩
        rcases List.mem_append.mp member with before | here
        · exact old world before
        · obtain rfl := List.mem_singleton.mp here
          exact still
      · exact .inr gone
    · exact .inr (gone.follow step plain)
  unasked := stands.unasked
  kept := stands.kept
  gone isGone := (stands.gone isGone).follow step plain

theorem perform (stands : passage.Stands seat loaded artifact image first s) (plain : deed.Plain) :
    (passage.perform deed).Stands seat loaded artifact image first s :=
  stands.moveTo (stands.honest.sound.step_perform deed) plain (stands.honest.perform plain)

theorem giveWay (stands : passage.Stands seat loaded artifact image first s) :
    passage.giveWay.Stands seat loaded artifact image first s := by
  refine giveWay_keeps (fun _ stands => stands.toFair) ?_
    (fun _ _ plain stands => stands.perform plain) stands
  intro passage turn turns split stands
  exact { stands with toFair := stands.toFair.fewer split }

theorem look_kept (stands : passage.Stands seat loaded artifact image first s) (asked : s ≠ .gone)
    (presents : passage.scene.world.Presents seat loaded artifact image)
    (since : ∀ world ∈ passage.since, world.Presents seat loaded artifact image) :
    passage.look.Stands seat loaded artifact image first .kept where
  honest := stands.honest
  plain := stands.plain
  known world member := passage.mem_look (stands.known world member)
  now := .inl ⟨presents, List.forall_mem_nil _⟩
  unasked := by simp
  kept _ := by
    refine ⟨by simp [seen_look], fun world member => ?_⟩
    rw [seen_look] at member
    rcases List.mem_append.mp member with before | here
    · cases s with
      | unasked => simp [stands.unasked rfl] at before
      | kept =>
          obtain ⟨some, seen⟩ := stands.kept rfl
          simp only [List.isEmpty_iff, some, if_false] at before
          exact (List.mem_append.mp before).elim (seen world) (since world)
      | gone => exact absurd rfl asked
    · obtain rfl := List.mem_singleton.mp here
      exact presents
  gone := by simp

theorem turn_gone (stands : passage.Stands seat loaded artifact image first s)
    (gone : passage.scene.world.LetGo ⟨seat, loaded.load⟩ image) :
    passage.Stands seat loaded artifact image first .gone :=
  { stands with unasked := by simp, kept := by simp, gone := fun _ => gone }

theorem look_gone (stands : passage.Stands seat loaded artifact image first s)
    (gone : passage.scene.world.LetGo ⟨seat, loaded.load⟩ image) :
    passage.look.Stands seat loaded artifact image first .gone where
  honest := stands.honest
  plain := stands.plain
  known world member := passage.mem_look (stands.known world member)
  now := .inr gone
  unasked := by simp
  kept := by simp
  gone _ := gone

section Act

variable {action : Action α} (stands : passage.Stands seat loaded artifact image first s)
  (step : Scene.Step deed passage.scene (passage.scene.run seat action)) (plain : deed.Plain)

include stands step plain

theorem act_kept (reads : passage.scene.world.reads seat action = true) (asked : s ≠ .gone)
    (presents : passage.scene.world.Presents seat loaded artifact image)
    (since : ∀ world ∈ passage.since, world.Presents seat loaded artifact image) :
    (passage.act seat action).2.Stands seat loaded artifact image first .kept := by
  rw [act_eq, if_pos reads]
  exact (stands.look_kept asked presents since).moveTo step plain (stands.honest.run plain step)

theorem act_gone (gone : passage.scene.world.LetGo ⟨seat, loaded.load⟩ image) :
    (passage.act seat action).2.Stands seat loaded artifact image first .gone := by
  have honest := stands.honest.run plain step
  by_cases reads : passage.scene.world.reads seat action = true
  · rw [act_eq, if_pos reads]
    exact (stands.look_gone gone).moveTo step plain honest
  · rw [act_eq, if_neg reads]
    exact (stands.turn_gone gone).moveTo step plain honest

theorem act_unread (reads : passage.scene.world.reads seat action = false) :
    (passage.act seat action).2.Stands seat loaded artifact image first s := by
  rw [act_eq, reads]
  exact stands.moveTo step plain (stands.honest.run plain step)

end Act

end Passage.Stands

/-! ## Rules -/

section Rules

variable (seat : Nat) (loaded : Loaded) (artifact : Artifact) (image : Image) (first : List World)

/-- Steps end so beside others, whatever these do: with a value as it is said, or refused because
the load was let go. -/
def Beside.Gives (s : Standing) (steps : Beside seat α) (post : α → Standing → Prop) : Prop :=
    ∀ passage : Passage, passage.Stands seat loaded artifact image first s →
      match steps.run passage with
      | (.ok a, after) => ∃ s', after.Stands seat loaded artifact image first s' ∧ post a s'
      | (.error fault, after) => (∃ cause, fault = .managed cause) ∧
          after.Stands seat loaded artifact image first .gone

end Rules

section Gives

variable {seat : Nat} {loaded : Loaded} {artifact : Artifact} {image : Image} {first : List World}
  {s : Standing}

theorem Beside.gives_bind {steps : Beside seat α} {next : α → Beside seat β}
    {mid : α → Standing → Prop} {post : β → Standing → Prop}
    (gives : Beside.Gives seat loaded artifact image first s steps mid)
    (rest : ∀ a after, mid a after →
      Beside.Gives seat loaded artifact image first after (next a) post) :
    Beside.Gives seat loaded artifact image first s (steps >>= next) post := by
  intro passage stands
  have ended := gives passage stands
  rw [Beside.run_bind]
  generalize steps.run passage = result at ended
  obtain ⟨outcome, after⟩ := result
  cases outcome with
  | error fault => exact ended
  | ok a =>
      obtain ⟨between, stands, fine⟩ := ended
      exact rest a between fine after stands

theorem Beside.gives_mono {steps : Beside seat α} {post other : α → Standing → Prop}
    (gives : Beside.Gives seat loaded artifact image first s steps post)
    (fine : ∀ a after, post a after → other a after) :
    Beside.Gives seat loaded artifact image first s steps other := by
  intro passage stands
  have ended := gives passage stands
  generalize steps.run passage = result at ended ⊢
  obtain ⟨outcome, after⟩ := result
  cases outcome with
  | error fault => exact ended
  | ok a =>
      obtain ⟨between, stands, given⟩ := ended
      exact ⟨between, stands, fine a between given⟩

theorem Beside.gives_calm {action : Action α} {good : α → Prop}
    (calm : Calm ⟨seat, loaded.load⟩ image good action) :
    Beside.Gives seat loaded artifact image first s (liftM action) fun a after =>
      good a ∧ after = s := by
  intro passage stands
  have stands := stands.giveWay
  have shown : passage.giveWay.scene.world.Shown ⟨seat, loaded.load⟩ image :=
    stands.now.elim (·.1.shown) (·.shown stands.honest.sound)
  obtain ⟨unread, step, a, given, fine⟩ := shown.calm calm .openSession
  have after := stands.act_unread step trivial unread
  rw [Beside.run_lift, Passage.step, Passage.act_eq, given] 
  exact ⟨s, after, fine, rfl⟩

/-- A read of a handle, which goes by whether the load is current or was let go. -/
theorem Beside.gives_read {h : Handle} (own : World.originOf h = ⟨seat, loaded.load⟩)
    {action : Action α} (uses : Uses h.load action)
    (reads : ∀ {world : World} {state : State} {load : Load}, world.sessions[seat]? = some state →
      state.loads[h.load]? = some load → load.attached = true → world.reads seat action = true)
    {post : α → Standing → Prop}
    (current : s ≠ .gone → ∀ world : World, world.Presents seat loaded artifact image →
      ∃ a, (world.run seat action).1 = .ok a ∧ post a .kept)
    (gone : ∀ scene : Scene, scene.Sound → scene.world.LetGo ⟨seat, loaded.load⟩ image →
      match (scene.world.run seat action).1 with
      | .ok a => post a .gone
      | .error fault => ∃ cause, fault = .managed cause) :
    Beside.Gives seat loaded artifact image first s (liftM action) post := by
  intro passage stands
  have stands := stands.giveWay
  rw [Beside.run_lift, Passage.step]
  generalize passage.giveWay = passage at stands
  have step := uses.step .openSession passage.scene seat
  rcases stands.cases with ⟨asked, presents, since⟩ | letGo
  · obtain ⟨state, found, isCurrent, -⟩ := presents.session
    obtain ⟨load, atLoad, attached, -⟩ :=
      (stands.honest.sound.sessions seat state found).current loaded isCurrent
    -- The load takes the lock, so that asking through its handle is a read.
    have sameLoad : h.load = loaded.load := congrArg LoadId.load own
    have isRead := reads found (by rw [sameLoad, atLoad]) attached
    have after := stands.act_kept step trivial isRead asked presents since
    obtain ⟨a, given, fine⟩ := current asked _ presents
    rw [Passage.act_eq, given] at *
    exact ⟨.kept, after, fine⟩
  · have after := stands.act_gone step trivial letGo
    have ends := gone passage.scene stands.honest.sound letGo
    rw [Passage.act_eq] at *
    generalize (passage.scene.world.run seat action).1 = outcome at ends
    cases outcome with
    | ok a => exact ⟨.gone, after, ends⟩
    | error fault => exact ⟨ends, after⟩

end Gives

/-- What is run beside others keeps the rules of asking a load that was current once. -/
def besideAsking (seat : Nat) (loaded : Loaded) (artifact : Artifact) (image : Image)
    (first : List World) : Asking (Beside seat) ⟨seat, loaded.load⟩ image where
  Gives s steps post := Beside.Gives seat loaded artifact image first s steps post
  mono gives fine := Beside.gives_mono gives fine
  value {_ s _ _} fine passage stands := ⟨s, stands, fine⟩
  andThen gives rest := Beside.gives_bind gives rest
  calm calm := Beside.gives_calm calm
  invoke {_ h _ _ name _} wraps tells other := by
    refine Beside.gives_read wraps.origin (uses_invoke h other)
      (fun found atLoad attached => World.reads_invoke found atLoad attached name) ?_ ?_
    · intro asked world presents
      exact ⟨_, presents.live.answers (Live.keeps_invoke wraps tells other), asked, rfl, rfl⟩
    · intro scene sound letGo
      rw [letGo.dead.refuses sound wraps.origin name]
      exact ⟨_, rfl⟩
  text {_ h _ _ _} wraps tells := by
    refine Beside.gives_read wraps.origin (uses_toText h)
      (fun found atLoad attached => World.reads_toText found atLoad attached) ?_ ?_
    · intro asked world presents
      exact ⟨_, presents.live.answers (Live.keeps_toText wraps tells), fun _ => ⟨asked, rfl⟩⟩
    · intro scene sound letGo
      obtain ⟨text, told⟩ := letGo.tellsText sound wraps.toOf
      rw [told]
      exact fun kept => absurd rfl kept

end DexBrowser.Session

import DexBrowser.Validation.Lax
import DexBrowser.Proofs.Session.Counting
import DexBrowser.Proofs.Session.Mildness

/-!
Threads do not use what is released, as far as sections go. Main statement: while a call that was
made in a section is in progress, its receiver's load is open, and so are those of the same
session's handles that are passed along; a handle of another session that is passed along is not
guarded by that section, and what is asked outside of sections is not guarded at all.
-/

namespace DexBrowser.Session

open Managed Session.Action

/-! ## Sections and stages -/

namespace Threads

variable {Actor : Type}

def sections (threads : Threads Actor) (seat : Nat) : List Section :=
    (threads.opened.filter (·.2.1 = seat)).map (·.2.2)

theorem mem_sections {threads : Threads Actor} {seat : Nat} {s : Section} :
    s ∈ threads.sections seat ↔ ∃ actor, (actor, seat, s) ∈ threads.opened := by
  simp [sections]

/-- What a thread may rely on, at the stage that it is at. In a section, what it found alive in the
session of the section stays alive; what it found alive elsewhere need not. -/
def Fits (threads : Threads Actor) (actor : Actor) : Stage → Prop
  | .idle => True
  | .checking h asked left =>
      asked.isPlain = true ∧ (actor, h.seat, Section.shared) ∈ threads.opened ∧
        ∀ g ∈ h :: asked.others, g ∈ left ∨
          (g.seat = h.seat → threads.world.lives (World.originOf g) = true)
  | .calling h asked =>
      asked.isPlain = true ∧ (actor, h.seat, Section.shared) ∈ threads.opened ∧
        ∀ g ∈ h :: asked.others, g.seat = h.seat →
          threads.world.lives (World.originOf g) = true
  | .leaving h _ => (actor, h.seat, Section.shared) ∈ threads.opened
  | .aside _ _ => True
  | .opening seat _ _ _ => (actor, seat, Section.exclusive) ∈ threads.opened
  | .replacing seat loaded =>
      (actor, seat, Section.exclusive) ∈ threads.opened ∧
        ∀ one, loaded = some one → ∃ load, threads.world.load? ⟨seat, one.load⟩ = some load
  | .invalidating seat previous =>
      (actor, seat, Section.exclusive) ∈ threads.opened ∧
        ∃ load, threads.world.load? ⟨seat, previous.load⟩ = some load
  | .closing seat previous =>
      (actor, seat, Section.exclusive) ∈ threads.opened ∧
        threads.world.IsDead ⟨seat, previous.load⟩
  | .finishing seat => (actor, seat, Section.exclusive) ∈ threads.opened

/-- A stage fits still if the sections of the thread stay open, what lives in a session where it
reads stays alive, and no load is forgotten or comes back to life. -/
theorem Fits.mono {before after : Threads Actor} {actor : Actor} {stage : Stage}
    (fits : before.Fits actor stage)
    (sections : ∀ seat s, (actor, seat, s) ∈ before.opened → (actor, seat, s) ∈ after.opened)
    (lives : ∀ id, (actor, id.seat, Section.shared) ∈ before.opened →
      before.world.lives id = true → after.world.lives id = true)
    (known : ∀ id load, before.world.load? id = some load →
      ∃ later, after.world.load? id = some later ∧ (load.alive = false → later.alive = false)) :
    after.Fits actor stage := by
  have found : ∀ id, (∃ load, before.world.load? id = some load) →
      ∃ load, after.world.load? id = some load := by
    rintro id ⟨load, atLoad⟩
    obtain ⟨later, atLater, -⟩ := known id load atLoad
    exact ⟨later, atLater⟩
  cases stage with
  | idle | aside => trivial
  | checking h asked left =>
      obtain ⟨plain, reads, checked⟩ := fits
      refine ⟨plain, sections _ _ reads, fun g member => (checked g member).imp_right ?_⟩
      exact fun alive same => lives _ (by rw [World.originOf, same]; exact reads) (alive same)
  | calling h asked =>
      obtain ⟨plain, reads, checked⟩ := fits
      refine ⟨plain, sections _ _ reads, fun g member same => lives _ ?_ (checked g member same)⟩
      rw [World.originOf, same]
      exact reads
  | leaving h fallsBack => exact sections _ _ fits
  | opening seat engine path options => exact sections _ _ fits
  | replacing seat loaded =>
      exact ⟨sections _ _ fits.1, fun one isOne => found _ (fits.2 one isOne)⟩
  | invalidating seat previous => exact ⟨sections _ _ fits.1, found _ fits.2⟩
  | closing seat previous =>
      obtain ⟨load, atLoad, dead⟩ := fits.2
      obtain ⟨later, atLater, still⟩ := known _ load atLoad
      exact ⟨sections _ _ fits.1, later, atLater, still dead⟩
  | finishing seat => exact sections _ _ fits

/-- The locks count the open sections, and every thread is at a stage that fits. -/
structure Sound (threads : Threads Actor) : Prop where
  counts : ∀ seat, (threads.world.lockAt seat).Counts (threads.sections seat)
  firm : threads.world.Firm
  fits : ∀ actor, threads.Fits actor (threads.stage actor)

theorem sound_start : ({} : Threads Actor).Sound where
  counts _ := Lock.counts_nil
  firm _ _ found := by simp at found
  fits _ := trivial

variable {threads : Threads Actor}

theorem Sound.not_writing (sound : threads.Sound) {reader writer : Actor} {seat : Nat}
    (reads : (reader, seat, Section.shared) ∈ threads.opened) :
    (writer, seat, Section.exclusive) ∉ threads.opened := fun writes =>
  (sound.counts seat).not_mem_shared (mem_sections.mpr ⟨writer, writes⟩)
    (mem_sections.mpr ⟨reader, reads⟩)

theorem Fits.mild {actor : Actor} {stage : Stage} (fits : threads.Fits actor stage)
    {world : World} (mild : threads.world.Mild world) :
    Fits { threads with world := world } actor stage :=
  fits.mono (fun _ _ member => member) (fun _ _ => mild.lives) fun id load found => by
    obtain ⟨later, atLater, same⟩ := mild.later id load found
    exact ⟨later, atLater, same.trans⟩

theorem Sound.mild (sound : threads.Sound) {world : World} (mild : threads.world.Mild world) :
    Sound { threads with world := world } where
  counts seat := by
    rw [mild.locks]
    exact sound.counts seat
  firm := mild.firm sound.firm
  fits actor := (sound.fits actor).mild mild

theorem Fits.turned {actor : Actor} {seat : Nat} {change : Lock → Lock}
    {opened : List (Actor × Nat × Section)} {stage : Stage} (fits : threads.Fits actor stage)
    (still : ∀ seat s, (actor, seat, s) ∈ threads.opened → (actor, seat, s) ∈ opened) :
    Fits { threads.act seat (turnLock change) with opened := opened } actor stage := by
  have same := threads.world.load?_turned seat change
  refine fits.mono still (fun id _ alive => ?_) fun id load atLoad => ?_
  · rw [World.lives] at alive ⊢
    exact (congrArg _ (same id)).trans alive
  · exact ⟨load, (same id).trans atLoad, fun dead => dead⟩

theorem Sound.turned (sound : threads.Sound) {seat : Nat} {state : State}
    (found : threads.world.sessions[seat]? = some state) {change : Lock → Lock}
    {opened : List (Actor × Nat × Section)}
    (counts : (change state.lock).Counts ((opened.filter (·.2.1 = seat)).map (·.2.2)))
    (others : ∀ other, other ≠ seat →
      (threads.opened.filter (·.2.1 = other)).Perm (opened.filter (·.2.1 = other)))
    (fits : ∀ actor, Fits { threads.act seat (turnLock change) with opened := opened } actor
      (threads.stage actor)) :
    Sound { threads.act seat (turnLock change) with opened := opened } where
  counts other := by
    have turned := World.lockAt_set found (threads.world.sessions_turned seat change found) other
    dsimp only [act, sections]
    rw [turned]
    split
    · rename_i same
      rw [same]
      exact counts
    · rename_i distinct
      have same := (others other distinct).map fun entry => entry.2.2
      exact (sound.counts other).perm same
  firm other state' found' := by
    dsimp only [act] at found'
    rw [World.sessions_turned _ _ _ found] at found'
    rcases set_cases found' with ⟨-, rfl⟩ | ⟨-, old⟩
    · exact ⟨(sound.firm seat state found).unclosed, (sound.firm seat state found).anchored⟩
    · exact sound.firm other state' old
  fits := fits

theorem admits_iff {seat : Nat} {s : Section} :
    threads.admits seat s = true ↔
      ∃ state, threads.world.sessions[seat]? = some state ∧ state.lock.admits s = true := by
  simp [admits, Option.any_eq_true]

theorem Sound.session (sound : threads.Sound) {actor : Actor} {seat : Nat} {s : Section}
    (held : (actor, seat, s) ∈ threads.opened) :
    ∃ state, threads.world.sessions[seat]? = some state := by
  cases found : threads.world.sessions[seat]? with
  | some state => exact ⟨state, rfl⟩
  | none =>
      have counts := sound.counts seat
      rw [World.lockAt, found] at counts
      have empty := counts.admits_exclusive_iff.mp rfl
      have member := mem_sections.mpr ⟨actor, held⟩
      rw [empty] at member
      contradiction

theorem Sound.enter (sound : threads.Sound) {actor : Actor} {seat : Nat} {s : Section}
    (admitted : threads.admits seat s = true) : (threads.enter actor seat s).Sound := by
  obtain ⟨state, found, admits⟩ := admits_iff.mp admitted
  refine sound.turned found ?_ (fun other distinct => ?_) fun one => ?_
  · have counts := sound.counts seat
    rw [World.lockAt_of_session found] at counts
    simpa [sections] using counts.enter admits
  · simp [Ne.symm distinct]
  · exact (sound.fits one).turned fun _ _ member => List.mem_cons_of_mem _ member

theorem Sound.isOpen_of_lives (sound : threads.Sound) {h : Handle}
    (alive : threads.world.lives (World.originOf h) = true) : threads.isOpen h = true := by
  obtain ⟨load, found, isAlive⟩ := World.lives_eq_true.mp alive
  obtain ⟨state, atSeat, atLoad⟩ := Option.bind_eq_some_iff.mp found
  have unclosed := (sound.firm _ state atSeat).unclosed _ load atLoad isAlive
  simp [isOpen, found, isAlive, unclosed]

theorem isOpen_eq_false {h : Handle} (dead : threads.world.IsDead (World.originOf h)) :
    threads.isOpen h = false := by
  obtain ⟨load, found, isDead⟩ := dead
  simp [isOpen, found, isDead]

/-- While a call made in a section is in progress, the load of its receiver is open, and so is that
of every handle of the same session that is passed along. -/
theorem Sound.guarded (sound : threads.Sound) {actor : Actor} {h : Handle} {asked : Question}
    (stage : threads.stage actor = .calling h asked) :
    ∀ g ∈ h :: asked.others, g.seat = h.seat → threads.isOpen g = true := by
  intro g member same
  have fits := sound.fits actor
  rw [stage] at fits
  exact sound.isOpen_of_lives (fits.2.2 g member same)

section Moves

variable [DecidableEq Actor] {actor : Actor}

theorem Sound.moveTo (sound : threads.Sound) {stage : Stage} (fits : threads.Fits actor stage) :
    (threads.moveTo actor stage).Sound where
  counts := sound.counts
  firm := sound.firm
  fits other := by
    -- Stages do not bear on whether another one fits.
    change threads.Fits other (Function.update threads.stage actor stage other)
    by_cases same : other = actor
    · subst same
      rwa [Function.update_self]
    · rw [Function.update_of_ne same]
      exact sound.fits other

theorem Sound.leave (sound : threads.Sound) {seat : Nat} {s : Section}
    (held : (actor, seat, s) ∈ threads.opened) (idle : threads.stage actor = .idle) :
    (threads.leave actor seat s).Sound := by
  obtain ⟨state, found⟩ := sound.session held
  have parted (other : Nat) := (List.perm_cons_erase held).filter fun entry => entry.2.1 = other
  refine sound.turned found ?_ (fun other distinct => ?_) fun one => ?_
  · have same := (parted seat).map fun entry => entry.2.2
    have counts := (sound.counts seat).perm same
    rw [World.lockAt_of_session found] at counts
    simp only [List.filter_cons, decide_true, if_true, List.map_cons] at counts
    exact counts.leave
  · simpa [Ne.symm distinct] using parted other
  · by_cases same : one = actor
    · rw [same, idle]
      trivial
    · refine (sound.fits one).turned fun _ _ member => ?_
      exact (List.mem_erase_of_ne fun equal => same (congrArg Prod.fst equal)).mpr member

theorem Sound.leaveTo (sound : threads.Sound) {seat : Nat} {s : Section} {stage : Stage}
    (held : (actor, seat, s) ∈ threads.opened)
    (fits : ∀ threads : Threads Actor, threads.Fits actor stage) :
    ((threads.leave actor seat s).moveTo actor stage).Sound := by
  have between : (threads.moveTo actor .idle).Sound := sound.moveTo trivial
  have left := (between.leave held (Function.update_self ..)).moveTo (fits _)
  have same : ((threads.moveTo actor .idle).leave actor seat s).moveTo actor stage =
      (threads.leave actor seat s).moveTo actor stage := by
    simp only [Threads.moveTo, Threads.leave, act, Function.update_idem]
  rwa [same] at left

/-! ## Every move -/

theorem Sound.start (sound : threads.Sound) (idle : threads.stage actor = .idle) (task : Task) :
    (threads.start actor task).Sound := by
  cases task with
  | use h asked =>
      simp only [Threads.start]
      split
      · rename_i allowed
        obtain ⟨⟨-, plain⟩, admitted⟩ :
            (_ ∧ asked.isPlain = true) ∧ threads.admits h.seat .shared = true := by
          simpa using allowed
        exact (sound.enter admitted).moveTo
          ⟨plain, List.mem_cons_self, fun g member => .inl member⟩
      · exact sound
  | aside h asked =>
      simp only [Threads.start]
      split
      · exact sound.moveTo trivial
      · exact sound
  | hold h =>
      simp only [Threads.start]
      split
      · rename_i allowed
        obtain ⟨-, admitted⟩ : _ ∧ threads.admits h.seat .shared = true := by
          simpa using allowed
        exact sound.enter admitted
      · exact sound
  | letGo h =>
      simp only [Threads.start]
      split
      · rename_i held
        exact sound.leave (by simpa using held) idle
      · exact sound
  | load seat engine path options =>
      simp only [Threads.start]
      split
      · rename_i admitted
        exact (sound.enter admitted).moveTo List.mem_cons_self
      · exact sound
  | close seat =>
      simp only [Threads.start]
      split
      · rename_i admitted
        exact (sound.enter admitted).moveTo ⟨List.mem_cons_self, by simp⟩
      · exact sound

/-- Who does something mild and then is at a stage that fits leaves the threads sound. -/
theorem Sound.step (sound : threads.Sound) {seat : Nat} {action : Action α} {stage : Stage}
    (mild : threads.world.Mild (threads.world.run seat action).2)
    (fits : (threads.act seat action).Fits actor stage) :
    ((threads.act seat action).moveTo actor stage).Sound :=
  (sound.mild mild).moveTo fits

theorem Sound.invalidate (sound : threads.Sound) {seat : Nat} {previous : Loaded}
    (stage : threads.stage actor = .invalidating seat previous) :
    ((threads.act seat (Session.invalidate previous.load)).moveTo actor
      (.closing seat previous)).Sound := by
  have fits := sound.fits actor
  rw [stage] at fits
  obtain ⟨writes, load, known⟩ := fits
  have cut := World.cut_invalidate known
  refine ⟨fun other => ?_, cut.firm sound.firm, fun other => ?_⟩
  · exact (cut.locks other).symm ▸ sound.counts other
  · change Fits (threads.act seat (Session.invalidate previous.load)) other
      (Function.update threads.stage actor (.closing seat previous) other)
    by_cases same : other = actor
    · subst same
      rw [Function.update_self]
      exact ⟨writes, cut.dead⟩
    · rw [Function.update_of_ne same]
      -- Nobody reads where this one writes.
      refine (sound.fits other).mono (fun _ _ member => member) (fun id reads alive => ?_)
        fun id one atOne => ?_
      · have distinct : id ≠ ⟨seat, previous.load⟩ := by
          rintro rfl
          exact sound.not_writing reads writes
        rw [World.lives] at alive ⊢
        exact (congrArg _ (cut.kept id distinct)).trans alive
      · by_cases cutOff : id = ⟨seat, previous.load⟩
        · subst cutOff
          obtain ⟨later, atLater, dead⟩ := cut.dead
          exact ⟨later, atLater, fun _ => dead⟩
        · exact ⟨one, (cut.kept id cutOff).trans atOne, fun dead => dead⟩

theorem opened_known {world : World} {seat : Nat} {state : State}
    (found : world.sessions[seat]? = some state) {engine : Engine} {path : Path}
    {options : LoadOptions} {loaded : Loaded}
    (ready : (world.run seat (prepare engine path options)).1 = .ok loaded) :
    ∃ load, (world.run seat (prepare engine path options)).2.load? ⟨seat, loaded.load⟩ =
      some load := by
  obtain ⟨outcome, sessions, -⟩ := World.run_of_session found (prepare engine path options)
  have prepared :=
    (prepared_prepare engine path options ⟨state, world.files, world.journal⟩).1
  rw [← outcome, ready] at prepared
  obtain ⟨load, minted, isReady, pushed⟩ := prepared.ready?
  refine ⟨{ load with attached := true }, ?_⟩
  rw [World.load?_set found sessions, pushed, isReady.newest]
  exact State.push_getElem _ _

theorem Sound.goOn (sound : threads.Sound) (actor : Actor) : (threads.goOn actor).Sound := by
  have fits := sound.fits actor
  unfold Threads.goOn
  cases stage : threads.stage actor with
  | idle => exact sound
  | checking h asked left =>
      rw [stage] at fits
      obtain ⟨plain, reads, checked⟩ := fits
      cases left with
      | nil =>
          refine sound.moveTo ⟨plain, reads, fun g member => ?_⟩
          exact (checked g member).resolve_left List.not_mem_nil
      | cons g left =>
          dsimp only
          split
          · rename_i alive
            refine sound.moveTo ⟨plain, reads, fun other member => ?_⟩
            rcases checked other member with pending | was
            · rcases List.mem_cons.mp pending with rfl | rest
              · exact .inr fun _ => alive
              · exact .inl rest
            · exact .inr was
          · exact sound.moveTo reads
  | calling h asked =>
      rw [stage] at fits
      exact sound.step (uses_call _ h fits.1).mild fits.2.1
  | leaving h fallsBack =>
      rw [stage] at fits
      refine sound.leaveTo fits fun _ => ?_
      cases fallsBack <;> trivial
  | aside h asked => exact sound.step (uses_aside h asked).mild trivial
  | opening seat engine path options =>
      rw [stage] at fits
      obtain ⟨state, found⟩ := sound.session fits
      refine sound.step (mild_prepare engine path options) ?_
      split
      · rename_i loaded ready
        refine ⟨fits, fun one isOne => ?_⟩
        obtain rfl := Option.some.inj isOne
        exact opened_known found ready
      · exact fits
  | replacing seat loaded =>
      rw [stage] at fits
      obtain ⟨state, found⟩ := sound.session fits.1
      have mild := mild_replaceCurrent fits.2
      refine sound.step mild ?_
      split
      · rename_i previous current
        have isCurrent : state.current = some previous := by
          simpa [World.current, found] using current
        have bound := (sound.firm seat state found).anchored previous isCurrent
        have known : threads.world.load? ⟨seat, previous.load⟩ =
            some state.loads[previous.load] := by
          rw [World.load?, found]
          exact List.getElem?_eq_getElem bound
        obtain ⟨later, atLater, -⟩ := mild.later _ _ known
        exact ⟨fits.1, later, atLater⟩
      · exact fits.1
  | invalidating seat previous => exact sound.invalidate stage
  | closing seat previous =>
      rw [stage] at fits
      exact sound.step (mild_closePrevious fits.2) fits.1
  | finishing seat =>
      rw [stage] at fits
      exact sound.leaveTo fits fun _ => trivial

theorem Sound.perform (sound : threads.Sound) (move : Move Actor) :
    (threads.perform move).Sound := by
  cases move with
  | openSession => exact sound.mild (World.mild_addSession _)
  | amend seat change => exact sound.mild (World.mild_amend _ seat change)
  | replaceFiles files =>
      exact sound.mild ⟨fun _ => rfl, fun _ load found => ⟨load, found, rfl⟩, fun firm => firm⟩
  | start actor task =>
      simp only [Threads.perform]
      split
      · rename_i isIdle
        refine sound.start ?_ task
        cases stage : threads.stage actor <;> simp_all [Stage.isIdle]
      · exact sound
  | goOn actor => exact sound.goOn actor

theorem Sound.run (sound : threads.Sound) (moves : List (Move Actor)) :
    (threads.run moves).Sound :=
  List.foldlRecOn moves Threads.perform sound fun _ sound move _ => sound.perform move

theorem sound_after (moves : List (Move Actor)) : (after moves).Sound :=
  sound_start.run moves

end Moves

/-! ## What is not guarded -/

structure AtRest (threads : Threads Actor) (reader closer : Actor) : Prop where
  opened : threads.opened = []
  distinct : reader ≠ closer
  reader : (threads.stage reader).isIdle = true
  closer : (threads.stage closer).isIdle = true

structure IsCurrent (threads : Threads Actor) (h : Handle) : Prop where
  known : threads.knows h = true
  alive : threads.world.lives (World.originOf h) = true
  held : threads.world.holds (World.originOf h) = true

theorem knows_session {h : Handle} (known : threads.knows h = true) :
    ∃ state, threads.world.sessions[h.seat]? = some state := by
  obtain ⟨load, found, -⟩ := (Option.any_eq_true ..).mp known
  obtain ⟨state, atSeat, -⟩ := Option.bind_eq_some_iff.mp found
  exact ⟨state, atSeat⟩

theorem Sound.admits_shared (sound : threads.Sound) {seat : Nat} {state : State}
    (found : threads.world.sessions[seat]? = some state)
    (unwritten : ∀ actor, (actor, seat, Section.exclusive) ∉ threads.opened) :
    threads.admits seat .shared = true := by
  have counts := sound.counts seat
  rw [World.lockAt_of_session found] at counts
  refine admits_iff.mpr ⟨state, found, counts.admits_shared_iff.mpr ?_⟩
  rw [mem_sections]
  exact fun ⟨actor, writes⟩ => unwritten actor writes

theorem Sound.admits_exclusive (sound : threads.Sound) {seat : Nat} {state : State}
    (found : threads.world.sessions[seat]? = some state)
    (unused : ∀ actor s, (actor, seat, s) ∉ threads.opened) :
    threads.admits seat .exclusive = true := by
  have counts := sound.counts seat
  rw [World.lockAt_of_session found] at counts
  refine admits_iff.mpr ⟨state, found, counts.admits_exclusive_iff.mpr ?_⟩
  refine List.eq_nil_iff_forall_not_mem.mpr fun s member => ?_
  obtain ⟨actor, held⟩ := mem_sections.mp member
  exact unused actor s held

section Runs

variable [DecidableEq Actor]

theorem exists_current {world : World} {id : LoadId} (held : world.holds id = true) :
    ∃ loaded, world.current id.seat = some loaded ∧ loaded.load = id.load := by
  obtain ⟨state, found, holds⟩ := (Option.any_eq_true _ _).mp held
  obtain ⟨loaded, current, same⟩ := State.holds_eq_true.mp holds
  exact ⟨loaded, by rw [World.current, found]; exact current, same⟩

theorem run_compare (sound : threads.Sound) {reader : Actor} {h other : Handle}
    (opened : threads.opened = []) (idle : (threads.stage reader).isIdle = true)
    (known : threads.knows h = true) (alive : threads.world.lives (World.originOf h) = true)
    (otherAlive : threads.world.lives (World.originOf other) = true) :
    threads.run [.start reader (.use h (.equals other)), .goOn reader, .goOn reader, .goOn reader] =
      (threads.enter reader h.seat .shared).moveTo reader (.calling h (.equals other)) := by
  obtain ⟨state, found⟩ := knows_session known
  have admitted := sound.admits_shared found (by simp [opened])
  have lives (id : LoadId) : (threads.enter reader h.seat .shared).world.lives id =
      threads.world.lives id :=
    congrArg _ (threads.world.load?_turned h.seat (·.enter .shared) id)
  simp [Threads.run, Threads.perform, Threads.start, Threads.goOn, Threads.moveTo, idle, known,
    admitted, Question.isPlain, Question.others, lives, alive, otherAlive]

theorem stage_release (sound : threads.Sound) {closer : Actor} {seat : Nat} {previous : Loaded}
    (unused : ∀ actor s, (actor, seat, s) ∉ threads.opened)
    (idle : (threads.stage closer).isIdle = true)
    (current : threads.world.current seat = some previous) :
    (threads.run [.start closer (.close seat), .goOn closer, .goOn closer]).stage =
      Function.update threads.stage closer (.closing seat previous) := by
  obtain ⟨state, found, -⟩ := Option.bind_eq_some_iff.mp current
  have admitted := sound.admits_exclusive found unused
  simp [Threads.run, Threads.perform, Threads.start, Threads.goOn, Threads.moveTo, idle, admitted,
    act, Threads.enter, World.current_turned, current]

/-- A call in progress passes a handle along whose session is closed meanwhile, if that is not the
session of the receiver. -/
theorem exists_unguarded (sound : threads.Sound) {reader closer : Actor} {h other : Handle}
    (rest : threads.AtRest reader closer) (current : threads.IsCurrent h)
    (otherCurrent : threads.IsCurrent other) (apart : other.seat ≠ h.seat) :
    ∃ more, (threads.run more).stage reader = .calling h (.equals other) ∧
      (threads.run more).isOpen other = false := by
  let compared := threads.run
    [.start reader (.use h (.equals other)), .goOn reader, .goOn reader, .goOn reader]
  have reached : compared = _ :=
    run_compare sound rest.opened rest.reader current.known current.alive otherCurrent.alive
  have comparing : compared.Sound := sound.run _
  obtain ⟨previous, isCurrent, same⟩ := exists_current otherCurrent.held
  have stillCurrent : compared.world.current other.seat = some previous := by
    rw [reached]
    exact (threads.world.current_turned h.seat (·.enter .shared) other.seat).trans isCurrent
  have stage : compared.stage = Function.update threads.stage reader (.calling h (.equals other)) :=
    congrArg Threads.stage reached
  have unused : ∀ actor s, (actor, other.seat, s) ∉ compared.opened := by
    intro actor s
    rw [congrArg Threads.opened reached]
    simp [Threads.enter, Threads.moveTo, rest.opened, apart]
  have idle : (compared.stage closer).isIdle = true := by
    rw [stage, Function.update_of_ne rest.distinct.symm, rest.closer]
  have released := stage_release comparing unused idle stillCurrent
  refine ⟨[.start reader (.use h (.equals other)), .goOn reader, .goOn reader, .goOn reader] ++
    [.start closer (.close other.seat), .goOn closer, .goOn closer], ?_⟩
  rw [Threads.run, List.foldl_append, ← Threads.run, ← Threads.run]
  have closing : (compared.run _).Sound :=
    comparing.run [.start closer (.close other.seat), .goOn closer, .goOn closer]
  have fits := closing.fits closer
  rw [released, Function.update_self] at fits
  have dead := fits.2
  rw [same] at dead
  refine ⟨?_, isOpen_eq_false dead⟩
  rw [released, Function.update_of_ne rest.distinct, stage, Function.update_self]

theorem run_text (sound : threads.Sound) {reader : Actor} {h : Handle} {load : Load}
    (opened : threads.opened = []) (idle : (threads.stage reader).isIdle = true)
    (found : threads.world.load? (World.originOf h) = some load) (attached : load.attached = true)
    (dead : load.alive = false) :
    threads.run [.start reader (.use h .text), .goOn reader, .goOn reader] =
      ((threads.enter reader h.seat .shared).leave reader h.seat .shared).moveTo reader
        (.aside h .fallback) := by
  have known : threads.knows h = true := by simp [knows, found, attached]
  obtain ⟨state, atSeat⟩ := knows_session known
  have admitted := sound.admits_shared atSeat (by simp [opened])
  have unread : (threads.enter reader h.seat .shared).world.lives (World.originOf h) = false := by
    simp [World.lives, Threads.enter, act, World.load?_turned, found, dead]
  simp [Threads.run, Threads.perform, Threads.start, Threads.goOn, Threads.moveTo, idle, known,
    admitted, Question.isPlain, Question.others, Question.fallsBack, unread,
    Threads.leave, act]

/-- The text of a handle whose load is dead is asked of a virtual machine. -/
theorem exists_aside (sound : threads.Sound) {reader : Actor} {h : Handle} {load : Load}
    (opened : threads.opened = []) (idle : (threads.stage reader).isIdle = true)
    (found : threads.world.load? (World.originOf h) = some load) (attached : load.attached = true)
    (machine : load.host ≠ .memory) (dead : load.alive = false) :
    ∃ more, (threads.run more).call? reader = some (h, []) ∧
      (threads.run more).isOpen h = false := by
  refine ⟨[.start reader (.use h .text), .goOn reader, .goOn reader], ?_⟩
  rw [run_text sound opened idle found attached dead]
  simp [call?, isOpen, Threads.moveTo, Threads.enter, Threads.leave, act, World.load?_turned, found,
    machine, dead]

/-- After any moves of any threads, the load of a receiver is open while a call that was made in a
section is in progress, and so is that of every handle of the receiver's session that is passed
along. With no section open, what is asked through the handles of current inputs is guarded
whatever comes next if and only if all handles that are passed along are of the receiver's session.
The text of a handle whose load is dead is asked of a virtual machine, though. -/
theorem calls_guarded_iff (moves : List (Move Actor)) :
    let threads := after moves
    (∀ actor h asked, threads.stage actor = .calling h asked →
      ∀ g ∈ h :: asked.others, g.seat = h.seat → threads.isOpen g = true) ∧
    (∀ reader closer h asked, threads.AtRest reader closer →
      (∀ g ∈ h :: asked.others, threads.IsCurrent g) →
      ((∀ more, (threads.run more).stage reader = .calling h asked →
          ∀ g ∈ h :: asked.others, (threads.run more).isOpen g = true) ↔
        ∀ g ∈ asked.others, g.seat = h.seat)) ∧
    (∀ reader h load, threads.opened = [] → (threads.stage reader).isIdle = true →
      threads.world.load? (World.originOf h) = some load → load.attached = true →
      load.host ≠ .memory → load.alive = false →
      ∃ more, (threads.run more).call? reader = some (h, []) ∧
        (threads.run more).isOpen h = false) := by
  intro threads
  have sound : threads.Sound := sound_after moves
  refine ⟨fun actor h asked => sound.guarded, ?_, fun reader h load => exists_aside sound⟩
  intro reader closer h asked rest current
  constructor
  · intro guarded g member
    cases asked with
    | equals other =>
        obtain rfl : g = other := by simpa [Question.others] using member
        by_contra apart
        obtain ⟨more, calling, closed⟩ := exists_unguarded sound rest
          (current h List.mem_cons_self) (current g (List.mem_cons_of_mem _ member)) apart
        have isOpen := guarded more calling g (List.mem_cons_of_mem _ member)
        rw [closed] at isOpen
        contradiction
    | member | text | hash => simp [Question.others] at member
  · intro same more calling g member
    refine (sound.run more).guarded calling g member ?_
    rcases List.mem_cons.mp member with rfl | isOther
    · rfl
    · exact same g isOther

def shortNames : LoadOptions :=
    { maxLength := 32 }

def twoSessions : List (Move Nat) :=
    [.openSession, .openSession, .replaceFiles twoArtifacts,
      .start 0 (.load 0 (.memory .lax id) (Path.ofString "a.json") shortNames),
      .goOn 0, .goOn 0, .goOn 0,
      .start 1 (.load 1 (.memory .lax id) (Path.ofString "b.json") shortNames),
      .goOn 1, .goOn 1, .goOn 1]

def firstClass (seat : Nat) : Handle :=
    (((after twoSessions).world.current seat).bind (·.classes.head?)).elim default (·.2)

theorem twoSessions_rest : (after twoSessions).AtRest 0 1 :=
  ⟨by decide +kernel, by decide, by decide +kernel, by decide +kernel⟩

theorem firstClass_current (seat : Nat) (small : seat < 2) :
    (firstClass seat).seat = seat ∧ (after twoSessions).IsCurrent (firstClass seat) := by
  have each : ∀ k : Fin 2, (firstClass k).seat = k ∧
      (after twoSessions).knows (firstClass k) = true ∧
      (after twoSessions).world.lives (World.originOf (firstClass k)) = true ∧
      (after twoSessions).world.holds (World.originOf (firstClass k)) = true := by
    decide +kernel
  obtain ⟨same, known, alive, held⟩ := each ⟨seat, small⟩
  exact ⟨same, known, alive, held⟩

def closedInMachine : List (Move Nat) :=
    [.openSession,
      .start 0 (.load 0 (.machine .lax { configured := some { classPath := ["engine.jar"] } } {})
        (Path.ofString "a.apk") shortNames), .goOn 0, .goOn 0, .goOn 0,
      .start 0 (.close 0), .goOn 0, .goOn 0, .goOn 0, .goOn 0]

def machineHandle : Handle :=
    ⟨0, 0, 0, .plain, .object .decompiler, .reflected decompilerClass, ⟨0⟩⟩

/-- The hash of a class is guarded, its comparison with a class of the other session is not, and in
a machine the text of a handle is asked for after its input was let go. -/
theorem calls_guarded_iff_twoSessions :
    (∀ more, ((after twoSessions).run more).stage 0 = .calling (firstClass 0) .hash →
      ((after twoSessions).run more).isOpen (firstClass 0) = true) ∧
    (¬ ∀ more, ((after twoSessions).run more).stage 0 =
        .calling (firstClass 0) (.equals (firstClass 1)) →
      ∀ g ∈ [firstClass 0, firstClass 1], ((after twoSessions).run more).isOpen g = true) ∧
    ∃ more, ((after closedInMachine).run more).call? 0 = some (machineHandle, []) ∧
      ((after closedInMachine).run more).isOpen machineHandle = false := by
  obtain ⟨first, firstCurrent⟩ := firstClass_current 0 (by decide)
  obtain ⟨second, secondCurrent⟩ := firstClass_current 1 (by decide)
  obtain ⟨-, guarded, -⟩ := calls_guarded_iff twoSessions
  refine ⟨fun more calling => ?_, fun always => ?_, ?_⟩
  · exact (guarded 0 1 (firstClass 0) .hash twoSessions_rest (by simpa [Question.others])).mpr
      (by simp [Question.others]) more calling _ List.mem_cons_self
  · have same := (guarded 0 1 (firstClass 0) (.equals (firstClass 1)) twoSessions_rest
      (by simpa [Question.others] using ⟨firstCurrent, secondCurrent⟩)).mp always
      (firstClass 1) (by simp [Question.others])
    omega
  · have closed : ((after closedInMachine).world.load? (World.originOf machineHandle)).any
        (fun load => load.attached && load.host ≠ .memory && !load.alive) = true := by
      decide +kernel
    obtain ⟨load, found, shut⟩ := (Option.any_eq_true _ _).mp closed
    obtain ⟨⟨attached, machine⟩, dead⟩ :
        (load.attached = true ∧ load.host ≠ .memory) ∧ load.alive = false := by simpa using shut
    exact (calls_guarded_iff closedInMachine).2.2 0 machineHandle load (by decide +kernel)
      (by decide +kernel) found attached machine dead

end Runs

end Threads

end DexBrowser.Session

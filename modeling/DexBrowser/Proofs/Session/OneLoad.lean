import DexBrowser.Validation.Lax
import DexBrowser.Proofs.Session.AskingBeside
import DexBrowser.Proofs.Session.Catalogue
import DexBrowser.Proofs.Session.HandleLife
import DexBrowser.Proofs.Session.Searching

/-!
Overviews beside others. Main statement: an overview never mixes two loads. Whatever others load and
close between its reads, its rows are those of the one load that was current all the time; else it
says what is missing, or that its load was let go.
-/

namespace DexBrowser.Session

open Managed Session.Action

/-! ## Runs that have read nothing yet -/

structure Passage.Fresh (seat : Nat) (passage : Passage) : Prop extends passage.Fair where
  session : ∃ state, passage.scene.world.sessions[seat]? = some state
  seen : passage.seen = []

theorem Passage.Fresh.giveWay {seat : Nat} {passage : Passage} (fresh : passage.Fresh seat) :
    passage.giveWay.Fresh seat := by
  refine giveWay_keeps (fun _ fresh => fresh.toFair)
    (fun _ _ _ split fresh => { fresh with toFair := fresh.toFair.fewer split }) ?_ fresh
  intro passage deed plain fresh
  obtain ⟨state, found⟩ := fresh.session
  obtain ⟨new, atNew, -⟩ := (fresh.honest.sound.step_perform deed).session found
  exact { fresh with toFair := fresh.toFair.perform plain, session := ⟨new, atNew⟩ }

theorem Passage.Fresh.free {seat : Nat} {passage : Passage} (fresh : passage.Fresh seat)
    {state : State} (found : passage.scene.world.sessions[seat]? = some state) :
    state.lock.writer = false := by
  rw [(fresh.honest.sound.sessions seat state found).lock]

/-! ## How overviews end -/

/-- How an overview ends beside others. Rows are those of the one load that was current in every
world from the first read to the latest, as the overview by itself gives them; a fault of the
managed side comes of a load that was asked and let go, and any other says what was missing at a
read. -/
def Passage.Ended (seat : Nat) (alone : Action β) (asks : List World → LoadId → Prop)
    (run : Except Fault β × Passage) : Prop :=
    match run.1 with
    | .ok rows => run.2.seen ≠ [] ∧ ∃ loaded, ∀ world ∈ run.2.seen,
        world.current seat = some loaded ∧ (world.run seat alone).1 = .ok rows
    | .error (.managed _) => ∃ id, asks run.2.seen id ∧ run.2.scene.world.lives id = false
    | .error fault => saysMissing fault = true ∧
        ∃ world ∈ run.2.seen, (world.run seat alone).1 = .error fault

def wasCurrent (seat : Nat) (seen : List World) (id : LoadId) : Prop :=
    id.seat = seat ∧ ∃ world ∈ seen, world.holds id = true

section Ended

variable {seat : Nat} {passage : Passage}

theorem ended_of_told {loaded : Loaded} {artifact : Artifact} {image : Image} {first : List World}
    {s : Standing} {steps : Beside seat β} {alone : Action β} {asks : List World → LoadId → Prop}
    {rows : β}
    (stands : passage.Stands seat loaded artifact image first s)
    (told : (besideAsking seat loaded artifact image first).Gives s steps fun given after =>
      given = rows ∧ after = .kept)
    (same : ∀ world : World, world.Presents seat loaded artifact image →
      (world.run seat alone).1 = .ok rows)
    (asked : ∀ seen, (∀ world ∈ first, world ∈ seen) → asks seen ⟨seat, loaded.load⟩) :
    Passage.Ended seat alone asks (steps.run passage) := by
  have ended := told passage stands
  unfold Passage.Ended
  generalize steps.run passage = result at ended ⊢
  obtain ⟨outcome, after⟩ := result
  cases outcome with
  | error fault =>
      obtain ⟨⟨cause, rfl⟩, stands⟩ := ended
      exact ⟨_, asked _ stands.known, (stands.gone rfl).dead.lives⟩
  | ok given =>
      obtain ⟨_, stands, rfl, rfl⟩ := ended
      obtain ⟨read, seen⟩ := stands.kept rfl
      exact ⟨read, loaded, fun world member =>
        ⟨(seen world member).current, same world (seen world member)⟩⟩

theorem ended_of_missing {alone : Action β} {asks : List World → LoadId → Prop} {fault : Fault}
    (missing : saysMissing fault = true)
    (read : ∃ world ∈ passage.seen, (world.run seat alone).1 = .error fault) :
    Passage.Ended seat alone asks (.error fault, passage) := by
  cases fault with
  | managed => contradiction
  | _ => exact ⟨missing, read⟩

theorem stands_of_first (fresh : passage.Fresh seat) {loaded : Loaded} {artifact : Artifact}
    {image : Image} (presents : passage.scene.world.Presents seat loaded artifact image) :
    (passage.look.moveTo passage.scene).Stands seat loaded artifact image [passage.scene.world]
      .kept := by
  have seen : passage.look.seen = [passage.scene.world] := by
    rw [Passage.seen_look, fresh.seen]
    rfl
  have here : ∀ world ∈ [passage.scene.world], world.Presents seat loaded artifact image :=
    List.forall_mem_singleton.mpr presents
  exact
    { honest := fresh.honest
      plain := fresh.plain
      known := fun world member => seen ▸ member
      now := .inl ⟨presents, here⟩
      unasked := by simp
      kept := fun _ => ⟨seen ▸ List.cons_ne_nil _ _, fun world member => here world (seen ▸ member)⟩
      gone := by simp }

theorem Passage.Fresh.search (fresh : passage.Fresh seat) (answer : Loaded → Except Fault γ) :
    passage.act seat (searching answer) =
      ((passage.scene.world.current seat).elim (.error .notLoaded) answer,
        passage.look.moveTo passage.scene) := by
  obtain ⟨state, found⟩ := fresh.session
  have free := fresh.free found
  have reads : passage.scene.world.reads seat (searching answer) = true :=
    World.reads_inSection found _
  have ran := World.run_searching found free answer
  rw [act_eq, if_pos reads, Scene.run, ran]

/-- What comes after a search is told beside others as by itself, of any load that the search found
an answer in. -/
def TellsAlike (seat : Nat) (answer : Loaded → Except Fault γ) (rest : γ → Beside seat β)
    (alone : γ → Action β) : Prop :=
    ∀ (world : World) (loaded : Loaded) (artifact : Artifact) (image : Image) (a : γ),
      world.Presents seat loaded artifact image → answer loaded = .ok a → ∃ rows,
        (∀ first, (besideAsking seat loaded artifact image first).Told (· = rows) (rest a)) ∧
          (askingAlone ⟨seat, loaded.load⟩ image).Told (· = rows) (alone a)

section Search

variable {answer : Loaded → Except Fault γ} {rest : γ → Beside seat β} {alone : γ → Action β}

theorem ended_of_absent (fresh : passage.Fresh seat) {fault : Fault}
    (failed : (passage.scene.world.current seat).elim (.error .notLoaded) answer = .error fault)
    (missing : saysMissing fault = true) (alone : γ → Action β)
    (asks : List World → LoadId → Prop) :
    Passage.Ended seat (searching answer >>= alone) asks
      (.error fault, passage.look.moveTo passage.scene) := by
  obtain ⟨state, found⟩ := fresh.session
  have alike := World.run_searching_error found (fresh.free found) failed alone
  refine ended_of_missing missing ⟨passage.scene.world, ?_, by rw [alike]⟩
  simp [Passage.moveTo, Passage.seen_look]

/-- The search finds an answer in the load that is current then, and the rest asks that load. -/
theorem ended_of_found (fresh : passage.Fresh seat) (alike : TellsAlike seat answer rest alone)
    {loaded : Loaded} (current : passage.scene.world.current seat = some loaded) {a : γ}
    (answered : answer loaded = .ok a) :
    Passage.Ended seat (searching answer >>= alone) (wasCurrent seat)
      ((rest a).run (passage.look.moveTo passage.scene)) := by
  obtain ⟨artifact, image, presents⟩ :=
    fresh.honest.sound.presents_current fresh.honest.presents current
  obtain ⟨rows, beside, byItself⟩ := alike _ loaded artifact image a presents answered
  refine ended_of_told (stands_of_first fresh presents) (beside _) ?_ ?_
  · intro world presents
    have same : world.run seat (searching answer >>= alone) = world.run seat (alone a) :=
      presents.run_bind fun workspace free isCurrent => by
        rw [run_searching free, isCurrent, Option.elim_some, answered]
    rw [same]
    exact presents.live.answers
        ((byItself rfl).mono (fun _ ended => ended.1) fun _ failed => failed)
  · intro seen known
    exact ⟨rfl, _, known _ List.mem_cons_self, World.holds_of_current current⟩

theorem ended_of_search (fresh : passage.Fresh seat) {steps : Beside seat β}
    (isBeside : steps = liftM (searching answer) >>= rest) {own : Action β}
    (isOwn : own = liftM (searching answer) >>= alone)
    (missing : ∀ loaded fault, answer loaded = .error fault → saysMissing fault = true)
    (alike : TellsAlike seat answer rest alone) :
    Passage.Ended seat own (wasCurrent seat) (steps.run passage) := by
  have isOwn : own = searching answer >>= alone := isOwn
  subst isBeside isOwn
  -- The others have a turn before the first read, too.
  have fresh := fresh.giveWay
  rw [Beside.run_bind, Beside.run_lift, Passage.step]
  generalize passage.giveWay = passage at fresh
  rw [fresh.search]
  cases current : passage.scene.world.current seat with
  | none => exact ended_of_absent fresh (by rw [current, Option.elim_none]) rfl alone _
  | some loaded =>
      rw [Option.elim_some]
      cases answered : answer loaded with
      | error fault =>
          refine ended_of_absent fresh ?_ (missing loaded fault answered) alone _
          rw [current, Option.elim_some, answered]
      | ok a => exact ended_of_found fresh alike current answered

end Search

end Ended

/-! ## Overviews -/

inductive Overview where
  | classes (package : Option String) (limit : Int)
  | packages
  | methods (className : String)
  | detail (h : Handle)

namespace Overview

abbrev Answer : Overview → Type
  | classes .. => List Query.ClassRow
  | packages => List Query.PackageRow
  | methods _ => List Query.MethodRow
  | detail _ => Query.ClassDetail

def ask {m : Type → Type} [Monad m] [MonadLiftT Action m] : (asked : Overview) → m asked.Answer
  | classes package limit => Query.classes package limit
  | packages => Query.packages
  | methods className => Query.methods className
  | detail h => Query.classDetail h

/-- The session is there, or the handle of a class was given out of it. -/
def Known (scene : Scene) (seat : Nat) : Overview → Prop
  | detail h => h ∈ scene.held ∧ h.seat = seat ∧ h.kind = .classNode
  | _ => seat < scene.world.sessions.length

/-- The load is that of the handle, or was current at a read. -/
def Asks (seat : Nat) (seen : List World) (id : LoadId) : Overview → Prop
  | detail h => World.originOf h = id
  | _ => wasCurrent seat seen id

section Handles

variable {seat : Nat} {passage : Passage}

theorem giveWay_dead {id : LoadId} (fair : passage.Fair) (dead : passage.scene.world.IsDead id) :
    passage.giveWay.Fair ∧ passage.giveWay.scene.world.IsDead id := by
  let Dead (passage : Passage) : Prop := passage.Fair ∧ passage.scene.world.IsDead id
  have still : Dead passage.giveWay := by
    refine Passage.giveWay_keeps (fun _ held => held.1)
      (fun _ _ _ split held => ⟨held.1.fewer split, held.2⟩) ?_ ⟨fair, dead⟩
    intro passage deed plain ⟨fair, dead⟩
    exact ⟨fair.perform plain, dead.follow (fair.honest.sound.step_perform deed) plain⟩
  exact still

theorem invoke_dead {h : Handle} (fair : passage.Fair)
    (dead : passage.scene.world.IsDead (World.originOf h)) (name : String) :
    ∃ after : Passage, after.scene.world.IsDead (World.originOf h) ∧
      (liftM (h.invoke name) : Beside h.seat Value).run passage = (.error h.staleFault, after) := by
  obtain ⟨fair, dead⟩ := giveWay_dead fair dead
  have refused : passage.giveWay.scene.world.run h.seat (h.invoke name) =
      (.error h.staleFault, passage.giveWay.scene.world) :=
    dead.refuses fair.honest.sound rfl name
  refine ⟨_, ?_, by rw [Beside.run_lift, Passage.step, Passage.act_eq, refused]⟩
  change (passage.giveWay.scene.world.run h.seat (h.invoke name)).2.IsDead _
  rw [refused]
  exact dead

theorem ended_detail_dead (fair : passage.Fair) {h : Handle}
    (dead : passage.scene.world.IsDead (World.originOf h)) (alone : Action Query.ClassDetail) :
    Passage.Ended h.seat alone (fun _ id => World.originOf h = id)
      ((Query.classDetail h : Beside h.seat _).run passage) := by
  obtain ⟨after, dead, first⟩ :=
    invoke_dead fair dead (if h.kind = .classNode then "getAccessInfo" else "getAccessFlags")
  have access : (h.access : Beside h.seat Handle).run passage = (.error h.staleFault, after) := by
    rw [Handle.access, Handle.askOne, Beside.run_bind, first]
  rw [Query.classDetail, Beside.run_bind, access]
  exact ⟨_, rfl, dead.lives⟩

theorem class_of_held (honest : passage.scene.Honest) {loaded : Loaded} {artifact : Artifact}
    {image : Image} (presents : passage.scene.world.Presents seat loaded artifact image)
    {h : Handle} (held : h ∈ passage.scene.held) (own : World.originOf h = ⟨seat, loaded.load⟩)
    (kind : h.kind = .classNode) :
    ∃ i c, h.Wraps ⟨seat, loaded.load⟩ .classNode (.classNode i) ∧ image.classes[i]? = some c := by
  obtain ⟨rfl, sameLoad⟩ := LoadId.mk.inj own
  obtain ⟨state, load, found, -, atLoad, -, -, isOwn⟩ := honest.sound.load held
  obtain ⟨_, atSession, live⟩ := presents.live
  obtain rfl := Option.some.inj (found.symm.trans atSession)
  obtain ⟨_, atLive, -, shown, -⟩ := live.load
  rw [← sameLoad] at atLive
  obtain rfl := Option.some.inj (atLoad.symm.trans atLive)
  obtain ⟨_, atVouched, _, atOwn, vouched⟩ := honest.vouched h held
  obtain rfl := Option.some.inj (found.symm.trans atVouched)
  obtain rfl := Option.some.inj (atLoad.symm.trans atOwn)
  obtain ⟨i, c, target, isClass⟩ := shown.isClass kind vouched
  rw [shown.host, own] at isOwn
  exact ⟨i, c, ⟨isOwn, kind, target⟩, isClass⟩

end Handles

variable {seat : Nat} {passage : Passage} (fresh : passage.Fresh seat)

include fresh

theorem ended_allClasses {package : Option String} (whole : package = none ∨ package = some "")
    (limit : Int) :
    Passage.Ended seat (Query.classes package limit) (wasCurrent seat)
      ((Query.classes package limit : Beside seat _).run passage) := by
  refine ended_of_search fresh (Query.classes_whole whole limit) (Query.classes_whole whole limit)
    (fun _ _ failed => by contradiction) ?_
  rintro world loaded artifact image _ presents ⟨⟩
  have all : List.Forall₂ (fun c h => ∃ i, image.classes[i]? = some c ∧
      h.Wraps ⟨seat, loaded.load⟩ .classNode (.classNode i)) image.classes
      (loaded.classes.map (·.2)) :=
    List.forall₂_map_right_iff.mpr (presents.presents.classes.forall₂.imp fun _ _ here => here.2)
  exact ⟨_, fun _ => Asking.told_classRows all limit, Asking.told_classRows all limit⟩

theorem ended_packageClasses {name : String} (named : name ≠ "") (limit : Int) :
    Passage.Ended seat (Query.classes (some name) limit) (wasCurrent seat)
      ((Query.classes (some name) limit : Beside seat _).run passage) := by
  refine ended_of_search fresh (Query.classes_named named limit) (Query.classes_named named limit)
    (fun _ _ failed => missing_of_handleNamed rfl failed) ?_
  intro world loaded artifact image h presents found
  obtain ⟨i, places, isPackage, wraps⟩ := presents.packageAt (mem_of_handleNamed found)
  have partition := Image.partition_build presents.presents.built
  have isMember := List.mem_of_getElem? isPackage
  have known := presents.known_places isMember
  have rows {m : Type → Type} [Monad m] [LawfulMonad m] [MonadLiftT Action m]
      (ask : Asking m ⟨seat, loaded.load⟩ image) :
      ask.Told (· = (Query.firstItems limit (image.classes.filter (·.package = name))).map .of)
        (do
          let handles ← h.classes
          (Query.firstItems limit handles).mapM Query.classRow) := by
    refine Asking.told_bind (Asking.firm_packageClasses known wraps isPackage).told
      fun members all => Asking.told_classRows ?_ limit
    rw [partition.places _ isMember] at all
    exact forall₂_comp (Image.forall₂_placesOf image.classes _ name) all
  exact ⟨_, fun _ => rows _, rows _⟩

theorem ended_classes (package : Option String) (limit : Int) :
    Passage.Ended seat (Query.classes package limit) (wasCurrent seat)
      ((Query.classes package limit : Beside seat _).run passage) := by
  by_cases whole : package = none ∨ package = some ""
  · exact ended_allClasses fresh whole limit
  · obtain ⟨some, named⟩ := not_or.mp whole
    obtain ⟨name, rfl⟩ := Option.ne_none_iff_exists'.mp some
    exact ended_packageClasses fresh (fun same => named (congrArg _ same)) limit

theorem ended_packages :
    Passage.Ended seat Query.packages (wasCurrent seat)
      ((Query.packages : Beside seat _).run passage) := by
  refine ended_of_search fresh Query.packages_eq Query.packages_eq
      (fun _ _ failed => by contradiction) ?_
  rintro world loaded artifact image _ presents ⟨⟩
  have all : List.Forall₂ (fun package h => ∃ i, image.packages[i]? = some package ∧
      h.Wraps ⟨seat, loaded.load⟩ .package (.package i)) image.packages
      (loaded.packages.map (·.2)) :=
    List.forall₂_map_right_iff.mpr (presents.presents.packages.forall₂.imp fun _ _ here => here.2)
  have known : ∀ package ∈ image.packages, ∀ place ∈ package.2,
      ∃ c, image.classes[place]? = some c := fun _ isPackage => presents.known_places isPackage
  exact ⟨_, fun _ => Asking.told_packageRows all known, Asking.told_packageRows all known⟩

theorem ended_methods (className : String) :
    Passage.Ended seat (Query.methods className) (wasCurrent seat)
      ((Query.methods className : Beside seat _).run passage) := by
  refine ended_of_search fresh (Query.methods_eq className) (Query.methods_eq className)
    (fun _ _ failed => missing_of_handleNamed rfl failed) ?_
  intro world loaded artifact image h presents found
  obtain ⟨i, c, isClass, -, wraps⟩ := presents.classAt (mem_of_handleNamed found)
  exact ⟨_, fun _ => Asking.told_methodRows wraps isClass, Asking.told_methodRows wraps isClass⟩

theorem ended_detail (since : passage.since = []) {h : Handle} (held : h ∈ passage.scene.held)
    (own : h.seat = seat) (kind : h.kind = .classNode) :
    Passage.Ended seat (Query.classDetail h) (fun _ id => World.originOf h = id)
      ((Query.classDetail h : Beside seat _).run passage) := by
  subst own
  obtain ⟨state, load, found, sound, atLoad, known, attached, -⟩ := fresh.honest.sound.load held
  cases alive : load.alive with
  | false => exact ended_detail_dead fresh.toFair ⟨load, known, alive⟩ _
  | true =>
      rw [sound.lives h.load load atLoad attached, State.holds_eq_true] at alive
      obtain ⟨loaded, current, same⟩ := alive
      have isCurrent : passage.scene.world.current h.seat = some loaded := by
        rw [World.current, found, Option.bind_some, current]
      obtain ⟨artifact, image, presents⟩ :=
        fresh.honest.sound.presents_current fresh.honest.presents isCurrent
      have origin : World.originOf h = ⟨h.seat, loaded.load⟩ :=
        congrArg (LoadId.mk h.seat) same.symm
      obtain ⟨i, c, wraps, isClass⟩ := class_of_held fresh.honest presents held origin kind
      have stands : passage.Stands h.seat loaded artifact image [] .unasked :=
        { fresh.toFair with
          known := List.forall_mem_nil _
          now := .inl ⟨presents, since ▸ List.forall_mem_nil _⟩
          unasked := fun _ => fresh.seen
          kept := by simp
          gone := by simp }
      have told {m : Type → Type} [Monad m] [LawfulMonad m] [MonadLiftT Action m]
          (ask : Asking m ⟨h.seat, loaded.load⟩ image) (s : Standing) :
          ask.Gives s (Query.classDetail h) fun rows after => rows = .of c ∧ after = .kept :=
        ask.mono (Asking.firm_classDetail wraps isClass s) fun _ _ ended => ended.2
      refine ended_of_told stands (told _ .unasked) (fun world presents => ?_) fun _ _ => origin
      have byItself := told (askingAlone ⟨h.seat, loaded.load⟩ image) .kept rfl
      exact presents.live.answers (byItself.mono (fun _ ended => ended.1) fun _ failed => failed)

end Overview

/-- Whatever others do between the reads of an overview, it never mixes two loads. -/
theorem overview_of_one_load {deeds : List Deed} (plain : ∀ deed ∈ deeds, deed.Plain)
    {turns : List (List Deed)} (plainTurns : ∀ turn ∈ turns, ∀ deed ∈ turn, deed.Plain) {seat : Nat}
    {asked : Overview} (known : asked.Known (Scene.after deeds) seat) :
    Passage.Ended seat asked.ask (fun seen id => asked.Asks seat seen id)
      ((asked.ask : Beside seat asked.Answer).run
        { scene := Scene.after deeds, turns := turns }) := by
  have honest := Scene.honest_after plain
  have fresh (session : ∃ state, (Scene.after deeds).world.sessions[seat]? = some state) :
      Passage.Fresh seat { scene := Scene.after deeds, turns := turns } :=
    ⟨⟨honest, plainTurns⟩, session, rfl⟩
  have there (bound : seat < (Scene.after deeds).world.sessions.length) :
      Passage.Fresh seat { scene := Scene.after deeds, turns := turns } :=
    fresh ⟨_, List.getElem?_eq_getElem bound⟩
  cases asked with
  | classes package limit => exact Overview.ended_classes (there known) package limit
  | packages => exact Overview.ended_packages (there known)
  | methods className => exact Overview.ended_methods (there known) className
  | detail h =>
      obtain ⟨held, rfl, kind⟩ := known
      obtain ⟨state, found, -⟩ := honest.sound.held h held
      exact Overview.ended_detail (fresh ⟨state, found⟩) rfl held rfl kind

def firstLoaded : List Deed :=
    [.openSession, .replaceFiles twoArtifacts,
      .load 0 (.memory .lax id) (.path (Path.ofString "a.json")) none []]

def reload : Deed :=
    .load 0 (.memory .lax id) (.path (Path.ofString "b.json")) none []

/-- Others load before the first read, and leave the session alone then; or they load after it. -/
theorem overview_of_one_load_reloaded :
    let asked : Overview := .classes none Query.usualLimit
    let run (turns : List (List Deed)) : Except Fault (List Query.ClassRow) × Passage :=
      (asked.ask : Beside 0 asked.Answer).run { scene := Scene.after firstLoaded, turns := turns }
    let kept := run [[reload], [.openSession], [], [.close 1]]
    let lost := run [[.openSession], [reload]]
    kept.1.toOption.map (·.map fun row => (row.fullName, row.methods)) =
        some [("b.B", 0)] ∧
      Passage.Ended 0 asked.ask (fun seen id => asked.Asks 0 seen id) kept ∧
      lost.1 = .error (.managed (.stale "JavaClass")) ∧
      Passage.Ended 0 asked.ask (fun seen id => asked.Asks 0 seen id) lost := by
  intro asked run kept lost
  have plain : ∀ deed ∈ firstLoaded, deed.Plain := by simp [firstLoaded, Deed.Plain]
  have known : 0 < (Scene.after firstLoaded).world.sessions.length := by decide +kernel
  refine ⟨by decide +kernel, overview_of_one_load plain ?_ known, by decide +kernel,
    overview_of_one_load plain ?_ known⟩
  all_goals simp [reload, Deed.Plain]

end DexBrowser.Session

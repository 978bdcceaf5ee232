import DexBrowser.Validation.Lax
import DexBrowser.Proofs.Files.Contents
import DexBrowser.Proofs.Image.HiddenBodies
import DexBrowser.Proofs.Session.FreshLoad
import DexBrowser.Proofs.Session.TwinDesks

/-!
Inputs that differ in hidden code. Main statement: while inconsistent code is hidden, nothing that
can be asked of a session, and nothing that it saves, tells apart two artifacts that differ in the
bodies of inconsistent classes only.
-/

namespace DexBrowser.Session

open Managed Session.Action

variable {validator : Validator}

/-! ## Two inputs -/

/-- Paths that are the same, or are those of the two inputs. -/
def SamePlace (path twin one other : Path) : Prop :=
    one = other ∨ one = path ∧ other = twin

/-- Lines that are the same, or name the two inputs in the same words. -/
inductive Line.AtPaths (path twin : Path) : Line → Line → Prop
  | same (line : Line) : AtPaths path twin line line
  | named (level : Level) (channel : Channel) (before after : String) :
      AtPaths path twin ⟨level, channel, before ++ path.text ++ after⟩
        ⟨level, channel, before ++ twin.text ++ after⟩

/-- Nothing differs but where the inputs are and what no managed object tells. -/
def Likeness.but (path twin : Path) : Likeness where
  SamePath := SamePlace path twin
  SameContent := Load.Resembles
  SameJournal := List.Forall₂ (Line.AtPaths path twin)
  resembles := id
  stepped resembles blind := (blind.resembles resembles).2
  noted line journals := List.rel_append journals (.cons (.same line) .nil)
  notedPath level channel before after journals same := by
    refine List.rel_append journals (.cons ?_ .nil)
    obtain rfl | ⟨rfl, rfl⟩ := same
    · exact .same _
    · exact .named level channel before after

theorem SamePlace.eq {path one other : Path} (same : SamePlace path path one other) :
    one = other := by
  obtain rfl | ⟨rfl, rfl⟩ := same <;> rfl

theorem Reply.AtPaths.eq {path : Path} {reply answer : Reply}
    (same : Reply.AtPaths (SamePlace path path) reply answer) : reply = answer := by
  cases same with
  | same reply => rfl
  | input shown =>
      cases shown with
      | none => rfl
      | some here => rw [Prod.ext here.1.eq here.2]

theorem Line.AtPaths.eq {path : Path} {line other : Line}
    (same : Line.AtPaths path path line other) : line = other := by
  cases same <;> rfl

/-! ## Loading both -/

structure Holds (validator : Validator) (files : Files.Tree) (path : Path) (artifact : Artifact) :
    Prop where
  isFile : files.isFile path = .ok true
  suffix : Machine.foldedSuffix path = artifactSuffix
  read : readArtifact validator files path = .ok artifact

theorem Holds.checked {files : Files.Tree} {path : Path} {artifact : Artifact}
    (holds : Holds validator files path artifact) : checkInput files path = .ok () :=
  checkInput_eq_ok_iff.mpr ⟨holds.isFile, isReadable_of_readArtifact holds.read⟩

theorem Holds.readImage {files : Files.Tree} {path : Path} {artifact : Artifact}
    (holds : Holds validator files path artifact) (options : LoadOptions) :
    readImage validator files path options = (Image.build artifact options path.name).map
      fun image => (image, artifact.classes.length) := by
  rw [Session.readImage, if_neg (not_not_intro holds.suffix), holds.read]
  change (do return (← Image.build artifact options path.name, artifact.classes.length)) = _
  cases Image.build artifact options path.name <;> rfl

/-- What can be opened is indexed without fail, so that no failure is to be seen to. -/
theorem run_prepare_surely (path : Path) (options : LoadOptions) (before : Workspace) :
    (prepare (.memory validator id) path options).run before =
      (do
        let n ← openArtifact validator id path options
        let (classes, packages) ← index n
        attach n
        return ⟨path, options, n, classes, packages⟩ : Action Loaded).run before := by
  change (openArtifact validator id path options >>= enlist path options).run before = _
  rw [run_bind, run_bind]
  cases read : readImage validator before.files path options with
  | error fault =>
      have refused : (openArtifact validator id path options).run before =
          (.error fault, before) := by
        rw [openArtifact, run_bind_ok (run_get before), run_bind, run_ofExcept, read]
      rw [refused]
  | ok opened =>
      obtain ⟨image, count⟩ := opened
      obtain ⟨journal, opened⟩ := run_openArtifact read
      obtain ⟨⟨classes, packages⟩, between, load, indexed, found⟩ := run_index_opened read journal
      rw [opened]
      dsimp only
      rw [run_enlist indexed found, run_bind_ok indexed, run_bind_ok (run_attach found), run_pure]

section Load

variable {files others : Files.Tree} {path twin : Path} {artifact other : Artifact}
  (holds : Holds validator files path artifact) (holdsToo : Holds validator others twin other)
  (names : path.name = twin.name) (same : artifact.withoutHidden = other.withoutHidden)
  {given : Option LoadOptions} {changes : List (String × Json)} {options : LoadOptions}
  (hides : options.showInconsistent = false)

include holds holdsToo

theorem mirroring_checkHeld {e : Renumbering} {currents : Option Loaded → Option Loaded → Prop}
    {argument beside : Files.PathArgument} (isPath : argument.toPath = .ok path)
    (isTwin : beside.toPath = .ok twin)
    (resolved : LoadOptions.resolve validator given changes = .ok options) :
    Mirroring e (.but path twin) (fun one two => one = files ∧ two = others) currents
      (fun one two => one = (path, options) ∧ two = (twin, options))
      (checkLoad validator argument given changes) (checkLoad validator beside given changes) := by
  intro one two mirrors
  have checked {argument : Files.PathArgument} {place : Path} {before : Workspace}
      (isPath : argument.toPath = .ok place) (sound : checkInput before.files place = .ok ()) :
      (checkLoad validator argument given changes).run before = (.ok (place, options), before) :=
    Prod.ext (run_checkLoad_eq_ok_iff.mpr ⟨isPath, resolved, sound⟩) (run_checkLoad _ _ _ _ _)
  rw [checked isPath (mirrors.files.1 ▸ holds.checked),
    checked isTwin (mirrors.files.2 ▸ holdsToo.checked)]
  exact ⟨.ok ⟨rfl, rfl⟩, mirrors⟩

include names same hides

theorem mirroring_prepareHeld {e : Renumbering} {currents : Option Loaded → Option Loaded → Prop} :
    Mirroring e (.but path twin) (fun one two => one = files ∧ two = others) currents
      (e.SameInput (.but path twin)) (prepare (.memory validator id) path options)
      (prepare (.memory validator id) twin options) := by
  intro one two mirrors
  rw [run_prepare_surely, run_prepare_surely]
  have samePath : (Likeness.but path twin).SamePath path twin := .inr ⟨rfl, rfl⟩
  refine mirroring_prepared samePath (mirroring_openArtifact samePath ?_)
    (fun n m sameLoad => mirroring_index sameLoad) one two mirrors
  rintro _ _ ⟨rfl, rfl⟩
  rw [holds.readImage, holdsToo.readImage, ← names, Artifact.length_of_withoutHidden same]
  obtain ⟨fault, refused, refusedToo⟩ | ⟨image, beside, built, builtToo, objects⟩ :=
    build_alike hides same path.name
  · rw [refused, refusedToo]
    exact .error fault
  · rw [built, builtToo]
    exact .ok ⟨rfl, beside, objects, rfl⟩

theorem mirroring_loadHeld {e : Renumbering} {argument beside : Files.PathArgument}
    (isPath : argument.toPath = .ok path) (isTwin : beside.toPath = .ok twin)
    (resolved : LoadOptions.resolve validator given changes = .ok options) :
    Mirroring e (.but path twin) (fun one two => one = files ∧ two = others)
      (e.SameCurrent (.but path twin)) Eq (load (.memory validator id) argument given changes)
      (load (.memory validator id) beside given changes) := by
  refine mirroring_load (mirroring_checkHeld holds holdsToo isPath isTwin resolved) ?_
  rintro _ _ ⟨rfl, rfl⟩
  exact ⟨.inr ⟨rfl, rfl⟩, mirroring_prepareHeld holds holdsToo names same hides⟩

end Load

/-! ## What follows -/

def Request.LoadsNothing : Request ρ → Prop
  | load .. => False
  | _ => True

/-- Nothing is loaded, and no managed object changes. -/
def Event.LoadsNothing : Event → Prop
  | ask _ request => request.LoadsNothing
  | amend .. => False
  | _ => True

theorem Event.LoadsNothing.mirrored {event : Event} (loads : event.LoadsNothing) {like : Likeness}
    {trees : Files.Tree → Files.Tree → Prop} (itself : ∀ files, trees files files)
    (rewrites : Rewrites trees) : event.Mirrored like trees := by
  cases event with
  | openSession => trivial
  | amend seat change => exact loads.elim
  | replaceFiles files => exact itself files
  | ask seat request =>
      cases request with
      | load validator amend path given changes => exact loads.elim
      | save h path => exact rewrites
      | _ => trivial

/-- What can be seen of two desks while one thing after another happens: what each session replies,
and then the files, what was noted down and which inputs are closed. -/
structure Desk.SeenAlike (path twin : Path)
    (same : Files.Location → ByteArray → ByteArray → Prop) (turns : List Event) (one other : Desk) :
    Prop where
  replies : ∀ seat, List.Forall₂ (Option.Rel (Alike (Reply.AtPaths (SamePlace path twin))))
    (one.replies seat turns) (other.replies seat turns)
  files : (turns.foldl Desk.perform one).world.files.Alike same
    (turns.foldl Desk.perform other).world.files
  journal : List.Forall₂ (Line.AtPaths path twin) (turns.foldl Desk.perform one).world.journal
    (turns.foldl Desk.perform other).world.journal
  closed : (turns.foldl Desk.perform one).world.closed =
    (turns.foldl Desk.perform other).world.closed

theorem Desk.Twins.seenAlike {path twin : Path}
    {same : Files.Location → ByteArray → ByteArray → Prop}
    (itself : ∀ location content, same location content content) {one other : Desk}
    (twins : Desk.Twins (.but path twin) (Files.Tree.Alike same) one other) {turns : List Event}
    (loads : ∀ event ∈ turns, event.LoadsNothing) :
    Desk.SeenAlike path twin same turns one other := by
  have rewrites : Rewrites (Files.Tree.Alike same) := fun files others alike path code =>
    ⟨(alike.writeSource itself path code).outcome, (alike.writeSource itself path code).trees⟩
  obtain ⟨replies, after⟩ := twins.happen fun event member =>
    (loads event member).mirrored (Files.Tree.alike_refl itself) rewrites
  exact ⟨replies, (after.each 0).world.files, (after.each 0).world.journal, after.closed⟩

/-- From where files differ, sessions are twins that have nothing yet of what differs. -/
theorem Desk.twins_after (events : List Event) (files others : Files.Tree) (path twin : Path) :
    Desk.Twins (.but path twin) (fun one two => one = files ∧ two = others)
      (Desk.after (events ++ [.replaceFiles files]))
      (Desk.after (events ++ [.replaceFiles others])) := by
  have same (later : Files.Tree) : Desk.after (events ++ [.replaceFiles later]) =
      (Desk.after events).perform (.replaceFiles later) := by
    rw [Desk.after, List.foldl_append]
    rfl
  rw [same, same]
  refine ⟨fun seat => ?_, rfl⟩
  obtain ⟨⟨own, -, -⟩, held, seated⟩ := Desk.tidy_after events seat
  refine ⟨⟨?_, ⟨rfl, rfl⟩, List.forall₂_same.mpr fun line _ => .same line⟩, held, seated⟩
  change Option.Rel _ (Desk.after events).world.sessions[seat]?
    (Desk.after events).world.sessions[seat]? at own
  change Option.Rel _ (Desk.after events).world.sessions[seat]?
    (Desk.after events).world.sessions[seat]?
  generalize (Desk.after events).world.sessions[seat]? = session at own
  cases own with
  | none => exact .none
  | some mirrors =>
      have contents (load other : Load) (here : load = other) : load.Resembles other :=
        here ▸ load.resembles_refl
      have paths (one other : Path) (here : one = other) : SamePlace path twin one other :=
        .inl here
      exact .some (mirrors.mono contents paths)

/-- Two files of one name hold artifacts that differ in the bodies of inconsistent classes only, and
inconsistent code is hidden. Whatever happened before, loading the one comes to what loading the
other comes to, and whatever is asked afterwards, of whichever session, all that is seen is alike:
replies and lines name the files that were loaded, and are the same otherwise; at each place both
trees hold the same, or what they held before. With files at one path, replies and lines are the
same. -/
theorem hidden_code_unseen (events : List Event) {files others : Files.Tree}
    (kinds : files.Alike (fun _ _ _ => True) others) {path twin : Path}
    (names : path.name = twin.name) {artifact other : Artifact}
    (holds : Holds validator files path artifact) (holdsToo : Holds validator others twin other)
    (same : artifact.withoutHidden = other.withoutHidden)
    {argument beside : Files.PathArgument} (isPath : argument.toPath = .ok path)
    (isTwin : beside.toPath = .ok twin) {given : Option LoadOptions}
    {changes : List (String × Json)} {options : LoadOptions}
    (resolved : LoadOptions.resolve validator given changes = .ok options)
    (hides : options.showInconsistent = false) (seat : Nat) {turns : List Event}
    (loads : ∀ event ∈ turns, event.LoadsNothing) :
    let one := (Desk.after (events ++ [.replaceFiles files])).ask seat
      (.load validator id argument given changes)
    let two := (Desk.after (events ++ [.replaceFiles others])).ask seat
      (.load validator id beside given changes)
    one.1 = two.1 ∧ Desk.SeenAlike path twin (files.SameOr others) turns one.2 two.2 ∧
      (path = twin → (∀ seat, one.2.replies seat turns = two.2.replies seat turns) ∧
        (turns.foldl Desk.perform one.2).world.journal =
          (turns.foldl Desk.perform two.2).world.journal) := by
  intro one two
  have before := Desk.twins_after events files others path twin
  obtain ⟨outcome, after⟩ : one.1 = two.1 ∧ Desk.Twins _ _ one.2 two.2 :=
    before.load (mirroring_loadHeld holds holdsToo names same hides isPath isTwin resolved)
  have later : Desk.Twins (.but path twin) (Files.Tree.Alike (files.SameOr others)) one.2
      two.2 := by
    refine after.withFiles ?_
    obtain ⟨first, second⟩ := (after.each seat).world.files
    rw [first, second]
    exact kinds.sameOr
  have seen := later.seenAlike (fun _ _ => .inl rfl) loads
  refine ⟨outcome, seen, ?_⟩
  rintro rfl
  have sameReplies (seat : Nat) :=
    replies_eq (f := id) (fun _ _ here => here.eq) (seen.replies seat)
  refine ⟨fun seat => ?_, ?_⟩
  · have replies := sameReplies seat
    rwa [Except.map_id, Option.map_id_fun, List.map_id] at replies
  · exact List.forall₂_eq_eq_eq ▸ seen.journal.imp fun _ _ here => here.eq

def inconsistentClass (body : List String) : ClassEntry :=
    { fullName := "a.A", methods := [{ name := "m", body := body }, { name := "n" }],
      inconsistent := true }

def inconsistentFile (body : String) : Files.Entry :=
    .file ("\x7b\"classes\": [\x7b\"fullname\": \"a.A\", \"inconsistent\": true, " ++
      "\"methods\": [\x7b\"name\": \"m\", \"body\": [" ++ body ++
      "]\x7d, \x7b\"name\": \"n\"\x7d]\x7d]\x7d").toUTF8

def inconsistentStored : Files.Tree :=
    (((({} : Files.Tree).put ["x"] .directory).put ["y"] .directory).put ["x", "a.json"]
      (inconsistentFile "\"f();\", \"g();\"")).put ["y", "a.json"] (inconsistentFile "\"h();\"")

def inspected : List Event :=
    [.ask 0 (.search .classes), .ask 0 (.read 0 .code), .ask 0 (.read 0 .methods),
      .ask 0 (.read 1 .line), .ask 0 (.read 2 .line), .ask 0 (.save 0 (.text "out/A.java")),
      .ask 0 .input]

theorem hidden_code_unseen_twoDirectories :
    let stored := Desk.after ([.openSession] ++ [.replaceFiles inconsistentStored])
    let loading (path : String) : Request Nat := .load .lax id (.path (Path.ofString path)) none
      [("show_inconsistent_code", .bool false)]
    let one := stored.ask 0 (loading "x/a.json")
    let two := stored.ask 0 (loading "y/a.json")
    one.1 = some (.ok .done) ∧ two.1 = some (.ok .done) ∧
      Desk.SeenAlike (Path.ofString "x/a.json") (Path.ofString "y/a.json")
        (inconsistentStored.SameOr inconsistentStored) inspected one.2 two.2 := by
  intro stored loading one two
  have resolved : LoadOptions.resolve .lax none [("show_inconsistent_code", .bool false)] =
      .ok { showInconsistent := false } := by decide +kernel
  have holds : Holds .lax inconsistentStored (Path.ofString "x/a.json")
      ⟨[inconsistentClass ["f();", "g();"]]⟩ :=
    ⟨by decide +kernel, by decide +kernel, by decide +kernel⟩
  have holdsToo : Holds .lax inconsistentStored (Path.ofString "y/a.json")
      ⟨[inconsistentClass ["h();"]]⟩ :=
    ⟨by decide +kernel, by decide +kernel, by decide +kernel⟩
  have isPath (path : Path) : (Files.PathArgument.path path).toPath = .ok path := rfl
  have loads : ∀ event ∈ inspected, event.LoadsNothing := by
    simp [inspected, Event.LoadsNothing, Request.LoadsNothing]
  obtain ⟨outcome, seen, -⟩ := hidden_code_unseen [.openSession]
    (Files.Tree.alike_refl (fun _ _ => trivial) inconsistentStored) (by decide +kernel) holds
    holdsToo (by decide) (isPath _) (isPath _) resolved rfl 0 loads
  obtain ⟨⟨⟩, ended⟩ := faultOf?_eq_none.mp (show faultOf? (stored.world.run 0
    (load (.memory .lax id) (.path (Path.ofString "x/a.json")) none
      [("show_inconsistent_code", .bool false)])).1 = none by decide +kernel)
  have done : one.1 = some (.ok .done) := congrArg some (done_iff.mpr ended)
  exact ⟨done, outcome.symm.trans done, seen⟩

end DexBrowser.Session

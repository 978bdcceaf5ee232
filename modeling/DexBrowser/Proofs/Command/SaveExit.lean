import DexBrowser.Command.Words
import DexBrowser.Console.Plain
import DexBrowser.Validation.Lax
import DexBrowser.Proofs.Session.FreshLoad
import DexBrowser.Proofs.Session.SavingSelected
import DexBrowser.Proofs.Text.StyleTags

/-!
The code that saving ends with. Main statement: it is 0 exactly if the input can be loaded, what is
selected is in it, all of that was written, and the message that says so can be shown.
-/

namespace DexBrowser.Command

open Console Console.Markup Session Session.Action Managed Files.Tree

variable {validator : Validator}

/-! ## Messages -/

/-- A terminal shows a text in which every style that is opened is closed again, and refuses one in
which a closing tag follows such a text: no style is open that it could close. -/
structure Terminal.ReadsTags (terminal : Terminal) : Prop where
  balanced : ∀ marked : String, Balanced marked.toList →
    ∃ shown, terminal.print marked = .ok shown
  stray : ∀ {front name : List Char} (back : List Char), Balanced front → IsWord name →
    ¬ ∃ shown, terminal.print (String.ofList (front ++ (closingTag name ++ back))) = .ok shown

theorem readsTags_plainTerminal (width : Nat) : (plainTerminal width).ReadsTags where
  balanced marked isBalanced := by
    obtain ⟨cs, plain⟩ := isBalanced.plain_ends_ok
    exact ⟨_, congrArg (Except.map _) plain⟩
  stray back isBalanced word := by
    rintro ⟨shown, printed⟩
    refine isBalanced.stray_not_plain word back ?_
    change (Markup.plain _).map _ = _ at printed
    generalize Markup.plain _ = outcome at printed ⊢
    cases outcome with
    | ok cs => exact ⟨cs, rfl⟩
    | error fault => contradiction

/-- What is said of targets before any of them is named. -/
def savedFront : List Char :=
    openingTag "green".toList ++ "Saved".toList ++ closingTag "green".toList ++ [' ']

theorem balanced_savedFront : Balanced savedFront := by
  have word : IsWord "green".toList := by decide
  have inner : Balanced "Saved".toList := .plain (by decide)
  have blank : Balanced [' '] := .plain (by decide)
  exact .append (.styled word inner) blank

section Messages

variable {terminal : Terminal} {output : Path} {targets : List String}

theorem toList_savedMessage : (savedMessage output targets).toList =
    savedFront ++ (listed targets ++ " to " ++ output.text).toList := by
  have front : "[green]Saved[/green] ".toList = savedFront := by decide
  have spelled : savedMessage output targets =
      "[green]Saved[/green] " ++ (listed targets ++ " to " ++ output.text) := rfl
  rw [spelled]
  generalize listed targets ++ " to " ++ output.text = named
  exact (String.toList_append ..).trans (congrArg (· ++ named.toList) front)

variable (reads : terminal.ReadsTags)

include reads

theorem savedMessage_shown (isPlain : IsPlain (listed targets ++ " to " ++ output.text).toList) :
    ∃ shown, terminal.print (savedMessage output targets) = .ok shown := by
  refine reads.balanced _ ?_
  rw [toList_savedMessage]
  exact .append balanced_savedFront (.plain isPlain)

theorem savedMessage_refused {front name back : List Char}
    (named : (listed targets ++ " to " ++ output.text).toList =
      front ++ (closingTag name ++ back)) (isPlain : IsPlain front) (word : IsWord name) :
    ¬ ∃ shown, terminal.print (savedMessage output targets) = .ok shown := by
  have spelled : savedMessage output targets =
      String.ofList (savedFront ++ front ++ (closingTag name ++ back)) := by
    rw [List.append_assoc, ← named, ← toList_savedMessage, String.ofList_toList]
  rw [spelled]
  exact reads.stray back (.append balanced_savedFront (.plain isPlain)) word

end Messages

/-! ## Reports and their codes -/

theorem exitCode_map {text : Except Fault α} {report : α → Report} {code : Nat}
    (exit : ∀ a, (report a).exit = code) :
    exitCode (text.map report) = 0 ↔ code = 0 ∧ ∃ a, text = .ok a := by
  cases text with
  | error fault => simp [Except.map, exitCode]
  | ok a => simp [Except.map, exitCode, exit]

theorem exitCode_saveReport {terminal : Terminal} {output : Path} {saved : Bool}
    {targets : List String} :
    exitCode (saveReport terminal output saved targets) = 0 ↔
      saved = true ∧ ∃ shown, terminal.print (savedMessage output targets) = .ok shown := by
  cases saved with
  | false => simp [saveReport, exitCode_map]
  | true => simp [saveReport, exitCode_map]

section OrReport

variable {terminal : Terminal} {action : Action α} {tell : α → Except Fault Report}
  {before : Workspace}

theorem run_orReport_after :
    ((orReport terminal action tell).run before).2 = (action.run before).2 := by
  simp only [orReport, run_ofRun]
  generalize action.run before = result
  obtain ⟨outcome, after⟩ := result
  cases outcome with
  | ok a => rfl
  | error fault =>
      dsimp only
      split <;> rfl

theorem exitCode_orReport :
    exitCode ((orReport terminal action tell).run before).1 = 0 ↔
      ∃ a, (action.run before).1 = .ok a ∧ exitCode (tell a) = 0 := by
  simp only [orReport, run_ofRun]
  generalize action.run before = result
  obtain ⟨outcome, after⟩ := result
  cases outcome with
  | ok a => simp
  | error fault =>
      dsimp only
      split
      · simp [exitCode_map]
      · simp [exitCode]

end OrReport

/-! ## Saving from an input -/

theorem run_withInput {engine : Engine} {input : String} {options : LoadOptions}
    {before opened : Workspace}
    (loaded : (load engine (.path (Path.ofString input)) (some options) []).run before =
      (.ok (), opened)) {body : Action α}
    (closed : (close.run (body.run opened).2).1 = .ok ()) :
    (withInput engine input options body).run before =
      ((body.run opened).1, (close.run (body.run opened).2).2) := by
  rw [withInput, run_bind_ok loaded, run_ofRun]
  generalize body.run opened = result at closed ⊢
  obtain ⟨outcome, left⟩ := result
  dsimp only at closed ⊢
  generalize close.run left = ended at closed ⊢
  obtain ⟨done, after⟩ := ended
  obtain rfl : done = .ok () := closed
  rfl

theorem run_withInput_refused {engine : Engine} {input : String} {options : LoadOptions}
    {before : Workspace}
    (refused : ((load engine (.path (Path.ofString input)) (some options) []).run before).1 ≠
      .ok ()) {body : Action α} {a : α} :
    ((withInput engine input options body).run before).1 ≠ .ok a := by
  rw [withInput, run_bind]
  generalize (load engine (.path (Path.ofString input)) (some options) []).run before = result
    at refused ⊢
  obtain ⟨outcome, after⟩ := result
  cases outcome with
  | ok done => exact absurd rfl refused
  | error fault => simp

section Save

variable {files : Files.Tree} {path : Path} {options : LoadOptions}

/-- A session of which the input is the artifact in a file, and nothing else was done. -/
structure Opens (validator : Validator) (files : Files.Tree) (path : Path) (options : LoadOptions)
    (artifact : Artifact)
    (image : Image) (opened : Workspace) : Prop where
  loadable : Loadable validator files path options artifact image
  sound : opened.state.Sound 0
  current : ∃ (loaded : Loaded) (load : Load), opened.state.current = some loaded ∧
    opened.state.loads[loaded.load]? = some load ∧ load.Shows image ∧
      loaded.Presents 0 artifact image
  files : opened.files = files

theorem presents_fresh : ({} : State).Presents :=
  fun _ none => nomatch none

/-- A new session can load an artifact exactly if there is one in the file; then it is opened. -/
theorem load_fresh (files : Files.Tree) (path : Path) (options : LoadOptions) :
    let ran := (load (.memory validator id) (.path path) (some options) []).run { files := files }
    (ran.1 = .ok () ↔ ∃ artifact image, Loadable validator files path options artifact image) ∧
      (ran.1 = .ok () → ∃ artifact image,
          Opens validator files path options artifact image ran.2) := by
  intro ran
  have sound : ({ files := files } : Workspace).state.Sound 0 := sound_fresh 0
  have ends : ran.1 = .ok () ↔ ∃ artifact image,
      Loadable validator files path options artifact image := by
    rw [load_ends_ok_iff sound presents_fresh]
    constructor
    · rintro ⟨_, _, artifact, image, isPath, isOptions, loadable⟩
      obtain rfl := Except.ok.inj isPath
      obtain rfl := Except.ok.inj isOptions
      exact ⟨artifact, image, loadable⟩
    · rintro ⟨artifact, image, loadable⟩
      exact ⟨path, options, artifact, image, rfl, rfl, loadable⟩
  refine ⟨ends, fun ended => ?_⟩
  obtain ⟨artifact, image, loadable⟩ := ends.mp ended
  obtain ⟨loaded, load, other, otherImage, soundAfter, current, atLoad, shown, presents, isPath,
    isOptions, readable⟩ := load_presents sound ended
  obtain ⟨-, same⟩ := loading_load sound.idle (.memory validator id) (.path path) (some options) []
  have built := presents.built
  rw [← Except.ok.inj isPath] at readable built
  rw [← Except.ok.inj isOptions] at built
  obtain rfl := Except.ok.inj (loadable.read.symm.trans readable)
  obtain rfl := Except.ok.inj (loadable.built.symm.trans built)
  exact ⟨artifact, image, loadable, soundAfter, ⟨loaded, load, current, atLoad, shown, presents⟩,
    same⟩

theorem closing_ends_ok {before after : State} {outcome : Except Fault Unit}
    (closing : Closing before outcome after)
    (shown : ∀ loaded load, before.current = some loaded →
      before.loads[loaded.load]? = some load → ∃ image, load.Shows image) : outcome = .ok () := by
  cases closing with
  | idle => rfl
  | closed current found =>
      obtain ⟨image, shows⟩ := shown _ _ current found
      exact closing_shows shows 0

section Opens

variable {artifact : Artifact} {image : Image} {opened : Workspace}
  (opens : Opens validator files path options artifact image opened)

include opens

theorem Opens.closes_saved (output : Path) (className packageName : Option String) :
    let saved := (saveSelected output className packageName).run opened
    (close.run saved.2).1 = .ok () ∧ (close.run saved.2).2.files = saved.2.files := by
  intro saved
  obtain ⟨loaded, load, current, atLoad, shown, presents⟩ := opens.current
  have free : opened.state.lock.writer = false := by rw [opens.sound.lock]
  have live := State.Sound.live opens.sound current atLoad shown
  obtain ⟨used, lock⟩ := (selected_saveSelected free current presents output).used live
  have idle := (opens.sound.used used lock).idle
  obtain ⟨closing, kept⟩ := closing_close idle
  refine ⟨closing_ends_ok closing fun other later isCurrent found => ⟨image, ?_⟩, kept⟩
  obtain rfl := Option.some.inj (current.symm.trans (used.current.symm.trans isCurrent))
  exact shown.used (used.load atLoad found)

theorem Opens.saved_iff (output : Path) (className packageName : Option String)
    (targets : List String) :
    let saved := (saveSelected output className packageName).run opened
    saved.1 = .ok (true, targets) ↔ ∃ writes,
      Selects image output className packageName writes targets ∧
        Written files writes saved.2.files := by
  intro saved
  obtain ⟨loaded, load, current, atLoad, shown, presents⟩ := opens.current
  have free : opened.state.lock.writer = false := by rw [opens.sound.lock]
  have live := State.Sound.live opens.sound current atLoad shown
  rw [← opens.files, ← (selected_saveSelected free current presents output).ends_iff live]
  exact (and_iff_left rfl).symm

end Opens

section Asked

variable {read : List String → Request} {terminal : Terminal} {words : List String}
  {switches : Switches} {input output : String} {className packageName : Option String}
  (asked : read words = .run switches (.save input output className packageName))

include asked

variable (terminal) in
theorem perform_save (settled : switches.options validator = .ok options) :
    perform read terminal (.memory validator id) words = orReport terminal
      (withInput (.memory validator id) input options
        (saveSelected (Path.ofString output) className packageName))
      fun (saved, targets) => saveReport terminal (Path.ofString output) saved targets := by
  unfold perform
  rw [asked]
  simp only [Engine.rules_memory, settled]
  rfl

theorem save_refused (settled : switches.options validator = .ok options)
    (refused : ((load (.memory validator id) (.path (Path.ofString input)) (some options) []).run
      { files := files }).1 ≠ .ok ()) :
    exitCode
      ((perform read terminal (.memory validator id) words).run { files := files }).1 ≠ 0 := by
  rw [perform_save terminal asked settled, Ne, exitCode_orReport]
  rintro ⟨result, ended, -⟩
  exact run_withInput_refused refused ended

/-- Once the input is opened, it depends on the save and its message how the command ends. -/
theorem save_opened (settled : switches.options validator = .ok options) {artifact : Artifact}
    {image : Image} {opened : Workspace}
    (loaded : (load (.memory validator id) (.path (Path.ofString input)) (some options) []).run
      { files := files } = (.ok (), opened))
    (opens : Opens validator files (Path.ofString input) options artifact image opened) :
    let ran := (perform read terminal (.memory validator id) words).run { files := files }
    let saved := (saveSelected (Path.ofString output) className packageName).run opened
    ran.2.files = saved.2.files ∧
      (exitCode ran.1 = 0 ↔ ∃ targets, saved.1 = .ok (true, targets) ∧
        ∃ shown, terminal.print (savedMessage (Path.ofString output) targets) = .ok shown) := by
  intro ran saved
  obtain ⟨closed, kept⟩ := opens.closes_saved (Path.ofString output) className packageName
  have performed := congrArg (Action.run · ({ files := files } : Workspace))
    (perform_save terminal asked settled)
  rw [show ran = _ from performed, exitCode_orReport, run_orReport_after,
    run_withInput loaded closed]
  refine ⟨kept, ?_⟩
  simp only [Prod.exists, exitCode_saveReport]
  constructor
  · rintro ⟨_, targets, ended, rfl, told⟩
    exact ⟨targets, ended, told⟩
  · rintro ⟨targets, ended, told⟩
    exact ⟨true, targets, ended, rfl, told⟩

/-- Whatever reads the command line and checks the settings, saving ends with code 0 exactly if the
settings are valid, the input can be loaded, what is selected is in it, all of that was written, and
the terminal shows the message that says so. One that reads tags shows it if no name in it has a
bracket or a backslash, and does not if the first tag in the names is a closing one. -/
theorem save_exit_zero_iff (reads : terminal.ReadsTags) (files : Files.Tree) :
    let ran := (perform read terminal (.memory validator id) words).run { files := files }
    let directory := Path.ofString output
    (exitCode ran.1 = 0 ↔ ∃ options artifact image writes targets,
      switches.options validator = .ok options ∧
        Loadable validator files (Path.ofString input) options artifact image ∧
          Selects image directory className packageName writes targets ∧
            Written files writes ran.2.files ∧
              ∃ shown, terminal.print (savedMessage directory targets) = .ok shown) ∧
    ∀ targets, let named := (listed targets ++ " to " ++ directory.text).toList
      (IsPlain named → ∃ shown, terminal.print (savedMessage directory targets) = .ok shown) ∧
        ∀ front name back, named = front ++ (closingTag name ++ back) → IsPlain front →
          IsWord name → ¬ ∃ shown, terminal.print (savedMessage directory targets) = .ok shown := by
  intro ran directory
  refine ⟨?_, fun targets => ⟨savedMessage_shown reads, fun front name back =>
    savedMessage_refused reads⟩⟩
  cases settled : switches.options validator with
  | error issues =>
      have ended : ran.1 = .ok misused := by
        simp only [ran, perform, asked, Engine.rules_memory, settled]
        rfl
      rw [ended]
      simp [exitCode, misused]
  | ok options =>
      obtain ⟨ends, opens⟩ := load_fresh files (Path.ofString input) options
      by_cases loaded : ((load (.memory validator id) (.path (Path.ofString input)) (some options)
          []).run { files := files }).1 = .ok ()
      case neg =>
          refine iff_of_false (save_refused asked settled loaded) ?_
          rintro ⟨_, artifact, image, writes, targets, ⟨⟩, loadable, -⟩
          exact loaded (ends.mpr ⟨artifact, image, loadable⟩)
      case pos =>
          obtain ⟨artifact, image, opened⟩ := opens loaded
          obtain ⟨kept, ended⟩ := save_opened asked settled (Prod.ext loaded rfl) opened
          rw [ended, kept]
          simp only [opened.saved_iff]
          constructor
          · rintro ⟨targets, ⟨writes, selects, written⟩, told⟩
            exact ⟨options, artifact, image, writes, targets, rfl, opened.loadable, selects,
                written,
              told⟩
          · rintro ⟨_, other, otherImage, writes, targets, ⟨⟩, loadable, selects, written, told⟩
            obtain ⟨rfl, rfl⟩ := opened.loadable.unique loadable
            exact ⟨targets, ⟨writes, selects, written⟩, told⟩

end Asked

end Save

def oneArtifact : Files.Tree :=
    ({} : Files.Tree).put ["a.json"] (artifactOf "a.A")

def savedTo (output : String) : Except Fault Report × Workspace :=
    (perform request (plainTerminal 80) (.memory .lax id) ["save", "a.json", output]).run
      { files := oneArtifact }

/-- All is written into either directory, but only the name of the first can be shown. -/
theorem closing_tag_fails_saved :
    let isSaved (output : String) : Prop := ∃ artifact image writes targets,
      Loadable .lax oneArtifact (Path.ofString "a.json") {} artifact image ∧
        Selects image (Path.ofString output) none none writes targets ∧
          Written oneArtifact writes (savedTo output).2.files
    (plainTerminal 80).ReadsTags ∧ isSaved "out" ∧ exitCode (savedTo "out").1 = 0 ∧
      isSaved "out[/x]" ∧ exitCode (savedTo "out[/x]").1 ≠ 0 := by
  intro isSaved
  have reads := readsTags_plainTerminal 80
  have plain : request ["save", "a.json", "out"] =
      .run {} (.save "a.json" "out" none none) := by decide +kernel
  have tagged : request ["save", "a.json", "out[/x]"] =
      .run {} (.save "a.json" "out[/x]" none none) := by decide +kernel
  have settled : Switches.options .lax {} = .ok {} := by decide +kernel
  have fine : exitCode (savedTo "out").1 = 0 := by decide +kernel
  obtain ⟨_, artifact, image, writes, targets, valid, loadable, selects, written, -⟩ :=
    (save_exit_zero_iff plain reads oneArtifact).1.mp fine
  obtain rfl := Except.ok.inj (valid.symm.trans settled)
  obtain ⟨loads, opens⟩ := load_fresh oneArtifact (Path.ofString "a.json") {}
  have loaded := loads.mpr ⟨artifact, image, loadable⟩
  obtain ⟨other, otherImage, opened⟩ := opens loaded
  obtain ⟨kept, -⟩ := save_opened tagged settled (Prod.ext loaded rfl) opened
  have said : ((saveSelected (Path.ofString "out[/x]") none none).run
      ((load (.memory .lax id) (.path (Path.ofString "a.json")) (some {}) []).run
        { files := oneArtifact }).2).1 = .ok (true, ["a"]) :=
    toOption_eq_some.mp (by decide +kernel)
  obtain ⟨more, selected, all⟩ := (opened.saved_iff _ none none ["a"]).mp said
  rw [← kept] at all
  refine ⟨reads, ⟨artifact, image, writes, targets, loadable, selects, written⟩, fine,
    ⟨other, otherImage, more, ["a"], opened.loadable, selected, all⟩, fun ended => ?_⟩
  obtain ⟨ends, told⟩ := save_exit_zero_iff tagged reads oneArtifact
  obtain ⟨_, third, thirdImage, _, named, again, loadableToo, selectsToo, -, shown⟩ := ends.mp ended
  obtain rfl := Except.ok.inj (again.symm.trans settled)
  obtain ⟨-, rfl⟩ := opened.loadable.unique loadableToo
  have same : named = ["a"] :=
    ((selects_all_iff rfl rfl).mp selectsToo).2.trans ((selects_all_iff rfl rfl).mp selected).2.symm
  rw [same] at shown
  exact (told ["a"]).2 "a to out".toList "x".toList [] (by decide +kernel) (by decide) (by decide)
      shown

end DexBrowser.Command

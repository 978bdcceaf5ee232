import DexBrowser.Proofs.Files.Presence
import DexBrowser.Proofs.Session.Closings
import DexBrowser.Proofs.Session.FreshLoad

/-!
How loading fails. Main statement: a load ends well, or says what is wrong with its arguments, with
the input or on the managed side; any other fault comes of a path that hides what it stands for, or
of a virtual machine that fails while it is set up for the input.
-/

namespace DexBrowser

/-! ## Faults of an input -/

/-- The input could not be loaded, or a call into the managed side failed. -/
def Fault.IsOfInput : Fault → Prop
  | .load _ | .managed _ => True
  | _ => False

theorem Image.buildClasses_refused {options : LoadOptions} {sourceName : String} {count : Nat}
    {seen : List String} {entries : List ClassEntry} {fault : Fault}
    (refused : Image.buildClasses options sourceName count seen entries = .error fault) :
    ∃ fullName, fault = .load (.duplicateClass fullName) := by
  induction entries generalizing count seen with
  | nil => simp [buildClasses] at refused
  | cons entry rest ih =>
      simp only [buildClasses] at refused
      split at refused
      · exact ⟨_, (Except.error.inj refused).symm⟩
      · cases inner : buildClasses options sourceName (nameClass options count entry).2
            ((nameClass options count entry).1.fullName :: seen) rest with
        | ok classes => simp [inner, Except.map] at refused
        | error other =>
            simp only [inner, Except.map, Except.error.injEq] at refused
            obtain rfl := refused
            exact ih inner

theorem Image.build_refused {artifact : Artifact} {options : LoadOptions} {sourceName : String}
    {fault : Fault} (refused : Image.build artifact options sourceName = .error fault) :
    ∃ fullName, fault = .load (.duplicateClass fullName) := by
  unfold Image.build at refused
  cases built : Image.buildClasses options sourceName 0 [] artifact.classes with
  | ok classes => simp [built, bind, Except.bind, pure, Except.pure] at refused
  | error other =>
      rw [built] at refused
      obtain rfl := Except.error.inj refused
      exact Image.buildClasses_refused built

end DexBrowser

namespace DexBrowser.Session

open Managed Session.Action

variable {validator : Validator}

theorem readArtifact_refused {files : Files.Tree} {path : Path} {fault : Fault}
    (refused : readArtifact validator files path = .error fault) :
    ∃ cause, fault = .load cause := by
  unfold readArtifact at refused
  split at refused
  · exact ⟨_, (Except.error.inj refused).symm⟩
  · split at refused
    · exact ⟨_, (Except.error.inj refused).symm⟩
    · split at refused
      · contradiction
      · exact ⟨_, (Except.error.inj refused).symm⟩

theorem readImage_refused {files : Files.Tree} {path : Path} {options : LoadOptions} {fault : Fault}
    (refused : readImage validator files path options = .error fault) :
    ∃ cause, fault = .load cause := by
  unfold readImage at refused
  by_cases format : Machine.foldedSuffix path = artifactSuffix
  · simp only [format, ne_eq, not_true_eq_false, if_false] at refused
    cases read : readArtifact validator files path with
    | error other =>
        rw [read] at refused
        obtain rfl := Except.error.inj refused
        exact readArtifact_refused read
    | ok artifact =>
        rw [read] at refused
        cases built : Image.build artifact options path.name with
        | ok image => simp [built, bind, Except.bind, pure, Except.pure] at refused
        | error other =>
            simp only [built, bind, Except.bind, Except.error.injEq] at refused
            obtain rfl := refused
            obtain ⟨fullName, rfl⟩ := Image.build_refused built
            exact ⟨_, rfl⟩
  · simp only [ne_eq, format, not_false_eq_true, if_true] at refused
    exact ⟨_, (Except.error.inj refused).symm⟩

/-! ## Setting a machine up -/

end DexBrowser.Session

namespace DexBrowser.Machine.Installation

variable {installation : Installation} {files : Files.Tree} {path : Path} {options : LoadOptions}
  {fault : Fault}

theorem perform_eq_error_iff {calls : List Call} :
    (installation.perform calls).2 = .error fault ↔
      ∃ made call rest, calls = made ++ call :: rest ∧
        (∀ before ∈ made, installation.outcome before = .ok ()) ∧
          installation.outcome call = .error fault := by
  induction calls with
  | nil => simp [perform]
  | cons call rest ih =>
      unfold perform
      cases ended : installation.outcome call with
      | error other =>
          constructor
          · rintro ⟨⟩
            exact ⟨[], call, rest, rfl, by simp, ended⟩
          · rintro ⟨made, failing, after, split, done, fails⟩
            cases made with
            | nil =>
                obtain ⟨rfl, -⟩ := List.cons.inj split
                exact ended.symm.trans fails
            | cons first made =>
                obtain ⟨rfl, -⟩ := List.cons.inj split
                have := (done call (by simp)).symm.trans ended
                contradiction
      | ok _ =>
          refine ih.trans ⟨?_, ?_⟩
          · rintro ⟨made, failing, after, rfl, done, fails⟩
            exact ⟨call :: made, failing, after, rfl, by simpa [ended] using done, fails⟩
          · rintro ⟨made, failing, after, split, done, fails⟩
            cases made with
            | nil =>
                obtain ⟨rfl, -⟩ := List.cons.inj split
                have := ended.symm.trans fails
                contradiction
            | cons first made =>
                obtain ⟨-, rfl⟩ := List.cons.inj split
                exact ⟨made, failing, after, rfl, fun before member =>
                    done before (by simp [member]),
                  fails⟩

/-- A machine that does not run cannot be started: its settings cannot be had, they start nothing,
or it does not start. -/
inductive FailsStart (installation : Installation) (files : Files.Tree) : Fault → Prop
  | settings {fault : Fault} (fails : installation.settings files = .error fault) :
      FailsStart installation files fault
  | launch {settings : Settings} {fault : Fault}
      (found : installation.settings files = .ok settings)
      (fails : settings.launch installation.usualLibrary = .error fault) :
      FailsStart installation files fault
  | refused {settings : Settings} {launch : Launch} {what : String}
      (found : installation.settings files = .ok settings)
      (made : settings.launch installation.usualLibrary = .ok launch)
      (refuses : installation.refuses launch = some what) :
      FailsStart installation files (.thrown what)

theorem start_eq_error_iff :
    installation.start files = .error fault ↔
      installation.running = false ∧ installation.FailsStart files fault := by
  unfold start
  cases installation.running with
  | true => simp [pure, Except.pure]
  | false =>
      simp only [Bool.false_eq_true, if_false, true_and, bind, Except.bind, throw, throwThe,
        MonadExceptOf.throw, pure, Except.pure]
      constructor
      · intro fails
        cases found : installation.settings files with
        | error other =>
            simp only [found, Except.error.injEq] at fails
            exact fails ▸ .settings found
        | ok settings =>
            simp only [found] at fails
            cases made : settings.launch installation.usualLibrary with
            | error other =>
                simp only [made, Except.error.injEq] at fails
                exact fails ▸ .launch found made
            | ok launch =>
                simp only [made] at fails
                cases refuses : installation.refuses launch with
                | none => simp [refuses] at fails
                | some what =>
                    simp only [refuses, Except.error.injEq] at fails
                    exact fails ▸ .refused found made refuses
      · rintro (fails | ⟨found, fails⟩ | ⟨found, made, refuses⟩)
        · simp only [fails]
        · simp only [found, fails]
        · simp only [found, made, refuses]

/-- A machine fails before the loading itself: it does not start, or one of the calls fails by
which the decompiler is set up for the input. -/
inductive FailsSetUp (installation : Installation) (files : Files.Tree) (path : Path)
    (options : LoadOptions) : Fault → Prop
  | start {fault : Fault} (stopped : installation.running = false)
      (fails : installation.FailsStart files fault) :
      FailsSetUp installation files path options fault
  | call {launch : Option Launch} {made rest : List Call} {call : Call} {fault : Fault}
      (started : installation.start files = .ok launch)
      (calls : preparation path options = made ++ call :: rest)
      (done : ∀ before ∈ made, installation.outcome before = .ok ())
      (fails : installation.outcome call = .error fault) :
      FailsSetUp installation files path options fault

theorem load_eq_error_iff (other : ¬ fault.IsOfInput) :
    (installation.load path options).2 = .error fault ↔
      (installation.perform (preparation path options)).2 = .error fault := by
  unfold load
  generalize installation.perform (preparation path options) = performed
  obtain ⟨made, failed | _⟩ := performed
  · exact Iff.rfl
  · cases installation.throws loadCall with
    | none => simp
    | some what =>
        refine iff_of_false (fun same => other ?_) (by simp)
        rw [← Except.error.inj same]
        trivial

end DexBrowser.Machine.Installation

namespace DexBrowser.Session

open Managed Session.Action

variable {validator : Validator}

theorem openingInMachine_eq_error_iff {installation : Machine.Installation} {files : Files.Tree}
    {path : Path} {options : LoadOptions} {fault : Fault} (other : ¬ fault.IsOfInput) :
    openingInMachine installation path options files = .error fault ↔
      Machine.isSupported path = true ∧ installation.FailsSetUp files path options fault := by
  unfold openingInMachine
  cases Machine.isSupported path with
  | false =>
      refine iff_of_false (fun same => other ?_) (by simp)
      rw [← Except.error.inj same]
      trivial
  | true =>
      simp only [if_true, true_and]
      constructor
      · intro failed
        cases started : installation.start files with
        | error fails =>
            rw [started] at failed
            obtain ⟨stopped, because⟩ := Machine.Installation.start_eq_error_iff.mp started
            exact Except.error.inj failed ▸ .start stopped because
        | ok launch =>
            rw [started] at failed
            obtain ⟨made, call, rest, calls, done, fails⟩ :=
              Machine.Installation.perform_eq_error_iff.mp
                ((Machine.Installation.load_eq_error_iff other).mp failed)
            exact .call started calls done fails
      · intro fails
        cases fails with
        | start stopped because =>
            rw [Machine.Installation.start_eq_error_iff.mpr ⟨stopped, because⟩]
            rfl
        | call started calls done fails =>
            rw [started]
            exact (Machine.Installation.load_eq_error_iff other).mpr
              (Machine.Installation.perform_eq_error_iff.mpr ⟨_, _, _, calls, done, fails⟩)

/-! ## Engines -/

/-- An engine fails before the loading itself, which one in memory does not. -/
def Engine.FailsSetUp : Engine → Files.Tree → Path → LoadOptions → Fault → Prop
  | .memory .., _, _, _, _ => False
  | .machine _ installation _, files, path, options, fault =>
      Machine.isSupported path = true ∧ installation.FailsSetUp files path options fault

/-- A load that an engine opened, whatever was asked of it since. -/
def Engine.Serves (engine : Engine) (load : Load) : Prop :=
    ∃ files path options fresh, engine.Opens files path options fresh ∧ fresh.Used load

variable (validator) in
theorem openArtifact_outcome (amend : Heap → Heap) (path : Path) (options : LoadOptions)
    (before : Workspace) :
    ((openArtifact validator amend path options).run before).1 =
      (readImage validator before.files path options).map fun _ => before.state.loads.length := by
  rw [openArtifact, run_bind, run_get]
  dsimp only
  rw [run_bind, run_ofExcept]
  cases readImage validator before.files path options <;> rfl

section Opening

variable {engine : Engine} {path : Path} {options : LoadOptions}

theorem Engine.load_eq_error_iff {fault : Fault} (other : ¬ fault.IsOfInput) (before : Workspace) :
    ((engine.load path options).run before).1 = .error fault ↔
      engine.FailsSetUp before.files path options fault := by
  cases engine with
  | memory validator amend =>
      rw [Engine.load, openArtifact_outcome]
      refine iff_of_false (fun failed => other ?_) id
      cases read : readImage validator before.files path options with
      | ok found =>
          rw [read] at failed
          contradiction
      | error refused =>
          rw [read] at failed
          obtain ⟨cause, rfl⟩ := readImage_refused read
          rw [← Except.error.inj failed]
          trivial
  | machine validator installation heap =>
      obtain ⟨journal, ran⟩ := run_openInMachine installation path options before heap
      rw [Engine.load, ran]
      refine Iff.trans ?_ (openingInMachine_eq_error_iff other)
      cases openingInMachine installation path options before.files <;> simp

/-- What is asked of the loads that an engine opens fails as is allowed for, if it does: to iterate
over what they list, to put as text what they answer, and to close them. -/
structure Engine.Admits (engine : Engine) (bad : Fault → Prop) : Prop where
  ofInput : ∀ fault : Fault, fault.IsOfInput → bad fault
  lists : ∀ load, engine.Serves load → ∀ member ∈ listingMembers, ∀ readers v,
    load.answer readers (.object .decompiler) member [] = .ok v →
      Ends (fun _ => True) bad (itemsOf v)
  unshown : (∀ fault : Fault, fault.IsUnshown → bad fault) ∨
    ∀ load, engine.Serves load → load.Worded
  closes : ∀ load, engine.Serves load → ∀ readers fault,
    load.closing readers = .error fault → bad fault

section Admits

variable {bad : Fault → Prop} (admits : engine.Admits bad)

include admits

theorem Engine.Admits.usable {files : Files.Tree} {fresh : Load}
    (opens : engine.Opens files path options fresh) {before : State} {n : Nat}
    (found : before.loads[n]? = some fresh) :
    Usable ⟨before.seat, n⟩ fresh.host (fun workspace => before.Used n workspace.state ∧ True)
        bad :=
  { usable_used found fun _ => True with
    managed := fun _ => admits.ofInput _ trivial
    unshown := admits.unshown.imp_right fun worded =>
      ⟨fresh.heap.describe, fun workspace load held atLoad => by
        have used := held.1.load found atLoad
        refine ⟨?_, worded load ⟨_, _, _, _, opens, used⟩⟩
        rw [used.heap]
        rfl⟩
    missing := fun workspace held missing => by
      obtain ⟨later, atLater, -⟩ := held.1.used fresh found
      exact nomatch missing.symm.trans atLater
    waits := fun workspace later held atLater locked => by
      have attached := (held.1.load found atLater).attached.trans opens.attached
      exact nomatch locked.symm.trans attached
    engine := .inr (admits.ofInput _ trivial) }

theorem Engine.Admits.index_ends {files : Files.Tree} {fresh : Load}
    (opens : engine.Opens files path options fresh) {within : Workspace} {n : Nat}
    (found : within.state.loads[n]? = some fresh) :
    within.state.Used n ((index n).run within).2.state ∧
      Ends (fun _ => True) bad ((index n).run within).1 := by
  have use := admits.usable opens found
  have kept := use.keeps_index (fun _ load readers v member listing held atLater =>
      admits.lists load ⟨_, _, _, _, opens, held.1.load found atLater⟩ member listing readers v)
    (fun _ ends => ends) within ⟨State.Used.refl n within.state, trivial⟩
  exact ⟨kept.holds.1, kept.ends.mono (fun _ _ => trivial) fun _ => id⟩

theorem Engine.Admits.enlist_ends {files : Files.Tree} {fresh : Load}
    (opens : engine.Opens files path options fresh) {within : Workspace} {n : Nat}
    (found : within.state.loads[n]? = some fresh) :
    Ends (fun _ => True) bad ((enlist path options n).run within).1 := by
  obtain ⟨used, ends⟩ := admits.index_ends opens found
  cases indexed : (index n).run within with
  | mk outcome between =>
      rw [indexed] at used ends
      obtain ⟨load, atLoad, usedLoad⟩ := used.used fresh found
      cases outcome with
      | ok named =>
          rw [run_enlist indexed atLoad]
          trivial
      | error fault =>
          by_cases managed : ∃ cause, fault = .managed cause
          case pos =>
              obtain ⟨cause, rfl⟩ := managed
              obtain ⟨fault, journal, shut, ended⟩ :=
                run_enlist_managed path options indexed atLoad
              rw [shut]
              cases closed : load.closing between.state.lock.readers with
              | ok _ =>
                  rw [closed] at ended
                  obtain rfl := Except.error.inj ended
                  exact admits.ofInput _ trivial
              | error other =>
                  rw [closed] at ended
                  obtain rfl := Except.error.inj ended
                  exact admits.closes load ⟨_, _, _, _, opens, usedLoad⟩ _ _ closed
          case neg =>
              rw [run_enlist_other indexed fun cause same => managed ⟨cause, same⟩]
              exact ends

end Admits

theorem run_prepare_refused {before : Workspace} {fault : Fault}
    (refused : ((engine.load path options).run before).1 = .error fault) :
    ((prepare engine path options).run before).1 = .error fault := by
  have first : (prepare engine path options).run before =
      (engine.load path options >>= enlist path options).run before := rfl
  rw [first, run_bind]
  generalize (engine.load path options).run before = result at refused ⊢
  obtain ⟨_, after⟩ := result
  obtain rfl := refused
  rfl

/-- What preparing an input fails with is allowed for, or comes of setting the engine up. -/
theorem Engine.Admits.prepare_fails {bad : Fault → Prop} (admits : engine.Admits bad)
    {before : Workspace} {fault : Fault}
    (failed : ((prepare engine path options).run before).1 = .error fault) :
    bad fault ∨ engine.FailsSetUp before.files path options fault := by
  have first : (prepare engine path options).run before =
      (engine.load path options >>= enlist path options).run before := rfl
  have unopened {fault : Fault} (other : ¬ fault.IsOfInput) :
      ((engine.load path options).run before).1 = .error fault →
        engine.FailsSetUp before.files path options fault :=
    (Engine.load_eq_error_iff other before).mp
  have opened := opened_load engine path options before
  rw [first, run_bind] at failed
  generalize (engine.load path options).run before = result at opened unopened failed
  cases opened with
  | refused other =>
      obtain rfl := Except.error.inj failed
      by_cases ofInput : other.IsOfInput
      · exact .inl (admits.ofInput other ofInput)
      · exact .inr (unopened ofInput rfl)
  | opened fresh journal opens =>
      let within : Workspace :=
        { before with state := before.state.push fresh, journal := journal }
      have newest : within.state.loads[before.state.loads.length]? = some fresh :=
        State.push_getElem before.state fresh
      have ends := admits.enlist_ends opens newest
      rw [failed] at ends
      exact .inl ends

end Opening

/-! ## Loading -/

theorem checkInput_fails {files : Files.Tree} {path : Path} {fault : Fault}
    (failed : checkInput files path = .error fault) (other : ¬ fault.IsOfInput) :
    ∃ reason, files.Hides path reason ∧ fault = .refused ⟨reason, path⟩ := by
  unfold checkInput at failed
  split at failed
  case h_1 refusal found =>
      obtain ⟨hides, same⟩ := Files.Tree.isFile_eq_error_iff.mp found
      exact ⟨refusal.reason, hides, by rw [← Except.error.inj failed, ← same]⟩
  case h_2 =>
      rw [← Except.error.inj failed] at other
      exact absurd trivial other
  case h_3 =>
      split at failed
      · contradiction
      · rw [← Except.error.inj failed] at other
        exact absurd trivial other

section Load

variable {engine : Engine} {before : Workspace} {argument : Files.PathArgument}
  {given : Option LoadOptions} {changes : List (String × Json)}

theorem run_prepareLoad_notPath {fault : Fault} (refused : argument.toPath = .error fault) :
    ((prepareLoad engine argument given changes).run before).1 = .error fault := by
  simp [prepareLoad, checkLoad, run_bind, refused]

theorem run_prepareLoad_invalid {path : Path} (isPath : argument.toPath = .ok path)
    {issues : List Issue}
    (invalid : LoadOptions.resolve engine.rules given changes = .error issues) :
    ((prepareLoad engine argument given changes).run before).1 = .error (.invalid issues) := by
  simp [prepareLoad, checkLoad, run_bind, isPath, invalid, ofChecked]

section Checked

variable {path : Path} {options : LoadOptions} (isPath : argument.toPath = .ok path)
  (valid : LoadOptions.resolve engine.rules given changes = .ok options)
include isPath valid

/-- Once the arguments are checked, what the files say decides whether anything is opened. -/
theorem run_prepareLoad_checked (free : before.state.lock = {}) :
    ((prepareLoad engine argument given changes).run before).1 =
      match checkInput before.files path with
      | .error fault => .error fault
      | .ok () =>
          ((prepare engine path options).run (setLock (·.enter .exclusive) before)).1 := by
  simp only [prepareLoad, checkLoad, isPath, valid, ofChecked, run_bind, run_ofExcept, run_pure,
    run_get]
  cases checkInput before.files path with
  | error fault => rfl
  | ok _ =>
      have opened := congrArg Prod.fst (run_exclusive free (prepare engine path options))
      exact opened

end Checked

/-- What is current can be let go: it is in memory, or what comes of closing it can be noted. -/
def State.Releases (state : State) : Prop :=
    ∀ loaded load, state.current = some loaded → state.loads[loaded.load]? = some load →
      load.host = .memory ∨ ∃ thrown, load.closeInMachine = .ok thrown

theorem State.Releases.closing {state : State} (releases : state.Releases) {loaded : Loaded}
    {load : Load} (current : state.current = some loaded)
    (found : state.loads[loaded.load]? = some load) {readers : Nat} {fault : Fault}
    (failed : load.closing readers = .error fault) : fault.IsOfInput := by
  cases host : load.host with
  | memory =>
      obtain ⟨cause, rfl⟩ := load.closing_memory host failed
      trivial
  | machine running known =>
      obtain memory | ⟨thrown, closed⟩ := releases loaded load current found
      · exact nomatch host.symm.trans memory
      · rw [Load.closing, host, closed] at failed
        contradiction

/-- A load fails as opening and indexing did, or the managed side failed to let the old input go. -/
theorem Loading.fault_iff {prepared : Except Fault Loaded} {outcome : Except Fault Unit}
    {after : State} (loading : Loading engine before prepared outcome after)
    (releases : before.state.Releases) {fault : Fault} (other : ¬ fault.IsOfInput) :
    outcome = .error fault ↔ prepared = .error fault := by
  cases loading with
  | refused => simp
  | failed => simp
  | first => simp
  | replaced minted ready current found =>
      refine ⟨fun failed => absurd (releases.closing current found failed) other, fun failed => ?_⟩
      exact nomatch failed

end Load

def letters (n : Nat) : String :=
    String.ofList (List.replicate n 'a')

def longName : String :=
    letters 256

section Plain

variable {load : Load} (heap : load.heap = { closed := load.heap.closed })
include heap

end Plain

end DexBrowser.Session

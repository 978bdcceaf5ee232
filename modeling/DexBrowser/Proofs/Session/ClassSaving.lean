import DexBrowser.Validation.Lax
import DexBrowser.Proofs.Files.Neighbours
import DexBrowser.Proofs.Session.Turnover
import DexBrowser.Session.World

/-!
Saving one class while others close or reload the session. Main statement: a save that fails has
written nothing, unless the class cannot tell its name any more once its code is written.
-/

namespace DexBrowser

namespace Files.Tree

def SameFiles (before after : Tree) : Prop :=
    ∀ location content, after.get? location = some (.file content) ↔
      before.get? location = some (.file content)

theorem sameFiles_refl (tree : Tree) : tree.SameFiles tree :=
  fun _ _ => Iff.rfl

theorem Extended.sameFiles {before after : Tree} {made : Location → Prop}
    (extended : before.Extended made after) : before.SameFiles after := by
  intro location content
  rcases extended.places location with same | ⟨-, missing, isDirectory⟩
  · rw [same]
  · rw [missing, isDirectory]
    exact ⟨(nomatch ·), (nomatch ·)⟩

theorem sameFiles_writeSource_iff {before after : Tree} {path : Path} {code : String}
    (written : before.writeSource path code = (after, .ok ())) :
    before.SameFiles after ↔ before.get? (before.place path) = some (.file code.toUTF8) := by
  obtain ⟨between, extended, same | ⟨refusal, same⟩ | ⟨free, same⟩⟩ :=
    before.writeSource_spec path code
  · cases same.symm.trans written
  · cases same.symm.trans written
  · obtain ⟨rfl, -⟩ := Prod.mk.inj (same.symm.trans written)
    have below : before.place path ≠ [] := by
      intro root
      rw [root] at free
      exact free rfl
    have holds := between.get?_put_same (.file code.toUTF8) below
    constructor
    · intro unchanged
      exact (unchanged _ _).mp holds
    · intro already location content
      by_cases atPath : location = before.place path
      · rw [atPath, holds, already]
      · rw [get?_put_other _ _ atPath]
        exact extended.sameFiles location content

end Files.Tree

namespace Session

open Managed Session.Action Files.Tree

/-! ## Actions that write nothing -/

namespace Action

/-- The files are as they were, whatever the action comes to. -/
def LeavesFiles (action : Action α) : Prop :=
    ∀ before, (action.run before).2.files = before.files

theorem leavesFiles_pure (a : α) : (pure a : Action α).LeavesFiles :=
  fun _ => rfl

theorem leavesFiles_fail (fault : Fault) : (fail fault : Action α).LeavesFiles :=
  fun _ => rfl

theorem leavesFiles_log (level : Level) (channel : Channel) (text : String) :
    (log level channel text).LeavesFiles :=
  fun _ => rfl

theorem leavesFiles_bind {first : Action α} {next : α → Action β} (leaves : first.LeavesFiles)
    (nextLeaves : ∀ a, (next a).LeavesFiles) : (first >>= next).LeavesFiles := by
  intro before
  have same := leaves before
  rw [run_bind]
  generalize first.run before = result at same ⊢
  obtain ⟨outcome, between⟩ := result
  cases outcome with
  | error fault => exact same
  | ok a => exact (nextLeaves a between).trans same

theorem leavesFiles_onLoad (n : Nat) (step : Load → Except Fault α × Load) :
    (onLoad n step).LeavesFiles := by
  intro before
  cases found : before.state.loads[n]? with
  | none => rw [run_onLoad_none found]
  | some load =>
      rw [run_onLoad found]
      rfl

theorem leavesFiles_inSection (s : Section) {action : Action α} (leaves : action.LeavesFiles) :
    (inSection s action).LeavesFiles := by
  intro before
  simp only [inSection, run_ofRun]
  split
  · exact leaves (setLock (·.enter s) before)
  · rfl

theorem leavesFiles_shared (n : Nat) {action : Action α} (leaves : action.LeavesFiles) :
    (shared n action).LeavesFiles := by
  apply leavesFiles_bind (leavesFiles_onLoad n _)
  intro load
  split
  · exact leavesFiles_inSection .shared leaves
  · exact leaves

end Action

/-! ## What is read through a handle -/

theorem leavesFiles_call (n : Nat) (byHandle : Bool) (target : Value) (name : String)
    (arguments : List Value) : (Remote.invoke n byHandle target name arguments).LeavesFiles :=
  leavesFiles_bind (fun _ => rfl) fun _ => leavesFiles_onLoad n _

theorem leavesFiles_invoke (h : Handle) (name : String) : (h.invoke name).LeavesFiles := by
  apply leavesFiles_shared
  apply leavesFiles_bind
  · apply leavesFiles_bind (leavesFiles_onLoad h.load _)
    intro load
    split
    · exact leavesFiles_fail _
    · exact leavesFiles_pure ()
  · intro _
    exact leavesFiles_call h.load true h.target name []

theorem leavesFiles_written (n : Nat) (v : Value) : (Remote.written n v).LeavesFiles :=
  leavesFiles_onLoad n _

theorem leavesFiles_fullName (h : Handle) : (h.fullName : Action String).LeavesFiles :=
  leavesFiles_bind (leavesFiles_invoke h "getFullName") (leavesFiles_written h.load)

theorem leavesFiles_code (h : Handle) : (h.code : Action String).LeavesFiles := by
  apply leavesFiles_bind (leavesFiles_invoke h "getCode")
  intro answered
  split
  · exact leavesFiles_pure ""
  · exact leavesFiles_written h.load answered

/-! ## Others at work -/

/-- What another thread does to a session from outside. -/
inductive Move where
  | load (engine : Engine) (path : Files.PathArgument) (given : Option LoadOptions)
      (changes : List (String × Json))
  | close

def Move.act : Move → Action Unit
  | load engine path given changes => Session.load engine path given changes
  | close => Session.close

/-- What others do between two steps, one after the other. Their faults are their own. -/
def turn (moves : List Move) : Action Unit :=
    moves.forM fun move => Interrupted.apart move.act

theorem leavesFiles_closeDecompiler (n : Nat) : (closeDecompiler n).LeavesFiles := by
  have closing := leavesFiles_bind (leavesFiles_call n false (.object .decompiler) "close" [])
    fun _ => leavesFiles_pure ()
  apply leavesFiles_bind (leavesFiles_onLoad n _)
  intro load
  split
  · exact closing
  · refine leavesFiles_bind (fun _ => rfl) fun readers =>
      leavesFiles_bind (leavesFiles_onLoad n _) fun thrown => ?_
    cases thrown with
    | some what => exact leavesFiles_log _ _ _
    | none => exact leavesFiles_pure ()

theorem leavesFiles_release (loaded : Loaded) : (release loaded).LeavesFiles := by
  have invalidated : (invalidate loaded.load).LeavesFiles := leavesFiles_onLoad loaded.load _
  apply leavesFiles_bind invalidated
  intro _
  apply leavesFiles_bind (leavesFiles_closeDecompiler loaded.load)
  intro _
  exact leavesFiles_log _ _ _

theorem leavesFiles_replace (loaded : Option Loaded) : (replace loaded).LeavesFiles := by
  apply leavesFiles_bind
  · exact fun _ => rfl
  · intro previous
    cases previous with
    | none => exact leavesFiles_pure ()
    | some previous => exact leavesFiles_release previous

theorem leavesFiles_move (move : Move) : move.act.LeavesFiles := by
  cases move with
  | close => exact leavesFiles_inSection .exclusive (leavesFiles_replace none)
  | load engine path given changes =>
      change (load engine path given changes).LeavesFiles
      rw [load_eq]
      apply leavesFiles_bind
      · intro before
        rw [run_checkLoad]
      · rintro ⟨path, options⟩
        apply leavesFiles_bind _ fun _ => leavesFiles_log _ _ _
        apply leavesFiles_inSection
        rw [takeOver_eq]
        apply leavesFiles_bind
        · exact fun before => (prepared_prepare engine path options before).2
        · intro loaded
          exact leavesFiles_bind (leavesFiles_replace (some loaded)) fun _ =>
              leavesFiles_pure loaded

theorem leavesFiles_turn (moves : List Move) : (turn moves).LeavesFiles := by
  induction moves with
  | nil => exact leavesFiles_pure ()
  | cons move moves ih =>
      apply leavesFiles_bind _ fun _ => ih
      exact fun before => leavesFiles_move move before

/-! ## Runs with turns of the others -/

namespace Interrupted

def nextTurn : List (Action Unit) → Action Unit
  | [] => pure ()
  | other :: _ => apart other

/-- An action runs after the next turn, and what follows it after those that come then. -/
theorem run_lift_bind (action : Action α) (rest : α → Interrupted β)
    (others : List (Action Unit)) :
    ((liftM action : Interrupted α) >>= rest).run others =
      nextTurn others >>= fun _ => action >>= fun a => (rest a).run others.tail := by
  cases others with
  | nil =>
      change (fun outcome => outcome.1) <$>
        (((pure ((), []) : Action (Unit × List (Action Unit))) >>= fun started =>
          perform action started.2) >>= fun outcome => rest outcome.1 outcome.2) = _
      simp only [perform, nextTurn, pure_bind, bind_assoc, map_bind, List.tail_nil]
      rfl
  | cons other others =>
      change (fun outcome => outcome.1) <$>
        ((((apart other >>= fun _ => pure ((), others)) :
          Action (Unit × List (Action Unit))) >>= fun started =>
            perform action started.2) >>= fun outcome => rest outcome.1 outcome.2) = _
      simp only [perform, nextTurn, pure_bind, bind_assoc, map_bind, List.tail_cons]
      rfl

theorem run_lift (action : Action α) (others : List (Action Unit)) :
    (liftM action : Interrupted α).run others = nextTurn others >>= fun _ => action := by
  have whole := run_lift_bind action pure others
  have still (a : α) : (pure a : Interrupted α).run others.tail = pure a := rfl
  simp only [bind_pure, still] at whole
  exact whole

@[simp] theorem run_pure (a : α) (others : List (Action Unit)) (before : Workspace) :
    ((pure a : Interrupted α).run others).run before = (.ok a, before) := rfl

end Interrupted

/-! ## The steps of a save -/

open Interrupted

section Steps

variable {h : Handle}

theorem run_shared_cases (n : Nat) (before : Workspace) :
    (∃ fault, ∀ {α : Type} (action : Action α),
      (shared n action).run before = (.error fault, before)) ∨
    ∃ enter leave : Lock → Lock, ∀ {α : Type} (action : Action α),
      (shared n action).run before = ((action.run (setLock enter before)).1,
        setLock leave (action.run (setLock enter before)).2) := by
  cases found : before.state.loads[n]? with
  | none =>
      refine .inl ⟨.notLoaded, fun action => ?_⟩
      rw [shared, run_bind, loadAt, run_onLoad_none found]
  | some load =>
      cases attached : load.attached with
      | false =>
          refine .inr ⟨id, id, fun action => ?_⟩
          rw [shared, run_bind_ok (run_loadAt found), attached]
          rfl
      | true =>
          cases admitted : before.state.lock.admits .shared with
          | false =>
              refine .inl ⟨.wouldWait, fun action => ?_⟩
              rw [shared, run_bind_ok (run_loadAt found), attached, if_pos rfl, inSection,
                run_ofRun, admitted, if_neg Bool.false_ne_true]
          | true =>
              refine .inr ⟨(·.enter .shared), (·.leave .shared), fun action => ?_⟩
              rw [shared, run_bind_ok (run_loadAt found), attached, if_pos rfl, inSection,
                run_ofRun, admitted, if_pos rfl]

/-- The code that the class tells in a section that opens here. -/
def Handle.codeIn (h : Handle) (workspace : Workspace) : Except Fault String :=
    ((shared h.load (h.code : Action String)).run workspace).1

theorem run_writeClass_untold {before : Workspace} {fault : Fault}
    (untold : h.codeIn before = .error fault) (path : Path) :
    ((h.writeClass path).run before).1 = .error fault ∧
      ((h.writeClass path).run before).2.files = before.files := by
  have silent := leavesFiles_code h
  rw [Handle.writeClass]
  rcases run_shared_cases h.load before with ⟨other, refused⟩ | ⟨enter, leave, inside⟩
  · rw [Handle.codeIn, refused] at untold
    obtain rfl := Except.error.inj untold
    rw [refused]
    exact ⟨rfl, rfl⟩
  · rw [Handle.codeIn, inside] at untold
    have same := silent (setLock enter before)
    rw [inside, run_bind]
    generalize (h.code : Action String).run (setLock enter before) = result at untold same ⊢
    obtain ⟨outcome, between⟩ := result
    obtain rfl : outcome = .error fault := untold
    exact ⟨rfl, same⟩

/-- Why the files refused a class is logged under its name. -/
def Handle.note (h : Handle) : Option String → Action (Option String)
  | none => pure none
  | some why => do
      let fullName ← h.fullName
      Action.log .warning .nodes ("Failed to save " ++ fullName ++ ": " ++ why)
      return some why

theorem writeClass_eq (h : Handle) (path : Path) :
    h.writeClass path =
      shared h.load (h.code >>= fun code => tryWrite path code >>= h.note) := by
  apply congrArg (shared h.load)
  apply congrArg (h.code >>= ·)
  funext code
  apply congrArg (tryWrite path code >>= ·)
  funext failure
  cases failure <;> rfl

theorem run_note (h : Handle) (why : String) (before : Workspace) :
    ∃ after, after.files = before.files ∧
      ((h.note (some why)).run before = (.ok (some why), after) ∨
        ∃ fault, (h.note (some why)).run before = (.error fault, after)) := by
  have named := leavesFiles_fullName h before
  rw [Handle.note, run_bind]
  generalize (h.fullName : Action String).run before = result at named ⊢
  obtain ⟨outcome, between⟩ := result
  cases outcome with
  | error fault => exact ⟨between, named, .inr ⟨fault, rfl⟩⟩
  | ok name => exact ⟨(Action.log _ _ _ between).2, named, .inl rfl⟩

theorem run_tryWrite (path : Path) (code : String) (before : Workspace) :
    (tryWrite path code).run before =
      ((before.files.refusing (path, code)).1,
        { before with files := (before.files.writeSource path code).1 }) := by
  simp only [tryWrite, run_ofRun, writeSource, refusing]
  generalize before.files.writeSource path code = result
  obtain ⟨after, outcome⟩ := result
  cases outcome with
  | ok _ => rfl
  | error fault => cases fault <;> rfl

/-- What may come of writing the code of a class: a fault with no file changed, a refusal, or the
code is in its file. -/
inductive Handled (before : Files.Tree) (path : Path) (code : String) :
    Except Fault (Option String) → Files.Tree → Prop
  | failed {fault : Fault} {after : Files.Tree} (same : before.SameFiles after)
      (unwritten : (before.writeSource path code).2 ≠ .ok ()) :
      Handled before path code (.error fault) after
  | refused {why : String} {refusal : Files.Refusal} {after : Files.Tree}
      (refused : before.writeSource path code = (after, .error (.notWritten refusal path))) :
      Handled before path code (.ok (some why)) after
  | written {after : Files.Tree} (written : before.writeSource path code = (after, .ok ())) :
      Handled before path code (.ok none) after

theorem handled_tryWrite (h : Handle) (path : Path) (code : String) (before : Workspace) :
    let result := (tryWrite path code >>= h.note).run before
    Handled before.files path code result.1 result.2.files := by
  rw [run_bind, run_tryWrite]
  obtain ⟨between, extended, failed | ⟨refusal, refused⟩ | ⟨-, written⟩⟩ :=
    before.files.writeSource_spec path code
  · rw [refusing_of_error failed, failed]
    apply Handled.failed extended.sameFiles
    rw [failed]
    exact (nomatch ·)
  · rw [refusing_of_refused refused, refused]
    dsimp only
    obtain ⟨after, files, noted | ⟨fault, noted⟩⟩ := run_note h
      (Fault.notWritten refusal path).message { before with files := between }
    · rw [noted, files]
      exact .refused refused
    · rw [noted, files]
      apply Handled.failed extended.sameFiles
      rw [refused]
      exact (nomatch ·)
  · rw [refusing_of_written written, written]
    exact .written written

theorem handled_writeClass {before : Workspace} {code : String} (told : h.codeIn before = .ok code)
    (path : Path) :
    let result := (h.writeClass path).run before
    Handled before.files path code result.1 result.2.files := by
  have silent := leavesFiles_code h
  rw [writeClass_eq]
  rcases run_shared_cases h.load before with ⟨other, refused⟩ | ⟨enter, leave, inside⟩
  · rw [Handle.codeIn, refused] at told
    contradiction
  · rw [Handle.codeIn, inside] at told
    have same := silent (setLock enter before)
    rw [inside, run_bind]
    generalize (h.code : Action String).run (setLock enter before) = result at told same ⊢
    obtain ⟨outcome, entered⟩ := result
    obtain rfl : outcome = .ok code := told
    have sameFiles : entered.files = before.files := same
    rw [← sameFiles]
    exact handled_tryWrite h path code entered

def Handle.announce (h : Handle) (path : Path) (others : List (Action Unit)) : Action Bool := do
    let name ← (h.fullName : Interrupted String).run others
    nextTurn others.tail.tail
    Action.log .debug .nodes ("Saved " ++ name ++ " to " ++ path.text)
    return true

theorem run_fullName (h : Handle) (others : List (Action Unit)) :
    (h.fullName : Interrupted String).run others =
      nextTurn others >>= fun _ => h.invoke "getFullName" >>= fun v =>
        nextTurn others.tail >>= fun _ => Remote.written h.load v := by
  change ((liftM (h.invoke "getFullName") : Interrupted Value) >>= fun v =>
    (liftM (Remote.written h.load v) : Interrupted String)).run others = _
  simp only [run_lift_bind, run_lift]

theorem run_saveClass (h : Handle) (path : Path) (others : List (Action Unit)) :
    (h.saveClass path : Interrupted Bool).run others =
      nextTurn others >>= fun _ => h.writeClass path >>= fun failure =>
        if failure.isSome then pure false else h.announce path others.tail := by
  change ((liftM (h.writeClass path) : Interrupted (Option String)) >>= fun failure =>
    if failure.isSome then pure false else
      ((liftM (h.invoke "getFullName") : Interrupted Value) >>= fun v =>
        (liftM (Remote.written h.load v) : Interrupted String)) >>= fun name =>
      (liftM (Action.log .debug .nodes ("Saved " ++ name ++ " to " ++ path.text)) :
        Interrupted Unit) >>= fun _ => pure true).run others = _
  rw [run_lift_bind]
  congr
  funext _
  congr
  funext failure
  split
  · rfl
  · simp only [bind_assoc, run_lift_bind, Handle.announce, run_fullName]
    rfl

theorem run_save_class (isClass : h.kind = .classNode) (argument : Files.PathArgument)
    (others : List (Action Unit)) :
    (h.save argument : Interrupted Bool).run others =
      nextTurn others >>= fun _ => Action.ofExcept argument.toPath >>= fun path =>
        (h.saveClass path : Interrupted Bool).run others.tail := by
  have notPackage : h.kind ≠ .package := by
    rw [isClass]
    decide
  change ((liftM (Action.ofExcept argument.toPath) : Interrupted Path) >>= fun path =>
    if h.kind = .package then h.savePackage path else h.saveClass path).run others = _
  rw [run_lift_bind]
  simp only [if_neg notPackage]

end Steps

/-! ## A whole save -/

def afterTurns (turns : List (List Move)) (before : Workspace) : Workspace :=
    turns.foldl (fun workspace moves => ((turn moves).run workspace).2) before

def Handle.nameAmong (h : Handle) (turns : List (List Move)) (workspace : Workspace) :
    Except Fault String :=
    (((h.fullName : Interrupted String).run (turns.map turn)).run workspace).1

section Whole

variable {h : Handle} {turns : List (List Move)} {before : Workspace}

theorem files_afterTurns (turns : List (List Move)) (before : Workspace) :
    (afterTurns turns before).files = before.files := by
  induction turns generalizing before with
  | nil => rfl
  | cons moves turns ih => exact (ih _).trans (leavesFiles_turn moves before)

theorem run_nextTurn (turns : List (List Move)) (before : Workspace) :
    (nextTurn (turns.map turn)).run before = (.ok (), afterTurns (turns.take 1) before) := by
  cases turns <;> rfl

theorem leavesFiles_nextTurn (turns : List (List Move)) :
    (nextTurn (turns.map turn)).LeavesFiles := by
  intro before
  rw [run_nextTurn]
  exact files_afterTurns _ before

theorem leavesFiles_fullNameAmong (h : Handle) (turns : List (List Move)) :
    ((h.fullName : Interrupted String).run (turns.map turn)).LeavesFiles := by
  rw [run_fullName, ← List.map_tail]
  apply leavesFiles_bind (leavesFiles_nextTurn turns)
  intro _
  apply leavesFiles_bind (leavesFiles_invoke h "getFullName")
  intro v
  apply leavesFiles_bind (leavesFiles_nextTurn turns.tail)
  intro _
  exact leavesFiles_written h.load v

theorem run_announce (path : Path) (turns : List (List Move)) (before : Workspace) :
    ((h.announce path (turns.map turn)).run before).1 =
        (h.nameAmong turns before).map (fun _ => true) ∧
      ((h.announce path (turns.map turn)).run before).2.files = before.files := by
  have same := leavesFiles_fullNameAmong h turns before
  rw [Handle.announce, Handle.nameAmong, run_bind]
  generalize ((h.fullName : Interrupted String).run (turns.map turn)).run before = result at same ⊢
  obtain ⟨outcome, between⟩ := result
  cases outcome with
  | error fault => exact ⟨rfl, same⟩
  | ok name =>
      dsimp only
      rw [← List.map_tail, ← List.map_tail, run_bind, run_nextTurn]
      exact ⟨rfl, (files_afterTurns _ between).trans same⟩

/-- What a save comes to, by what its section comes to. -/
def Handle.finish (h : Handle) (path : Path) (turns : List (List Move)) :
    Except Fault (Option String) × Workspace → Except Fault Bool × Workspace
  | (.error fault, after) => (.error fault, after)
  | (.ok (some _), after) => (.ok false, after)
  | (.ok none, after) => (h.announce path ((turns.drop 2).map turn)).run after

/-- A save comes to what its section comes to after two turns of the others, and if the code was
written there to what the announcement comes to. -/
theorem run_save (isClass : h.kind = .classNode) (argument : Files.PathArgument)
    (turns : List (List Move)) (before : Workspace) :
    ((h.save argument : Interrupted Bool).run (turns.map turn)).run before =
      match argument.toPath with
      | .error fault => (.error fault, afterTurns (turns.take 1) before)
      | .ok path =>
          h.finish path turns ((h.writeClass path).run (afterTurns (turns.take 2) before)) := by
  -- One turn of the others comes before the path is read, and one before the section opens.
  have second : afterTurns (turns.tail.take 1) (afterTurns (turns.take 1) before) =
      afterTurns (turns.take 2) before := by
    rcases turns with _ | ⟨first, _ | ⟨second, rest⟩⟩ <;> rfl
  have third : turns.tail.tail = turns.drop 2 := by
    rw [← List.drop_one, ← List.drop_one, List.drop_drop]
  rw [run_save_class isClass, run_bind_ok (run_nextTurn turns before), run_bind, run_ofExcept]
  cases argument.toPath with
  | error fault => rfl
  | ok path =>
      dsimp only
      rw [run_saveClass, ← List.map_tail, run_bind_ok (run_nextTurn _ _), second, ← List.map_tail,
        run_bind, third]
      generalize (h.writeClass path).run (afterTurns (turns.take 2) before) = result
      obtain ⟨outcome, after⟩ := result
      cases outcome with
      | error fault => rfl
      | ok failure => cases failure <;> rfl

end Whole

/-- The save gets as far as writing this code to this path. -/
def Handle.Writes (h : Handle) (argument : Files.PathArgument) (turns : List (List Move))
    (before : Workspace) (path : Path) (code : String) : Prop :=
    argument.toPath = .ok path ∧ h.codeIn (afterTurns (turns.take 2) before) = .ok code

/-- What the class calls itself after its code was written to the path. -/
def Handle.nameOnceWritten (h : Handle) (path : Path) (turns : List (List Move))
    (before : Workspace) : Except Fault String :=
    h.nameAmong (turns.drop 2) ((h.writeClass path).run (afterTurns (turns.take 2) before)).2

structure SavesClass (h : Handle) (argument : Files.PathArgument) (turns : List (List Move))
    (before : Workspace) (answer : Except Fault Bool) (after : Files.Tree) : Prop where
  saved : answer = .ok true → ∃ path code, h.Writes argument turns before path code ∧
    after.read path = .ok code.toUTF8
  refused : answer = .ok false → ∃ path code refusal, h.Writes argument turns before path code ∧
    before.files.writeSource path code = (after, .error (.notWritten refusal path))
  failed : (∀ fault, answer = .error fault → before.files.SameFiles after) ↔
    ¬ ∃ path code fault, h.Writes argument turns before path code ∧
      (before.files.writeSource path code).2 = .ok () ∧
      before.files.get? (before.files.place path) ≠ some (.file code.toUTF8) ∧
      h.nameOnceWritten path turns before = .error fault

section Whole

variable {h : Handle} {argument : Files.PathArgument} {turns : List (List Move)}
  {before : Workspace} {after : Files.Tree} {path : Path} {code : String}

theorem Handle.Writes.unique (writes : h.Writes argument turns before path code) {other : Path}
    {otherCode : String} (again : h.Writes argument turns before other otherCode) :
    other = path ∧ otherCode = code :=
  ⟨Except.ok.inj (again.1.symm.trans writes.1), Except.ok.inj (again.2.symm.trans writes.2)⟩

theorem savesClass_of_error {fault : Fault} (same : before.files.SameFiles after)
    (unwritten : ∀ path code, h.Writes argument turns before path code →
      (before.files.writeSource path code).2 ≠ .ok ()) :
    SavesClass h argument turns before (.error fault) after := by
  constructor
  case saved => exact (nomatch ·)
  case refused => exact (nomatch ·)
  case failed =>
      constructor
      · rintro - ⟨path, code, _, writes, written, -⟩
        exact unwritten path code writes written
      · exact fun _ _ _ => same

theorem savesClass_of_refused (writes : h.Writes argument turns before path code)
    {refusal : Files.Refusal}
    (refused : before.files.writeSource path code = (after, .error (.notWritten refusal path))) :
    SavesClass h argument turns before (.ok false) after := by
  constructor
  case saved => exact (nomatch ·)
  case refused => exact fun _ => ⟨path, code, refusal, writes, refused⟩
  case failed =>
      constructor
      · rintro - ⟨other, otherCode, _, again, written, -⟩
        obtain ⟨rfl, rfl⟩ := writes.unique again
        rw [refused] at written
        contradiction
      · exact fun _ _ => (nomatch ·)

theorem savesClass_of_written (writes : h.Writes argument turns before path code)
    (written : before.files.writeSource path code = (after, .ok ())) :
    SavesClass h argument turns before ((h.nameOnceWritten path turns before).map fun _ => true)
      after := by
  cases named : h.nameOnceWritten path turns before with
  | ok name =>
      constructor
      case saved => exact fun _ => ⟨path, code, writes, (read_writeSource_same written).2⟩
      case refused => exact (nomatch ·)
      case failed =>
          constructor
          · rintro - ⟨other, otherCode, _, again, -, -, unnamed⟩
            obtain ⟨rfl, rfl⟩ := writes.unique again
            rw [named] at unnamed
            contradiction
          · exact fun _ _ => (nomatch ·)
  | error fault =>
      constructor
      case saved => exact (nomatch ·)
      case refused => exact (nomatch ·)
      case failed =>
          have already := sameFiles_writeSource_iff written
          constructor
          · rintro unchanged ⟨other, otherCode, _, again, -, new, -⟩
            obtain ⟨rfl, rfl⟩ := writes.unique again
            exact new (already.mp (unchanged fault rfl))
          · intro none _ _
            apply already.mpr
            by_contra new
            exact none ⟨path, code, fault, writes, congrArg Prod.snd written, new, named⟩

theorem savesClass_of_untold {fault : Fault}
    (untold : h.codeIn (afterTurns (turns.take 2) before) = .error fault) (path : Path) :
    let result := h.finish path turns ((h.writeClass path).run (afterTurns (turns.take 2) before))
    SavesClass h argument turns before result.1 result.2.files := by
  obtain ⟨failed, silent⟩ := run_writeClass_untold untold path
  rw [files_afterTurns] at silent
  generalize (h.writeClass path).run (afterTurns (turns.take 2) before) = ended at failed silent
  obtain ⟨outcome, after⟩ := ended
  obtain rfl : outcome = .error fault := failed
  dsimp only [Handle.finish] at silent ⊢
  rw [silent]
  apply savesClass_of_error (sameFiles_refl _)
  intro path code writes
  rw [Handle.Writes, untold] at writes
  exact (nomatch writes.2)

theorem savesClass_of_told (writes : h.Writes argument turns before path code) :
    let result := h.finish path turns ((h.writeClass path).run (afterTurns (turns.take 2) before))
    SavesClass h argument turns before result.1 result.2.files := by
  have asked : h.nameOnceWritten path turns before = h.nameAmong (turns.drop 2)
      ((h.writeClass path).run (afterTurns (turns.take 2) before)).2 := rfl
  have handled := handled_writeClass writes.2 path
  rw [files_afterTurns] at handled
  generalize (h.writeClass path).run (afterTurns (turns.take 2) before) = ended at handled asked ⊢
  obtain ⟨outcome, after⟩ := ended
  cases handled with
  | failed same unwritten =>
      apply savesClass_of_error same
      intro other otherCode again
      obtain ⟨rfl, rfl⟩ := writes.unique again
      exact unwritten
  | refused refused => exact savesClass_of_refused writes refused
  | written written =>
      obtain ⟨announced, files⟩ := run_announce path (turns.drop 2) after
      dsimp only [Handle.finish]
      rw [announced, files, ← asked]
      exact savesClass_of_written writes written

end Whole

/-- A class save that succeeds has written the code, and one that answers that it did not was
refused. One that fails has changed no file, exactly if the class does not fail to tell its name
once new code is written. -/
theorem class_save_fails_unwritten_iff {h : Handle} (isClass : h.kind = .classNode)
    (argument : Files.PathArgument) (turns : List (List Move)) (before : Workspace) :
    let result := ((h.save argument : Interrupted Bool).run (turns.map turn)).run before
    SavesClass h argument turns before result.1 result.2.files := by
  intro result
  have ran : result = _ := run_save isClass argument turns before
  cases isPath : argument.toPath with
  | error fault =>
      rw [ran, isPath]
      dsimp only
      rw [files_afterTurns]
      apply savesClass_of_error (sameFiles_refl _)
      intro path code writes
      rw [Handle.Writes, isPath] at writes
      exact (nomatch writes.1)
  | ok path =>
      rw [ran, isPath]
      dsimp only
      cases told : h.codeIn (afterTurns (turns.take 2) before) with
      | error fault => exact savesClass_of_untold told path
      | ok code => exact savesClass_of_told ⟨isPath, told⟩

def singleClass : Files.Entry :=
    .file "\x7b\"classes\": [\x7b\"fullname\": \"a.A\"\x7d]\x7d".toUTF8

def singleLoaded : Workspace :=
    ((load (.memory .lax id) (.path (Path.ofString "a.json")) none []).run
      { files := ({} : Files.Tree).put ["a.json"] singleClass }).2

/-- The session is closed once the code of the class is written: the save fails after all. -/
theorem closed_class_written :
    ∃ h : Handle, h.kind = .classNode ∧
      let result := ((h.save (.text "A.java") : Interrupted Bool).run
        ([[], [], [.close]].map turn)).run singleLoaded
      ∃ fault, result.1 = .error fault ∧ ¬ singleLoaded.files.SameFiles result.2.files := by
  let turns : List (List Move) := [[], [], [.close]]
  let path := Path.ofString "A.java"
  let code := "package a;\n\n/* loaded from: a.json */\npublic class A \x7b\n\x7d\n"
  have ran : singleLoaded.state.current.any (fun loaded => loaded.classes.any fun entry =>
      entry.2.kind == .classNode &&
        (entry.2.codeIn (afterTurns (turns.take 2) singleLoaded)).toOption == some code &&
        (faultOf? (entry.2.nameOnceWritten path turns singleLoaded)).isSome) = true := by
    decide +kernel
  have taken : (singleLoaded.files.writeSource path code).2.toOption = some () ∧
      singleLoaded.files.get? (singleLoaded.files.place path) = none := by
    decide +kernel
  obtain ⟨loaded, -, inClasses⟩ := (Option.any_eq_true _ _).mp ran
  obtain ⟨⟨name, h⟩, -, facts⟩ := List.any_eq_true.mp inClasses
  rw [Bool.and_eq_true, Bool.and_eq_true, beq_iff_eq, beq_iff_eq, Option.isSome_iff_exists] at facts
  obtain ⟨⟨isClass, told⟩, fault, unnamed⟩ := facts
  refine ⟨h, isClass, ?_⟩
  by_contra none
  have saves := class_save_fails_unwritten_iff isClass (.text "A.java") turns singleLoaded
  apply saves.failed.mp fun fault failed => by_contra fun changed => none ⟨fault, failed, changed⟩
  refine ⟨path, code, fault, ⟨rfl, toOption_eq_some.mp told⟩, toOption_eq_some.mp taken.1, ?_,
    faultOf?_eq_some.mp unnamed⟩
  rw [taken.2]
  exact (nomatch ·)

end Session

end DexBrowser

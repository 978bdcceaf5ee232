import DexBrowser.Proofs.Session.Answers

/-!
Searches of a session. Main statement: a search goes by the current input alone, and leaves the
session as it was.
-/

namespace DexBrowser.Session

open Managed Session.Action

/-- A search, which has the session's lock for as long as it looks at the current input. -/
def searching (answer : Loaded → Except Fault γ) : Action γ :=
    inSection .shared do
      Action.ofExcept (answer (← requireLoaded))

/-- The handle that goes by a name, or the fault that there is none. -/
def handleNamed (absent : Fault) (entries : List (String × Handle)) (name : String) :
    Except Fault Handle :=
    (entries.lookup name).elim (.error absent) .ok

theorem getClass_eq (name : String) :
    getClass name = searching fun loaded =>
      handleNamed (.noSuchClass name) loaded.classes (ClassName.normalize name) := by
  refine congrArg (inSection .shared) (bind_congr fun loaded => ?_)
  dsimp only [handleNamed]
  cases loaded.classes.lookup (ClassName.normalize name) <;> rfl

theorem getPackage_eq (name : String) :
    getPackage name = searching fun loaded =>
      handleNamed (.noSuchPackage name) loaded.packages name := by
  refine congrArg (inSection .shared) (bind_congr fun loaded => ?_)
  dsimp only [handleNamed]
  cases loaded.packages.lookup name <;> rfl

/-! ## Overviews by searches -/

namespace Query

variable {m : Type → Type} [Monad m] [MonadLiftT Action m]

theorem classes_whole {package : Option String} (whole : package = none ∨ package = some "")
    (limit : Int) :
    (classes package limit : m (List ClassRow)) = (do
      let handles ← searching fun loaded => .ok (loaded.classes.map (·.2))
      (firstItems limit handles).mapM classRow) := by
  rcases whole with rfl | rfl <;> rfl

theorem classes_named {name : String} (named : name ≠ "") (limit : Int) :
    (classes (some name) limit : m (List ClassRow)) = (do
      let h ← searching fun loaded =>
        handleNamed (.noSuchPackage name) loaded.packages name
      let handles ← h.classes
      (firstItems limit handles).mapM classRow) := by
  rw [← getPackage_eq]
  unfold classes
  split
  case h_1 => contradiction
  case h_2 same => exact absurd (Option.some.inj same) named
  case h_3 other _ same =>
      obtain rfl := Option.some.inj same
      rfl

theorem packages_eq :
    (packages : m (List PackageRow)) = (do
      let handles ← searching fun loaded => .ok (loaded.packages.map (·.2))
      handles.mapM fun h => do return ⟨← h.fullName, (← h.classes).length⟩) := rfl

theorem methods_eq (className : String) :
    (methods className : m (List MethodRow)) = (do
      let h ← searching fun loaded =>
        handleNamed (.noSuchClass className) loaded.classes (ClassName.normalize className)
      let handles ← h.methods
      handles.mapM methodRow) := by
  rw [← getClass_eq]
  rfl

end Query

def saysMissing : Fault → Bool
  | .notLoaded | .noSuchClass _ | .noSuchPackage _ => true
  | _ => false

section Named

variable {entries : List (String × Handle)} {name : String} {absent : Fault}

theorem mem_of_handleNamed {h : Handle} (found : handleNamed absent entries name = .ok h) :
    (name, h) ∈ entries := by
  unfold handleNamed at found
  cases listed : entries.lookup name with
  | none =>
      rw [listed] at found
      contradiction
  | some other =>
      rw [listed] at found
      obtain rfl := Except.ok.inj found
      obtain ⟨front, back, rfl, -⟩ := List.lookup_eq_some_iff.mp listed
      simp

theorem missing_of_handleNamed {fault : Fault} (missing : saysMissing absent = true)
    (failed : handleNamed absent entries name = .error fault) : saysMissing fault = true := by
  unfold handleNamed at failed
  cases listed : entries.lookup name with
  | none =>
      rw [listed] at failed
      obtain rfl := Except.error.inj failed
      exact missing
  | some other =>
      rw [listed] at failed
      contradiction

end Named

theorem run_searching {workspace : Workspace} (free : workspace.state.lock.writer = false)
    (answer : Loaded → Except Fault γ) :
    (searching answer).run workspace =
      (workspace.state.current.elim (.error .notLoaded) answer, workspace) := by
  refine run_looking free fun lock => ?_
  cases current : workspace.state.current with
  | none =>
      have missing : requireLoaded.run (setLock (fun _ => lock) workspace) =
          (.error .notLoaded, setLock (fun _ => lock) workspace) := by
        have still : (setLock (fun _ => lock) workspace).state.current = none := current
        rw [requireLoaded, run_bind, run_state]
        simp only [still]
        rfl
      rw [run_bind, missing]
      rfl
  | some loaded =>
      rw [run_bind_ok (run_requireLoaded current lock), run_ofExcept]
      rfl

section World

variable {world : World} {seat : Nat} {state : State} (found : world.sessions[seat]? = some state)
  (free : state.lock.writer = false) (answer : Loaded → Except Fault γ)

include found free

theorem World.run_searching :
    world.run seat (searching answer) =
      ((world.current seat).elim (.error .notLoaded) answer, world) := by
  rw [World.current, found, Option.bind_some]
  exact World.run_of_still found (Session.run_searching free answer)

theorem World.run_searching_error {answer : Loaded → Except Fault γ} {fault : Fault}
    (failed : (world.current seat).elim (.error .notLoaded) answer = .error fault)
    (next : γ → Action β) : world.run seat (searching answer >>= next) = (.error fault, world) := by
  rw [World.current, found, Option.bind_some] at failed
  refine World.run_of_still found ?_
  rw [run_bind, Session.run_searching free, failed]

end World

end DexBrowser.Session

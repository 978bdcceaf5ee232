import DexBrowser.Proofs.Session.Scene

/-!
Runs beside others. What takes several sections of a session's lock may find others at work between
any two of its steps: they may do whatever callers do, to this session and to others. The worlds are
kept that such a run reads, and those in between. Main statement: with nobody else there, a step is
the action itself.
-/

namespace DexBrowser.Session

open Managed Session.Action

def Action.waits (action : Action α) (workspace : Workspace) : Bool :=
    match (action.run (setLock (fun _ => { writer := true }) workspace)).1 with
    | .error .wouldWait => true
    | _ => false

def World.reads (world : World) (seat : Nat) (action : Action α) : Bool :=
    (world.sessions[seat]?).any fun state => action.waits ⟨state, world.files, world.journal⟩

/-- A run on its way: what there is, and what the others do before each step still to come. `seen`
holds the worlds from the first read to the latest, and `since` those that came after it. -/
structure Passage where
  scene : Scene
  turns : List (List Deed) := []
  seen : List World := []
  since : List World := []

namespace Passage

def moveTo (passage : Passage) (scene : Scene) : Passage :=
    { passage with scene := scene, since := passage.since ++ [scene.world] }

def perform (passage : Passage) (deed : Deed) : Passage :=
    passage.moveTo (passage.scene.perform deed)

def giveWay (passage : Passage) : Passage :=
    match passage.turns with
    | [] => passage
    | turn :: turns => turn.foldl perform { passage with turns := turns }

/-- Nothing counts that was before the first read. -/
def look (passage : Passage) : Passage :=
    let before := if passage.seen.isEmpty then [] else passage.seen ++ passage.since
    { passage with seen := before ++ [passage.scene.world], since := [] }

def act (seat : Nat) (action : Action α) (passage : Passage) : Except Fault α × Passage :=
    let (outcome, world) := passage.scene.world.run seat action
    let looked := if passage.scene.world.reads seat action then passage.look else passage
    (outcome, looked.moveTo { passage.scene with world := world })

def step (seat : Nat) (action : Action α) (passage : Passage) : Except Fault α × Passage :=
    passage.giveWay.act seat action

end Passage

def Beside (_seat : Nat) (α : Type) : Type :=
    ExceptT Fault (StateM Passage) α

namespace Beside

variable {seat : Nat}

instance : Monad (Beside seat) :=
    inferInstanceAs (Monad (ExceptT Fault (StateM Passage)))

instance : LawfulMonad (Beside seat) :=
    inferInstanceAs (LawfulMonad (ExceptT Fault (StateM Passage)))

instance : MonadLift Action (Beside seat) where
  monadLift action := ExceptT.mk (StateT.mk (Passage.step seat action))

def run (steps : Beside seat α) (passage : Passage) : Except Fault α × Passage :=
    StateT.run (ExceptT.run steps) passage

@[simp] theorem run_pure (a : α) (passage : Passage) :
    (pure a : Beside seat α).run passage = (.ok a, passage) := rfl

@[simp] theorem run_lift (action : Action α) (passage : Passage) :
    (liftM action : Beside seat α).run passage = passage.step seat action := rfl

theorem run_bind (first : Beside seat α) (next : α → Beside seat β) (passage : Passage) :
    (first >>= next).run passage =
      match first.run passage with
      | (.ok a, passage) => (next a).run passage
      | (.error fault, passage) => (.error fault, passage) := by
  change (StateT.run (ExceptT.run first) passage >>= fun outcome =>
    StateT.run (ExceptT.bindCont next outcome.1) outcome.2) = _
  rcases outcome : first.run passage with ⟨done, after⟩
  have started : StateT.run (ExceptT.run first) passage = (done, after) := outcome
  rw [started]
  cases done <;> rfl

end Beside

theorem Passage.step_alone {passage : Passage} (alone : passage.turns = []) (seat : Nat)
    (action : Action α) :
    (passage.step seat action).1 = (passage.scene.world.run seat action).1 ∧
      (passage.step seat action).2.scene.world = (passage.scene.world.run seat action).2 := by
  rw [step, giveWay, alone]
  exact ⟨rfl, rfl⟩

end DexBrowser.Session

import DexBrowser.Proofs.Session.Attribute
import DexBrowser.Proofs.Session.Turnover

/-!
Scenes: several sessions and the handles that their callers hold. A history is what callers do, one
deed after another; a scene is what has come of it.
-/

namespace DexBrowser.Session

open Managed Session.Action

inductive Search where
  | classes
  | packages
  | classNamed (name : String)
  | packageNamed (name : String)

def Search.run : Search → Action (List Handle)
  | classes => allClasses
  | packages => allPackages
  | classNamed name => do return [← getClass name]
  | packageNamed name => do return [← getPackage name]

/-- What a caller may do. Handles go by the order in which they were given out. To leave a block
that a session was opened for is to close it. What managed objects answer may change at any time,
and so may the files. -/
inductive Deed where
  | openSession
  | load (seat : Nat) (engine : Engine) (path : Files.PathArgument) (given : Option LoadOptions)
      (changes : List (String × Json))
  | close (seat : Nat)
  | search (seat : Nat) (asked : Search)
  | read (k : Nat) (asked : Attribute)
  | text (k : Nat)
  | inspect (k : Nat)
  | hash (k : Nat)
  | compare (j : Nat) (k : Option Nat)
  | save (k : Nat) (path : Files.PathArgument)
  | amend (seat : Nat) (change : Heap → Heap)
  | replaceFiles (files : Files.Tree)

/-- Sessions and the handles that their callers hold. -/
structure Scene where
  world : World := {}
  held : List Handle := []

namespace Scene

def run (scene : Scene) (seat : Nat) (action : Action α) : Scene :=
    { scene with world := (scene.world.run seat action).2 }

/-- The handles that an action ends with are held from then on. -/
def gain (scene : Scene) (seat : Nat) (action : Action (List Handle)) : Scene :=
    let (outcome, world) := scene.world.run seat action
    { world := world, held := scene.held ++ outcome.toOption.getD [] }

def withHeld (scene : Scene) (k : Nat) (use : Handle → Scene) : Scene :=
    match scene.held[k]? with
    | none => scene
    | some h => use h

def perform (scene : Scene) : Deed → Scene
  | .openSession => { scene with world := scene.world.addSession.1 }
  | .load seat engine path given changes => scene.run seat (load engine path given changes)
  | .close seat => scene.run seat close
  | .search seat asked => scene.gain seat asked.run
  | .read k asked =>
      scene.withHeld k fun h => scene.gain h.seat do return (← asked.read h).given
  | .text k => scene.withHeld k fun h => scene.run h.seat h.toText
  | .inspect k => scene.withHeld k fun h => scene.run h.seat h.inspect
  | .hash k => scene.withHeld k fun h => scene.run h.seat h.hash
  | .compare j none =>
      scene.withHeld j fun h => { scene with world := (scene.world.compare h .value).2 }
  | .compare j (some k) =>
      scene.withHeld j fun first =>
        scene.withHeld k fun second =>
          { scene with world := (scene.world.compare first (.handle second)).2 }
  | .save k path => scene.withHeld k fun h => scene.run h.seat (h.save path : Action Bool)
  | .amend seat change => { scene with world := scene.world.amend seat change }
  | .replaceFiles files => { scene with world := { scene.world with files := files } }

/-- What has come of deeds done one after another, where there was nothing at first. -/
def after (deeds : List Deed) : Scene :=
    deeds.foldl perform {}

end Scene

def artifactOf (fullName : String) : Files.Entry :=
    .file ("\x7b\"classes\": [\x7b\"fullname\": \"" ++ fullName ++ "\"\x7d]\x7d").toUTF8

def twoArtifacts : Files.Tree :=
    (({} : Files.Tree).put ["a.json"] (artifactOf "a.A")).put ["b.json"] (artifactOf "b.B")

/-! ## Worlds -/

namespace World

/-- The input of a session, which has its path, its options and the handles of its classes and
packages. -/
def current (world : World) (seat : Nat) : Option Loaded :=
    (world.sessions[seat]?).bind (·.current)

def lives (world : World) (id : LoadId) : Bool :=
    (world.load? id).any (·.alive)

/-- The load is that of the current input of its session. -/
def holds (world : World) (id : LoadId) : Bool :=
    (world.sessions[id.seat]?).any (·.holds id.load)

theorem lives_eq_true {world : World} {id : LoadId} :
    world.lives id = true ↔ ∃ load, world.load? id = some load ∧ load.alive = true := by
  simp [lives, Option.any_eq_true]

theorem run_of_session {world : World} {seat : Nat} {state : State}
    (found : world.sessions[seat]? = some state) (action : Action α) :
    let run := action.run ⟨state, world.files, world.journal⟩
    (world.run seat action).1 = run.1 ∧
      (world.run seat action).2.sessions = world.sessions.set seat run.2.state ∧
      (world.run seat action).2.files = run.2.files ∧
      (world.run seat action).2.opened =
        world.opened ++ newLoads seat state.loads.length run.2.state.loads.length := by
  simp [World.run, found]

theorem run_of_none {world : World} {seat : Nat} (missing : world.sessions[seat]? = none)
    (action : Action α) : world.run seat action = (.error .notLoaded, world) := by
  simp [World.run, missing]

theorem run_of_still {world : World} {seat : Nat} {state : State}
    (found : world.sessions[seat]? = some state) {action : Action α} {outcome : Except Fault α}
    (still : action.run ⟨state, world.files, world.journal⟩ =
      (outcome, ⟨state, world.files, world.journal⟩)) :
    world.run seat action = (outcome, world) := by
  obtain ⟨bound, same⟩ := List.getElem?_eq_some_iff.mp found
  have sessions : world.sessions.set seat state = world.sessions := by
    rw [← same, List.set_getElem_self]
  simp [World.run, found, still, sessions, newLoads]

section Set

variable {before after : World} {seat : Nat} {state new : State}

theorem current_set (found : before.sessions[seat]? = some state)
    (sessions : after.sessions = before.sessions.set seat new) :
    after.current seat = new.current := by
  obtain ⟨bound, -⟩ := List.getElem?_eq_some_iff.mp found
  simp [current, sessions, bound]

theorem load?_set (found : before.sessions[seat]? = some state)
    (sessions : after.sessions = before.sessions.set seat new) (n : Nat) :
    after.load? ⟨seat, n⟩ = new.loads[n]? := by
  obtain ⟨bound, -⟩ := List.getElem?_eq_some_iff.mp found
  simp [load?, sessions, bound]

theorem load?_set_other (sessions : after.sessions = before.sessions.set seat new) {id : LoadId}
    (distinct : id.seat ≠ seat) : after.load? id = before.load? id := by
  simp [load?, sessions, Ne.symm distinct]

end Set

end World

end DexBrowser.Session

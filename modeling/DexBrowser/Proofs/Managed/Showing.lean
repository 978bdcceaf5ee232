import DexBrowser.Managed.Load

/-!
Values as text. Main statements: showing a value fails for no other reason than that an integer has
too many digits, or that a foreign value in it cannot be shown; in a virtual machine the members of
which answer nothing of the sort, everybody can be named and every answer put as text.
-/

namespace DexBrowser

/-- The fault of a value that cannot be put as text. -/
inductive Fault.IsUnshown : Fault → Prop
  | digits : IsUnshown (.value (.tooManyDigits none))
  | foreign (what : String) : IsUnshown (.thrown what)

namespace Managed

namespace Value

theorem digits_fails {i : Int} {fault : Fault} (failed : digits i = .error fault) :
    fault.IsUnshown := by
  unfold digits at failed
  split at failed
  · rw [← Except.error.inj failed]
    exact .digits
  · contradiction

theorem told_fails {foreign : Except String String} {fault : Fault}
    (failed : told foreign = .error fault) : fault.IsUnshown := by
  cases foreign with
  | ok shown => contradiction
  | error what =>
      rw [← Except.error.inj failed]
      exact .foreign what

theorem error_of_map {outcome : Except Fault α} {f : α → β} {fault : Fault}
    (failed : (do return f (← outcome)) = Except.error fault) : outcome = .error fault := by
  cases outcome with
  | ok a => contradiction
  | error other => exact congrArg Except.error (Except.error.inj failed)

/-- Objects are described, if nothing that they hold stands against it. -/
abbrev Describes (describe : ObjectId → Except Fault String) : Prop :=
    ∀ id fault, describe id = .error fault → fault.IsUnshown

variable {describe : ObjectId → Except Fault String}

mutual

theorem shown_fails (described : Describes describe) : (v : Value) → (fault : Fault) →
    v.shown describe = .error fault → fault.IsUnshown
  | .int _, _, failed => digits_fails (by simpa only [shown] using failed)
  | .foreign _ _ _, _, failed => told_fails (by simpa only [shown] using failed)
  | .object id, fault, failed => described id fault (by simpa only [shown] using failed)
  | .list xs, fault, failed => by
      simp only [shown] at failed
      exact shownAll_fails described xs fault (error_of_map failed)
  | .tuple [x], fault, failed => by
      simp only [shown] at failed
      exact shown_fails described x fault (error_of_map failed)
  | .tuple (x :: y :: xs), fault, failed => by
      simp only [shown] at failed
      exact shownAll_fails described (x :: y :: xs) fault (error_of_map failed)
  | .record ms, fault, failed => by
      simp only [shown] at failed
      exact shownMembers_fails described ms fault (error_of_map failed)
  | .stranger _ (some key), fault, failed => by
      simp only [shown] at failed
      exact shown_fails described key fault (error_of_map failed)
  | .null, _, failed | .bool _, _, failed | .real _, _, failed | .text _, _, failed
  | .bytes _, _, failed | .tuple [], _, failed | .reflected _, _, failed
  | .stranger _ none, _, failed => by simp [shown] at failed

theorem shownAll_fails (described : Describes describe) : (xs : List Value) → (fault : Fault) →
    shownAll describe xs = .error fault → fault.IsUnshown
  | [], _, failed => by simp [shownAll] at failed
  | x :: xs, fault, failed => by
      simp only [shownAll] at failed
      cases first : x.shown describe with
      | error other =>
          rw [first] at failed
          obtain rfl := Except.error.inj failed
          exact shown_fails described x other first
      | ok _ =>
          rw [first] at failed
          exact shownAll_fails described xs fault (error_of_map failed)

theorem shownMembers_fails (described : Describes describe) : (ms : List (String × Value)) →
    (fault : Fault) → shownMembers describe ms = .error fault → fault.IsUnshown
  | [], _, failed => by simp [shownMembers] at failed
  | (_, x) :: ms, fault, failed => by
      simp only [shownMembers] at failed
      cases first : x.shown describe with
      | error other =>
          rw [first] at failed
          obtain rfl := Except.error.inj failed
          exact shown_fails described x other first
      | ok _ =>
          rw [first] at failed
          exact shownMembers_fails described ms fault (error_of_map failed)

end

theorem written_fails (described : Describes describe) (v : Value) (fault : Fault)
    (failed : v.written describe = .error fault) : fault.IsUnshown := by
  unfold written at failed
  split at failed
  · contradiction
  · exact told_fails failed
  · exact shown_fails described v fault failed

end Value

theorem Heap.describe_fails (heap : Heap) (id : ObjectId) (fault : Fault)
    (failed : heap.describe id = .error fault) : fault.IsUnshown := by
  unfold describe at failed
  split at failed
  · refine Value.shown_fails (fun _ _ impossible => ?_) _ fault (Value.error_of_map failed)
    contradiction
  · contradiction

namespace Load

variable (load : Load)

theorem written_fails {v : Value} {fault : Fault} (failed : load.written v = .error fault) :
    fault.IsUnshown :=
  Value.written_fails load.heap.describe_fails v fault failed

theorem shown_fails {v : Value} {fault : Fault} (failed : load.shown v = .error fault) :
    fault.IsUnshown :=
  Value.shown_fails load.heap.describe_fails v fault failed

theorem owner_fails {readers : Nat} {target : Value} {fault : Fault}
    (failed : load.owner readers target = .error fault) : fault.IsUnshown := by
  unfold owner at failed
  split at failed
  · contradiction
  · split at failed
    · exact load.written_fails failed
    · contradiction
  · contradiction

/-- What comes of a call that fails: a fault of the managed side, or one of showing whom it was
asked of. -/
def Blamed (fault : Fault) : Prop :=
    (∃ cause, fault = .managed cause) ∨ fault.IsUnshown

theorem blame_fails {owner : Except Fault String} {bad : Fault → Prop}
    (managed : ∀ cause, bad (.managed cause)) (named : ∀ fault, owner = .error fault → bad fault)
    (cause : String → ManagedCause) : bad (blame owner cause) := by
  cases owner with
  | ok name => exact managed _
  | error fault => exact named fault rfl

theorem blamed_managed (cause : ManagedCause) : Blamed (.managed cause) :=
  .inl ⟨cause, rfl⟩

theorem blamed_blame {owner : Except Fault String} (cause : String → ManagedCause)
    (fails : ∀ fault, owner = .error fault → fault.IsUnshown) : Blamed (blame owner cause) :=
  blame_fails blamed_managed (fun fault failed => .inr (fails fault failed)) cause

/-! ## Machines whose answers can be put as text -/

/-- Whoever is asked in the virtual machine of a load can be named, and what is answered can be put
as text. -/
structure Worded (load : Load) : Prop where
  host : load.host ≠ .memory
  owner : ∀ readers target, ∃ name, load.owner readers target = .ok name
  written : ∀ readers target name arguments v,
    load.answer readers target name arguments = .ok v → ∃ text, load.written v = .ok text

end Load

/-- What a member answers, if it answers, can be put as text. -/
def Member.IsWordable (describe : ObjectId → Except Fault String) : Member → Prop
  | .constant v => ∃ text, v.written describe = .ok text
  | .varying answer => ∀ n v, answer n = .ok v → ∃ text, v.written describe = .ok text
  | .arguments | .readers => False
  | _ => True

/-- Every member of the load's objects is of that sort. -/
def Load.IsWordable (load : Load) : Prop :=
    ∀ id name member, load.heap.member? id name = some member →
      member.IsWordable load.heap.describe

namespace Load

section Wordable

variable {load : Load} {readers : Nat} {asked : Except Fault String} {target v : Value}
  {name : String} {arguments : List Value}

theorem written_memoryAnswer {member : Member} (wordable : member.IsWordable load.heap.describe)
    (answered : load.memoryAnswer readers asked name arguments member = .ok v) :
    ∃ text, load.written v = .ok text := by
  cases member with
  | constant w =>
      obtain rfl := Except.ok.inj answered
      exact wordable
  | varying answer =>
      simp only [memoryAnswer] at answered
      split at answered
      case h_1 w given =>
          obtain rfl := Except.ok.inj answered
          exact wordable _ _ given
      case h_2 =>
          unfold blame at answered
          split at answered <;> contradiction
  | arguments | readers => exact wordable.elim
  | alive | closes | isClosed =>
      obtain rfl := Except.ok.inj answered
      exact ⟨_, rfl⟩
  | raises | throws | refuses | stopped =>
      unfold memoryAnswer blame at answered
      split at answered <;> contradiction

variable (wordable : load.IsWordable)
include wordable

theorem IsWordable.ofMember {member : Member} (found : load.member? target name = some member) :
    member.IsWordable load.heap.describe := by
  unfold member? at found
  split at found
  · exact wordable _ _ _ found
  · contradiction

theorem IsWordable.told (answered : load.told? readers target name = some v) :
    ∃ text, load.written v = .ok text := by
  unfold told? at answered
  obtain ⟨member, found, given⟩ := Option.bind_eq_some_iff.mp answered
  cases outcome : load.memoryAnswer readers (.ok "") name [] member with
  | error fault => simp [outcome, Except.toOption] at given
  | ok w =>
      simp only [outcome, Except.toOption, Option.some.injEq] at given
      subst given
      exact written_memoryAnswer (wordable.ofMember found) outcome

theorem IsWordable.ownClass (answered : load.ownClass? readers target = some v) :
    ∃ text, load.written v = .ok text := by
  unfold ownClass? at answered
  split at answered
  · exact wordable.told answered
  · split at answered
    · split at answered
      · contradiction
      · obtain rfl := Option.some.inj answered
        exact ⟨_, rfl⟩
    · contradiction

theorem IsWordable.named (readers : Nat) (target : Value) :
    ∃ name, load.owner readers target = .ok name := by
  unfold owner
  split
  · exact ⟨_, rfl⟩
  · split
    · rename_i found
      exact wordable.told found
    · exact ⟨_, rfl⟩
  · exact ⟨_, rfl⟩

theorem IsWordable.worded (host : load.host ≠ .memory) : load.Worded where
  host := host
  owner := wordable.named
  written readers target name arguments v answered := by
    have called : load.machineAnswer readers target name arguments = .ok v := by
      unfold answer at answered
      split at answered
      · contradiction
      · exact answered
    unfold machineAnswer at called
    split at called
    case h_1 member found => exact written_memoryAnswer (wordable.ofMember found) called
    case h_2 =>
        obtain ⟨owner, named⟩ := wordable.named readers target
        simp only [named, blame] at called
        split at called
        · split at called
          · obtain rfl := Except.ok.inj called
            exact ⟨_, rfl⟩
          · contradiction
        · split at called
          · obtain rfl := Except.ok.inj called
            exact wordable.ownClass ‹_›
          · contradiction

end Wordable

end Load

end Managed

end DexBrowser

import DexBrowser.Session.Lock
import Mathlib.Data.List.Perm.Basic
import Mathlib.Data.List.Count

/-!
What the two variables of a lock say. Main statements: a section that the lock admits is counted
when it is entered, and one that is left is counted no longer.
-/

namespace DexBrowser.Session.Lock

/-- The lock counts the shared sections, and notes the one exclusive section, next to which there is
no shared one. -/
structure Counts (lock : Lock) (opened : List Section) : Prop where
  readers : lock.readers = opened.count .shared
  writer : opened.count .exclusive = lock.writer.toNat
  apart : lock.writer = true → opened.count .shared = 0

variable {lock : Lock} {opened : List Section}

theorem counts_nil : ({} : Lock).Counts [] :=
  ⟨rfl, rfl, fun _ => rfl⟩

namespace Counts

theorem perm {other : List Section} (counts : lock.Counts opened) (same : opened.Perm other) :
    lock.Counts other where
  readers := by rw [counts.readers, same.count_eq]
  writer := by rw [← same.count_eq, counts.writer]
  apart writing := by rw [← same.count_eq, counts.apart writing]

theorem enter (counts : lock.Counts opened) {s : Section} (admitted : lock.admits s = true) :
    (lock.enter s).Counts (s :: opened) := by
  obtain ⟨readers, writer, _⟩ := counts
  cases s with
  | shared =>
      have idle : lock.writer = false := by simpa [admits] using admitted
      exact ⟨by simp [Lock.enter, readers], by simp [Lock.enter, writer],
        fun writing => by simp [Lock.enter, idle] at writing⟩
  | exclusive =>
      obtain ⟨idle, alone⟩ : lock.writer = false ∧ lock.readers = 0 := by
        simpa [admits] using admitted
      exact ⟨by simp [Lock.enter, readers], by simp [Lock.enter, writer, idle],
        fun _ => by simp [← readers, alone]⟩

theorem leave {s : Section} (counts : lock.Counts (s :: opened)) :
    (lock.leave s).Counts opened := by
  obtain ⟨readers, writer, apart⟩ := counts
  cases s with
  | shared =>
      have reading : lock.writer = false := by
        by_contra writing
        have none := apart (by simpa using writing)
        simp at none
      exact ⟨by simp [Lock.leave, readers], by simpa [Lock.leave] using writer,
        fun writing => by simp [Lock.leave, reading] at writing⟩
  | exclusive =>
      have writing : lock.writer = true := by
        cases noted : lock.writer with
        | false => simp [noted] at writer
        | true => rfl
      exact ⟨by simp [Lock.leave, readers], by simpa [Lock.leave, writing] using writer,
        fun still => by simp [Lock.leave] at still⟩

/-! ## Reading the lock off -/

theorem writer_iff (counts : lock.Counts opened) :
    lock.writer = true ↔ Section.exclusive ∈ opened := by
  rw [← List.count_pos_iff, counts.writer]
  cases lock.writer <;> decide

theorem readers_pos_iff (counts : lock.Counts opened) :
    0 < lock.readers ↔ Section.shared ∈ opened := by
  rw [counts.readers, List.count_pos_iff]

theorem not_mem_shared (counts : lock.Counts opened) (writing : Section.exclusive ∈ opened) :
    Section.shared ∉ opened :=
  List.count_eq_zero.mp (counts.apart (counts.writer_iff.mpr writing))

theorem admits_shared_iff (counts : lock.Counts opened) :
    lock.admits .shared = true ↔ Section.exclusive ∉ opened := by
  rw [← counts.writer_iff]
  simp [admits]

theorem admits_exclusive_iff (counts : lock.Counts opened) :
    lock.admits .exclusive = true ↔ opened = [] := by
  rw [List.eq_nil_iff_forall_not_mem]
  have noReader := counts.readers_pos_iff
  have noWriter := counts.writer_iff
  constructor
  · intro admitted s
    obtain ⟨idle, alone⟩ : lock.writer = false ∧ lock.readers = 0 := by
      simpa [admits] using admitted
    cases s <;> simp_all
  · intro none
    simp_all [admits]

end Counts

end DexBrowser.Session.Lock

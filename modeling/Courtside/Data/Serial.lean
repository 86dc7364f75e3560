import Mathlib.Algebra.BigOperators.Intervals
import Mathlib.Algebra.Order.Group.Finset

/-!
# Jobs one after the other

Jobs are worked off in a fixed order by one worker, who is free at `clock` to begin with.
Job `k` may not start before `release k`, and keeps the worker busy for `busy k`.  The
worker starts each job as soon as it may, so a late job delays those after it until a gap
absorbs the delay.

The recursion has a closed form in maxima and sums (`startAt_eq`): some job `j ≤ k` was the
last not to wait for the worker, and since then the worker has not paused.
-/

universe u

namespace Courtside

variable {α : Type u} [AddCommGroup α] [LinearOrder α]

section Recursion

variable (clock : α) (release busy : ℕ → α)

/-- When the worker is free for job `k`. -/
def freeAt : ℕ → α
  | 0 => clock
  | k + 1 => max (freeAt k) (release k) + busy k

/-- When job `k` starts. -/
def startAt (k : ℕ) : α := max (freeAt clock release busy k) (release k)

theorem freeAt_succ (k : ℕ) :
    freeAt clock release busy (k + 1) = startAt clock release busy k + busy k := rfl

/-- After the first job the others are worked off as they would be on their own. -/
theorem freeAt_shift (k : ℕ) :
    freeAt (startAt clock release busy 0 + busy 0) (fun i ↦ release (i + 1))
        (fun i ↦ busy (i + 1)) k =
      freeAt clock release busy (k + 1) := by
  induction k with
  | zero => rfl
  | succ k ih => rw [freeAt, ih, freeAt_succ clock release busy (k + 1), startAt]

/-- No job starts before it may. -/
theorem release_le_startAt (k : ℕ) : release k ≤ startAt clock release busy k := le_max_right _ _

/-- No two jobs overlap. -/
theorem startAt_add_busy_le (k : ℕ) :
    startAt clock release busy k + busy k ≤ startAt clock release busy (k + 1) := by
  rw [← freeAt_succ]
  exact le_max_left _ _

end Recursion

/-- **Closed form.**  A job starts when the jobs before it have been worked off from the
beginning, or from some job on that started as soon as it might. -/
theorem startAt_eq [IsOrderedAddMonoid α] (clock : α) (release busy : ℕ → α) (k : ℕ) :
    startAt clock release busy k =
      max (clock + ∑ m ∈ Finset.range k, busy m)
        ((Finset.range (k + 1)).sup' Finset.nonempty_range_add_one fun j ↦
          release j + ∑ m ∈ Finset.Ico j k, busy m) := by
  induction k with
  | zero => simp [startAt, freeAt]
  | succ k ih =>
      have hclock : clock + ∑ m ∈ Finset.range (k + 1), busy m =
          clock + ∑ m ∈ Finset.range k, busy m + busy k := by
        rw [Finset.sum_range_succ, add_assoc]
      have hearlier : ((Finset.range (k + 1)).sup' Finset.nonempty_range_add_one fun j ↦
          release j + ∑ m ∈ Finset.Ico j (k + 1), busy m) =
            ((Finset.range (k + 1)).sup' Finset.nonempty_range_add_one fun j ↦
              release j + ∑ m ∈ Finset.Ico j k, busy m) + busy k := by
        rw [Finset.sup'_add]
        refine Finset.sup'_congr _ rfl fun j hj ↦ ?_
        rw [Finset.sum_Ico_succ_top (Nat.lt_succ_iff.mp (Finset.mem_range.mp hj)), add_assoc]
      have hlast : ((Finset.range (k + 2)).sup' Finset.nonempty_range_add_one fun j ↦
          release j + ∑ m ∈ Finset.Ico j (k + 1), busy m) =
            max (release (k + 1))
              ((Finset.range (k + 1)).sup' Finset.nonempty_range_add_one fun j ↦
                release j + ∑ m ∈ Finset.Ico j (k + 1), busy m) := by
        have hinsert := Finset.sup'_insert (s := Finset.range (k + 1)) (b := k + 1)
          (H := Finset.nonempty_range_add_one)
          (f := fun j ↦ release j + ∑ m ∈ Finset.Ico j (k + 1), busy m)
        simpa [← Finset.range_add_one] using hinsert
      calc
        startAt clock release busy (k + 1) =
            max (startAt clock release busy k + busy k) (release (k + 1)) := rfl
        _ = max (max (clock + ∑ m ∈ Finset.range k, busy m + busy k)
              (((Finset.range (k + 1)).sup' Finset.nonempty_range_add_one fun j ↦
                release j + ∑ m ∈ Finset.Ico j k, busy m) + busy k)) (release (k + 1)) := by
          rw [ih, max_add_add_right]
        _ = max (clock + ∑ m ∈ Finset.range (k + 1), busy m)
              ((Finset.range (k + 2)).sup' Finset.nonempty_range_add_one fun j ↦
                release j + ∑ m ∈ Finset.Ico j (k + 1), busy m) := by
          rw [hclock, hlast, hearlier, max_comm (release (k + 1)), max_assoc]

end Courtside

import Mathlib.Data.List.Basic

/-!
# Loops that stop at the first error

A loop over a list treats the elements one after the other and stops at the first that
fails.  `beforeError` is what it has produced by then, and `firstError` the error.

The two are given by position: what has been produced is what each element gives, up to the
first error (`getElem?_beforeError`), and either that is everything or the next element gives
the error (`firstError_cases`).
-/

universe u v w

namespace Courtside

variable {α : Type u} {β : Type v} {ε : Type w} (f : ℕ → α → Except ε β)

/-- What is produced before the first error; elements are counted from `i`. -/
def beforeError : ℕ → List α → List β
  | _, [] => []
  | i, a :: as =>
      match f i a with
      | .error _ => []
      | .ok b => b :: beforeError (i + 1) as

/-- The first error. -/
def firstError : ℕ → List α → Option ε
  | _, [] => none
  | i, a :: as =>
      match f i a with
      | .error e => some e
      | .ok _ => firstError (i + 1) as

variable {f} {i : ℕ} {as : List α}

/-- **By position.**  An element before the first error has produced what it gives. -/
theorem getElem?_beforeError {k : ℕ} {b : β} (h : (beforeError f i as)[k]? = some b) :
    ∃ a, as[k]? = some a ∧ f (i + k) a = .ok b := by
  induction as generalizing i k with
  | nil => cases h
  | cons a as ih =>
      rw [beforeError] at h
      cases hb : f i a with
      | error e =>
          rw [hb] at h
          cases h
      | ok b' =>
          rw [hb] at h
          cases k with
          | zero =>
              cases h
              exact ⟨a, rfl, hb⟩
          | succ k =>
              obtain ⟨a', ha', hb'⟩ := ih h
              exact ⟨a', ha', by rwa [Nat.add_right_comm] at hb'⟩

/-- Where the loop has stopped. -/
theorem firstError_cases (f : ℕ → α → Except ε β) (i : ℕ) (as : List α) :
    (firstError f i as = none ∧ (beforeError f i as).length = as.length) ∨
      ∃ a e, as[(beforeError f i as).length]? = some a ∧
        f (i + (beforeError f i as).length) a = .error e ∧ firstError f i as = some e := by
  induction as generalizing i with
  | nil => exact .inl ⟨rfl, rfl⟩
  | cons a as ih =>
      rw [beforeError, firstError]
      cases hb : f i a with
      | error e => exact .inr ⟨a, e, rfl, hb, rfl⟩
      | ok b =>
          rcases ih (i + 1) with ⟨hnone, hlength⟩ | ⟨a', e, ha', he, hsome⟩
          · exact .inl ⟨hnone, congrArg Nat.succ hlength⟩
          · refine .inr ⟨a', e, ha', ?_, hsome⟩
            rwa [Nat.add_right_comm] at he

end Courtside

import Courtside.Detection.Frame
import Mathlib.Analysis.SpecialFunctions.Pow.Real

/-!
# Nearness and the distance of centres

`is_near` computes `(dx ** 2 + dy ** 2) ** 0.5` and compares it with `50`.  The
square root leaves the rationals, so the executable `isNear` compares squares
instead; `isNear_iff_centerDistance_lt` says that nothing is lost.
-/

namespace Courtside

namespace BoundingBox

/-- The distance between two centres, as the source computes it. -/
noncomputable def centerDistance (box1 box2 : BoundingBox) : ℝ :=
  ((box1.centerDistanceSq box2 : ℚ) : ℝ) ^ (1 / 2 : ℝ)

end BoundingBox

/-- `isNear` is the comparison of the source. -/
theorem isNear_iff_centerDistance_lt (box1 box2 : BoundingBox) :
    isNear box1 box2 = true ↔ box1.centerDistance box2 < 50 := by
  rw [BoundingBox.centerDistance, ← Real.sqrt_eq_rpow, Real.sqrt_lt' (by norm_num), isNear,
    decide_eq_true_eq]
  exact_mod_cast Iff.rfl

end Courtside

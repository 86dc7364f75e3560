import Mathlib.Algebra.Order.Field.Power
import Mathlib.Data.Int.Log
import Mathlib.Data.Rat.Floor
import Mathlib.Tactic.FieldSimp
import Mathlib.Tactic.Linarith
import Mathlib.Tactic.Ring

/-!
# Rounding to a binary format

A number of a `BinaryFormat` has `precision` binary digits, of which the last stands for a
power of two that is not below `2 ^ minExponent`.  `round` takes a rational to the nearest
such number, and to the one whose last digit is even if two are equally near.  What would
be `2 ^ maxExponent` or more has none: it overflows.

Overflow begins half a unit below that power (`isSome_round_iff`).
-/

namespace Courtside

/-! ## Whole numbers -/

/-- The nearest whole number, and the even one of two. -/
def roundHalfEven (q : ℚ) : ℤ :=
  if q - ⌊q⌋ < 1 / 2 ∨ q - ⌊q⌋ = 1 / 2 ∧ Even ⌊q⌋ then ⌊q⌋ else ⌊q⌋ + 1

/-- What a whole number has to be to lie below what is rounded. -/
theorem le_roundHalfEven_iff {n : ℤ} {q : ℚ} :
    n ≤ roundHalfEven q ↔ n - 1 / 2 < q ∨ n - 1 / 2 = q ∧ Even n := by
  have hfloor := Int.floor_le q
  have hlt := Int.lt_floor_add_one q
  rw [roundHalfEven]
  -- a whole number is at most the floor, the next one, or beyond both
  rcases lt_trichotomy n (⌊q⌋ + 1) with hn | rfl | hn
  · have hle : n ≤ ⌊q⌋ := Int.le_of_lt_add_one hn
    have hcast : (n : ℚ) ≤ ⌊q⌋ := Int.cast_le.mpr hle
    refine iff_of_true ?_ (.inl (by linarith))
    split <;> omega
  · have hcast : ((⌊q⌋ + 1 : ℤ) : ℚ) = ⌊q⌋ + 1 := by push_cast; ring
    rw [hcast, Int.even_add_one]
    split
    · next h =>
        refine iff_of_false (by omega) ?_
        rintro (hbelow | ⟨hhalf, hodd⟩)
        · rcases h with hlow | ⟨hmid, -⟩ <;> linarith
        · rcases h with hlow | ⟨-, heven⟩
          · linarith
          · exact hodd heven
    · next h =>
        obtain ⟨hlow, hmid⟩ := not_or.mp h
        refine iff_of_true le_rfl ?_
        rcases (not_lt.mp hlow).lt_or_eq with hhigh | hhalf
        · exact .inl (by linarith)
        · exact .inr ⟨by linarith, fun heven ↦ hmid ⟨hhalf.symm, heven⟩⟩
  · have hcast : ((⌊q⌋ + 2 : ℤ) : ℚ) ≤ n := Int.cast_le.mpr (by omega)
    push_cast at hcast
    refine iff_of_false ?_ ?_
    · split <;> omega
    · rintro (hbelow | ⟨hhalf, -⟩) <;> linarith

/-! ## Formats -/

/-- A floating-point format. -/
structure BinaryFormat where
  precision : ℕ
  minExponent : ℤ
  maxExponent : ℤ
deriving DecidableEq, Repr

/-- The format of a `double`. -/
def binary64 : BinaryFormat where
  precision := 53
  minExponent := -1074
  maxExponent := 1024

namespace BinaryFormat

variable (format : BinaryFormat)

/-- The power of two for which the last digit stands. -/
def exponent (q : ℚ) : ℤ := max (Int.log 2 |q| + 1 - format.precision) format.minExponent

/-- The magnitude of the nearest number, if there is no bound. -/
def magnitude (q : ℚ) : ℚ :=
  roundHalfEven (|q| / 2 ^ format.exponent q) * 2 ^ format.exponent q

/-- The nearest number of the format. -/
def round (q : ℚ) : Option ℚ :=
  if format.magnitude q < 2 ^ format.maxExponent then
    some (if q < 0 then -format.magnitude q else format.magnitude q)
  else none

example : binary64.round (1 / 10) = some (3602879701896397 / 36028797018963968) := by
  decide +kernel

variable {format} {q : ℚ}

/-- Powers of two from the last digit on are whole numbers before they are scaled. -/
theorem zpow_le_magnitude_iff {k : ℕ} :
    2 ^ (format.exponent q + k) ≤ format.magnitude q ↔
      (2 : ℤ) ^ k ≤ roundHalfEven (|q| / 2 ^ format.exponent q) := by
  have hunit : (0 : ℚ) < 2 ^ format.exponent q := zpow_pos two_pos _
  rw [magnitude, zpow_add₀ two_ne_zero, mul_comm, mul_le_mul_iff_left₀ hunit, zpow_natCast,
    ← Int.cast_le (R := ℚ)]
  push_cast
  rfl

/-- So many digits, of which the last has that exponent, hold every number. -/
theorem abs_lt_zpow_exponent : |q| < 2 ^ (format.exponent q + format.precision) := by
  have hlog : |q| < (2 : ℚ) ^ (Int.log 2 |q| + 1) := by
    exact_mod_cast Int.lt_zpow_succ_log_self (b := 2) (by norm_num) |q|
  refine hlog.trans_le (zpow_le_zpow_right₀ one_le_two ?_)
  rw [exponent]
  omega

/-- Rounding goes no further than the next power of two. -/
theorem magnitude_le : format.magnitude q ≤ 2 ^ (format.exponent q + format.precision) := by
  have hunit : (0 : ℚ) < 2 ^ format.exponent q := zpow_pos two_pos _
  have hdigits : |q| / 2 ^ format.exponent q < 2 ^ format.precision := by
    rw [div_lt_iff₀ hunit, mul_comm, ← zpow_natCast, ← zpow_add₀ two_ne_zero]
    exact abs_lt_zpow_exponent
  have hround : roundHalfEven (|q| / 2 ^ format.exponent q) ≤ (2 : ℤ) ^ format.precision := by
    refine Int.le_of_lt_add_one (not_le.mp fun hle ↦ ?_)
    have hcast : ((2 ^ format.precision + 1 : ℤ) : ℚ) = 2 ^ format.precision + 1 := by
      push_cast
      rfl
    rw [le_roundHalfEven_iff, hcast] at hle
    rcases hle with hbelow | ⟨hhalf, -⟩ <;> linarith
  have hcast : ((roundHalfEven (|q| / 2 ^ format.exponent q) : ℤ) : ℚ) ≤ 2 ^ format.precision := by
    exact_mod_cast hround
  rw [magnitude, zpow_add₀ two_ne_zero, mul_comm _ (2 ^ (format.precision : ℤ)), zpow_natCast]
  exact mul_le_mul_of_nonneg_right hcast hunit.le

/-- Half a unit below the next power of two, that power is the nearest number. -/
theorem zpow_precision_le_magnitude_iff (hprecision : 0 < format.precision) :
    2 ^ (format.exponent q + format.precision) ≤ format.magnitude q ↔
      (2 : ℚ) ^ (format.exponent q + format.precision) - 2 ^ (format.exponent q - 1) ≤ |q| := by
  have hunit : (0 : ℚ) < 2 ^ format.exponent q := zpow_pos two_pos _
  have heven : Even ((2 : ℤ) ^ format.precision) :=
    (Int.even_pow' hprecision.ne').mpr even_two
  rw [zpow_le_magnitude_iff, le_roundHalfEven_iff, and_iff_left heven, ← le_iff_lt_or_eq,
    le_div_iff₀ hunit, zpow_add₀ two_ne_zero, zpow_sub_one₀ two_ne_zero, zpow_natCast]
  push_cast
  rw [sub_mul, mul_comm (2 ^ format.precision : ℚ), mul_comm (1 / 2 : ℚ), one_div]

/-- A number whose exponent is greater than that of a power of two is not below it. -/
theorem zpow_le_of_lt_exponent (hq : q ≠ 0) (hprecision : 0 < format.precision) {e : ℤ}
    (hmin : format.minExponent ≤ e - format.precision)
    (hexponent : e - format.precision < format.exponent q) :
    (2 : ℚ) ^ e ≤ |q| ∧ (2 : ℚ) ^ e ≤ format.magnitude q := by
  have hunit : (0 : ℚ) < 2 ^ format.exponent q := zpow_pos two_pos _
  have hlog : (2 : ℚ) ^ Int.log 2 |q| ≤ |q| := by
    exact_mod_cast Int.zpow_log_le_self (b := 2) (by norm_num) (abs_pos.mpr hq)
  have hexponent' : format.exponent q + (format.precision - 1 : ℕ) = Int.log 2 |q| := by
    rw [exponent] at hexponent ⊢
    omega
  have hle : (2 : ℚ) ^ e ≤ 2 ^ Int.log 2 |q| := by
    refine zpow_le_zpow_right₀ one_le_two ?_
    rw [exponent] at hexponent
    omega
  refine ⟨hle.trans hlog, hle.trans ?_⟩
  rw [← hexponent', zpow_le_magnitude_iff, le_roundHalfEven_iff]
  have hdigits : (2 : ℚ) ^ (format.precision - 1) ≤ |q| / 2 ^ format.exponent q := by
    rwa [le_div_iff₀ hunit, mul_comm, ← zpow_natCast, ← zpow_add₀ two_ne_zero, hexponent']
  push_cast
  exact .inl (by linarith)

/-- **Overflow.**  It begins half a unit of the last digit below the bound. -/
theorem isSome_round_iff (hprecision : 0 < format.precision)
    (hexponents : format.minExponent ≤ format.maxExponent - format.precision) :
    (format.round q).isSome = true ↔
      |q| < 2 ^ format.maxExponent - 2 ^ (format.maxExponent - format.precision - 1) := by
  have hsome : (format.round q).isSome = true ↔
      format.magnitude q < 2 ^ format.maxExponent := by
    rw [round]
    split <;> simp [*]
  have hpow : ∀ {a b : ℤ}, a ≤ b → (2 : ℚ) ^ a ≤ 2 ^ b :=
    fun hab ↦ zpow_le_zpow_right₀ one_le_two hab
  have hhalf : (2 : ℚ) ^ format.maxExponent = 2 * 2 ^ (format.maxExponent - 1) := by
    rw [← zpow_one_add₀ two_ne_zero, add_sub_cancel]
  have hbelow : (2 : ℚ) ^ (format.maxExponent - 1) ≤
      2 ^ format.maxExponent - 2 ^ (format.maxExponent - format.precision - 1) := by
    have hle := hpow (show format.maxExponent - format.precision - 1 ≤ format.maxExponent - 1 by
      omega)
    linarith
  have hpos : (0 : ℚ) < 2 ^ (format.maxExponent - 1) := zpow_pos two_pos _
  rw [hsome]
  by_cases hq : q = 0
  · subst hq
    have hzero : format.magnitude 0 = 0 := by simp [magnitude, roundHalfEven]
    rw [hzero, abs_zero]
    exact iff_of_true (zpow_pos two_pos _) (hpos.trans_le hbelow)
  rcases lt_trichotomy (format.exponent q) (format.maxExponent - format.precision) with
    hlow | hlast | hhigh
  · -- far from the bound
    have hle := hpow (show format.exponent q + format.precision ≤ format.maxExponent - 1 by omega)
    refine iff_of_true ?_ ((abs_lt_zpow_exponent.trans_le hle).trans_le hbelow)
    have hmagnitude : format.magnitude q ≤ _ := magnitude_le
    linarith
  · have hbound : format.maxExponent = format.exponent q + format.precision := by omega
    rw [hbound, ← not_le, zpow_precision_le_magnitude_iff hprecision, not_le,
      add_sub_cancel_right]
  · obtain ⟨hnumber, hmagnitude⟩ := zpow_le_of_lt_exponent hq hprecision hexponents hhigh
    have hunit : (0 : ℚ) < 2 ^ (format.maxExponent - format.precision - 1) := zpow_pos two_pos _
    exact iff_of_false hmagnitude.not_gt (by linarith)

end BinaryFormat

/-- A `double` is finite below `2 ^ 1024 - 2 ^ 970`. -/
theorem isSome_round_binary64_iff {q : ℚ} :
    (binary64.round q).isSome = true ↔ |q| < 2 ^ 1024 - 2 ^ 970 := by
  have hbound : (binary64.maxExponent - binary64.precision - 1 : ℤ) = (970 : ℕ) := rfl
  have hmax : binary64.maxExponent = (1024 : ℕ) := rfl
  rw [BinaryFormat.isSome_round_iff (by decide) (by decide), hbound, hmax, zpow_natCast,
    zpow_natCast]

end Courtside

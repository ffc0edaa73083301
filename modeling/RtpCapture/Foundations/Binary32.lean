import Mathlib.Data.Int.Log
import Mathlib.Data.Rat.Floor
import Mathlib.Tactic.Linarith
import Mathlib.Tactic.Ring

/-! # Single-precision rounding

The values of the C type `float` are the rationals with a 24-bit significand (subnormals and
infinities play no role for the magnitudes met here). `Binary32.round q` is the float nearest to
the exact rational `q`, ties to the even significand: it scales `q` by its unit in the last place
`ulp q`, rounds the significand to an integer with `roundHalfEven`, and scales back. A float
operation is the exact operation followed by `round`.

Two facts are enough to compare a rounded result with a threshold: `round` is monotone
(`round_mono`) and fixes the numbers it can represent (`round_of_significand`). -/

namespace Binary32

/-! ## Rounding to an integer -/

/-- The integer nearest to `q`, the even one of the two when `q` lies halfway. -/
def roundHalfEven (q : ℚ) : ℤ :=
  if q - ⌊q⌋ < 1 / 2 then ⌊q⌋
  else if 1 / 2 < q - ⌊q⌋ then ⌊q⌋ + 1
  else if 2 ∣ ⌊q⌋ then ⌊q⌋ else ⌊q⌋ + 1

/-- An integer is its own rounding. -/
@[simp] theorem roundHalfEven_intCast (n : ℤ) : roundHalfEven (n : ℚ) = n := by
  simp [roundHalfEven]

/-- The rounding is one of the two neighbouring integers. -/
theorem floor_le_roundHalfEven (q : ℚ) : ⌊q⌋ ≤ roundHalfEven q := by
  unfold roundHalfEven
  split_ifs <;> omega

/-- Rounding goes up by less than one. -/
theorem roundHalfEven_le_floor_add_one (q : ℚ) : roundHalfEven q ≤ ⌊q⌋ + 1 := by
  unfold roundHalfEven
  split_ifs <;> omega

/-- **Rounding to an integer is monotone.** -/
theorem roundHalfEven_mono {p q : ℚ} (h : p ≤ q) : roundHalfEven p ≤ roundHalfEven q := by
  rcases (Int.floor_le_floor h).lt_or_eq with hlt | heq
  · exact (roundHalfEven_le_floor_add_one p).trans
      ((Int.add_one_le_iff.mpr hlt).trans (floor_le_roundHalfEven q))
  · -- same integer part: compare the fractional parts
    have hfrac : p - (⌊p⌋ : ℚ) ≤ q - (⌊q⌋ : ℚ) := by rw [heq]; linarith
    unfold roundHalfEven
    rw [heq] at hfrac ⊢
    split_ifs <;> first | omega | (exfalso; linarith)

/-! ## Rounding to 24 significant bits -/

/-- The **unit in the last place** of a 24-bit significand at the magnitude of `q`. -/
def ulp (q : ℚ) : ℚ := 2 ^ (Int.log 2 |q| - 23)

/-- **The float nearest to `q`**, ties to even. -/
def round (q : ℚ) : ℚ := roundHalfEven (q / ulp q) * ulp q

/-- The unit in the last place is positive. -/
theorem ulp_pos (q : ℚ) : 0 < ulp q := zpow_pos two_pos _

/-- Zero is exact. -/
@[simp] theorem round_zero : round 0 = 0 := by
  have h : roundHalfEven 0 = 0 := by simpa using roundHalfEven_intCast 0
  simp [round, h]

/-- Rounding keeps the sign of a nonpositive number. -/
theorem round_nonpos {q : ℚ} (h : q ≤ 0) : round q ≤ 0 := by
  have hscaled : q / ulp q ≤ ((0 : ℤ) : ℚ) := by
    simpa using div_nonpos_of_nonpos_of_nonneg h (ulp_pos q).le
  have hsig : roundHalfEven (q / ulp q) ≤ 0 := by
    simpa only [roundHalfEven_intCast] using roundHalfEven_mono hscaled
  exact mul_nonpos_of_nonpos_of_nonneg (by exact_mod_cast hsig) (ulp_pos q).le

/-- A positive number rounds to at least the power of two below it. -/
theorem two_zpow_log_le_round {q : ℚ} (h : 0 < q) : (2 : ℚ) ^ Int.log 2 q ≤ round q := by
  have hu : ulp q = 2 ^ (Int.log 2 q - 23) := by rw [ulp, abs_of_pos h]
  have hlow : ((2 ^ 23 : ℤ) : ℚ) ≤ q / ulp q := by
    rw [le_div_iff₀ (ulp_pos q), hu]
    calc ((2 ^ 23 : ℤ) : ℚ) * 2 ^ (Int.log 2 q - 23)
        = 2 ^ (23 : ℤ) * 2 ^ (Int.log 2 q - 23) := by norm_num
      _ = 2 ^ Int.log 2 q := by rw [← zpow_add₀ two_ne_zero]; congr 1; ring
      _ ≤ q := by exact_mod_cast Int.zpow_log_le_self (b := 2) one_lt_two h
  have hsig : (2 ^ 23 : ℤ) ≤ roundHalfEven (q / ulp q) := by
    simpa only [roundHalfEven_intCast] using roundHalfEven_mono hlow
  calc (2 : ℚ) ^ Int.log 2 q = 2 ^ (23 : ℤ) * ulp q := by
        rw [hu, ← zpow_add₀ two_ne_zero]; congr 1; ring
    _ ≤ round q := by
        refine mul_le_mul_of_nonneg_right ?_ (ulp_pos q).le
        exact_mod_cast hsig

/-- A positive number rounds to at most the power of two above it. -/
theorem round_le_two_zpow_log {q : ℚ} (h : 0 < q) : round q ≤ (2 : ℚ) ^ (Int.log 2 q + 1) := by
  have hu : ulp q = 2 ^ (Int.log 2 q - 23) := by rw [ulp, abs_of_pos h]
  have hhigh : q / ulp q ≤ ((2 ^ 24 : ℤ) : ℚ) := by
    rw [div_le_iff₀ (ulp_pos q), hu]
    calc q ≤ 2 ^ (Int.log 2 q + 1) := by
          exact_mod_cast (Int.lt_zpow_succ_log_self (b := 2) one_lt_two q).le
      _ = 2 ^ (24 : ℤ) * 2 ^ (Int.log 2 q - 23) := by
          rw [← zpow_add₀ two_ne_zero]; congr 1; ring
      _ = ((2 ^ 24 : ℤ) : ℚ) * 2 ^ (Int.log 2 q - 23) := by norm_num
  have hsig : roundHalfEven (q / ulp q) ≤ (2 ^ 24 : ℤ) := by
    simpa only [roundHalfEven_intCast] using roundHalfEven_mono hhigh
  calc round q ≤ 2 ^ (24 : ℤ) * ulp q := by
        refine mul_le_mul_of_nonneg_right ?_ (ulp_pos q).le
        exact_mod_cast hsig
    _ = 2 ^ (Int.log 2 q + 1) := by
        rw [hu, ← zpow_add₀ two_ne_zero]; congr 1; ring

/-- **Rounding is monotone** on nonnegative numbers. -/
theorem round_mono {p q : ℚ} (hp : 0 ≤ p) (h : p ≤ q) : round p ≤ round q := by
  rcases hp.eq_or_lt with rfl | hp
  · rw [round_zero]
    rcases h.eq_or_lt with rfl | hq
    · rw [round_zero]
    · exact (zpow_pos two_pos _).le.trans (two_zpow_log_le_round hq)
  · have hq : 0 < q := hp.trans_le h
    rcases (Int.log_mono_right (b := 2) hp h).lt_or_eq with hlt | heq
    · calc round p ≤ (2 : ℚ) ^ (Int.log 2 p + 1) := round_le_two_zpow_log hp
        _ ≤ 2 ^ Int.log 2 q := zpow_le_zpow_right₀ one_le_two hlt
        _ ≤ round q := two_zpow_log_le_round hq
    · -- same binade: the significands are compared in the same unit
      have hu : ulp p = ulp q := by rw [ulp, ulp, abs_of_pos hp, abs_of_pos hq, heq]
      unfold round
      rw [hu]
      refine mul_le_mul_of_nonneg_right ?_ (ulp_pos q).le
      exact_mod_cast roundHalfEven_mono (div_le_div_of_nonneg_right h (ulp_pos q).le)

/-- **Rounding fixes what it can represent**: a significand below `2 ^ 24` times a power of two. -/
theorem round_of_significand {m : ℤ} (k : ℤ) (hm : |m| < 2 ^ 24) :
    round (m * 2 ^ k) = m * 2 ^ k := by
  rcases eq_or_ne m 0 with rfl | hm0
  · simp
  set q : ℚ := m * 2 ^ k with hq
  have hpow : (0 : ℚ) < 2 ^ k := zpow_pos two_pos k
  have hqabs : |q| = |(m : ℚ)| * 2 ^ k := by rw [hq, abs_mul, abs_of_pos hpow]
  have hqpos : 0 < |q| := by
    rw [hqabs]
    exact mul_pos (abs_pos.mpr (by exact_mod_cast hm0)) hpow
  -- the unit in the last place is no larger than `2 ^ k`
  have hlog : Int.log 2 |q| < 24 + k := by
    have hlt : (2 : ℚ) ^ Int.log 2 |q| < 2 ^ (24 + k) := by
      calc (2 : ℚ) ^ Int.log 2 |q| ≤ |q| := by
            exact_mod_cast Int.zpow_log_le_self (b := 2) one_lt_two hqpos
        _ = |(m : ℚ)| * 2 ^ k := hqabs
        _ < 2 ^ (24 : ℤ) * 2 ^ k := by
            refine mul_lt_mul_of_pos_right ?_ hpow
            exact_mod_cast hm
        _ = 2 ^ (24 + k) := (zpow_add₀ two_ne_zero _ _).symm
    exact (zpow_lt_zpow_iff_right₀ one_lt_two).mp hlt
  obtain ⟨j, hj⟩ : ∃ j : ℕ, k - (Int.log 2 |q| - 23) = j :=
    Int.eq_ofNat_of_zero_le (by omega)
  have hscaled : q / ulp q = ((m * 2 ^ j : ℤ) : ℚ) := by
    rw [hq, ulp, mul_div_assoc, ← zpow_sub₀ two_ne_zero, ← hq, hj]
    push_cast
    rw [zpow_natCast]
  rw [round, hscaled, roundHalfEven_intCast, ← hscaled, div_mul_cancel₀ _ (ulp_pos q).ne']

/-- An integer below `2 ^ 24` in magnitude is a float. -/
theorem round_intCast {m : ℤ} (hm : |m| < 2 ^ 24) : round (m : ℚ) = m := by
  simpa using round_of_significand 0 hm

end Binary32

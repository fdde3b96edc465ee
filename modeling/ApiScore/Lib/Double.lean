import Mathlib.Algebra.Order.Field.Power
import Mathlib.Algebra.Order.Round
import Mathlib.Data.Int.Log
import Mathlib.Data.Rat.Floor
import Mathlib.Tactic.Positivity

/-!
# Rounding to a double

A double has 53 significant bits: the values around `q` are the multiples of `ulp q`, and an
operation gives the one nearest to the exact result, the even one of two.  The range of the exponent
plays no part here: `double` has no subnormal and no infinite value.

* `abs_double_sub_le` — the error is at most half a unit.
* `double_of_grid`, `double_int` — what has at most 53 bits is kept.
* `pow_le_double` — no rounding passes over a power of two.
-/

set_option autoImplicit false

namespace Double

/-- The nearest integer, the even one of two. -/
def roundEven (q : ℚ) : Int :=
  if q - ⌊q⌋ < 1 / 2 then ⌊q⌋
  else if 1 / 2 < q - ⌊q⌋ then ⌊q⌋ + 1
  else if ⌊q⌋ % 2 = 0 then ⌊q⌋ else ⌊q⌋ + 1

/-- The distance of two doubles around `q`. -/
def ulp (q : ℚ) : ℚ := 2 ^ (Int.log 2 |q| - 52)

/-- The double nearest to `q`, the even one of two. -/
def double (q : ℚ) : ℚ := roundEven (q / ulp q) * ulp q

/-! ## The nearest integer -/

theorem roundEven_int (n : Int) : roundEven n = n := by
  simp [roundEven]

theorem abs_roundEven_sub_le (q : ℚ) : |roundEven q - q| ≤ 1 / 2 := by
  have hfloor := Int.floor_le q
  have hlt := Int.lt_floor_add_one q
  rw [roundEven, abs_le]
  split_ifs <;> push_cast <;> constructor <;> linarith

/-- No rounding passes over an integer. -/
theorem le_roundEven {n : Int} {q : ℚ} (h : (n : ℚ) ≤ q) : n ≤ roundEven q := by
  have hfloor : n ≤ ⌊q⌋ := Int.le_floor.2 h
  rw [roundEven]
  split_ifs <;> omega

/-! ## Units -/

theorem ulp_pos (q : ℚ) : 0 < ulp q := by
  rw [ulp]
  positivity

/-- The unit between two powers of two. -/
theorem ulp_eq {q : ℚ} {e : Int} (hle : 2 ^ e ≤ |q|) (hlt : |q| < 2 ^ (e + 1)) :
    ulp q = 2 ^ (e - 52) := by
  have hpos : 0 < |q| := lt_of_lt_of_le (by positivity) hle
  have hlow : e ≤ Int.log 2 |q| :=
    (Int.zpow_le_iff_le_log (by norm_num) hpos).1 (by exact_mod_cast hle)
  have hhigh : Int.log 2 |q| < e + 1 :=
    (Int.lt_zpow_iff_log_lt (by norm_num) hpos).1 (by exact_mod_cast hlt)
  rw [ulp, show Int.log 2 |q| = e by omega]

/-- Below a power of two the unit is below its fifty-third part. -/
theorem ulp_le {q : ℚ} {e : Int} (hq : q ≠ 0) (h : |q| < 2 ^ e) : ulp q ≤ 2 ^ (e - 53) := by
  have hlog : Int.log 2 |q| < e :=
    (Int.lt_zpow_iff_log_lt (by norm_num) (abs_pos.2 hq)).1 (by exact_mod_cast h)
  rw [ulp]
  exact zpow_le_zpow_right₀ (by norm_num) (by omega)

/-! ## The nearest double -/

theorem double_zero : double 0 = 0 := by
  simp [double, show roundEven 0 = 0 from roundEven_int 0]

/-- **The error is at most half a unit.** -/
theorem abs_double_sub_le (q : ℚ) : |double q - q| ≤ ulp q / 2 := by
  have hulp := ulp_pos q
  have herr := abs_roundEven_sub_le (q / ulp q)
  have hscale : double q - q = (roundEven (q / ulp q) - q / ulp q) * ulp q := by
    rw [double, sub_mul, div_mul_cancel₀ _ hulp.ne']
  rw [hscale, abs_mul, abs_of_pos hulp]
  calc |(roundEven (q / ulp q) : ℚ) - q / ulp q| * ulp q
      ≤ 1 / 2 * ulp q := mul_le_mul_of_nonneg_right herr hulp.le
    _ = ulp q / 2 := by ring

/-- A power of two is a multiple of every smaller one. -/
theorem exists_mul_of_le {a b : Int} (h : a ≤ b) : ∃ k : Int, (2 : ℚ) ^ b = k * 2 ^ a := by
  refine ⟨2 ^ (b - a).toNat, ?_⟩
  have hsum : b = (b - a).toNat + a := by omega
  conv_lhs => rw [hsum, zpow_add₀ (by norm_num), zpow_natCast]
  push_cast
  rfl

/-- **What has at most 53 bits is a double**: a multiple of a power of two, below its `2 ^ 53` fold.
-/
theorem double_of_grid {q : ℚ} {j a : Int} (hq : q = j * 2 ^ a) (hlt : |q| < 2 ^ (a + 53)) :
    double q = q := by
  by_cases hzero : q = 0
  · rw [hzero, double_zero]
  have hlog : Int.log 2 |q| < a + 53 :=
    (Int.lt_zpow_iff_log_lt (by norm_num) (abs_pos.2 hzero)).1 (by exact_mod_cast hlt)
  obtain ⟨k, hk⟩ := exists_mul_of_le (a := Int.log 2 |q| - 52) (b := a) (by omega)
  have hmul : q / ulp q = (j * k : Int) := by
    rw [div_eq_iff (ulp_pos q).ne', ulp]
    push_cast
    rw [mul_assoc, ← hk]
    exact hq
  rw [double, hmul, roundEven_int, ← hmul, div_mul_cancel₀ _ (ulp_pos q).ne']

theorem double_int {n : Int} (h : |n| < 2 ^ 53) : double n = n :=
  double_of_grid (j := n) (a := 0) (by simp) (by exact_mod_cast h)

/-- **No rounding passes over a power of two.** -/
theorem pow_le_double {q : ℚ} {e : Int} (h : 2 ^ e ≤ q) : 2 ^ e ≤ double q := by
  have hpos : 0 < q := lt_of_lt_of_le (by positivity) h
  have habs : |q| = q := abs_of_pos hpos
  have hlog : e ≤ Int.log 2 |q| :=
    (Int.zpow_le_iff_le_log (by norm_num) (abs_pos.2 hpos.ne')).1 (by rw [habs]; exact_mod_cast h)
  have hself : (2 : ℚ) ^ Int.log 2 |q| ≤ |q| := by
    exact_mod_cast Int.zpow_log_le_self (R := ℚ) (b := 2) (by norm_num) (abs_pos.2 hpos.ne')
  obtain ⟨k, hk⟩ := exists_mul_of_le (a := Int.log 2 |q| - 52) (b := Int.log 2 |q|) (by omega)
  have hround : k ≤ roundEven (q / ulp q) := by
    refine le_roundEven ?_
    rw [le_div_iff₀ (ulp_pos q), ulp, ← hk, ← habs]
    simpa only [abs_abs] using hself
  calc (2 : ℚ) ^ e ≤ 2 ^ Int.log 2 |q| := zpow_le_zpow_right₀ (by norm_num) hlog
    _ = k * ulp q := hk
    _ ≤ double q := mul_le_mul_of_nonneg_right (by exact_mod_cast hround) (ulp_pos q).le

end Double

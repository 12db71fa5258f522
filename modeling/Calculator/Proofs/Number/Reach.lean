import Mathlib
import Calculator.Number.Decimal
import Calculator.Proofs.Number.Rounding

/-! # Decimals out of reach

What is smaller than half of the smallest number is nearest to zero (`nearest_of_lt`), and what is
larger than twice the largest one is nearest to infinity (`nearest_of_gt`). A decimal whose power of
ten does not fit into memory is one of the two, and stays so when it is brought within reach. So the
same number is nearest to it (`Decimal.toFloat_withinReach`).
-/

namespace Calculator

namespace Number

/-! ### Too small and too large -/

theorem leadingBit_lt {q : ℚ} (hq : 0 < q) {k : ℤ} (h : q < 2 ^ k) : leadingBit q < k := by
  have hle := (two_zpow_leadingBit_le hq).1
  exact (zpow_lt_zpow_iff_right₀ one_lt_two).mp (hle.trans_lt h)

theorem le_leadingBit {q : ℚ} (hq : 0 < q) {k : ℤ} (h : 2 ^ k < q) : k ≤ leadingBit q := by
  have hle := (two_zpow_leadingBit_le hq).2
  have hlt : k < leadingBit q + 1 := (zpow_lt_zpow_iff_right₀ one_lt_two).mp (h.trans_le hle)
  omega

theorem nearestBits_of_lt {q : ℚ} (hq : 0 < q) (h : q < 2 ^ (-1075 : ℤ)) : nearestBits q = 0 := by
  have hlead := leadingBit_lt hq h
  have he : roundingExponent q = -1074 := by
    rw [roundingExponent]
    omega
  have hhalf : q / 2 ^ (-1074 : ℤ) < 1 / 2 := by
    rw [div_lt_iff₀ (by positivity)]
    calc q < 2 ^ (-1075 : ℤ) := h
      _ = 1 / 2 * 2 ^ (-1074 : ℤ) := by
        rw [show (-1075 : ℤ) = -1074 - 1 from rfl, zpow_sub_one₀ two_ne_zero]
        ring
  have hround : roundHalfEven (q / 2 ^ (-1074 : ℤ)) = 0 := by
    apply roundHalfEven_eq
    rw [Int.cast_zero, sub_zero, abs_of_pos (by positivity)]
    exact hhalf
  simp only [nearestBits, he, hround]
  rfl

theorem nearestBits_of_gt {q : ℚ} (hq : 0 < q) (h : 2 ^ (1025 : ℤ) < q) :
    nearestBits q = infinityBits := by
  have hlead := le_leadingBit hq h
  have he : 973 ≤ roundingExponent q := by
    rw [roundingExponent]
    omega
  simp only [nearestBits, infinityBits, hiddenBit]
  omega

theorem nearest_of_lt {q : ℚ} (h : q < 2 ^ (-1075 : ℤ)) : nearest q = 0.0 := by
  rw [nearest]
  split
  next hq =>
    rw [nearestBits_of_lt hq h]
    decide +kernel
  next => rfl

theorem nearest_of_gt {q : ℚ} (h : 2 ^ (1025 : ℤ) < q) :
    nearest q = Float.ofBits (UInt64.ofNat infinityBits) := by
  have hq : 0 < q := lt_trans (by positivity) h
  rw [nearest, if_pos hq, nearestBits_of_gt hq h]

end Number

/-! ### Decimals -/

namespace Decimal

open Number

/-- Four hundred decimal places are more than twelve hundred binary ones. -/
theorem two_zpow_lt_ten_zpow : (2 : ℚ) ^ (1200 : ℤ) < 10 ^ (400 : ℤ) := by
  have hlt : (8 : ℚ) ^ 400 < 10 ^ 400 := pow_lt_pow_left₀ (by norm_num) (by norm_num) (by norm_num)
  calc (2 : ℚ) ^ (1200 : ℤ) = (2 ^ 3) ^ 400 := by
        rw [← pow_mul]
        rfl
    _ = 8 ^ 400 := by norm_num only
    _ < 10 ^ 400 := hlt
    _ = 10 ^ (400 : ℤ) := rfl

theorem ten_zpow_lt_two_zpow : (10 : ℚ) ^ (-400 : ℤ) < 2 ^ (-1200 : ℤ) := by
  rw [zpow_neg, zpow_neg]
  exact inv_strictAnti₀ (by positivity) two_zpow_lt_ten_zpow

theorem toRat_gt {d : Decimal} (hd : d.coefficient ≠ 0) (h : 400 ≤ d.exponent) :
    2 ^ (1025 : ℤ) < d.toRat := by
  have hone : (1 : ℚ) ≤ d.coefficient := by exact_mod_cast Nat.one_le_iff_ne_zero.mpr hd
  have hpos : (0 : ℚ) < 10 ^ d.exponent := by positivity
  calc (2 : ℚ) ^ (1025 : ℤ) < 2 ^ (1200 : ℤ) := zpow_lt_zpow_right₀ one_lt_two (by norm_num)
    _ < 10 ^ (400 : ℤ) := two_zpow_lt_ten_zpow
    _ ≤ 10 ^ d.exponent := zpow_le_zpow_right₀ (by norm_num) h
    _ = 1 * 10 ^ d.exponent := (one_mul _).symm
    _ ≤ d.coefficient * 10 ^ d.exponent := mul_le_mul_of_nonneg_right hone hpos.le

/-- Each binary digit of the coefficient weighs less than the decimal place that the exponent is
lower for it. -/
theorem toRat_lt {d : Decimal} (h : d.exponent ≤ -(400 + d.coefficient.log2 : ℤ)) :
    d.toRat < 2 ^ (-1075 : ℤ) := by
  have hc : (d.coefficient : ℚ) < 2 ^ (d.coefficient.log2 + 1) := by exact_mod_cast Nat.lt_log2_self
  set n := d.coefficient.log2
  have hpos : (0 : ℚ) < 10 ^ d.exponent := by positivity
  have hdigits : (2 : ℚ) ^ n ≤ 10 ^ n := pow_le_pow_left₀ (by norm_num) (by norm_num) n
  have hsmall := ten_zpow_lt_two_zpow
  calc d.toRat = d.coefficient * 10 ^ d.exponent := rfl
    _ < 2 ^ (n + 1) * 10 ^ d.exponent := mul_lt_mul_of_pos_right hc hpos
    _ ≤ 2 ^ (n + 1) * 10 ^ (-(400 + n : ℤ)) :=
        mul_le_mul_of_nonneg_left (zpow_le_zpow_right₀ (by norm_num) h) (by positivity)
    _ = 2 * (2 ^ n * (10 ^ n)⁻¹) * 10 ^ (-400 : ℤ) := by
        rw [neg_add, zpow_add₀ (by norm_num), zpow_neg _ (n : ℤ), zpow_natCast, pow_succ]
        ring
    _ ≤ 2 * 1 * 10 ^ (-400 : ℤ) := by
        gcongr
        rw [← div_eq_mul_inv]
        exact div_le_one_of_le₀ hdigits (by positivity)
    _ < 2 * 1 * 2 ^ (-1200 : ℤ) := by gcongr
    _ = 2 ^ (-1199 : ℤ) := by
        rw [mul_one, ← zpow_one_add₀ two_ne_zero]
        rfl
    _ ≤ 2 ^ (-1075 : ℤ) := zpow_le_zpow_right₀ one_le_two (by norm_num)

/-- **Bringing a decimal within reach does not change the number nearest to it.** -/
theorem toFloat_withinReach (d : Decimal) : d.withinReach.toFloat = d.toFloat := by
  by_cases hd : d.coefficient = 0
  · simp [toFloat, toRat, withinReach, hd]
  by_cases hlarge : 400 < d.exponent
  · have hexp : d.withinReach.exponent = 400 := by
      simp only [withinReach]
      omega
    have hbrought : 2 ^ (1025 : ℤ) < d.withinReach.toRat := toRat_gt hd hexp.ge
    rw [toFloat, toFloat, nearest_of_gt hbrought, nearest_of_gt (toRat_gt hd hlarge.le)]
  by_cases hsmall : d.exponent < -(400 + d.coefficient.log2 : ℤ)
  · have hexp : d.withinReach.exponent = -(400 + d.withinReach.coefficient.log2 : ℤ) := by
      simp only [withinReach]
      omega
    rw [toFloat, toFloat, nearest_of_lt (toRat_lt hexp.le), nearest_of_lt (toRat_lt hsmall.le)]
  · have hsame : d.withinReach = d := by
      have hexp : max (-(400 + d.coefficient.log2 : ℤ)) (min 400 d.exponent) = d.exponent := by
        omega
      rw [withinReach, hexp]
    rw [hsame]

end Decimal

end Calculator

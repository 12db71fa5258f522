import Mathlib
import Calculator.Proofs.Number.Bits

/-! # Rounding to the nearest number

`nearestBits` finds the leading bit of a rational, scales the rational so that 53 digits stand
before the point, and rounds. The main statement is `nearestBits_of_close`: a rational that differs
from a finite number by at most its `1 / (2 · 10 ^ 16)` part rounds to this number. The leading bit
may then lie one place below that of the number, but only below a power of two, and there the carry
gives the same bits.
-/

namespace Calculator.Number

/-! ### To an integer -/

theorem abs_sub_roundHalfEven (q : ℚ) : |q - roundHalfEven q| ≤ 1 / 2 := by
  have hle : (q.floor : ℚ) ≤ q := Rat.floor_le q
  have hlt : q < q.floor + 1 := by exact_mod_cast Rat.lt_floor_add_one q
  rw [abs_le]
  simp only [roundHalfEven]
  split
  · constructor <;> linarith
  · split
    · push_cast
      constructor <;> linarith
    · have hhalf : q - q.floor = 1 / 2 := by linarith
      split
      · constructor <;> linarith
      · push_cast
        constructor <;> linarith

theorem roundHalfEven_eq {q : ℚ} {n : ℤ} (h : |q - n| < 1 / 2) : roundHalfEven q = n := by
  have hr := abs_le.mp (abs_sub_roundHalfEven q)
  have hn := abs_lt.mp h
  have h1 : (roundHalfEven q : ℚ) < n + 1 := by linarith
  have h2 : (n : ℚ) < roundHalfEven q + 1 := by linarith
  have h1' : roundHalfEven q < n + 1 := by exact_mod_cast h1
  have h2' : n < roundHalfEven q + 1 := by exact_mod_cast h2
  omega

theorem roundHalfEven_eq_floor (q : ℚ) :
    roundHalfEven q = q.floor ∨ roundHalfEven q = q.floor + 1 := by
  simp only [roundHalfEven]
  split
  · exact Or.inl rfl
  · split
    · exact Or.inr rfl
    · split
      · exact Or.inl rfl
      · exact Or.inr rfl

/-! ### The leading bit -/

theorem two_zpow_leadingBit_le {q : ℚ} (hq : 0 < q) :
    (2 : ℚ) ^ leadingBit q ≤ q ∧ q ≤ (2 : ℚ) ^ (leadingBit q + 1) := by
  have hnum : 0 < q.num := Rat.num_pos.mpr hq
  have hden : 0 < q.den := q.den_pos
  have hdenq : (0 : ℚ) < q.den := by exact_mod_cast hden
  have hcast : ((q.num.toNat : ℕ) : ℚ) = q * q.den := by
    rw [Rat.mul_den_eq_num, ← Int.cast_natCast, Int.toNat_of_nonneg hnum.le]
  rw [leadingBit]
  split
  next hle =>
    have hpos : q.num.toNat / q.den ≠ 0 := (Nat.div_pos hle hden).ne'
    set k := (q.num.toNat / q.den).log2 with hk
    have hlow : 2 ^ k * q.den ≤ q.num.toNat :=
      (Nat.le_div_iff_mul_le hden).mp (Nat.log2_self_le hpos)
    have hhigh : q.num.toNat < 2 ^ (k + 1) * q.den :=
      (Nat.div_lt_iff_lt_mul hden).mp Nat.lt_log2_self
    have hlow' : (2 : ℚ) ^ k * q.den ≤ q * q.den := by rw [← hcast]; exact_mod_cast hlow
    have hhigh' : q * q.den < (2 : ℚ) ^ (k + 1) * q.den := by rw [← hcast]; exact_mod_cast hhigh
    exact ⟨by rw [zpow_natCast]; exact le_of_mul_le_mul_right hlow' hdenq,
      by rw [← Nat.cast_succ, zpow_natCast]; exact (lt_of_mul_lt_mul_right hhigh' hdenq.le).le⟩
  next hlt =>
    have hnumpos : 0 < q.num.toNat := by omega
    have hpos : q.den / q.num.toNat ≠ 0 := (Nat.div_pos (by omega) hnumpos).ne'
    set k := (q.den / q.num.toNat).log2 with hk
    have hlow : 2 ^ k * q.num.toNat ≤ q.den :=
      (Nat.le_div_iff_mul_le hnumpos).mp (Nat.log2_self_le hpos)
    have hhigh : q.den < 2 ^ (k + 1) * q.num.toNat :=
      (Nat.div_lt_iff_lt_mul hnumpos).mp Nat.lt_log2_self
    have hlow' : (2 : ℚ) ^ k * (q * q.den) ≤ q.den := by rw [← hcast]; exact_mod_cast hlow
    have hhigh' : (q.den : ℚ) < (2 : ℚ) ^ (k + 1) * (q * q.den) := by
      rw [← hcast]; exact_mod_cast hhigh
    have hk0 : (0 : ℚ) < 2 ^ k := by positivity
    have hk1 : (0 : ℚ) < 2 ^ (k + 1) := by positivity
    have hexp : -(k : ℤ) - 1 = -((k + 1 : ℕ) : ℤ) := by push_cast; ring
    have hexp' : -(k : ℤ) - 1 + 1 = -(k : ℤ) := by ring
    rw [hexp', hexp, zpow_neg, zpow_neg, zpow_natCast, zpow_natCast]
    constructor
    · rw [inv_le_iff_one_le_mul₀ hk1]
      have : 1 * (q.den : ℚ) < 2 ^ (k + 1) * q * q.den := by linarith
      nlinarith [lt_of_mul_lt_mul_right this hdenq.le]
    · rw [le_inv_comm₀ hq hk0, ← one_div, le_div_iff₀ hq]
      have : 2 ^ k * q * q.den ≤ 1 * (q.den : ℚ) := by linarith
      exact le_of_mul_le_mul_right this hdenq

/-! ### To a number -/

/-- What a rational is divided by when it is written in a number's digits. -/
theorem abs_div_sub_le {q : ℚ} {m : ℕ} {e : ℤ}
    (h : |q - m * 2 ^ e| ≤ m * 2 ^ e / (2 * 10 ^ 16)) : |q / 2 ^ e - m| ≤ m / (2 * 10 ^ 16) := by
  have hp : (0 : ℚ) < 2 ^ e := by positivity
  have hscale : q / 2 ^ e - m = (q - m * 2 ^ e) / 2 ^ e := by field_simp
  rw [hscale, abs_div, abs_of_pos hp, div_le_iff₀ hp]
  calc |q - m * 2 ^ e| ≤ m * 2 ^ e / (2 * 10 ^ 16) := h
    _ = m / (2 * 10 ^ 16) * 2 ^ e := by ring

/-- A rational close to a number is rounded at the number's exponent, or, close to a power of two,
at the one below. -/
theorem roundingExponent_of_close {q : ℚ} {m : ℕ} {e : ℤ} (hm0 : 0 < m) (hm : m < 2 ^ 53)
    (hnormal : 2 ^ 52 ≤ m ∨ e = -1074) (hlow : -1074 ≤ e)
    (h : |q - m * 2 ^ e| ≤ m * 2 ^ e / (2 * 10 ^ 16)) :
    roundingExponent q = e ∨ (roundingExponent q = e - 1 ∧ m = 2 ^ 52) := by
  have hp : (0 : ℚ) < 2 ^ e := by positivity
  have hx := abs_le.mp (abs_div_sub_le h)
  have hqx : q = q / 2 ^ e * 2 ^ e := by field_simp
  set x := q / 2 ^ e with hxdef
  have hmq : (m : ℚ) ≤ 2 ^ 53 - 1 := by
    have : m ≤ 2 ^ 53 - 1 := by omega
    have : ((m : ℕ) : ℚ) ≤ ((2 ^ 53 - 1 : ℕ) : ℚ) := by exact_mod_cast this
    calc (m : ℚ) ≤ ((2 ^ 53 - 1 : ℕ) : ℚ) := this
      _ = 2 ^ 53 - 1 := by norm_num
  have hmpos : (1 : ℚ) ≤ m := by exact_mod_cast hm0
  have hxpos : 0 < x := by linarith
  have hq : 0 < q := by rw [hqx]; positivity
  obtain ⟨hleft, hright⟩ := two_zpow_leadingBit_le hq
  -- the leading bit is no higher than that of the number
  have hupper : leadingBit q ≤ e + 52 := by
    have hlt : (2 : ℚ) ^ leadingBit q < 2 ^ (e + 53) := by
      calc (2 : ℚ) ^ leadingBit q ≤ q := hleft
        _ = x * 2 ^ e := hqx
        _ < 2 ^ 53 * 2 ^ e := by
          apply mul_lt_mul_of_pos_right _ hp
          linarith
        _ = 2 ^ (e + 53) := by rw [zpow_add₀ two_ne_zero]; norm_num; ring
    have := (zpow_lt_zpow_iff_right₀ one_lt_two).mp hlt
    omega
  rw [roundingExponent]
  rcases hnormal with hnormal | rfl
  · have hmq' : (2 : ℚ) ^ 52 ≤ m := by exact_mod_cast hnormal
    have hlower : e + 51 ≤ leadingBit q := by
      have hlt : (2 : ℚ) ^ (e + 51) < 2 ^ (leadingBit q + 1) := by
        calc (2 : ℚ) ^ (e + 51) = 2 ^ 51 * 2 ^ e := by rw [zpow_add₀ two_ne_zero]; norm_num; ring
          _ < x * 2 ^ e := by
            apply mul_lt_mul_of_pos_right _ hp
            linarith
          _ = q := hqx.symm
          _ ≤ 2 ^ (leadingBit q + 1) := hright
      have := (zpow_lt_zpow_iff_right₀ one_lt_two).mp hlt
      omega
    by_cases htop : leadingBit q = e + 52
    · left; omega
    by_cases hbottom : e = -1074
    · left; omega
    right
    refine ⟨by omega, ?_⟩
    have hle : x * 2 ^ e ≤ 2 ^ 52 * 2 ^ e := by
      calc x * 2 ^ e = q := hqx.symm
        _ ≤ 2 ^ (leadingBit q + 1) := hright
        _ ≤ 2 ^ (e + 52) := zpow_le_zpow_right₀ one_le_two (by omega)
        _ = 2 ^ 52 * 2 ^ e := by rw [zpow_add₀ two_ne_zero]; norm_num; ring
    have hx52 : x ≤ 2 ^ 52 := le_of_mul_le_mul_right hle hp
    have hlt : (m : ℚ) < 2 ^ 52 + 1 := by linarith
    have hlt' : m < 2 ^ 52 + 1 := by exact_mod_cast hlt
    omega
  · left; omega

/-- **A rational close to a finite number rounds to it.** -/
theorem nearestBits_of_close {q : ℚ} {m : ℕ} {e : ℤ} (hm0 : 0 < m) (hm : m < 2 ^ 53)
    (hnormal : 2 ^ 52 ≤ m ∨ e = -1074) (hlow : -1074 ≤ e) (hhigh : e ≤ 971)
    (h : |q - m * 2 ^ e| ≤ m * 2 ^ e / (2 * 10 ^ 16)) :
    nearestBits q = (e + 1074).toNat * hiddenBit + m := by
  have hx := abs_div_sub_le h
  have hmq : (m : ℚ) < 2 ^ 53 := by exact_mod_cast hm
  rw [nearestBits]
  rcases roundingExponent_of_close hm0 hm hnormal hlow h with he | ⟨he, hpow⟩
  · have hround : roundHalfEven (q / 2 ^ e) = (m : ℤ) := by
      apply roundHalfEven_eq
      calc |q / 2 ^ e - ((m : ℤ) : ℚ)| ≤ m / (2 * 10 ^ 16) := by exact_mod_cast hx
        _ < 1 / 2 := by linarith
    simp only [he, hround, Int.toNat_natCast, infinityBits, hiddenBit]
    omega
  · have hround : roundHalfEven (q / 2 ^ (e - 1)) = ((2 ^ 53 : ℕ) : ℤ) := by
      apply roundHalfEven_eq
      have hdouble : q / 2 ^ (e - 1) - (((2 ^ 53 : ℕ) : ℤ) : ℚ) = 2 * (q / 2 ^ e - m) := by
        rw [zpow_sub_one₀ two_ne_zero, hpow]
        push_cast
        field_simp
        ring
      rw [hdouble, abs_mul, abs_two]
      have : (m : ℚ) = 2 ^ 52 := by exact_mod_cast hpow
      linarith
    have hlow' : -1074 ≤ e - 1 := by rw [← he, roundingExponent]; omega
    simp only [he, hround, Int.toNat_natCast, infinityBits, hiddenBit, hpow]
    omega

end Calculator.Number

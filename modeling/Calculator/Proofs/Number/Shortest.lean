import Mathlib
import Calculator.Number.Shortest
import Calculator.Proofs.Number.Rounding

/-! # The shortest decimal reads back

The search for the shortest decimal tests on each grid what it returns, except on the last one. So
only the last grid needs an argument: its step is at most the `1 / 10 ^ 16` part of the number, the
coefficient is off by half a step at most, and so close to a number nothing else is nearest
(`nearestBits_of_close`). `toFloat_shortest` puts the sign back in front.
-/

namespace Calculator

namespace Number

/-! ### The parts of a finite number -/

/-- The mantissa and the exponent of a finite number, in the ranges of binary64. -/
structure Parts (v : Float) : Prop where
  mantissa_lt : mantissa v < 2 ^ 53
  normal : 2 ^ 52 ≤ mantissa v ∨ exponent v = -1074
  low : -1074 ≤ exponent v
  high : exponent v ≤ 971
  bits : magnitudeBits v = (exponent v + 1074).toNat * hiddenBit + mantissa v

theorem parts_of_isFinite {v : Float} (h : v.isFinite = true) : Parts v := by
  have hfinite := (isFinite_iff v).mp h
  rw [infinityBits, hiddenBit] at hfinite
  have hfraction : fraction v < 4503599627370496 := Nat.mod_lt _ (by decide)
  have hsplit : exponentField v * 4503599627370496 + fraction v = magnitudeBits v := by
    rw [exponentField, fraction, hiddenBit]
    omega
  have hfield : exponentField v ≤ 2046 := by omega
  by_cases hsub : exponentField v = 0
  · have hm : mantissa v = fraction v := by rw [mantissa, if_pos hsub]
    have he : exponent v = -1074 := by rw [exponent, hsub]; rfl
    exact ⟨by omega, Or.inr he, by omega, by omega, by rw [he, hm, hiddenBit]; omega⟩
  · have hm : mantissa v = 4503599627370496 + fraction v := by rw [mantissa, if_neg hsub, hiddenBit]
    have he : exponent v = (exponentField v : Int) - 1075 := by rw [exponent]; omega
    exact ⟨by omega, Or.inl (by omega), by omega, by omega, by rw [hm, hiddenBit]; omega⟩

theorem magnitude_pos {v : Float} (h : mantissa v ≠ 0) : 0 < magnitude v := by
  have hm : (0 : ℚ) < mantissa v := by exact_mod_cast Nat.pos_of_ne_zero h
  rw [magnitude]
  positivity

/-! ### The leading digit -/

theorem pow_length_toDigits_le {n : ℕ} (h : 0 < n) : 10 ^ ((Nat.toDigits 10 n).length - 1) ≤ n := by
  by_cases hone : (Nat.toDigits 10 n).length = 1
  · rw [hone]; omega
  · have hpos := @Nat.length_toDigits_pos 10 n
    by_contra hlt
    have := (Nat.length_toDigits_le_iff (k := (Nat.toDigits 10 n).length - 1) (by decide)
      (by omega)).mpr (by omega : n < 10 ^ ((Nat.toDigits 10 n).length - 1))
    omega

theorem lt_pow_length_toDigits (n : ℕ) : n < 10 ^ (Nat.toDigits 10 n).length :=
  (Nat.length_toDigits_le_iff (by decide) Nat.length_toDigits_pos).mp le_rfl

theorem ten_zpow_leadingDigit_le {q : ℚ} (hq : 0 < q) : (10 : ℚ) ^ leadingDigit q ≤ q := by
  have hnum : 0 < q.num := Rat.num_pos.mpr hq
  have hden : 0 < q.den := q.den_pos
  have hdenq : (0 : ℚ) < q.den := by exact_mod_cast hden
  have hcast : ((q.num.toNat : ℕ) : ℚ) = q * q.den := by
    rw [Rat.mul_den_eq_num, ← Int.cast_natCast, Int.toNat_of_nonneg hnum.le]
  rw [leadingDigit]
  split
  next hle =>
    have hpos : 0 < q.num.toNat / q.den := Nat.div_pos hle hden
    have hlow : 10 ^ ((Nat.toDigits 10 (q.num.toNat / q.den)).length - 1) * q.den ≤ q.num.toNat :=
      (Nat.le_div_iff_mul_le hden).mp (pow_length_toDigits_le hpos)
    have hlow' : (10 : ℚ) ^ ((Nat.toDigits 10 (q.num.toNat / q.den)).length - 1) * q.den ≤ q *
        q.den := by
      rw [← hcast]; exact_mod_cast hlow
    have hlen := @Nat.length_toDigits_pos 10 (q.num.toNat / q.den)
    have hexp : ((Nat.toDigits 10 (q.num.toNat / q.den)).length : ℤ) - 1 =
        (((Nat.toDigits 10 (q.num.toNat / q.den)).length - 1 : ℕ) : ℤ) := by omega
    rw [hexp, zpow_natCast]
    exact le_of_mul_le_mul_right hlow' hdenq
  next hlt =>
    have hnumpos : 0 < q.num.toNat := by omega
    set k := (Nat.toDigits 10 (q.den / q.num.toNat)).length with hk
    have hhigh : q.den < 10 ^ k * q.num.toNat :=
      (Nat.div_lt_iff_lt_mul hnumpos).mp (lt_pow_length_toDigits _)
    have hhigh' : 1 * (q.den : ℚ) < 10 ^ k * q * q.den := by
      calc 1 * (q.den : ℚ) = q.den := one_mul _
        _ < 10 ^ k * (q.num.toNat : ℚ) := by exact_mod_cast hhigh
        _ = 10 ^ k * q * q.den := by rw [hcast]; ring
    have hp : (0 : ℚ) < 10 ^ k := by positivity
    rw [zpow_neg, zpow_natCast, inv_le_iff_one_le_mul₀ hp]
    have := lt_of_mul_lt_mul_right hhigh' hdenq.le
    linarith

end Number

/-! ### The search -/

theorem Decimal.toRat_reduce (c : ℕ) (e : ℤ) : (Decimal.reduce c e).toRat = c * 10 ^ e := by
  induction c, e using Decimal.reduce.induct with
  | case1 c e h ih =>
    have hc : (c : ℚ) = (c / 10 : ℕ) * 10 := by
      have : c = c / 10 * 10 := by omega
      exact_mod_cast this
    rw [Decimal.reduce, dif_pos h, ih, hc, zpow_add₀ (by norm_num), zpow_one]
    ring
  | case2 c e h => rw [Decimal.reduce, dif_neg h]; rfl

namespace Number

/-- A decimal that reads back as the absolute value of `v`. -/
def ReadsBack (v : Float) (d : Decimal) : Prop :=
  0 < d.toRat ∧ nearestBits d.toRat = magnitudeBits v

theorem readsBack_reduce {v : Float} {k : ℤ} {c : ℕ} (h : readsBack v k c = true) :
    ReadsBack v (Decimal.reduce c k) := by
  simp only [readsBack, Bool.and_eq_true, decide_eq_true_eq, beq_iff_eq] at h
  have hc : (0 : ℚ) < c := by exact_mod_cast h.1
  rw [ReadsBack, Decimal.toRat_reduce]
  exact ⟨by positivity, h.2⟩

theorem readsBack_of_coefficientOn? {v : Float} {k : ℤ} {c : ℕ} (hv : 0 < magnitude v)
    (h : coefficientOn? v k = some c) : readsBack v k c = true := by
  have hscaled : 0 ≤ (magnitude v / 10 ^ k).floor := by
    rw [Rat.le_floor_iff]
    positivity
  simp only [coefficientOn?] at h
  split at h
  next hbelow habove =>
    obtain rfl := Option.some.inj h
    rcases roundHalfEven_eq_floor (magnitude v / 10 ^ k) with hr | hr
    · rw [hr]; exact hbelow
    · rw [hr, Int.toNat_add hscaled (by decide)]; exact habove
  next hbelow _ => obtain rfl := Option.some.inj h; exact hbelow
  next _ habove => obtain rfl := Option.some.inj h; exact habove
  next => simp at h

/-- On a fine grid the coefficient nearest to the number reads back. -/
theorem readsBack_of_fine {v : Float} {k : ℤ} (hv : v.isFinite = true) (hm : mantissa v ≠ 0)
    (hk : 10 ^ k * 10 ^ 16 ≤ magnitude v) :
    ReadsBack v (Decimal.reduce (roundHalfEven (magnitude v / 10 ^ k)).toNat k) := by
  have hp : (0 : ℚ) < 10 ^ k := by positivity
  set scaled := magnitude v / 10 ^ k with hscaled
  have hmul : magnitude v = scaled * 10 ^ k := by rw [hscaled]; field_simp
  have hlarge : (10 : ℚ) ^ 16 ≤ scaled := by
    rw [hscaled, le_div_iff₀ hp]
    linarith
  have hround := abs_le.mp (abs_sub_roundHalfEven scaled)
  have hpos : (0 : ℚ) < roundHalfEven scaled := by linarith
  have hcast : (((roundHalfEven scaled).toNat : ℕ) : ℚ) = roundHalfEven scaled := by
    have hnonneg : 0 ≤ roundHalfEven scaled := by exact_mod_cast hpos.le
    rw [← Int.cast_natCast, Int.toNat_of_nonneg hnonneg]
  rw [ReadsBack, Decimal.toRat_reduce, hcast]
  refine ⟨by positivity, ?_⟩
  obtain ⟨hlt, hnormal, hlow, hhigh, hbits⟩ := parts_of_isFinite hv
  rw [hbits]
  apply nearestBits_of_close (Nat.pos_of_ne_zero hm) hlt hnormal hlow hhigh
  change |roundHalfEven scaled * 10 ^ k - magnitude v| ≤ magnitude v / (2 * 10 ^ 16)
  calc |roundHalfEven scaled * 10 ^ k - magnitude v|
      = |scaled - roundHalfEven scaled| * 10 ^ k := by
        rw [hmul, ← sub_mul, abs_mul, abs_of_pos hp, abs_sub_comm]
    _ ≤ 1 / 2 * 10 ^ k := mul_le_mul_of_nonneg_right (abs_sub_roundHalfEven scaled) hp.le
    _ ≤ magnitude v / (2 * 10 ^ 16) := by
        rw [le_div_iff₀ (by norm_num)]
        linarith

theorem readsBack_searchGrids {v : Float} (hv : v.isFinite = true) (hm : mantissa v ≠ 0) (n : ℕ)
    {k : ℤ} (hk : 10 ^ (k - n) * 10 ^ 16 ≤ magnitude v) : ReadsBack v (searchGrids v n k) := by
  induction n generalizing k with
  | zero => exact readsBack_of_fine hv hm (by simpa using hk)
  | succ n ih =>
    rw [searchGrids]
    split
    next c hc => exact readsBack_reduce (readsBack_of_coefficientOn? (magnitude_pos hm) hc)
    next => exact ih (by rwa [sub_sub, add_comm 1, ← Nat.cast_succ])

/-- **The shortest decimal of a number reads back as its absolute value.** -/
theorem readsBack_shortest {v : Float} (hv : v.isFinite = true) (hm : mantissa v ≠ 0) :
    ReadsBack v (shortest v) := by
  apply readsBack_searchGrids hv hm
  calc (10 : ℚ) ^ (leadingDigit (magnitude v) - (16 : ℕ)) * 10 ^ 16
      = 10 ^ leadingDigit (magnitude v) := by
        rw [zpow_sub₀ (by norm_num)]
        norm_num
    _ ≤ magnitude v := ten_zpow_leadingDigit_le (magnitude_pos hm)

theorem toFloat_shortest {v : Float} (hv : v.isFinite = true) (hm : mantissa v ≠ 0) :
    withSign (isNegative v) (shortest v).toFloat = v := by
  obtain ⟨hpos, hbits⟩ := readsBack_shortest hv hm
  rw [Decimal.toFloat, nearest, if_pos hpos, hbits]
  exact withSign_ofBits hv

end Number

end Calculator

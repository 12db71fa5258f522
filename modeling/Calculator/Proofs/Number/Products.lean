import Calculator.Proofs.Number.Negation

/-! # Products with an infinity

An infinity that is multiplied by a positive integer stays what it is (`infinite_mul_ofNat`). This
needs that no positive integer is read as a zero or as what is no number: read as a number it is
infinite, or its mantissa has all 53 digits (`normal_ofNat`). For a mantissa with that many digits
or more is rounded to one with just as many (`Normal.of_round`), and packing it into bits keeps them
(`Normal.unpack_pack`).
-/

namespace Calculator.Number

open Float.Model (UnpackedFloat Format totalExponent)
open Float.Model.UnpackedFloat (Sign ExtendedMantissa shiftToTargetExponent)

/-! ### Shifted mantissas -/

theorem mantissa_shiftRight (m : ExtendedMantissa) (k : ℕ) :
    (m >>> k).mantissa = m.mantissa / 2 ^ k := by
  induction k with
  | zero => exact (Nat.div_one _).symm
  | succ k ih =>
    have hstep : (m >>> (k + 1)).mantissa = (m >>> k).mantissa / 2 := rfl
    rw [hstep, ih, Nat.div_div_eq_div_mul, pow_succ]

theorem roundedMantissa_bounds (m : ExtendedMantissa) :
    m.mantissa ≤ m.roundedMantissa ∧ m.roundedMantissa ≤ m.mantissa + 1 := by
  have hparity := Nat.mod_lt m.mantissa (by decide : 0 < 2)
  unfold ExtendedMantissa.roundedMantissa UnpackedFloat.Accuracy.roundToNearestEven
  split <;> omega

theorem targetExponent_eq (m : ℕ) (e : ℤ) :
    Format.binary64.targetExponent (totalExponent m e) = max (m.log2 + e - 52) (-1074) := by
  have hlow : Format.binary64.minExponent = -1074 := rfl
  have hbits : Format.binary64.mantissaBits = 53 := rfl
  rw [Format.targetExponent, totalExponent, hlow, hbits]
  omega

/-- A mantissa is shifted to the right until its digits are those of a number. -/
theorem shiftToTargetExponent_eq {m : ℕ} {e : ℤ} {k : ℕ} (hlog : m.log2 = 52 + k)
    (he : -1074 ≤ e + k) :
    (shiftToTargetExponent .binary64 m e .exact).1.mantissa = m / 2 ^ k ∧
      (shiftToTargetExponent .binary64 m e .exact).2 = e + k := by
  have htarget : (Format.binary64.targetExponent (totalExponent m e) - e).toNat = k := by
    rw [targetExponent_eq, hlog]
    omega
  rw [shiftToTargetExponent, UnpackedFloat.shiftToExponent, htarget]
  exact ⟨mantissa_shiftRight _ k, rfl⟩

theorem log2_eq_of_digits {m : ℕ} (hlow : 2 ^ 52 ≤ m) (hhigh : m < 2 ^ 53) : m.log2 = 52 :=
  (Nat.log2_eq_iff (by omega)).mpr ⟨hlow, hhigh⟩

theorem div_bounds_of_log2 {m k : ℕ} (hlog : m.log2 = 52 + k) :
    2 ^ 52 ≤ m / 2 ^ k ∧ m / 2 ^ k < 2 ^ 53 := by
  have hne : m ≠ 0 := by
    rintro rfl
    rw [Nat.log2_zero] at hlog
    omega
  obtain ⟨hlow, hhigh⟩ := (Nat.log2_eq_iff hne).mp hlog
  rw [Nat.le_div_iff_mul_le (by positivity), Nat.div_lt_iff_lt_mul (by positivity), ← pow_add,
    ← pow_add]
  exact ⟨hlow, by rwa [show 53 + k = 52 + k + 1 by omega]⟩

/-! ### Numbers with all digits -/

/-- Positive infinity, or a positive number whose mantissa has all 53 digits. -/
inductive Normal : UnpackedFloat → Prop
  | infinity : Normal (.infinity .positive)
  | finite {m : ℕ} {e : ℤ} (hpos : 0 < m) (hlow : 2 ^ 52 ≤ m) (hhigh : m < 2 ^ 53)
    (he : -1074 ≤ e) :
    Normal (.finite .positive m e hpos)

/-- A carry gives a rounded mantissa one digit more at most. -/
theorem exists_carry {r : ℕ} (hlow : 2 ^ 52 ≤ r) (hhigh : r ≤ 2 ^ 53) :
    ∃ k : ℕ, r.log2 = 52 + k ∧ 2 ^ 52 ≤ r / 2 ^ k ∧ r / 2 ^ k < 2 ^ 53 := by
  rcases hhigh.lt_or_eq with hlt | rfl
  · exact ⟨0, log2_eq_of_digits hlow hlt, by omega, by omega⟩
  · exact ⟨1, Nat.log2_two_pow, by decide, by decide⟩

/-- **A mantissa with 53 digits or more is rounded to one with 53 digits.** -/
theorem Normal.of_round {m : ℕ} {e : ℤ} {k : ℕ} (hlog : m.log2 = 52 + k) (he : -1074 ≤ e + k) :
    Normal (UnpackedFloat.roundWithAccuracy .binary64 .positive m e .exact) := by
  obtain ⟨hmantissa, hexponent⟩ := shiftToTargetExponent_eq hlog he
  obtain ⟨hlow, hhigh⟩ := div_bounds_of_log2 hlog
  unfold UnpackedFloat.roundWithAccuracy
  generalize shiftToTargetExponent .binary64 m e .exact = shifted at hmantissa hexponent
  obtain ⟨extended, e'⟩ := shifted
  obtain rfl : e' = e + k := hexponent
  have hrounded := roundedMantissa_bounds extended
  rw [show extended.mantissa = m / 2 ^ k from hmantissa] at hrounded
  obtain ⟨j, hj, hlow', hhigh'⟩ :=
    exists_carry (r := extended.roundedMantissa) (by omega) (by omega)
  obtain ⟨hfinal, hfinal'⟩ := shiftToTargetExponent_eq hj (e := e + k) (by omega)
  simp only
  rw [dif_neg (by rw [hfinal]; omega)]
  exact .finite _ (by rw [hfinal]; exact hlow') (by rw [hfinal]; exact hhigh')
    (by rw [hfinal']; omega)

theorem unpack_packedInfinity (s : Sign) :
    UnpackedFloat.unpack .binary64 (UnpackedFloat.packedInfinity .binary64 s) = .infinity s := by
  cases s <;> rfl

theorem exists_ofFields (s : Sign) {m : ℕ} {e : ℤ} (hpos : 0 < m) (hlow : 2 ^ 52 ≤ m)
    (hhigh : m < 2 ^ 53) (he : -1074 ≤ e) (he' : e ≤ 971) :
    ∃ (field : BitVec 11)
      (rest : BitVec 52), field ≠ -1#11 ∧ .finite s m e hpos = ofFields s field rest := by
  have hfield : (BitVec.ofNat 11 (e + 1075).toNat).toNat = (e + 1075).toNat := by
    rw [BitVec.toNat_ofNat]
    omega
  have hrest : (BitVec.ofNat 52 (m - 2 ^ 52)).toNat = m - 2 ^ 52 := by
    rw [BitVec.toNat_ofNat]
    omega
  refine ⟨BitVec.ofNat 11 (e + 1075).toNat, BitVec.ofNat 52 (m - 2 ^ 52), ?_, ?_⟩
  · rw [ne_eq, ← BitVec.toNat_inj, hfield, show (-1#11 : BitVec 11).toNat = 2047 from rfl]
    omega
  · have hzero : BitVec.ofNat 11 (e + 1075).toNat ≠ 0#11 := by
      rw [ne_eq, ← BitVec.toNat_inj, hfield, show (0#11 : BitVec 11).toNat = 0 from rfl]
      omega
    rw [ofFields, if_neg hzero, UnpackedFloat.finite.injEq, hfield, hrest]
    exact ⟨rfl, by omega, by omega⟩

/-- What has all its digits keeps them in its bits, unless it is too large. -/
theorem Normal.unpack_pack {u : UnpackedFloat} (h : Normal u) :
    Normal (UnpackedFloat.unpack .binary64 (UnpackedFloat.pack .binary64 u)) := by
  cases h with
  | infinity =>
    rw [UnpackedFloat.pack, unpack_packedInfinity]
    exact .infinity
  | @finite m e hpos hlow hhigh he =>
    rcases le_or_gt e 971 with he' | he'
    · obtain ⟨field, rest, hfull, hfields⟩ := exists_ofFields .positive hpos hlow hhigh he he'
      rw [hfields, unpack_pack_ofFields _ _ hfull, ← hfields]
      exact .finite hpos hlow hhigh he
    · have hlarge : 2 ^ Format.binary64.exponentBits ≤
          (e + Format.binary64.exponentBias + Format.binary64.mantissaBitsWithoutImplicit).toNat +
            1 := by
        change 2 ^ 11 ≤ (e + 1023 + 52).toNat + 1
        omega
      rw [UnpackedFloat.pack, if_pos hlarge, unpack_packedInfinity]
      exact .infinity

/-! ### Integers -/

theorem log2_shiftLeft {n : ℕ} (hn : n ≠ 0) (k : ℕ) : (n <<< k).log2 = n.log2 + k := by
  obtain ⟨hlow, hhigh⟩ := (Nat.log2_eq_iff hn).mp rfl
  have hne : n <<< k ≠ 0 := by
    rw [Nat.shiftLeft_eq]
    positivity
  rw [Nat.log2_eq_iff hne, Nat.shiftLeft_eq, pow_add, show n.log2 + k + 1 = n.log2 + 1 + k by omega,
    pow_add]
  exact ⟨Nat.mul_le_mul_right _ hlow, Nat.mul_lt_mul_of_pos_right hhigh (by positivity)⟩

theorem normal_ofUInt64 {n : ℕ} (hn : n ≠ 0) (hsmall : n < 2 ^ 53) :
    Normal (UnpackedFloat.ofUInt64 .binary64 n.toUInt64) := by
  have hword : n.toUInt64.toNat = n := by
    rw [UInt64.toNat_ofNat']
    omega
  have hlog : n.log2 < 53 := (Nat.log2_lt hn).mpr hsmall
  have htarget : (0 - Format.binary64.targetExponent (totalExponent n 0)).toNat = 52 - n.log2 := by
    rw [targetExponent_eq]
    omega
  have hround : UnpackedFloat.ofUInt64 .binary64 n.toUInt64 =
      UnpackedFloat.roundWithAccuracy .binary64 .positive (n <<< (52 - n.log2))
        (0 - ((52 - n.log2 : ℕ) : ℤ)) .exact := by
    rw [UnpackedFloat.ofUInt64, hword, UnpackedFloat.ofNat, UnpackedFloat.ofInt,
      UnpackedFloat.normalize, Int.compare_eq_gt.mpr (by omega)]
    simp only [UnpackedFloat.round, UnpackedFloat.decreaseExponent, Int.toNat_natCast, htarget]
  rw [hround]
  exact Normal.of_round (k := 0) (by rw [log2_shiftLeft hn]; omega) (by omega)

theorem Normal.mul_one {u : UnpackedFloat} (h : Normal u) :
    Normal (UnpackedFloat.mul .binary64 u (1.0 : Float).toModel.unpack) := by
  have hone : (1.0 : Float).toModel.unpack = .finite .positive (2 ^ 52) (-52) (by decide) := rfl
  rw [hone]
  cases h with
  | infinity => exact .infinity
  | @finite m e hpos hlow hhigh he =>
    have hlog : (m * 2 ^ 52).log2 = 52 + 52 := by
      rw [← Nat.shiftLeft_eq, log2_shiftLeft (by omega), log2_eq_of_digits hlow hhigh]
    exact Normal.of_round (e := e + -52) hlog (by omega)

theorem normal_ofScientific {n : ℕ} (hn : n ≠ 0) :
    Normal (UnpackedFloat.ofScientific .binary64 n 0) := by
  have hbits : Format.binary64.mantissaBits = 53 := rfl
  have hlog : (n <<< Format.binary64.mantissaBits * 10 ^ Int.toNat 0).log2 = 52 + (n.log2 + 1) := by
    rw [Int.toNat_zero, pow_zero, Nat.mul_one, log2_shiftLeft hn, hbits]
    omega
  rw [UnpackedFloat.ofScientific, dif_neg hn, if_neg (by decide), if_neg (by simp), if_pos le_rfl]
  simp only [UnpackedFloat.mul]
  exact Normal.of_round hlog (by rw [hbits]; omega)

/-- **A positive integer is read as a number with all digits, or as infinity.** -/
theorem normal_ofNat {n : ℕ} (hn : n ≠ 0) : Normal (Float.ofNat n).toModel.unpack := by
  change Normal (Float.ofScientific n false 0).toModel.unpack
  by_cases hsmall : n < 2 ^ 53
  · have hvalue : Float.ofScientific n false 0 = n.toUInt64.toFloat * 1.0 := by
      rw [Float.ofScientific, dif_pos ⟨hsmall, by decide⟩]
      rfl
    rw [hvalue]
    exact ((normal_ofUInt64 hn hsmall).unpack_pack.mul_one).unpack_pack
  · rw [Float.ofScientific, dif_neg (by omega)]
    exact (normal_ofScientific hn).unpack_pack

theorem Normal.infinity_mul {u : UnpackedFloat} (h : Normal u) (s : Sign) :
    UnpackedFloat.mul .binary64 (.infinity s) u = .infinity s := by
  have hsign : s * .positive = s := by cases s <;> rfl
  cases h with
  | infinity | finite => exact congrArg UnpackedFloat.infinity hsign

/-- **An infinity stays what it is, whatever positive integer it is multiplied by.** -/
theorem infinite_mul_ofNat {v : Float} (hv : v.isInf = true) {n : ℕ} (hn : n ≠ 0) :
    v * Float.ofNat n = v := by
  have hinfinity := (unpack_eq_infinity_iff v _).mpr ⟨hv, rfl⟩
  apply eq_of_unpack_eq
  change UnpackedFloat.unpack .binary64 (UnpackedFloat.pack .binary64
    (UnpackedFloat.mul .binary64 v.toModel.unpack (Float.ofNat n).toModel.unpack)) = _
  rw [hinfinity, (normal_ofNat hn).infinity_mul, UnpackedFloat.pack, unpack_packedInfinity]

end Calculator.Number

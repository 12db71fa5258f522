import Calculator.MathFunction.Value
import Calculator.Proofs.Number.Shortest
import Calculator.Proofs.Number.Sums

/-! # Which numbers are natural numbers

The value of a finite number is told by its parts: its magnitude is zero exactly if its mantissa is,
and it is less than zero, as numbers are compared, exactly if its value is (`lt_zero_iff`). A
negative zero is not. So a number is a natural number exactly if it is finite and its value is one
(`natural?_eq_some_iff`).
-/

namespace Calculator.Number

open Float.Model (UnpackedFloat)

/-! ### Values -/

theorem magnitude_nonneg (v : Float) : 0 ≤ magnitude v := by
  rw [magnitude]
  positivity

theorem magnitude_eq_zero_iff {v : Float} : magnitude v = 0 ↔ mantissa v = 0 := by
  constructor
  · intro h
    by_contra hne
    exact (magnitude_pos hne).ne' h
  · intro h
    rw [magnitude, h, Nat.cast_zero, zero_mul]

/-! ### Signs -/

theorem toNat_exponentBits_eq (v : Float) :
    (exponentBits v.toBits.toBitVec).toNat = exponentField v := by
  have hword : v.toBits.toBitVec.toNat = v.toBits.toNat := rfl
  rw [toNat_exponentBits, exponentField, magnitudeBits, signBit, hiddenBit, hword]
  omega

theorem toNat_fractionBits_eq (v : Float) :
    (fractionBits v.toBits.toBitVec).toNat = fraction v := by
  have hword : v.toBits.toBitVec.toNat = v.toBits.toNat := rfl
  rw [toNat_fractionBits, fraction, magnitudeBits, signBit, hiddenBit, hword]
  omega

/-- A finite number is a zero if its mantissa is zero, and else it has the sign of its bits. -/
theorem unpack_of_isFinite {v : Float} (hv : v.isFinite = true) :
    (mantissa v = 0 ∧ ∃ s, v.toModel.unpack = .zero s) ∨
      (mantissa v ≠ 0 ∧ ∃ m e h, v.toModel.unpack = .finite (sign v.toBits.toBitVec) m e h) := by
  have he : exponentBits v.toBits.toBitVec ≠ -1#11 :=
    (exponentBits_ne_iff v).mpr ((isFinite_iff v).mp hv)
  have hfields :
      v.toModel.unpack = ofFields (sign v.toBits.toBitVec) (exponentBits v.toBits.toBitVec)
      (fractionBits v.toBits.toBitVec) := unpack_eq_ofFields he
  have hexponent : exponentBits v.toBits.toBitVec = 0#11 ↔ exponentField v = 0 := by
    rw [← BitVec.toNat_inj, toNat_exponentBits_eq]
    rfl
  have hfraction : fractionBits v.toBits.toBitVec = 0#52 ↔ fraction v = 0 := by
    rw [← BitVec.toNat_inj, toNat_fractionBits_eq]
    rfl
  rw [hfields, mantissa, ofFields]
  by_cases hsubnormal : exponentField v = 0
  · rw [if_pos hsubnormal, if_pos (hexponent.mpr hsubnormal)]
    by_cases hzero : fraction v = 0
    · rw [dif_pos (hfraction.mpr hzero)]
      exact Or.inl ⟨hzero, _, rfl⟩
    · rw [dif_neg (fun h => hzero (hfraction.mp h))]
      exact Or.inr ⟨hzero, _, _, _, rfl⟩
  · rw [if_neg hsubnormal, if_neg (fun h => hsubnormal (hexponent.mp h))]
    exact Or.inr ⟨by rw [hiddenBit]; omega, _, _, _, rfl⟩

theorem lt_zero_iff {v : Float} (hv : v.isFinite = true) : v < 0.0 ↔ toRat v < 0 := by
  have hcompare : v < 0.0 ↔ v.toModel.unpack.compare (.zero .positive) = some .lt := by
    change decide (v.toModel < (0.0 : Float).toModel) = true ↔ _
    rw [decide_eq_true_iff]
    change (UnpackedFloat.compare v.toModel.unpack (0.0 : Float).toModel.unpack == some .lt) =
      true ↔ _
    rw [beq_iff_eq]
    rfl
  have hnonneg := magnitude_nonneg v
  rw [hcompare, toRat]
  rcases unpack_of_isFinite hv with ⟨hzero, s, hunpack⟩ | ⟨hnonzero, m, e, hm, hunpack⟩
  · rw [hunpack, magnitude_eq_zero_iff.mpr hzero]
    simp [UnpackedFloat.compare]
  · have hpos := magnitude_pos hnonzero
    rw [hunpack]
    cases hsign : sign v.toBits.toBitVec with
    | negative =>
      rw [(sign_eq_negative_iff v).mp hsign, if_pos rfl]
      exact iff_of_true rfl (by linarith)
    | positive =>
      have hpositive : isNegative v ≠ true := by
        rw [ne_eq, ← sign_eq_negative_iff, hsign]
        nofun
      rw [if_neg hpositive]
      exact iff_of_false nofun (by linarith)

/-! ### Natural numbers -/

theorem natural?_eq_some_iff {v : Float} {n : ℕ} :
    natural? v = some n ↔ v.isFinite = true ∧ toRat v = n := by
  have hnonneg := magnitude_nonneg v
  rw [natural?, toRat]
  constructor
  · intro h
    split at h
    next hnatural =>
      simp only [Bool.and_eq_true, Bool.or_eq_true, Bool.not_eq_true', beq_iff_eq] at hnatural
      obtain ⟨⟨hfinite, hden⟩, hsign⟩ := hnatural
      have hmagnitude : magnitude v = n := by
        rw [← Option.some.inj h, ← Rat.coe_int_num_of_den_eq_one hden]
        have hnum := Rat.num_nonneg.mpr hnonneg
        exact_mod_cast (Int.toNat_of_nonneg hnum).symm
      refine ⟨hfinite, ?_⟩
      rcases hsign with hpositive | hzero
      · rw [hpositive]
        exact hmagnitude
      · rw [magnitude_eq_zero_iff.mpr hzero] at hmagnitude ⊢
        simpa using hmagnitude
    next => contradiction
  · rintro ⟨hfinite, hvalue⟩
    obtain ⟨hmagnitude, hsign⟩ : magnitude v = n ∧ (isNegative v = false ∨ mantissa v = 0) := by
      split at hvalue
      next =>
        have hn : (0 : ℚ) ≤ n := Nat.cast_nonneg n
        have hzero : magnitude v = 0 := by linarith
        exact ⟨by linarith, Or.inr (magnitude_eq_zero_iff.mp hzero)⟩
      next hpositive => exact ⟨hvalue, Or.inl (Bool.not_eq_true _ ▸ hpositive)⟩
    rw [if_pos, hmagnitude]
    · rfl
    · simpa [hfinite, hmagnitude] using hsign

end Calculator.Number

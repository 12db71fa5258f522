import Mathlib
import Calculator.Proofs.Number.Bits

/-! # Sums that are not numbers

A sum or a difference of two numbers is not a number only if one of them is not, or if two
infinities cancel (`isNaN_add_iff`, `isNaN_sub_iff`). For what is added is rounded, and what is
rounded is a number (`isNaN_normalize`); packing it into bits does not change that
(`isNaN_unpack_pack`).
-/

namespace Calculator.Number

open Float.Model (UnpackedFloat Format)
open Float.Model.UnpackedFloat (packComponents Sign)

/-! ### Packing -/

theorem exponentBits_packComponents (s : Sign) (e : BitVec 11) (m : BitVec 52) :
    exponentBits (packComponents .binary64 s e m) = e := by
  apply BitVec.eq_of_toNat_eq
  have he := e.isLt
  have hm := m.isLt
  rw [toNat_exponentBits, toNat_packComponents]
  omega

theorem isNaN_unpack_packComponents (s : Sign) {e : BitVec 11} (m : BitVec 52) (he : e ≠ -1#11) :
    (UnpackedFloat.unpack .binary64 (packComponents .binary64 s e m)).isNaN = false := by
  rw [unpack_eq_ofFields (by rwa [exponentBits_packComponents])]
  unfold ofFields
  split
  · split <;> rfl
  · rfl

theorem isNaN_unpack_infinity (s : Sign) :
    (UnpackedFloat.unpack .binary64 (UnpackedFloat.packedInfinity .binary64 s)).isNaN = false := by
  cases s <;> decide

theorem isNaN_unpack_pack (u : UnpackedFloat) :
    (UnpackedFloat.unpack .binary64 (UnpackedFloat.pack .binary64 u)).isNaN = u.isNaN := by
  cases u with
  | notANumber => decide
  | infinity s => exact isNaN_unpack_infinity s
  | zero s => cases s <;> decide
  | finite s m e hm =>
    rw [UnpackedFloat.pack]
    simp only
    split
    · exact isNaN_unpack_infinity s
    next hsmall =>
      -- an exponent field that is full would have been packed as an infinity
      split
      · apply isNaN_unpack_packComponents
        intro hfull
        have hbits := congrArg BitVec.toNat hfull
        have hones : (-1#11 : BitVec 11).toNat = 2047 := rfl
        rw [BitVec.toNat_ofNat, hones] at hbits
        omega
      · exact isNaN_unpack_packComponents s _ (by decide)

/-! ### Rounding -/

theorem isNaN_roundWithAccuracy (s : Sign) (m : ℕ) (e : ℤ) (a : UnpackedFloat.Accuracy) :
    (UnpackedFloat.roundWithAccuracy .binary64 s m e a).isNaN = false := by
  unfold UnpackedFloat.roundWithAccuracy
  simp only
  split <;> rfl

theorem isNaN_normalize (m e : ℤ) (s : Sign) :
    (UnpackedFloat.normalize .binary64 m e s).isNaN = false := by
  unfold UnpackedFloat.normalize
  split
  · exact isNaN_roundWithAccuracy _ _ _ _
  · rfl
  · exact isNaN_roundWithAccuracy _ _ _ _

/-! ### Adding unpacked numbers -/

@[simp]
theorem neg_negative : -Sign.negative = Sign.positive := rfl

@[simp]
theorem neg_positive : -Sign.positive = Sign.negative := rfl

theorem isNaN_unpackedAdd_iff (x y : UnpackedFloat) :
    (UnpackedFloat.add .binary64 x y).isNaN = true ↔
      x.isNaN = true ∨ y.isNaN = true ∨ ∃ s, x = .infinity s ∧ y = .infinity (-s) := by
  cases x <;> cases y
  case infinity.infinity s t =>
    cases s <;> cases t <;> simp [UnpackedFloat.add, UnpackedFloat.isNaN]
  case zero.zero s t => cases s <;> cases t <;> simp [UnpackedFloat.add, UnpackedFloat.isNaN]
  case finite.finite =>
    refine iff_of_false ?_ (by simp [UnpackedFloat.isNaN])
    rw [Bool.not_eq_true]
    exact isNaN_normalize _ _ _
  all_goals simp [UnpackedFloat.add, UnpackedFloat.isNaN]

theorem unpackedSub_eq (x y : UnpackedFloat) :
    UnpackedFloat.sub .binary64 x y = UnpackedFloat.add .binary64 x y.neg := by
  have happly : ∀ (s : Sign) (m : ℤ), (-s).apply m = -s.apply m := by
    intro s m
    cases s
    · exact (neg_neg m).symm
    · rfl
  cases x <;> cases y <;> simp only [UnpackedFloat.sub, UnpackedFloat.add, UnpackedFloat.neg]
  rw [happly, sub_eq_add_neg]

theorem isNaN_unpackedSub_iff (x y : UnpackedFloat) :
    (UnpackedFloat.sub .binary64 x y).isNaN = true ↔
      x.isNaN = true ∨ y.isNaN = true ∨ ∃ s, x = .infinity s ∧ y = .infinity s := by
  have hneg : ∀ s, y.neg = .infinity (-s) ↔ y = .infinity s := by
    intro s
    cases y with
    | infinity t => cases s <;> cases t <;> simp [UnpackedFloat.neg]
    | _ => simp [UnpackedFloat.neg]
  have hnan : y.neg.isNaN = y.isNaN := by cases y <;> rfl
  rw [unpackedSub_eq, isNaN_unpackedAdd_iff, hnan]
  simp only [hneg]

/-! ### Infinities -/

theorem sign_of_unpack {b : BitVec 64} {s : Sign}
    (h : UnpackedFloat.unpack .binary64 b = .infinity s) : sign b = s := by
  by_cases he : exponentBits b = -1#11
  · rw [UnpackedFloat.unpack] at h
    simp only [exponentBits] at he
    simp only [he, if_true] at h
    split at h
    · exact UnpackedFloat.infinity.inj h
    · contradiction
  · have hfinite := isFinite_ofFields (sign b) (exponentBits b) (fractionBits b)
    rw [← unpack_eq_ofFields he, h] at hfinite
    contradiction

theorem unpack_eq_infinity_iff (v : Float) (s : Sign) :
    v.toModel.unpack = .infinity s ↔ v.isInf = true ∧ sign v.toBits.toBitVec = s := by
  constructor
  · intro h
    refine ⟨?_, sign_of_unpack h⟩
    change v.toModel.unpack.isInf = true
    rw [h]
    rfl
  · rintro ⟨h, rfl⟩
    change v.toModel.unpack.isInf = true at h
    cases hu : v.toModel.unpack with
    | infinity s => exact congrArg UnpackedFloat.infinity (sign_of_unpack hu).symm
    | _ =>
      rw [hu] at h
      contradiction

theorem sign_eq_iff (a b : Float) :
    sign b.toBits.toBitVec = sign a.toBits.toBitVec ↔ isNegative a = isNegative b := by
  rw [isNegative_eq, isNegative_eq]
  cases sign a.toBits.toBitVec <;> cases sign b.toBits.toBitVec <;> simp

theorem sign_eq_neg_iff (a b : Float) :
    sign b.toBits.toBitVec = -sign a.toBits.toBitVec ↔ isNegative a ≠ isNegative b := by
  rw [isNegative_eq, isNegative_eq]
  cases sign a.toBits.toBitVec <;> cases sign b.toBits.toBitVec <;> simp

/-! ### Sums -/

/-- **A sum is not a number only if a part of it is not, or if two infinities of opposite signs are
added.** -/
theorem isNaN_add_iff (a b : Float) :
    (a + b).isNaN = true ↔
      a.isNaN = true ∨ b.isNaN = true ∨
      (a.isInf = true ∧ b.isInf = true ∧ isNegative a ≠ isNegative b) := by
  have hopposite : (∃ s, a.toModel.unpack = .infinity s ∧ b.toModel.unpack = .infinity (-s)) ↔
      a.isInf = true ∧ b.isInf = true ∧ isNegative a ≠ isNegative b := by
    simp only [unpack_eq_infinity_iff, ← sign_eq_neg_iff]
    constructor
    · rintro ⟨_, ⟨ha, rfl⟩, hb, h⟩
      exact ⟨ha, hb, h⟩
    · rintro ⟨ha, hb, h⟩
      exact ⟨_, ⟨ha, rfl⟩, hb, h⟩
  change (UnpackedFloat.unpack .binary64 (UnpackedFloat.pack .binary64
    (UnpackedFloat.add .binary64 a.toModel.unpack b.toModel.unpack))).isNaN = true ↔ _
  rw [isNaN_unpack_pack, isNaN_unpackedAdd_iff, hopposite]
  rfl

/-- **A difference is not a number only if a part of it is not, or if two infinities of one sign are
subtracted.** -/
theorem isNaN_sub_iff (a b : Float) :
    (a - b).isNaN = true ↔
      a.isNaN = true ∨ b.isNaN = true ∨
      (a.isInf = true ∧ b.isInf = true ∧ isNegative a = isNegative b) := by
  have hsame : (∃ s, a.toModel.unpack = .infinity s ∧ b.toModel.unpack = .infinity s) ↔
      a.isInf = true ∧ b.isInf = true ∧ isNegative a = isNegative b := by
    simp only [unpack_eq_infinity_iff, ← sign_eq_iff]
    constructor
    · rintro ⟨_, ⟨ha, rfl⟩, hb, h⟩
      exact ⟨ha, hb, h⟩
    · rintro ⟨ha, hb, h⟩
      exact ⟨_, ⟨ha, rfl⟩, hb, h⟩
  change (UnpackedFloat.unpack .binary64 (UnpackedFloat.pack .binary64
    (UnpackedFloat.sub .binary64 a.toModel.unpack b.toModel.unpack))).isNaN = true ↔ _
  rw [isNaN_unpack_pack, isNaN_unpackedSub_iff, hsame]
  rfl

end Calculator.Number

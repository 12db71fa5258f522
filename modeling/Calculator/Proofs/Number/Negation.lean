import Calculator.Proofs.Number.Sums

/-! # Negating twice

Negating a number only changes its sign (`unpack_neg`): the bits of the fields stay, an infinity
stays one, and so does what is no number, of which there is only one. So whoever negates twice has
the number again (`negated_twice`).
-/

namespace Calculator.Number

open Float.Model (UnpackedFloat Format)
open Float.Model.UnpackedFloat (packComponents Sign)

theorem fractionBits_packComponents (s : Sign) (e : BitVec 11) (m : BitVec 52) :
    fractionBits (packComponents .binary64 s e m) = m := by
  apply BitVec.eq_of_toNat_eq
  have he := e.isLt
  have hm := m.isLt
  rw [toNat_fractionBits, toNat_packComponents]
  omega

theorem sign_packComponents (s : Sign) (e : BitVec 11) (m : BitVec 52) :
    sign (packComponents .binary64 s e m) = s := by
  have he := e.isLt
  have hm := m.isLt
  have hsign := toNat_sign (packComponents .binary64 s e m)
  have hbits : (sign (packComponents .binary64 s e m)).toBitVec.toNat = s.toBitVec.toNat := by
    rw [hsign, toNat_packComponents]
    omega
  cases s <;> cases hs : sign (packComponents .binary64 _ e m) <;>
    first | rfl | (rw [hs] at hbits; contradiction)

theorem unpack_of_full {b : BitVec 64} (he : exponentBits b = -1#11) :
    UnpackedFloat.unpack .binary64 b =
      if fractionBits b = 0#52 then .infinity (sign b) else .notANumber := by
  simp only [exponentBits] at he
  simp only [UnpackedFloat.unpack, he, if_true, sign, fractionBits]
  rfl

theorem pack_unpack (v : Float) :
    UnpackedFloat.pack .binary64 v.toModel.unpack = v.toBits.toBitVec := by
  obtain ⟨⟨b, hvalid⟩⟩ := v
  change UnpackedFloat.pack .binary64 (UnpackedFloat.unpack .binary64 b.toBitVec) = b.toBitVec
  by_cases he : exponentBits b.toBitVec = -1#11
  · rw [unpack_of_full he]
    by_cases hm : fractionBits b.toBitVec = 0#52
    · have hfields := packComponents_fields b.toBitVec
      rw [he, hm] at hfields
      rw [if_pos hm]
      exact hfields
    · rw [if_neg hm]
      exact (hvalid.eq_packedNaN he hm).symm
  · rw [unpack_eq_ofFields he, pack_ofFields _ _ he, packComponents_fields]

theorem eq_of_unpack_eq {v w : Float} (h : v.toModel.unpack = w.toModel.unpack) : v = w := by
  apply eq_of_toBits_eq
  apply UInt64.toBitVec_inj.mp
  rw [← pack_unpack v, ← pack_unpack w, h]

theorem unpack_pack_ofFields (s : Sign) {e : BitVec 11} (m : BitVec 52) (he : e ≠ -1#11) :
    UnpackedFloat.unpack .binary64 (UnpackedFloat.pack .binary64 (ofFields s e m)) =
      ofFields s e m := by
  rw [pack_ofFields _ _ he, unpack_eq_ofFields (by rwa [exponentBits_packComponents]),
    sign_packComponents, exponentBits_packComponents, fractionBits_packComponents]

/-- **A negated number is the number with the other sign.** -/
theorem unpack_neg (v : Float) : (-v).toModel.unpack = v.toModel.unpack.neg := by
  change UnpackedFloat.unpack .binary64 (UnpackedFloat.pack .binary64 v.toModel.unpack.neg) =
    v.toModel.unpack.neg
  have hbits : v.toModel.unpack = UnpackedFloat.unpack .binary64 v.toBits.toBitVec := rfl
  by_cases he : exponentBits v.toBits.toBitVec = -1#11
  · rw [hbits, unpack_of_full he]
    split
    · cases sign v.toBits.toBitVec <;> rfl
    · rfl
  · rw [hbits, unpack_eq_ofFields he, neg_ofFields, unpack_pack_ofFields _ _ he]

/-- **Whoever negates twice has the number again.** -/
theorem negated_twice (v : Float) : - -v = v := by
  have hsign : v.toModel.unpack.neg.neg = v.toModel.unpack := by
    cases v.toModel.unpack with
    | notANumber => rfl
    | infinity s | zero s | finite s => cases s <;> rfl
  apply eq_of_unpack_eq
  rw [unpack_neg, unpack_neg, hsign]

end Calculator.Number

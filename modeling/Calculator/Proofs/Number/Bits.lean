import Mathlib
import Calculator.Number.Read

/-! # The bits of a number

A number that is finite is determined by its sign and by the bits of its magnitude
(`withSign_ofBits`). The bits are in the order of the fields: the sign, the exponent, the fraction.
Packing a number's fields and unpacking them again changes nothing as long as the exponent field is
not full (`pack_ofFields`, `unpack_eq_ofFields`); a full field means infinity or NaN
(`isFinite_iff`).
-/

namespace Calculator.Number

open Float.Model (UnpackedFloat Format)
open Float.Model.UnpackedFloat (packComponents Sign)

/-! ### Fields -/

/-- The exponent field of some bits. -/
def exponentBits (b : BitVec 64) : BitVec 11 :=
  @UnpackedFloat.unpackExponent .binary64 b

/-- The fraction field of some bits. -/
def fractionBits (b : BitVec 64) : BitVec 52 :=
  @UnpackedFloat.unpackMantissa .binary64 b

/-- The sign of some bits. -/
def sign (b : BitVec 64) : Sign :=
  .ofBitVec (@UnpackedFloat.unpackSign .binary64 b)

theorem toNat_exponentBits (b : BitVec 64) :
    (exponentBits b).toNat = b.toNat / 2 ^ 52 % 2 ^ 11 := by
  simp [exponentBits, UnpackedFloat.unpackExponent, Nat.shiftRight_eq_div_pow]

theorem toNat_fractionBits (b : BitVec 64) : (fractionBits b).toNat = b.toNat % 2 ^ 52 := by
  simp [fractionBits, UnpackedFloat.unpackMantissa]

theorem toNat_sign (b : BitVec 64) : (sign b).toBitVec.toNat = b.toNat / 2 ^ 63 := by
  have hb := b.isLt
  have hbit : (@UnpackedFloat.unpackSign .binary64 b).toNat = b.toNat / 2 ^ 63 := by
    simp only [UnpackedFloat.unpackSign, BitVec.toNat_cast, BitVec.extractLsb_toNat,
      Nat.shiftRight_eq_div_pow]
    norm_num
    omega
  rw [← hbit, sign, Sign.ofBitVec]
  split
  next h => rw [h]; rfl
  next h =>
    have hne : (@UnpackedFloat.unpackSign .binary64 b).toNat ≠ 0 := by
      intro h0
      exact h (BitVec.eq_of_toNat_eq h0)
    have hlt := (@UnpackedFloat.unpackSign .binary64 b).isLt
    have hone : Sign.toBitVec .negative = 1#1 := rfl
    rw [hone, BitVec.toNat_ofNat]
    omega

theorem toNat_packComponents (s : Sign) (e : BitVec 11) (m : BitVec 52) :
    (packComponents .binary64 s e m).toNat =
      s.toBitVec.toNat * 2 ^ 63 + e.toNat * 2 ^ 52 + m.toNat := by
  have he := e.isLt
  have hm := m.isLt
  rw [packComponents, BitVec.toNat_append, BitVec.toNat_append, ← Nat.shiftLeft_add_eq_or_of_lt hm,
    ← Nat.shiftLeft_add_eq_or_of_lt he, Nat.shiftLeft_eq, Nat.shiftLeft_eq]
  omega

theorem packComponents_fields (b : BitVec 64) :
    packComponents .binary64 (sign b) (exponentBits b) (fractionBits b) = b := by
  apply BitVec.eq_of_toNat_eq
  have hb := b.isLt
  rw [toNat_packComponents, toNat_sign, toNat_exponentBits, toNat_fractionBits]
  omega

/-! ### Packing -/

/-- The number with these fields, unless the exponent field is full. -/
def ofFields (s : Sign) (e : BitVec 11) (m : BitVec 52) : UnpackedFloat :=
  if e = 0#11 then
    if h : m = 0#52 then .zero s
    else .finite s m.toNat (-1074) (by simpa [BitVec.toNat_pos, BitVec.pos_iff_ne_zero])
  else .finite s (2 ^ 52 + m.toNat) (e.toNat - 1075) (by omega)

theorem unpack_eq_ofFields {b : BitVec 64} (he : exponentBits b ≠ -1#11) :
    UnpackedFloat.unpack .binary64 b = ofFields (sign b) (exponentBits b) (fractionBits b) := by
  have happ : (1#1 ++ fractionBits b).toNat = 2 ^ 52 + (fractionBits b).toNat := by
    rw [BitVec.toNat_append, ← Nat.shiftLeft_add_eq_or_of_lt (fractionBits b).isLt]
    rfl
  simp only [exponentBits, fractionBits] at he happ
  have hfull : @UnpackedFloat.unpackExponent .binary64 b ≠ 2047#11 := he
  by_cases h0 : @UnpackedFloat.unpackExponent .binary64 b = 0#11
  · by_cases hm : @UnpackedFloat.unpackMantissa .binary64 b = 0#52
    · simp [UnpackedFloat.unpack, ofFields, sign, exponentBits, fractionBits, h0, hm]
    · simp [UnpackedFloat.unpack, ofFields, sign, exponentBits, fractionBits, h0, hm,
        Format.exponentBias]
  · simp [UnpackedFloat.unpack, ofFields, sign, exponentBits, fractionBits, hfull, h0, happ,
      Format.exponentBias]

theorem neg_ofFields (s : Sign) (e : BitVec 11) (m : BitVec 52) :
    (ofFields s e m).neg = ofFields (-s) e m := by
  unfold ofFields
  split
  · split <;> rfl
  · rfl

theorem isFinite_ofFields (s : Sign) (e : BitVec 11) (m : BitVec 52) :
    (ofFields s e m).isFinite = true := by
  unfold ofFields
  split
  · split <;> rfl
  · rfl

theorem pack_ofFields (s : Sign) {e : BitVec 11} (m : BitVec 52) (he : e ≠ -1#11) :
    UnpackedFloat.pack .binary64 (ofFields s e m) = packComponents .binary64 s e m := by
  have hm := m.isLt
  have helt := e.isLt
  have hefull : e.toNat ≠ 2 ^ 11 - 1 := fun h => he (BitVec.eq_of_toNat_eq h)
  unfold ofFields
  split
  next h =>
    subst h
    split
    next h => subst h; rfl
    next h =>
      have hpos : m.toNat ≠ 0 := fun h0 => h (BitVec.eq_of_toNat_eq h0)
      have hlog : m.toNat.log2 < 52 := (Nat.log2_lt hpos).mpr hm
      rw [UnpackedFloat.pack, if_neg (by simp [Format.exponentBias]),
        if_neg (by simp [Format.mantissaBits]; omega)]
      simp
  next h =>
    have hpos : e.toNat ≠ 0 := fun h0 => h (BitVec.eq_of_toNat_eq h0)
    have hlog : (2 ^ 52 + m.toNat).log2 = 52 := by
      rw [Nat.log2_eq_iff (by omega)]
      omega
    have hbias :
        ((e.toNat : Int) - 1075 + ((2 ^ (11 - 1) - 1 : Nat) : Int) + ((52 : Nat) : Int)).toNat
        = e.toNat := by omega
    have hcarry : BitVec.ofNat 52 (2 ^ 52 + m.toNat) = m := by
      apply BitVec.eq_of_toNat_eq
      rw [BitVec.toNat_ofNat]
      omega
    rw [UnpackedFloat.pack]
    simp only [Format.exponentBias, Format.mantissaBits, hbias, hlog, hcarry]
    rw [if_neg (by omega), if_pos trivial, BitVec.ofNat_toNat]
    rfl

/-! ### Numbers -/

theorem eq_of_toBits_eq {v w : Float} (h : v.toBits = w.toBits) : v = w := by
  obtain ⟨⟨_, _⟩⟩ := v
  obtain ⟨⟨_, _⟩⟩ := w
  simp only [Float.toBits] at h
  subst h
  rfl

theorem toBits_ofBits_toNat (b : UInt64) (he : exponentBits b.toBitVec ≠ -1#11) :
    (Float.ofBits b).toBits = b := by
  apply UInt64.toBitVec_inj.mp
  show UnpackedFloat.pack .binary64 (UnpackedFloat.unpack .binary64 b.toBitVec) = b.toBitVec
  rw [unpack_eq_ofFields he, pack_ofFields _ _ he, packComponents_fields]

theorem toBits_neg (v : Float) (he : exponentBits v.toBits.toBitVec ≠ -1#11) :
    (-v).toBits.toBitVec = packComponents .binary64 (-sign v.toBits.toBitVec)
      (exponentBits v.toBits.toBitVec) (fractionBits v.toBits.toBitVec) := by
  show UnpackedFloat.pack .binary64 (UnpackedFloat.unpack .binary64 v.toBits.toBitVec).neg = _
  rw [unpack_eq_ofFields he, neg_ofFields, pack_ofFields _ _ he]

theorem exponentBits_ne_iff (v : Float) :
    exponentBits v.toBits.toBitVec ≠ -1#11 ↔ magnitudeBits v < infinityBits := by
  have hb : v.toBits.toBitVec.toNat = v.toBits.toNat := rfl
  have hlt := v.toBits.toBitVec.isLt
  have hfull : (-1#11 : BitVec 11).toNat = 2047 := rfl
  rw [ne_eq, ← BitVec.toNat_inj, toNat_exponentBits, hfull, magnitudeBits, infinityBits, signBit,
    hiddenBit, hb]
  rw [hb] at hlt
  omega

theorem isFinite_iff (v : Float) : v.isFinite = true ↔ magnitudeBits v < infinityBits := by
  rw [← exponentBits_ne_iff]
  show (UnpackedFloat.unpack .binary64 v.toBits.toBitVec).isFinite = true ↔ _
  constructor
  · intro h he
    rw [UnpackedFloat.unpack] at h
    simp only [exponentBits] at he
    simp only [he, if_true] at h
    split at h <;> simp [UnpackedFloat.isFinite] at h
  · intro he
    rw [unpack_eq_ofFields he, isFinite_ofFields]

theorem isNaN_of_isFinite {v : Float} (h : v.isFinite = true) : v.isNaN = false := by
  have h' : v.toModel.unpack.isFinite = true := h
  show v.toModel.unpack.isNaN = false
  cases hu : v.toModel.unpack with
  | notANumber => rw [hu] at h'; simp [UnpackedFloat.isFinite] at h'
  | infinity s => rfl
  | zero s => rfl
  | finite s m e hm => rfl

theorem isInf_of_isFinite {v : Float} (h : v.isFinite = true) : v.isInf = false := by
  have h' : v.toModel.unpack.isFinite = true := h
  show v.toModel.unpack.isInf = false
  cases hu : v.toModel.unpack with
  | notANumber => rfl
  | infinity s => rw [hu] at h'; simp [UnpackedFloat.isFinite] at h'
  | zero s => rfl
  | finite s m e hm => rfl

theorem isNaN_of_isInf {v : Float} (h : v.isInf = true) : v.isNaN = false := by
  have h' : v.toModel.unpack.isInf = true := h
  show v.toModel.unpack.isNaN = false
  cases hu : v.toModel.unpack with
  | infinity s => rfl
  | notANumber | zero | finite => rw [hu] at h'; simp [UnpackedFloat.isInf] at h'

theorem isInf_of_not_isFinite {v : Float} (h : ¬ v.isFinite = true) (hnan : ¬ v.isNaN = true) :
    v.isInf = true := by
  have h' : ¬ v.toModel.unpack.isFinite = true := h
  have hnan' : ¬ v.toModel.unpack.isNaN = true := hnan
  show v.toModel.unpack.isInf = true
  cases hu : v.toModel.unpack with
  | infinity s => rfl
  | notANumber => rw [hu] at hnan'; exact absurd rfl hnan'
  | zero | finite => rw [hu] at h'; exact absurd rfl h'

theorem sign_eq_negative_iff (v : Float) :
    sign v.toBits.toBitVec = .negative ↔ isNegative v = true := by
  have hsign := toNat_sign v.toBits.toBitVec
  have hb : v.toBits.toBitVec.toNat = v.toBits.toNat := rfl
  have hlt := v.toBits.toBitVec.isLt
  have hone : (Sign.toBitVec .negative).toNat = 1 := rfl
  have hzero : (Sign.toBitVec .positive).toNat = 0 := rfl
  rw [hb] at hsign hlt
  rw [isNegative, decide_eq_true_eq, signBit, hiddenBit]
  cases hs : sign v.toBits.toBitVec with
  | negative =>
    rw [hs, hone] at hsign
    exact iff_of_true rfl (by omega)
  | positive =>
    rw [hs, hzero] at hsign
    exact iff_of_false nofun (by omega)

theorem isNegative_eq (v : Float) :
    isNegative v = match sign v.toBits.toBitVec with | .negative => true | .positive => false := by
  have h := sign_eq_negative_iff v
  cases hs : sign v.toBits.toBitVec with
  | negative => exact h.mp hs
  | positive =>
    rw [← Bool.not_eq_true, ← h, hs]
    nofun

/-- **A finite number is its sign and its magnitude.** -/
theorem withSign_ofBits {v : Float} (h : v.isFinite = true) :
    withSign (isNegative v) (Float.ofBits (UInt64.ofNat (magnitudeBits v))) = v := by
  have he : exponentBits v.toBits.toBitVec ≠ -1#11 :=
    (exponentBits_ne_iff v).mpr ((isFinite_iff v).mp h)
  have hlt := v.toBits.toBitVec.isLt
  have hb : v.toBits.toBitVec.toNat = v.toBits.toNat := rfl
  rw [hb] at hlt
  have hmag : (UInt64.ofNat (magnitudeBits v)).toBitVec.toNat = v.toBits.toNat % 2 ^ 63 := by
    show (UInt64.ofNat (magnitudeBits v)).toNat = _
    rw [UInt64.toNat_ofNat', magnitudeBits, signBit, hiddenBit]
    omega
  have hexp : exponentBits (UInt64.ofNat (magnitudeBits v)).toBitVec =
      exponentBits v.toBits.toBitVec := by
    apply BitVec.eq_of_toNat_eq
    rw [toNat_exponentBits, toNat_exponentBits, hmag, hb]
    omega
  have hfrac : fractionBits (UInt64.ofNat (magnitudeBits v)).toBitVec =
      fractionBits v.toBits.toBitVec := by
    apply BitVec.eq_of_toNat_eq
    rw [toNat_fractionBits, toNat_fractionBits, hmag, hb]
    omega
  have hpos : sign (UInt64.ofNat (magnitudeBits v)).toBitVec = .positive := by
    have := toNat_sign (UInt64.ofNat (magnitudeBits v)).toBitVec
    rw [hmag] at this
    cases hs : sign (UInt64.ofNat (magnitudeBits v)).toBitVec with
    | positive => rfl
    | negative =>
      rw [hs] at this
      have hone : (Sign.toBitVec .negative).toNat = 1 := rfl
      rw [hone] at this
      omega
  have hround : (Float.ofBits (UInt64.ofNat (magnitudeBits v))).toBits =
      UInt64.ofNat (magnitudeBits v) :=
    toBits_ofBits_toNat _ (by rw [hexp]; exact he)
  apply eq_of_toBits_eq
  apply UInt64.toBitVec_inj.mp
  rw [← packComponents_fields v.toBits.toBitVec]
  cases hn : isNegative v with
  | true =>
    have hneg : sign v.toBits.toBitVec = .negative := (sign_eq_negative_iff v).mpr hn
    rw [withSign, if_pos rfl, toBits_neg _ (by rw [hround, hexp]; exact he), hround, hpos, hexp,
      hfrac, hneg]
    rfl
  | false =>
    have hle : ¬ signBit ≤ v.toBits.toNat := by simpa [isNegative] using hn
    rw [signBit, hiddenBit] at hle
    rw [withSign, if_neg (by simp), hround, packComponents_fields]
    apply BitVec.eq_of_toNat_eq
    rw [hmag, hb]
    omega

theorem magnitudeBits_of_mantissa_eq_zero {v : Float} (h : mantissa v = 0) :
    magnitudeBits v = 0 := by
  unfold mantissa at h
  split at h
  next he =>
    rw [exponentField, hiddenBit] at he
    rw [fraction, hiddenBit] at h
    omega
  next => rw [hiddenBit] at h; omega

theorem isNegative_ofBits {b : ℕ} (hb : b ≤ infinityBits) :
    isNegative (Float.ofBits (UInt64.ofNat b)) = false := by
  rcases hb.lt_or_eq with hb | rfl
  · rw [infinityBits, hiddenBit] at hb
    have hnat : (UInt64.ofNat b).toNat = b := by
      rw [UInt64.toNat_ofNat']
      omega
    have hexp : exponentBits (UInt64.ofNat b).toBitVec ≠ -1#11 := by
      have hfull : (-1#11 : BitVec 11).toNat = 2047 := rfl
      have hbits : (UInt64.ofNat b).toBitVec.toNat = b := hnat
      rw [ne_eq, ← BitVec.toNat_inj, toNat_exponentBits, hfull, hbits]
      omega
    rw [isNegative, toBits_ofBits_toNat _ hexp, hnat, signBit, hiddenBit, decide_eq_false_iff_not]
    omega
  · decide +kernel

theorem isNegative_nearest (q : ℚ) : isNegative (nearest q) = false := by
  rw [nearest]
  split
  · exact isNegative_ofBits (min_le_right _ _)
  · decide +kernel

end Calculator.Number

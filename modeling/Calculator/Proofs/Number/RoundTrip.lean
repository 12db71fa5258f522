import Calculator.Proofs.Number.Denotation
import Calculator.Proofs.Number.Negation

/-! # The text of a number is read back

The text of a finite number is its shortest decimal, and that denotes the number, be it written with
an exponent or without. An infinity is told by its sign (`eq_of_isInf`), and there is only one NaN
(`eq_of_isNaN`). So every number is read back from its text, a zero with its sign (`ofText?_text`).
-/

namespace Calculator.Number

open Float.Model (UnpackedFloat)

/-! ### Numbers that are not finite -/

theorem unpack_of_isNaN {v : Float} (h : v.isNaN = true) : v.toModel.unpack = .notANumber := by
  change v.toModel.unpack.isNaN = true at h
  cases hu : v.toModel.unpack with
  | notANumber => rfl
  | infinity | zero | finite =>
    rw [hu] at h
    contradiction

theorem eq_of_isNaN {v w : Float} (hv : v.isNaN = true) (hw : w.isNaN = true) : v = w := by
  apply eq_of_unpack_eq
  rw [unpack_of_isNaN hv, unpack_of_isNaN hw]

theorem eq_of_isInf {v w : Float} (hv : v.isInf = true) (hw : w.isInf = true)
    (hsign : isNegative v = isNegative w) : v = w := by
  apply eq_of_unpack_eq
  rw [(unpack_eq_infinity_iff v _).mpr ⟨hv, rfl⟩, (unpack_eq_infinity_iff w _).mpr ⟨hw, rfl⟩,
    (sign_eq_iff v w).mpr hsign]

/-! ### Reading with a sign -/

theorem ofText?_signed (v : Float) {cs : List Char} (hcs : ∀ c ∈ cs.head?, isSign c = false) :
    ofText? (signed v cs) = (unsigned? cs).map (withSign (isNegative v)) := by
  rw [ofText?, splitSign_signed v hcs]

theorem ofText?_infinity {v : Float} (h : v.isInf = true) :
    ofText? (signed v ['i', 'n', 'f']) = some v := by
  have hword : unsigned? ['i', 'n', 'f'] = some (1.0 / 0.0) := by decide +kernel
  rw [ofText?_signed v (by simp [isSign]), hword, Option.map_some]
  congr 1
  cases hsign : isNegative v with
  | true => exact eq_of_isInf (by decide +kernel) h (by rw [hsign]; decide +kernel)
  | false => exact eq_of_isInf (by decide +kernel) h (by rw [hsign]; decide +kernel)

theorem ofText?_zero {v : Float} (h : v.isFinite = true) (hm : mantissa v = 0) :
    ofText? (signed v ['0', '.', '0']) = some v := by
  have hread : unsigned? ['0', '.', '0'] = some (Float.ofBits (UInt64.ofNat 0)) := by decide +kernel
  have hparts := withSign_ofBits h
  rw [magnitudeBits_of_mantissa_eq_zero hm] at hparts
  rw [ofText?_signed v (by simp [isSign]), hread, Option.map_some, hparts]

theorem ofText?_decimalText {v : Float} (h : v.isFinite = true) (hm : mantissa v ≠ 0) :
    ofText? (signed v (decimalText (shortest v))) = some v := by
  obtain ⟨n, cs, d, htext, hread, hvalue⟩ := exists_numeral_decimalText (shortest v)
  have hfloat : d.toFloat = (shortest v).toFloat := by
    rw [Decimal.toFloat, Decimal.toFloat, hvalue]
  rw [htext, ofText?_signed v (isSign_head_numeral n cs), unsigned?_append, hread, Option.map_some,
    Option.map_some, hfloat, toFloat_shortest h hm]

/-- **Every number is read back from its text.** -/
theorem ofText?_text (v : Float) : ofText? (text v).toList = some v := by
  rw [text, String.toList_ofList]
  split
  next hnan =>
    have hword : ofText? ['n', 'a', 'n'] = some (0.0 / 0.0) := by decide +kernel
    rw [hword, eq_of_isNaN hnan (by decide +kernel : (0.0 / 0.0 : Float).isNaN = true)]
  next hnan =>
  split
  next hinf => exact ofText?_infinity hinf
  next hinf =>
  have hfinite : v.isFinite = true := by
    by_contra hfinite
    exact hinf (isInf_of_not_isFinite hfinite hnan)
  split
  next hm => exact ofText?_zero hfinite hm
  next hm => exact ofText?_decimalText hfinite hm

end Calculator.Number

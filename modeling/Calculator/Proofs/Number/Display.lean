import Mathlib
import Calculator.Proofs.Lexing
import Calculator.Proofs.Number.Shortest
import Calculator.Proofs.Numeral

/-! # What is shown can be typed in again

The display of a finite number is a numeral behind an optional minus sign, and denotes the number
(`display_numeral`), unless this was `-0.0`, whose display has no sign (`shown`). So it is cut off
as a literal (`cutFrom_display`).

`toRat_numeral` is the middle of the proof: the zeros that fill up the positional text of a decimal
do not change its value.
-/

namespace Calculator

open Text

/-! ### Digits -/

namespace Number

theorem ofDigits_eq (ds : List Char) : ofDigits ds = Nat.ofDigitChars 10 ds 0 := rfl

theorem ofDigits_toDigits (n : ℕ) : ofDigits (Nat.toDigits 10 n) = n := by
  rw [ofDigits_eq, Nat.ofDigitChars_ten_toDigits]

theorem ofDigits_zeros (n : ℕ) (ds : List Char) :
    ofDigits (List.replicate n '0' ++ ds) = ofDigits ds := by
  rw [ofDigits_eq, Nat.ofDigitChars_append, Nat.ofDigitChars_replicate_zero, Nat.mul_zero,
    ofDigits_eq]

theorem ofDigits_append_zeros (ds : List Char) (n : ℕ) :
    ofDigits (ds ++ List.replicate n '0') = 10 ^ n * ofDigits ds := by
  rw [ofDigits_eq, Nat.ofDigitChars_append, Nat.ofDigitChars_replicate_zero, ofDigits_eq]

end Number

theorem isAsciiDigit_of_isDigit {c : Char} (h : c.isDigit = true) : isAsciiDigit c = true := by
  simpa [Char.isDigit, isAsciiDigit, Char.le_def] using h

namespace Decimal

variable (d : Decimal)

theorem digits_ne_nil : d.digits ≠ [] := Nat.toDigits_ne_nil

theorem all_digits : d.digits.all isAsciiDigit = true :=
  List.all_eq_true.mpr fun _ hc =>
    isAsciiDigit_of_isDigit (Nat.isDigit_of_mem_toDigits (by decide) (by decide) hc)

theorem all_zeros (n : ℕ) : (List.replicate n '0').all isAsciiDigit = true := by
  rw [List.all_replicate]
  split <;> decide

/-! ### The positional text -/

/-- The decimal as a numeral. -/
def numeral : Numeral :=
  if hexp : 0 ≤ d.exponent then
    { whole := d.digits ++ List.replicate d.exponent.toNat '0'
      behind := none
      all_digits := by
        rw [Option.getD_none, List.append_nil, List.all_append, d.all_digits, all_zeros]
        rfl
      digits_ne_nil := by simp [d.digits_ne_nil] }
  else if hplaces : (-d.exponent).toNat < d.digits.length then
    { whole := d.digits.take (d.digits.length - (-d.exponent).toNat)
      behind := some (d.digits.drop (d.digits.length - (-d.exponent).toNat))
      all_digits := by rw [Option.getD_some, List.take_append_drop, d.all_digits]
      digits_ne_nil := by
        rw [Option.getD_some, List.take_append_drop]
        exact d.digits_ne_nil }
  else
    { whole := ['0']
      behind := some (List.replicate ((-d.exponent).toNat - d.digits.length) '0' ++ d.digits)
      all_digits := by
        rw [Option.getD_some, List.all_append, List.all_append, all_zeros, d.all_digits]
        rfl
      digits_ne_nil := by simp }

theorem text_numeral : d.numeral.text = d.positional := by
  rw [numeral]
  simp only [positional]
  split
  · simp [Numeral.text]
  · split
    · simp [Numeral.text]
    · simp [Numeral.text]

/-- **The zeros of the positional text do not change the value.** -/
theorem toRat_numeral : d.numeral.decimal.toRat = d.toRat := by
  have hdigits : Number.ofDigits d.digits = d.coefficient := Number.ofDigits_toDigits _
  rw [numeral]
  split
  next hexp =>
    have hcast : (10 : ℚ) ^ d.exponent = 10 ^ d.exponent.toNat := by
      rw [← zpow_natCast, Int.toNat_of_nonneg hexp]
    simp only [Numeral.decimal, Number.ofPlaces, toRat, Option.getD_none, List.append_nil]
    rw [Number.ofDigits_append_zeros, hdigits, hcast]
    simp [mul_comm]
  next hexp =>
    split
    next hplaces =>
      have hlen : -((d.digits.length - (d.digits.length - (-d.exponent).toNat) : ℕ) : ℤ) =
          d.exponent := by
        omega
      simp only [Numeral.decimal, Number.ofPlaces, toRat, Option.getD_some]
      rw [List.take_append_drop, hdigits, List.length_drop, hlen]
    next hplaces =>
      have hlen : -(((-d.exponent).toNat - d.digits.length + d.digits.length : ℕ) : ℤ) =
          d.exponent := by
        omega
      have hzero :
          ['0'] ++ (List.replicate ((-d.exponent).toNat - d.digits.length) '0' ++ d.digits) =
          List.replicate ((-d.exponent).toNat - d.digits.length + 1) '0' ++ d.digits := by
        rw [List.replicate_succ]
        rfl
      simp only [Numeral.decimal, Number.ofPlaces, toRat, Option.getD_some]
      rw [hzero, Number.ofDigits_zeros, hdigits, List.length_append, List.length_replicate, hlen]

end Decimal

/-! ### The display -/

/-- The numeral zero. -/
def Numeral.zero : Numeral where
  whole := ['0']
  behind := none
  all_digits := by decide
  digits_ne_nil := by decide

/-- **The display of a finite number other than `-0.0` is a numeral with a sign that denotes the
number.** -/
theorem Number.display_numeral {v : Float} (hv : v.isFinite = true) (hzero : v ≠ -0.0) :
    ∃ (sign : Option Char) (n : Numeral), (∀ c ∈ sign, isSign c = true) ∧
      (display v).toList = sign.toList ++ n.text ∧
      withSign (sign == some '-') n.decimal.toFloat = v := by
  rw [display, isNaN_of_isFinite hv, isInf_of_isFinite hv, String.toList_ofList, if_neg (by simp),
    if_neg (by simp)]
  by_cases hm : mantissa v = 0
  · -- the sign of `-0.0` is the only one that is not shown
    have hparts := withSign_ofBits hv
    rw [magnitudeBits_of_mantissa_eq_zero hm] at hparts
    rw [if_pos hm]
    refine ⟨none, Numeral.zero, by simp, rfl, ?_⟩
    cases hneg : isNegative v with
    | true =>
      have hminus : withSign true (Float.ofBits (UInt64.ofNat 0)) = -0.0 := by decide +kernel
      rw [hneg, hminus] at hparts
      exact absurd hparts.symm hzero
    | false =>
      rw [hneg] at hparts
      rw [← hparts]
      decide +kernel
  · have hfloat := toFloat_shortest hv hm
    have hsame : (shortest v).numeral.decimal.toFloat = (shortest v).toFloat := by
      rw [Decimal.toFloat, Decimal.toFloat, Decimal.toRat_numeral]
    rw [if_neg hm]
    cases hneg : isNegative v with
    | true =>
      rw [hneg] at hfloat
      refine ⟨some '-', (shortest v).numeral, by simp [isSign], ?_, by rw [hsame]; exact hfloat⟩
      rw [signed, hneg, Decimal.text_numeral]
      rfl
    | false =>
      rw [hneg] at hfloat
      refine ⟨none, (shortest v).numeral, by simp, ?_, by rw [hsame]; exact hfloat⟩
      rw [signed, hneg, Decimal.text_numeral]
      rfl

theorem Number.display_eq {v : Float} (hv : v.isFinite = true) :
    (display v).toList = if mantissa v = 0 then ['0'] else signed v (shortest v).positional := by
  rw [display, isNaN_of_isFinite hv, isInf_of_isFinite hv, String.toList_ofList, if_neg (by simp),
    if_neg (by simp)]

/-- The number that the display of a number is read as. The sign of a zero is not displayed. -/
def Number.shown (v : Float) : Float :=
  if v = -0.0 then 0.0 else v

theorem Number.shown_of_ne {v : Float} (h : v ≠ -0.0) : shown v = v :=
  if_neg h

theorem Number.isNegative_of_display {v : Float} (hv : v.isFinite = true) {c : Char}
    {cs : List Char} (hc : isSign c = true) (h : (display v).toList = c :: cs) :
    isNegative v = true := by
  rw [display_eq hv] at h
  split at h
  · obtain ⟨rfl, -⟩ := List.cons.inj h
    contradiction
  · rw [signed] at h
    split at h
    next hneg => exact hneg
    next =>
      rw [← Decimal.text_numeral] at h
      have hnumber :=
        (shortest v).numeral.isNumberChar_of_mem (c := c) (by rw [h]; exact List.mem_cons_self)
      rcases eq_of_isSign hc with rfl | rfl <;> exact absurd hnumber (by decide)

/-- **The display of a finite number is a literal that is read as what it shows.** It has a sign
only if the number is negative. -/
theorem Number.display_literal {v : Float} (hv : v.isFinite = true) :
    ∃ l : Literal, (display v).toList = l.text ∧ (∀ c ∈ l.sign, isSign c = true) ∧
      (∀ c ∈ l.body, isNumberChar c = true) ∧ l.body ≠ [] ∧ (l.sign ≠ none → isNegative v = true) ∧
      ∀ strict, l.read strict = .ok (shown v) := by
  by_cases hzero : v = -0.0
  · refine ⟨⟨none, Numeral.zero.text⟩, ?_, by simp, fun c hc => Numeral.zero.isNumberChar_of_mem hc,
      Numeral.zero.text_ne_nil, by simp, fun strict => ?_⟩
    · rw [hzero]
      decide +kernel
    · have hshown : withSign false Numeral.zero.decimal.toFloat = shown (-0.0) := by decide +kernel
      rw [hzero, Numeral.read_numeral, ← hshown]
      rfl
  · obtain ⟨sign, n, hsign, htext, hvalue⟩ := display_numeral hv hzero
    refine ⟨⟨sign, n.text⟩, htext, hsign, fun c hc => n.isNumberChar_of_mem hc, n.text_ne_nil,
      fun hsome => ?_, fun strict => ?_⟩
    · cases sign with
      | none => exact absurd rfl hsome
      | some c => exact isNegative_of_display hv (hsign c rfl) htext
    · rw [n.read_numeral, hvalue, shown_of_ne hzero]

/-- **The display of a finite number is cut off as a literal**, if an operand is expected in front
of a negative one. -/
theorem Number.cutFrom_display {v : Float} (hv : v.isFinite = true) :
    ∃ l : Literal, (∀ strict, l.read strict = .ok (shown v)) ∧ ∀ expects {rest},
      (isNegative v = true → expects = true) →
      Lexeme.Stops rest →
      Lexeme.cutFrom expects ((display v).toList ++ rest) =
        .literal l :: Lexeme.cutFrom false rest := by
  obtain ⟨l, htext, hsign, hbody, hne, hneg, hread⟩ := display_literal hv
  refine ⟨l, hread, fun expects rest hexpects hrest => ?_⟩
  rw [htext]
  exact Lexeme.cutFrom_literal hsign (fun hs => hexpects (hneg hs)) hbody hne hrest

theorem Number.display_ne_nil {v : Float} (hfinite : v.isFinite = true) :
    (display v).toList ≠ [] := by
  obtain ⟨l, htext, -, -, hne, -⟩ := display_literal hfinite
  rw [htext, Literal.text]
  intro h
  exact hne (List.append_eq_nil_iff.mp h).2

theorem Number.not_isWhiteSpace_display {v : Float} (hfinite : v.isFinite = true) {c : Char}
    (hc : c ∈ (display v).toList) : isWhiteSpace c = false := by
  obtain ⟨l, htext, hsign, hbody, -⟩ := display_literal hfinite
  rw [htext, Literal.text] at hc
  rcases List.mem_append.mp hc with hc | hc
  · rcases eq_of_isSign (hsign c (by simpa using hc)) with rfl | rfl <;> decide
  · have hblank := isBlank_of_isNumberChar (hbody c hc)
    rw [isBlank, Bool.or_eq_false_iff] at hblank
    exact hblank.2

end Calculator

import Mathlib
import Calculator.Proofs.Number.Display
import Calculator.Proofs.Number.Reach

/-! # What a number that is written denotes

A numeral denotes its decimal, with the exponent behind it if there is one
(`unsignedDecimal?_append`). So it is read as the number nearest to this decimal, wherever numbers
are read (`ofText?_numeral`).

The exact value of a text (`exactValue?`) is what its digits denote before anything is rounded. A
finite number's text and its display have the same exact value (`exactValue?_text`,
`exactValue?_display`), though the one may have an exponent and the other has none.
-/

namespace Calculator.Number

open Text

/-! ### The parts of a number -/

theorem isAsciiDigit_of_isNumberChar {c : Char} (h : isNumberChar c = false) :
    isAsciiDigit c = false ∧ c ≠ '.' := by
  simpa [isNumberChar] using h

theorem splitSign_append {sign : Option Char} (hsign : ∀ c ∈ sign, isSign c = true) {cs : List Char}
    (hcs : ∀ c ∈ cs.head?, isSign c = false) :
    splitSign (sign.toList ++ cs) = (sign == some '-', cs) := by
  cases sign with
  | some c => rcases eq_of_isSign (hsign c rfl) with rfl | rfl <;> rfl
  | none =>
    cases cs with
    | nil => rfl
    | cons c cs =>
      have hc : isSign c = false := hcs c rfl
      simp only [isSign, Bool.or_eq_false_iff, beq_eq_false_iff_ne] at hc
      simp [splitSign, hc]

theorem head_numeral (n : Numeral) (cs : List Char) :
    ∃ c rest, n.text ++ cs = c :: rest ∧ isNumberChar c = true := by
  obtain ⟨c, rest, heq⟩ := List.exists_cons_of_ne_nil n.text_ne_nil
  exact ⟨c, rest ++ cs, by rw [heq]; rfl, n.isNumberChar_of_mem (by simp [heq])⟩

theorem isSign_of_isNumberChar {c : Char} (h : isNumberChar c = true) : isSign c = false := by
  cases hc : isSign c with
  | false => rfl
  | true => rcases eq_of_isSign hc with rfl | rfl <;> contradiction

theorem isSign_head_numeral (n : Numeral) (cs : List Char) :
    ∀ c ∈ (n.text ++ cs).head?, isSign c = false := by
  obtain ⟨c, rest, heq, hc⟩ := head_numeral n cs
  rw [heq]
  rintro d ⟨⟩
  exact isSign_of_isNumberChar hc

theorem splitSign_numeral {sign : Option Char} (hsign : ∀ c ∈ sign, isSign c = true) (n : Numeral)
    (cs : List Char) :
    splitSign (sign.toList ++ (n.text ++ cs)) = (sign == some '-', n.text ++ cs) :=
  splitSign_append hsign (isSign_head_numeral n cs)

theorem splitSign_signed (v : Float) {cs : List Char} (hcs : ∀ c ∈ cs.head?, isSign c = false) :
    splitSign (signed v cs) = (isNegative v, cs) := by
  rw [signed]
  cases isNegative v with
  | true => rfl
  | false => exact @splitSign_append none (by simp) cs hcs

theorem span_digits {ds cs : List Char} (hds : ∀ c ∈ ds, isAsciiDigit c = true)
    (hcs : ∀ c ∈ cs.head?, isAsciiDigit c = false) :
    (ds ++ cs).takeWhile isAsciiDigit = ds ∧ (ds ++ cs).dropWhile isAsciiDigit = cs := by
  rw [List.takeWhile_append_of_pos hds, List.dropWhile_append_of_pos hds]
  cases cs with
  | nil => simp
  | cons c cs =>
    have hc : isAsciiDigit c = false := hcs c rfl
    rw [List.takeWhile_cons_of_neg (by simp [hc]), List.dropWhile_cons_of_neg (by simp [hc]),
      List.append_nil]
    exact ⟨rfl, rfl⟩

/-- **A numeral denotes its decimal, with the exponent behind it.** -/
theorem unsignedDecimal?_append (n : Numeral) {cs : List Char}
    (hcs : ∀ c ∈ cs.head?, isNumberChar c = false) :
    unsignedDecimal? (n.text ++ cs) =
      (exponentOf? cs).map fun k => ⟨n.decimal.coefficient, n.decimal.exponent + k⟩ := by
  have hstop : ∀ c ∈ cs.head?, isAsciiDigit c = false := fun c hc =>
    (isAsciiDigit_of_isNumberChar (hcs c hc)).1
  obtain ⟨whole, behind, hall, hne⟩ := n
  rw [List.all_append, Bool.and_eq_true, List.all_eq_true, List.all_eq_true] at hall
  obtain ⟨hwhole, hbehind⟩ := hall
  cases behind with
  | none =>
    have hspan := span_digits hwhole hstop
    simp only [Option.getD_none, List.append_nil] at hne
    simp only [unsignedDecimal?, Numeral.text, Numeral.decimal, Option.map_none, Option.getD_none,
      List.append_nil, hspan.1, hspan.2]
    cases cs with
    | nil => simp [hne]
    | cons c cs =>
      have hc := (isAsciiDigit_of_isNumberChar (hcs c rfl)).2
      simp [hne, hc]
  | some ds =>
    have hfront := @span_digits whole ('.' :: (ds ++ cs)) hwhole (by rintro c ⟨⟩; decide)
    have hspan := span_digits hbehind hstop
    simp only [Option.getD_some] at hne hspan
    simp only [unsignedDecimal?, Numeral.text, Numeral.decimal, Option.map_some, Option.getD_some,
      List.append_assoc, List.cons_append, hfront.1, hfront.2, hspan.1, hspan.2]
    rw [if_neg]
    simpa using hne

theorem unsignedDecimal?_numeral (n : Numeral) : unsignedDecimal? n.text = some n.decimal := by
  have h := @unsignedDecimal?_append n [] (by simp)
  rw [List.append_nil] at h
  rw [h]
  simp [exponentOf?]

/-! ### Reading a numeral -/

theorem toLower_of_isNumberChar {c : Char} (h : isNumberChar c = true) : c.toLower = c := by
  have := toNat_of_isNumberChar h
  rw [Char.toLower, dif_neg]
  simp only [ge_iff_le, UInt32.le_iff_toNat_le]
  intro hupper
  have : 65 ≤ c.toNat := hupper.1
  omega

/-- What begins with a digit or a point is none of the words for what is no finite number. -/
theorem unsigned?_cons {c : Char} (hc : isNumberChar c = true) (rest : List Char) :
    unsigned? (c :: rest) = (unsignedDecimal? (c :: rest)).map Decimal.toFloat := by
  have hword : ∀ (d : Char) (word : List Char), isNumberChar d = false →
      String.ofList ((c :: rest).map Char.toLower) ≠ String.ofList (d :: word) := by
    intro d word hd h
    rw [String.ofList_inj, List.map_cons, toLower_of_isNumberChar hc] at h
    rw [(List.cons.inj h).1, hd] at hc
    contradiction
  have hinf := hword 'i' ['n', 'f'] (by decide)
  have hinfinity := hword 'i' ['n', 'f', 'i', 'n', 'i', 't', 'y'] (by decide)
  have hnan := hword 'n' ['a', 'n'] (by decide)
  simp only [unsigned?, Bool.or_eq_true, decide_eq_true_eq, Decimal.toFloat_withinReach]
  rw [if_neg (not_or.mpr ⟨hinf, hinfinity⟩), if_neg hnan]

theorem unsigned?_append (n : Numeral) (cs : List Char) :
    unsigned? (n.text ++ cs) = (unsignedDecimal? (n.text ++ cs)).map Decimal.toFloat := by
  obtain ⟨c, rest, heq, hc⟩ := head_numeral n cs
  rw [heq, unsigned?_cons hc]

theorem unsigned?_numeral (n : Numeral) : unsigned? n.text = some n.decimal.toFloat := by
  have hread := unsigned?_append n []
  rw [List.append_nil, unsignedDecimal?_numeral] at hread
  exact hread

/-- **A numeral with a sign is read as the number nearest to its decimal.** -/
theorem ofText?_numeral {sign : Option Char} (hsign : ∀ c ∈ sign, isSign c = true) (n : Numeral) :
    ofText? (sign.toList ++ n.text) = some (withSign (sign == some '-') n.decimal.toFloat) := by
  have hsplit := splitSign_numeral hsign n []
  rw [List.append_nil] at hsplit
  rw [ofText?, hsplit, unsigned?_numeral]
  rfl

/-! ### Exact values -/

/-- The exact value of the text of a number, before it is rounded. -/
def exactValue? (cs : List Char) : Option ℚ :=
  (unsignedDecimal? (splitSign cs).2).map fun d => if (splitSign cs).1 then -d.toRat else d.toRat

/-- The exact value of the decimal that is written for a finite number. -/
def writtenValue (v : Float) : ℚ :=
  if mantissa v = 0 then 0 else if isNegative v then -(shortest v).toRat else (shortest v).toRat

theorem exactValue?_signed {v : Float} {n : Numeral} {cs : List Char} {d : Decimal}
    (h : unsignedDecimal? (n.text ++ cs) = some d) :
    exactValue? (signed v (n.text ++ cs)) = some (if isNegative v then -d.toRat else d.toRat) := by
  rw [exactValue?, splitSign_signed v (isSign_head_numeral n cs), h]
  rfl

theorem exactValue?_zero (v : Float) {n : Numeral} (h : n.decimal.toRat = 0) :
    exactValue? (signed v n.text) = some 0 := by
  have hread := unsignedDecimal?_numeral n
  have hexact := @exactValue?_signed v n [] n.decimal (by rw [List.append_nil, hread])
  rw [List.append_nil, h] at hexact
  rw [hexact]
  simp

theorem exactValue?_display {v : Float} (hv : v.isFinite = true) :
    exactValue? (display v).toList = some (writtenValue v) := by
  rw [display, isNaN_of_isFinite hv, isInf_of_isFinite hv, String.toList_ofList, if_neg (by simp),
    if_neg (by simp), writtenValue]
  split
  next hm =>
    have hzero : Numeral.zero.decimal.toRat = 0 := by decide +kernel
    have hunsigned := exactValue?_zero 0.0 hzero
    have hnone : isNegative 0.0 = false := by decide +kernel
    rw [signed, hnone] at hunsigned
    exact hunsigned
  next hm =>
    have hread := unsignedDecimal?_numeral (shortest v).numeral
    have hexact := @exactValue?_signed v (shortest v).numeral [] _ (by rw [List.append_nil, hread])
    rw [List.append_nil, Decimal.text_numeral, Decimal.toRat_numeral] at hexact
    exact hexact

/-! ### The text with an exponent -/

theorem exponentOf?_exponentText (k : ℤ) : exponentOf? (exponentText k) = some k := by
  have hdigits : ∀ c ∈ Nat.toDigits 10 k.natAbs, isAsciiDigit c = true := fun c hc =>
    isAsciiDigit_of_isDigit (Nat.isDigit_of_mem_toDigits (by decide) (by decide) hc)
  -- a zero may stand in front of the digits
  obtain ⟨ds, hds, hne, hall, hvalue⟩ : ∃ ds, (if (Nat.toDigits 10 k.natAbs).length < 2 then
      '0' :: Nat.toDigits 10 k.natAbs else Nat.toDigits 10 k.natAbs) = ds ∧ ds.isEmpty = false ∧
      ds.all isAsciiDigit = true ∧ ofDigits ds = k.natAbs := by
    refine ⟨_, rfl, ?_⟩
    split
    · have hzero := ofDigits_zeros 1 (Nat.toDigits 10 k.natAbs)
      rw [ofDigits_toDigits] at hzero
      refine ⟨rfl, ?_, hzero⟩
      rw [List.all_cons, List.all_eq_true.mpr hdigits]
      rfl
    · refine ⟨?_, List.all_eq_true.mpr hdigits, ofDigits_toDigits _⟩
      rw [List.isEmpty_eq_false_iff]
      exact Nat.toDigits_ne_nil
  rw [exponentText]
  simp only [hds]
  split
  next hk =>
    simp only [exponentOf?, splitSign, hne, hall, hvalue]
    simp only [decide_true, Bool.true_or, Bool.not_false, Bool.and_self, if_true, Option.some.injEq]
    omega
  next hk =>
    simp only [exponentOf?, splitSign, hne, hall, hvalue]
    simp only [decide_true, Bool.true_or, Bool.not_false, Bool.and_self, if_true,
      Bool.false_eq_true, if_false, Option.some.injEq]
    omega

theorem unsignedDecimal?_exponentText (n : Numeral) (k : ℤ) :
    unsignedDecimal? (n.text ++ exponentText k) =
      some ⟨n.decimal.coefficient, n.decimal.exponent + k⟩ := by
  have hmark : ∀ c ∈ (exponentText k).head?, isNumberChar c = false := by
    rintro c ⟨⟩
    decide
  rw [unsignedDecimal?_append n hmark, exponentOf?_exponentText]
  rfl

/-- One digit stands before the point, and the others behind it. -/
theorem exists_numeral_scientific (d : Decimal) (leading : ℤ) :
    ∃ n : Numeral, scientific d leading = n.text ++ exponentText leading ∧
      n.decimal = ⟨d.coefficient, 1 - d.digits.length⟩ := by
  have hdigits : ∀ c ∈ d.digits, isAsciiDigit c = true := List.all_eq_true.mp d.all_digits
  have hvalue : ofDigits d.digits = d.coefficient := ofDigits_toDigits _
  rw [scientific]
  cases hd : d.digits with
  | nil => exact absurd hd d.digits_ne_nil
  | cons c rest =>
    rw [hd] at hdigits hvalue
    cases rest with
    | nil =>
      refine ⟨⟨[c], none, by simpa using hdigits, by simp⟩, rfl, ?_⟩
      simp [Numeral.decimal, ofPlaces, hvalue]
    | cons c' rest =>
      refine ⟨⟨[c], some (c' :: rest), by simpa using hdigits, by simp⟩, by simp [Numeral.text], ?_⟩
      simp [Numeral.decimal, ofPlaces, hvalue]

/-- The zero behind the point of an integer. -/
theorem exists_numeral_integer {d : Decimal} (hd : 0 ≤ d.exponent) :
    ∃ n : Numeral, d.positional ++ ['.', '0'] = n.text ∧ n.decimal.toRat = d.toRat := by
  let n : Numeral := {
    whole := d.digits ++ List.replicate d.exponent.toNat '0'
    behind := some ['0']
    all_digits := by
      rw [Option.getD_some, List.all_append, List.all_append, d.all_digits, Decimal.all_zeros]
      rfl
    digits_ne_nil := by simp }
  have hzeros : n.whole ++ ['0'] = d.digits ++ List.replicate (d.exponent.toNat + 1) '0' := by
    simp [n, List.replicate_succ']
  have hpow : (10 : ℚ) ^ d.exponent = 10 ^ d.exponent.toNat := by
    rw [← zpow_natCast, Int.toNat_of_nonneg hd]
  refine ⟨n, by simp [n, Numeral.text, Decimal.positional, hd], ?_⟩
  calc n.decimal.toRat = (ofDigits (n.whole ++ ['0']) : ℕ) * 10 ^ (-1 : ℤ) := rfl
    _ = (10 ^ (d.exponent.toNat + 1) * d.coefficient : ℕ) * 10 ^ (-1 : ℤ) := by
      rw [hzeros, ofDigits_append_zeros, Decimal.digits, ofDigits_toDigits]
    _ = d.coefficient * 10 ^ d.exponent := by
      rw [hpow]
      push_cast
      rw [zpow_neg_one, pow_succ]
      field_simp

/-- **A numeral stands at the front of the text of a decimal, and the whole text denotes the
decimal.** -/
theorem exists_numeral_decimalText (d : Decimal) :
    ∃ (n : Numeral) (cs : List Char) (read : Decimal), decimalText d = n.text ++ cs ∧
      unsignedDecimal? (n.text ++ cs) = some read ∧ read.toRat = d.toRat := by
  have hwhole : ∀ n : Numeral, unsignedDecimal? (n.text ++ []) = some n.decimal := fun n => by
    rw [List.append_nil, unsignedDecimal?_numeral]
  simp only [decimalText]
  split
  · obtain ⟨n, htext, hdecimal⟩ := exists_numeral_scientific d (d.exponent + d.digits.length - 1)
    refine ⟨n, _, _, htext, unsignedDecimal?_exponentText n _, ?_⟩
    rw [hdecimal]
    simp only [Decimal.toRat]
    congr 2
    ring
  split
  next hexp =>
    obtain ⟨n, htext, hvalue⟩ := exists_numeral_integer hexp
    exact ⟨n, [], n.decimal, by rw [htext, List.append_nil], hwhole n, hvalue⟩
  next hexp =>
    exact ⟨d.numeral, [], d.numeral.decimal, by rw [List.append_nil, d.text_numeral], hwhole _,
      d.toRat_numeral⟩

/-- **The text of a finite number has the value of its shortest decimal**, be it with an exponent or
without. -/
theorem exactValue?_text {v : Float} (hv : v.isFinite = true) :
    exactValue? (text v).toList = some (writtenValue v) := by
  rw [text, isNaN_of_isFinite hv, isInf_of_isFinite hv, String.toList_ofList, if_neg (by simp),
    if_neg (by simp), writtenValue]
  split
  next hm =>
    let n : Numeral := ⟨['0'], some ['0'], by decide, by decide⟩
    have hzero : n.decimal.toRat = 0 := by decide +kernel
    exact exactValue?_zero v hzero
  next hm =>
    obtain ⟨n, cs, d, htext, hread, hvalue⟩ := exists_numeral_decimalText (shortest v)
    rw [htext, exactValue?_signed hread, hvalue]

end Calculator.Number

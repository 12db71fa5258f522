import Mathlib
import Calculator.Proofs.Evaluation
import Calculator.Proofs.Json.Standard
import Calculator.Proofs.Number.Denotation

/-! # The canonical text of a number

The display of a finite number has no superfluous zero (`canonical_display`), is short enough for
every expression (`length_display_le`), and has the value of the number's text
(`exactValue?_display`). So it can be typed in again: `display_canonical` says that it is read as
one number, and evaluates to it in every mode.

There is one exception to the last point: the display of `-0.0` has no sign, and `0.0` is read. The
two are equal as numbers, though not as bits.

* `canonical_numeral`: the numeral of a decimal is canonical if the coefficient does not end in
  zero.
* `searchGrids_bounds`: what the search for the shortest decimal can find.
-/

namespace Calculator

/-! ### Canonical numerals -/

/-- No zero stands in front of the digits before the point unless it is alone, and none at the end
of those behind. -/
structure Numeral.Canonical (n : Numeral) : Prop where
  whole : Json.Whole n.whole
  behind : ∀ ds, n.behind = some ds → ∃ d, ds.getLast? = some d ∧ d ≠ '0'

/-- The text is a canonical numeral, maybe behind a minus sign. -/
def Number.Canonical (cs : List Char) : Prop :=
  ∃ sign ∈ [[], ['-']], ∃ n : Numeral, n.Canonical ∧ cs = sign ++ n.text

namespace Decimal

theorem digitChar_ne_zero {n : ℕ} (h : n ≠ 0) (hn : n < 10) : n.digitChar ≠ '0' := by
  interval_cases n <;> first | contradiction | decide

theorem exists_getLast_digits {d : Decimal} (h : d.coefficient % 10 ≠ 0) :
    ∃ c, d.digits.getLast? = some c ∧ c ≠ '0' := by
  rw [digits]
  by_cases hsmall : d.coefficient < 10
  · rw [Nat.mod_eq_of_lt hsmall] at h
    rw [Nat.toDigits_of_lt_base hsmall]
    exact ⟨_, rfl, digitChar_ne_zero h hsmall⟩
  · rw [Nat.toDigits_of_base_le (by decide) (by omega), List.getLast?_concat]
    exact ⟨_, rfl, digitChar_ne_zero h (by omega)⟩

/-- **The numeral of a decimal is canonical if the coefficient does not end in zero.** -/
theorem canonical_numeral {d : Decimal} (h : d.coefficient % 10 ≠ 0) : d.numeral.Canonical := by
  have hne : d.coefficient ≠ 0 := by omega
  have hdigits : Json.Whole d.digits := Json.whole_toDigits _
  obtain ⟨c, hlast, hc⟩ := exists_getLast_digits h
  rw [numeral]
  split
  next hexp =>
    exact ⟨hdigits.append (Json.digits_ne_zero hne) Json.isAsciiDigit_of_mem_zeros, by simp⟩
  next hexp =>
    split
    next hplaces =>
      refine ⟨hdigits.take (by omega), ?_⟩
      rintro ds ⟨⟩
      refine ⟨c, ?_, hc⟩
      rw [List.getLast?_drop, if_neg (by omega), hlast]
    next hplaces =>
      refine ⟨.zero, ?_⟩
      rintro ds ⟨⟩
      exact ⟨c, by rw [List.getLast?_append, hlast]; rfl, hc⟩

/-! ### Reduced decimals -/

theorem coefficient_reduce_le (c : ℕ) (e : ℤ) : (reduce c e).coefficient ≤ c := by
  induction c, e using reduce.induct with
  | case1 c e h ih =>
    rw [reduce, dif_pos h]
    omega
  | case2 c e h => rw [reduce, dif_neg h]

theorem le_exponent_reduce (c : ℕ) (e : ℤ) : e ≤ (reduce c e).exponent := by
  induction c, e using reduce.induct with
  | case1 c e h ih =>
    rw [reduce, dif_pos h]
    omega
  | case2 c e h => rw [reduce, dif_neg h]

theorem coefficient_reduce_mod {c : ℕ} {e : ℤ} (hc : c ≠ 0) :
    (reduce c e).coefficient % 10 ≠ 0 := by
  induction c, e using reduce.induct with
  | case1 c e h ih =>
    rw [reduce, dif_pos h]
    exact ih (by omega)
  | case2 c e h =>
    rw [reduce, dif_neg h]
    intro hmod
    exact h ⟨hc, hmod⟩

end Decimal

/-! ### The shortest decimal -/

namespace Number

theorem le_ten_zpow_leadingDigit {q : ℚ} (hq : 0 < q) : q ≤ (10 : ℚ) ^ (leadingDigit q + 1) := by
  have hnum : 0 < q.num := Rat.num_pos.mpr hq
  have hden : 0 < q.den := q.den_pos
  have hdenq : (0 : ℚ) < q.den := by exact_mod_cast hden
  have hcast : ((q.num.toNat : ℕ) : ℚ) = q * q.den := by
    rw [Rat.mul_den_eq_num, ← Int.cast_natCast, Int.toNat_of_nonneg hnum.le]
  rw [leadingDigit]
  split
  next hle =>
    set k := (Nat.toDigits 10 (q.num.toNat / q.den)).length
    have hhigh : q.num.toNat < 10 ^ k * q.den :=
      (Nat.div_lt_iff_lt_mul hden).mp (lt_pow_length_toDigits _)
    have hhigh' : q * q.den < (10 : ℚ) ^ k * q.den := by
      rw [← hcast]
      exact_mod_cast hhigh
    rw [sub_add_cancel, zpow_natCast]
    exact (lt_of_mul_lt_mul_right hhigh' hdenq.le).le
  next hlt =>
    have hnumpos : 0 < q.num.toNat := by omega
    have hlen := @Nat.length_toDigits_pos 10 (q.den / q.num.toNat)
    obtain ⟨k, hk⟩ := Nat.exists_eq_add_one_of_ne_zero hlen.ne'
    have hpos : 0 < q.den / q.num.toNat := Nat.div_pos (by omega) hnumpos
    have hlow : 10 ^ k * q.num.toNat ≤ q.den := by
      have hle := pow_length_toDigits_le hpos
      rw [hk, Nat.add_sub_cancel] at hle
      exact (Nat.le_div_iff_mul_le hnumpos).mp hle
    have hlow' : (10 : ℚ) ^ k * q * q.den ≤ 1 * q.den := by
      calc (10 : ℚ) ^ k * q * q.den = 10 ^ k * (q.num.toNat : ℚ) := by rw [hcast, mul_assoc]
        _ ≤ q.den := by exact_mod_cast hlow
        _ = 1 * q.den := (one_mul _).symm
    have hp : (0 : ℚ) < 10 ^ k := by positivity
    have hexp : -((k + 1 : ℕ) : ℤ) + 1 = -(k : ℤ) := by push_cast; ring
    rw [hk, hexp, zpow_neg, zpow_natCast, le_inv_comm₀ hq hp, ← one_div, le_div_iff₀ hq]
    exact le_of_mul_le_mul_right hlow' hdenq

theorem roundHalfEven_toNat_le {q : ℚ} {b : ℕ} (h : q ≤ b) : (roundHalfEven q).toNat ≤ b + 1 := by
  have hfloor : q.floor ≤ b := by
    have := (Rat.floor_le q).trans h
    exact_mod_cast this
  rcases roundHalfEven_eq_floor q with hr | hr <;> omega

theorem coefficient_le_of_coefficientOn? {v : Float} {k : ℤ} {c b : ℕ}
    (h : magnitude v / 10 ^ k ≤ b) (hc : coefficientOn? v k = some c) : c ≤ b + 1 := by
  have hfloor : (magnitude v / 10 ^ k).floor ≤ b := by
    have := (Rat.floor_le (magnitude v / 10 ^ k)).trans h
    exact_mod_cast this
  simp only [coefficientOn?] at hc
  split at hc
  next =>
    obtain rfl := Option.some.inj hc
    exact roundHalfEven_toNat_le h
  next =>
    obtain rfl := Option.some.inj hc
    omega
  next =>
    obtain rfl := Option.some.inj hc
    omega
  next => contradiction

/-- What the search can find: a reduced decimal from one of the grids. -/
theorem searchGrids_bounds {v : Float} {b : ℕ} (n : ℕ) {k : ℤ}
    (h : magnitude v / 10 ^ (k - n) ≤ b) :
    ∃ c e, searchGrids v n k = Decimal.reduce c e ∧ c ≤ b + 1 ∧ k - n ≤ e := by
  induction n generalizing k with
  | zero =>
    rw [Nat.cast_zero, sub_zero] at h
    exact ⟨_, k, rfl, roundHalfEven_toNat_le h, by omega⟩
  | succ n ih =>
    rw [searchGrids]
    split
    next c hc =>
      -- on a coarser grid the coefficient is smaller
      have hcoarse : magnitude v / 10 ^ k ≤ b := by
        have hmag : 0 ≤ magnitude v := by
          rw [magnitude]
          positivity
        have hgrid : (10 : ℚ) ^ (k - (n + 1 : ℕ)) ≤ 10 ^ k :=
          zpow_le_zpow_right₀ (by norm_num) (by omega)
        exact (div_le_div_of_nonneg_left hmag (by positivity) hgrid).trans h
      exact ⟨c, k, rfl, coefficient_le_of_coefficientOn? hcoarse hc, by omega⟩
    next =>
      obtain ⟨c, e, heq, hc, he⟩ := ih (k := k - 1) (by rwa [sub_sub, add_comm 1, ← Nat.cast_succ])
      exact ⟨c, e, heq, hc, by omega⟩

theorem exists_reduce_shortest {v : Float} (hm : mantissa v ≠ 0) :
    ∃ c e, shortest v = Decimal.reduce c e ∧ c ≤ 10 ^ 17 + 1 ∧
      leadingDigit (magnitude v) - 16 ≤ e := by
  have hpos := magnitude_pos hm
  refine searchGrids_bounds 16 ?_
  rw [div_le_iff₀ (by positivity)]
  calc magnitude v ≤ 10 ^ (leadingDigit (magnitude v) + 1) := le_ten_zpow_leadingDigit hpos
    _ = 10 ^ (17 + (leadingDigit (magnitude v) - (16 : ℕ)) : ℤ) := by
      congr 1
      push_cast
      ring
    _ = ((10 ^ 17 : ℕ) : ℚ) * 10 ^ (leadingDigit (magnitude v) - (16 : ℕ)) := by
      rw [zpow_add₀ (by norm_num)]
      norm_num

variable {v : Float} (hv : v.isFinite = true) (hm : mantissa v ≠ 0)

include hv hm

theorem coefficient_shortest_mod : (shortest v).coefficient % 10 ≠ 0 := by
  obtain ⟨c, e, heq, -⟩ := exists_reduce_shortest hm
  have hpos := (readsBack_shortest hv hm).1
  rw [heq] at hpos ⊢
  apply Decimal.coefficient_reduce_mod
  rintro rfl
  rw [Decimal.toRat_reduce, Nat.cast_zero, zero_mul] at hpos
  exact lt_irrefl _ hpos

omit hv in
theorem coefficient_shortest_lt : (shortest v).coefficient < 10 ^ 18 := by
  obtain ⟨c, e, heq, hc, -⟩ := exists_reduce_shortest hm
  have := Decimal.coefficient_reduce_le c e
  rw [heq]
  omega

/-- The exponent is sixteen places below the leading digit at most, and no number is smaller than
`2 ^ -1200`. -/
theorem le_exponent_shortest : -417 ≤ (shortest v).exponent := by
  obtain ⟨c, e, heq, -, he⟩ := exists_reduce_shortest hm
  have hone : (1 : ℚ) ≤ mantissa v := by exact_mod_cast Nat.one_le_iff_ne_zero.mpr hm
  have hlow : (10 : ℚ) ^ (-400 : ℤ) < 10 ^ (leadingDigit (magnitude v) + 1) := by
    calc (10 : ℚ) ^ (-400 : ℤ) < 2 ^ (-1200 : ℤ) := Decimal.ten_zpow_lt_two_zpow
      _ ≤ 2 ^ exponent v :=
        zpow_le_zpow_right₀ one_le_two (by have := (parts_of_isFinite hv).low; omega)
      _ = 1 * 2 ^ exponent v := (one_mul _).symm
      _ ≤ magnitude v := mul_le_mul_of_nonneg_right hone (by positivity)
      _ ≤ 10 ^ (leadingDigit (magnitude v) + 1) := le_ten_zpow_leadingDigit (magnitude_pos hm)
  have hlead := (zpow_lt_zpow_iff_right₀ (by norm_num)).mp hlow
  have := Decimal.le_exponent_reduce c e
  rw [heq]
  omega

/-- A decimal with a larger exponent would be nearest to infinity. -/
theorem exponent_shortest_lt : (shortest v).exponent < 400 := by
  by_contra hlarge
  obtain ⟨hratpos, hbits⟩ := readsBack_shortest hv hm
  have hcoefficient : (shortest v).coefficient ≠ 0 := by
    have := coefficient_shortest_mod hv hm
    omega
  have hinf := nearestBits_of_gt hratpos (Decimal.toRat_gt hcoefficient (by omega))
  have hfinite := (isFinite_iff v).mp hv
  omega

theorem length_positional_shortest_le : (shortest v).positional.length ≤ 436 := by
  have hlow := le_exponent_shortest hv hm
  have hhigh := exponent_shortest_lt hv hm
  have hlen : (shortest v).digits.length ≤ 18 :=
    (Nat.length_toDigits_le_iff (by decide) (by decide)).mpr (coefficient_shortest_lt hm)
  simp only [Decimal.positional]
  split
  · rw [List.length_append, List.length_replicate]
    omega
  · split
    · rw [List.length_append, List.length_take, List.length_cons, List.length_drop]
      omega
    · rw [List.length_append, List.length_cons, List.length_cons, List.length_replicate]
      omega

end Number

/-! ### The display -/

namespace Number

theorem canonical_zero : Canonical ['0'] := by
  refine ⟨[], by simp, Numeral.zero, ⟨.zero, ?_⟩, rfl⟩
  rintro ds ⟨⟩

theorem canonical_signed (v : Float) {n : Numeral} (h : n.Canonical) :
    Canonical (signed v n.text) := by
  rw [signed]
  split
  · exact ⟨['-'], by simp, n, h, rfl⟩
  · exact ⟨[], by simp, n, h, rfl⟩

variable {v : Float} (hv : v.isFinite = true)

include hv

/-- **The display of a finite number has no superfluous zero.** -/
theorem canonical_display : Canonical (display v).toList := by
  rw [display_eq hv]
  split
  · exact canonical_zero
  next hm =>
    rw [← Decimal.text_numeral]
    exact canonical_signed v (Decimal.canonical_numeral (coefficient_shortest_mod hv hm))

theorem length_display_le : (display v).length ≤ Expression.defaultMaxLength := by
  rw [← String.length_toList, display_eq hv, Expression.defaultMaxLength]
  split
  · decide
  next hm =>
    have hlen := length_positional_shortest_le hv hm
    rw [signed]
    split
    · rw [List.length_cons]
      omega
    · omega

theorem beq_self_of_isFinite : (v == v) = true := by
  have hfinite : v.toModel.unpack.isFinite = true := hv
  show (v.toModel.unpack.compare v.toModel.unpack == some .eq) = true
  cases hu : v.toModel.unpack with
  | notANumber | infinity => rw [hu] at hfinite; contradiction
  | zero s => rfl
  | finite s m e hm => cases s <;> simp [Float.Model.UnpackedFloat.compare]

theorem shown_beq : (shown v == v) = true := by
  by_cases hzero : v = -0.0
  · rw [hzero]
    decide +kernel
  · rw [shown_of_ne hzero]
    exact beq_self_of_isFinite hv

/-- The number that the display of a finite number is read as. It is equal to the number, and the
same one unless the sign of a zero is lost. -/
theorem exists_read_display : ∃ w, (w == v) = true ∧ (v ≠ -0.0 → w = v) ∧
    ∀ strict, Token.read strict (display v) = .ok [.number w] := by
  refine ⟨shown v, shown_beq hv, shown_of_ne, fun strict => ?_⟩
  obtain ⟨l, hread, hcut⟩ := cutFrom_display hv
  have hdisplay := hcut true (fun _ => rfl) Lexeme.stops_nil
  rw [List.append_nil, Lexeme.cutFrom_nil] at hdisplay
  have hlexeme : Token.ofLexeme strict 0 (.literal l) = .ok (some (.number (shown v))) := by
    rw [Token.ofLexeme, hread]
    rfl
  rw [Token.read, Lexeme.cut, hdisplay, Token.readFrom_cons_of_ok hlexeme]
  rfl

/-- **What is displayed for a finite number is a canonical positional decimal with the value of the
number's text, and can be typed in again**: it is read as one number, and this is its value in every
mode. The number is the one that was displayed, unless this was `-0.0`. -/
theorem display_canonical : Canonical (display v).toList ∧
    (∃ q, exactValue? (display v).toList = some q ∧ exactValue? (text v).toList = some q) ∧
    ∃ w, (w == v) = true ∧ (v ≠ -0.0 → w = v) ∧
      (∀ strict, Token.read strict (display v) = .ok [.number w]) ∧
      ∀ modeName mode strict, AngleMode.read modeName = .ok mode →
        Expression.evaluate modeName strict Expression.defaultMaxLength (some (display v)) =
          .ok w := by
  obtain ⟨w, heq, hsame, hread⟩ := exists_read_display hv
  refine ⟨canonical_display hv, ⟨writtenValue v, exactValue?_display hv, exactValue?_text hv⟩, w,
    heq, hsame, hread, ?_⟩
  intro modeName mode strict hmode
  rw [Expression.evaluate_eq hmode (length_display_le hv), hread strict]
  cases strict <;> rfl

omit hv

/-- The smallest number, whose text has an exponent. -/
theorem display_canonical_smallest :
    text (Float.ofBits 1) = "5e-324" ∧ Canonical (display (Float.ofBits 1)).toList ∧
      Token.read true (display (Float.ofBits 1)) = .ok [.number (Float.ofBits 1)] := by
  have hv : (Float.ofBits 1).isFinite = true := by decide +kernel
  obtain ⟨hcanonical, -, w, -, hsame, hread, -⟩ := display_canonical hv
  obtain rfl := hsame (by decide +kernel)
  exact ⟨by decide +kernel, hcanonical, hread true⟩

end Number

end Calculator

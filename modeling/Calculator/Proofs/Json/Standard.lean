import Mathlib
import Calculator.Proofs.Json
import Calculator.Proofs.Json.Grammar
import Calculator.Proofs.Number.Display

/-! # What is written is JSON if its numbers are finite

A value is written as a JSON text by the grammar if every number in it is finite, and only then
(`standard_write_iff`), in whichever layout.

* `numeric_text`: the text of a finite number is a number of the grammar.
* `quotation_quote`: a quoted text is one of the grammar, whatever characters it has.
* `toList_enclose`: the parts of an array or object, with what stands around them.
-/

namespace Calculator.Json

open Text

/-! ### Numbers -/

theorem toDigits_eq_cons {n : ℕ} (h : 0 < n) : ∃ c cs, Nat.toDigits 10 n = c :: cs ∧ c ≠ '0' := by
  induction n using Nat.strongRecOn with
  | ind n ih =>
    by_cases hn : n < 10
    · refine ⟨_, [], Nat.toDigits_of_lt_base hn, ?_⟩
      interval_cases n <;> decide
    · obtain ⟨c, cs, heq, hc⟩ := ih (n / 10) (by omega) (by omega)
      exact ⟨c, cs ++ [(n % 10).digitChar],
        by rw [Nat.toDigits_of_base_le (by decide) (by omega), heq]; rfl, hc⟩

theorem isAsciiDigit_of_mem_toDigits {n : ℕ} : ∀ c ∈ Nat.toDigits 10 n, isAsciiDigit c = true := by
  intro c hc
  exact isAsciiDigit_of_isDigit (Nat.isDigit_of_mem_toDigits (by decide) (by decide) hc)

theorem whole_toDigits (n : ℕ) : Whole (Nat.toDigits 10 n) := by
  rcases Nat.eq_zero_or_pos n with rfl | hn
  · exact .zero
  · have hdigits := @isAsciiDigit_of_mem_toDigits n
    obtain ⟨c, cs, heq, hc⟩ := toDigits_eq_cons hn
    rw [heq] at hdigits ⊢
    obtain ⟨hdigit, hrest⟩ := List.forall_mem_cons.mp hdigits
    exact .digits hdigit hc hrest

theorem digits_append {as bs : List Char} (has : ∀ c ∈ as, isAsciiDigit c = true)
    (hbs : Digits bs) : Digits (as ++ bs) := by
  refine ⟨?_, List.forall_mem_append.mpr ⟨has, hbs.2⟩⟩
  intro h
  exact hbs.1 (List.append_eq_nil_iff.mp h).2

theorem digits_toDigits (n : ℕ) : Digits (Nat.toDigits 10 n) :=
  ⟨Nat.toDigits_ne_nil, isAsciiDigit_of_mem_toDigits⟩

theorem isAsciiDigit_of_mem_zeros {n : ℕ} : ∀ c ∈ List.replicate n '0', isAsciiDigit c = true := by
  intro c hc
  rw [List.eq_of_mem_replicate hc]
  decide

theorem exponent_exponentText (k : ℤ) : Exponent (Number.exponentText k) := by
  have hmark : 'e' ∈ ['e', 'E'] := by decide
  have hdigits :
      Digits (if (Nat.toDigits 10 k.natAbs).length < 2 then '0' :: Nat.toDigits 10 k.natAbs
      else Nat.toDigits 10 k.natAbs) := by
    split
    · exact ⟨List.cons_ne_nil _ _,
        List.forall_mem_cons.mpr ⟨by decide, isAsciiDigit_of_mem_toDigits⟩⟩
    · exact digits_toDigits _
  rw [Number.exponentText]
  by_cases hk : k < 0
  · have hsign : ['-'] ∈ [[], ['+'], ['-']] := by decide
    rw [if_pos hk]
    exact .digits hmark hsign hdigits
  · have hsign : ['+'] ∈ [[], ['+'], ['-']] := by decide
    rw [if_neg hk]
    exact .digits hmark hsign hdigits

theorem digits_zero : Digits ['0'] :=
  ⟨List.cons_ne_nil _ _, List.forall_mem_singleton.mpr (by decide)⟩

/-- A number without a sign in front. -/
def Unsigned (cs : List Char) : Prop :=
  ∃ whole fraction exponent, Whole whole ∧ Fraction fraction ∧ Exponent exponent ∧
    cs = whole ++ fraction ++ exponent

theorem unsigned_point {whole ds : List Char} (h : Whole whole) (hds : Digits ds) :
    Unsigned (whole ++ '.' :: ds) :=
  ⟨whole, '.' :: ds, [], h, .digits hds, .none, by simp⟩

theorem Whole.append {whole ds : List Char} (h : Whole whole) (hzero : whole ≠ ['0'])
    (hds : ∀ d ∈ ds, isAsciiDigit d = true) : Whole (whole ++ ds) := by
  cases h with
  | zero => contradiction
  | digits hc hfirst hcs => exact .digits hc hfirst (List.forall_mem_append.mpr ⟨hcs, hds⟩)

theorem Whole.take {whole : List Char} (h : Whole whole) {n : ℕ} (hn : 0 < n) :
    Whole (whole.take n) := by
  obtain ⟨n, rfl⟩ := Nat.exists_eq_add_one_of_ne_zero (Nat.ne_of_gt hn)
  cases h with
  | zero => simpa using Whole.zero
  | digits hc hzero hcs =>
    refine .digits hc hzero ?_
    intro d hd
    exact hcs d (List.mem_of_mem_take hd)

section Decimal

variable {d : Decimal} (hd : d.coefficient ≠ 0)

include hd

theorem digits_ne_zero : d.digits ≠ ['0'] := by
  obtain ⟨c, cs, heq, hc⟩ := toDigits_eq_cons (Nat.pos_of_ne_zero hd)
  rw [Decimal.digits, heq]
  intro h
  exact hc (List.cons.inj h).1

theorem unsigned_scientific (leading : ℤ) : Unsigned (Number.scientific d leading) := by
  have hdigits := @isAsciiDigit_of_mem_toDigits d.coefficient
  obtain ⟨c, cs, heq, hc⟩ := toDigits_eq_cons (Nat.pos_of_ne_zero hd)
  rw [heq] at hdigits
  obtain ⟨hdigit, hrest⟩ := List.forall_mem_cons.mp hdigits
  have hwhole : Whole [c] := .digits hdigit hc (by simp)
  have hexponent := exponent_exponentText leading
  rw [Number.scientific, Decimal.digits, heq]
  cases cs with
  | nil => exact ⟨[c], [], _, hwhole, .none, hexponent, by simp⟩
  | cons c' cs =>
    exact ⟨[c], '.' :: c' :: cs, _, hwhole, .digits ⟨by simp, hrest⟩, hexponent, by simp⟩

theorem unsigned_decimalText : Unsigned (Number.decimalText d) := by
  have hwhole := whole_toDigits d.coefficient
  have hzero := digits_ne_zero hd
  unfold Number.decimalText Decimal.positional
  simp only
  split
  · exact unsigned_scientific hd _
  · split
    next hexp =>
      exact unsigned_point (hwhole.append hzero isAsciiDigit_of_mem_zeros) digits_zero
    next hexp =>
      split
      next hplaces =>
        refine unsigned_point (hwhole.take (by omega)) ⟨?_, ?_⟩
        · simp; omega
        · intro c hc
          exact isAsciiDigit_of_mem_toDigits c (List.mem_of_mem_drop hc)
      next hplaces =>
        exact unsigned_point .zero (digits_append isAsciiDigit_of_mem_zeros (digits_toDigits _))

end Decimal

theorem Unsigned.signed {cs : List Char} (h : Unsigned cs) (v : Float) :
    Numeric (Number.signed v cs) := by
  obtain ⟨whole, fraction, exponent, hwhole, hfraction, hexponent, rfl⟩ := h
  have hsign : (if Number.isNegative v then ['-'] else []) ∈ [[], ['-']] := by split <;> decide
  have hparts := Numeric.parts hsign hwhole hfraction hexponent
  rw [Number.signed]
  split
  next hneg => simpa [hneg] using hparts
  next hneg => simpa [hneg] using hparts

theorem numeric_text {v : Float} (hv : v.isFinite = true) : Numeric (Number.text v).toList := by
  rw [Number.text, Number.isNaN_of_isFinite hv, Number.isInf_of_isFinite hv, String.toList_ofList,
    if_neg (by simp), if_neg (by simp)]
  split
  · exact Unsigned.signed (unsigned_point .zero digits_zero) v
  next hm =>
    have hpositive := (Number.readsBack_shortest hv hm).1
    have hcoefficient : (Number.shortest v).coefficient ≠ 0 := by
      intro h
      rw [Decimal.toRat, h] at hpositive
      simp at hpositive
    exact (unsigned_decimalText hcoefficient).signed v

theorem numeric_toString (n : ℤ) : Numeric (toString n).toList := by
  have hnone : Fraction [] := .none
  have hsign : ([] : List Char) ∈ [[], ['-']] := by decide
  have hminus : ['-'] ∈ [[], ['-']] := by decide
  rw [Int.toString_eq_repr, Int.repr_eq_if]
  split
  · rw [Nat.toList_repr]
    simpa using Numeric.parts hsign (whole_toDigits n.toNat) hnone .none
  · rw [String.toList_append, Nat.toList_repr]
    simpa using Numeric.parts hminus (whole_toDigits (-n).toNat) hnone .none

/-! ### Quoted texts -/

theorem hexValue?_isSome_of_mem_toDigits (n : ℕ) :
    ∀ c ∈ Nat.toDigits 16 n, (hexValue? c).isSome = true := by
  induction n using Nat.strongRecOn with
  | ind n ih =>
    by_cases hn : n < 16
    · rw [Nat.toDigits_of_lt_base hn]
      simp [hexValue?_digitChar hn]
    · rw [Nat.toDigits_of_base_le (by decide) (by omega)]
      refine List.forall_mem_append.mpr ⟨ih (n / 16) (by omega), ?_⟩
      simp [hexValue?_digitChar (Nat.mod_lt n (show 16 > 0 by decide))]

theorem le_toNat_of_hexValue? {c : Char} (h : (hexValue? c).isSome = true) : 32 ≤ c.toNat := by
  by_contra hlow
  have hall : ∀ n < 32, hexValue? (Char.ofNat n) = none := by decide
  rw [← Char.ofNat_toNat c, hall c.toNat (by omega)] at h
  contradiction

theorem quotable_of_hexValue? {ds cs : List Char} (hds : ∀ d ∈ ds, (hexValue? d).isSome = true)
    (h : Quotable cs) : Quotable (ds ++ cs) := by
  induction ds with
  | nil => exact h
  | cons d ds ih =>
    obtain ⟨hd, hds⟩ := List.forall_mem_cons.mp hds
    exact .plain (le_toNat_of_hexValue? hd) (ne_quote_of_hexValue? hd)
      (ne_backslash_of_hexValue? hd) (ih hds)

/-- An escape has four digits, zeros in front included. What it has beyond four stands for
itself. -/
theorem quotable_hexCode (n : ℕ) {cs : List Char} (h : Quotable cs) :
    Quotable (hexCode n ++ cs) := by
  have hdigits : ∀ d ∈ List.replicate (4 - (Nat.toDigits 16 n).length) '0' ++ Nat.toDigits 16 n,
      (hexValue? d).isSome = true := by
    refine List.forall_mem_append.mpr ⟨?_, hexValue?_isSome_of_mem_toDigits n⟩
    intro d hd
    rw [List.eq_of_mem_replicate hd]
    decide
  have hlength :
      4 ≤ (List.replicate (4 - (Nat.toDigits 16 n).length) '0' ++ Nat.toDigits 16 n).length := by
    rw [List.length_append, List.length_replicate]
    omega
  rw [show hexCode n = '\\' :: 'u' ::
    (List.replicate (4 - (Nat.toDigits 16 n).length) '0' ++ Nat.toDigits 16 n) from rfl]
  generalize List.replicate (4 - (Nat.toDigits 16 n).length) '0' ++ Nat.toDigits 16 n = ds
    at hdigits hlength
  rw [List.cons_append, List.cons_append, ← List.take_append_drop 4 ds, List.append_assoc]
  refine .code (List.length_take_of_le hlength) ?_ (quotable_of_hexValue? ?_ h)
  · intro d hd
    exact hdigits d (List.mem_of_mem_take hd)
  · intro d hd
    exact hdigits d (List.mem_of_mem_drop hd)

theorem quotable_escapeCode (n : ℕ) {cs : List Char} (h : Quotable cs) :
    Quotable (escapeCode n ++ cs) := by
  rw [escapeCode]
  split
  · exact quotable_hexCode n h
  · rw [List.append_assoc]
    exact quotable_hexCode _ (quotable_hexCode _ h)

theorem quotable_quoteChar (ascii : Bool) (c : Char) {cs : List Char} (h : Quotable cs) :
    Quotable (quoteChar ascii c ++ cs) := by
  unfold quoteChar
  split
  next => exact .escape (by decide) h
  split
  next => exact .escape (by decide) h
  split
  next => exact .escape (by decide) h
  split
  next => exact .escape (by decide) h
  split
  next => exact .escape (by decide) h
  split
  next => exact .escape (by decide) h
  split
  next => exact .escape (by decide) h
  split
  next => exact quotable_escapeCode _ h
  next hquote hslash _ _ _ _ _ hplain =>
    refine .plain (Nat.le_of_not_lt ?_) hquote hslash h
    intro hcontrol
    apply hplain
    simp [hcontrol]

theorem quotable_flatMap {α : Type} {f : α → List Char} {as : List α}
    (h : ∀ a cs, Quotable cs → Quotable (f a ++ cs)) : Quotable (as.flatMap f) := by
  induction as with
  | nil => exact .nil
  | cons a as ih =>
    rw [List.flatMap_cons]
    exact h a _ ih

theorem quotation_quote (ascii : Bool) (s : String) : Quotation (quote ascii s).toList := by
  rw [toList_quote]
  exact .quotes (quotable_flatMap fun c _ => quotable_quoteChar ascii c)

theorem quotation_quotePoints (ascii : Bool) (points : List ℕ) :
    Quotation (quotePoints ascii points).toList := by
  rw [quotePoints, String.toList_ofList]
  refine .quotes (quotable_flatMap fun n _ h => ?_)
  split
  · exact quotable_quoteChar ascii _ h
  · exact quotable_escapeCode n h

/-! ### Values -/

/-- Every number in a value is finite. -/
inductive Finite : Json → Prop
  | null : Finite null
  | bool (b : Bool) : Finite (bool b)
  | int (n : ℤ) : Finite (int n)
  | float {v : Float} (h : v.isFinite = true) : Finite (float v)
  | string (s : String) : Finite (string s)
  | torn (points : List ℕ) : Finite (torn points)
  | array {items : List Json} (h : ∀ item ∈ items, Finite item) : Finite (array items)
  | object {fields : List (String × Json)} (h : ∀ f ∈ fields, Finite f.2) : Finite (object fields)

@[elab_as_elim]
theorem induction_on {motive : Json → Prop} (null : motive null) (bool : ∀ b, motive (bool b))
    (int : ∀ n, motive (int n)) (float : ∀ v, motive (float v)) (string : ∀ s, motive (string s))
    (torn : ∀ points, motive (torn points))
    (array : ∀ items, (∀ item ∈ items, motive item) → motive (array items))
    (object : ∀ fields, (∀ f ∈ fields, motive f.2) → motive (object fields)) : ∀ v, motive v
  | .null => null
  | .bool b => bool b
  | .int n => int n
  | .float v => float v
  | .string s => string s
  | .torn points => torn points
  | .array items => array items fun item _ =>
    induction_on null bool int float string torn array object item
  | .object fields => object fields fun f hf =>
    have hsize : sizeOf f.2 < sizeOf f := by
      rw [Prod.mk.sizeOf_spec f.1 f.2]
      omega
    have hfield := hsize.trans (List.sizeOf_lt_of_mem hf)
    induction_on null bool int float string torn array object f.2

theorem renderItems_eq (layout : Layout) (indent : ℕ) (items : List Json) :
    renderItems layout indent items = items.map fun item => item.render layout indent := by
  induction items with
  | nil => rw [renderItems]; rfl
  | cons item items ih => rw [renderItems, ih]; rfl

theorem blanks_nil : Blanks [] := by
  intro c hc
  exact absurd hc List.not_mem_nil

theorem blanks_lineStart (indent : ℕ) : Blanks (lineStart indent).toList := by
  rw [lineStart, String.toList_ofList]
  refine List.forall_mem_cons.mpr ⟨by decide, ?_⟩
  intro c hc
  rw [List.eq_of_mem_replicate hc]
  decide

theorem append_intercalate (lead : List Char) {parts : List String} (h : parts ≠ []) :
    lead ++ (',' :: lead).intercalate (parts.map String.toList) =
      [','].intercalate (parts.map fun part => lead ++ part.toList) := by
  induction parts with
  | nil => contradiction
  | cons part parts ih =>
    cases parts with
    | nil => simp
    | cons other parts =>
      have hrest := ih (List.cons_ne_nil other parts)
      simp only [List.map_cons, List.intercalate_cons_cons] at hrest ⊢
      rw [← hrest]
      simp

theorem toList_enclose (layout : Layout) (indent : ℕ) (opening closing : String)
    (parts : List String) :
    ∃ lead gap, Blanks lead ∧ Blanks gap ∧
      (layout.enclose indent opening closing parts).toList =
        opening.toList ++
          ([','].intercalate (parts.map fun part => lead ++ part.toList) ++ gap ++
            closing.toList) := by
  rw [Layout.enclose]
  split
  next hempty =>
    rw [List.isEmpty_iff.mp hempty]
    exact ⟨[], [], blanks_nil, blanks_nil, by simp⟩
  next hparts =>
    split
    · refine ⟨_, _, blanks_lineStart (indent + 1), blanks_lineStart indent, ?_⟩
      rw [← append_intercalate _ (by simpa using hparts)]
      simp [String.toList_intercalate]
    · exact ⟨[], [], blanks_nil, blanks_nil, by simp [String.toList_intercalate]⟩

theorem toList_fieldText (layout : Layout) (f : String × String) :
    ∃ gap, Blanks gap ∧
      (layout.fieldText f).toList = (quote layout.ascii f.1).toList ++ ':' ::
        (gap ++ f.2.toList) := by
  rw [Layout.fieldText]
  split
  · exact ⟨[' '], List.forall_mem_singleton.mpr (by decide), by simp⟩
  · exact ⟨[], blanks_nil, by simp⟩

section Enclose

variable {layout : Layout} {indent : ℕ} {parts : List String} {fields : List (String × String)}

theorem standard_array (h : ∀ part ∈ parts, Standard part.toList) :
    Standard (layout.enclose indent "[" "]" parts).toList := by
  obtain ⟨lead, gap, hlead, hgap, heq⟩ := toList_enclose layout indent "[" "]" parts
  rw [heq]
  refine .array ?_ hgap
  intro item hitem
  obtain ⟨part, hpart, rfl⟩ := List.mem_map.mp hitem
  simpa using Standard.blanks hlead (h part hpart) blanks_nil

theorem standard_object (h : ∀ f ∈ fields, Standard f.2.toList) :
    Standard (layout.enclose indent "\x7b" "\x7d" (fields.map layout.fieldText)).toList := by
  obtain ⟨lead, gap, hlead, hgap, heq⟩ :=
    toList_enclose layout indent "\x7b" "\x7d" (fields.map layout.fieldText)
  choose behind hbehind htext using toList_fieldText layout
  have hparts : (fields.map layout.fieldText).map (fun part => lead ++ part.toList) =
      (fields.map fun f => (lead ++ (quote layout.ascii f.1).toList, behind f ++ f.2.toList)).map
        fun f => f.1 ++ ':' :: f.2 := by
    simp [htext]
  rw [heq, hparts]
  refine .object ?_ ?_ hgap
  · intro field hfield
    obtain ⟨f, -, rfl⟩ := List.mem_map.mp hfield
    simpa using Name.blanks hlead (quotation_quote layout.ascii f.1) blanks_nil
  · intro field hfield
    obtain ⟨f, hf, rfl⟩ := List.mem_map.mp hfield
    simpa using Standard.blanks (hbehind f) (h f hf) blanks_nil

/-- Brackets and commas close what is closed, and what is ordinary between them is so part by
part. -/
theorem closed_and_ordinary_enclose {opening closing : String} (hopening : Closed opening.toList)
    (hclosing : Closed closing.toList) (h : ∀ part ∈ parts, Closed part.toList) :
    Closed (layout.enclose indent opening closing parts).toList ∧
      (Ordinary (layout.enclose indent opening closing parts).toList → ∀ part ∈ parts,
        Ordinary part.toList) := by
  obtain ⟨lead, gap, hlead, hgap, heq⟩ := toList_enclose layout indent opening closing parts
  have hlead' := hlead.regular.closed
  have hitems : ∀ item ∈ parts.map fun part => lead ++ part.toList, Closed item := by
    intro item hitem
    obtain ⟨part, hpart, rfl⟩ := List.mem_map.mp hitem
    exact hlead'.append (h part hpart)
  have hlist := closed_intercalate hitems
  rw [heq]
  refine ⟨hopening.append ((hlist.append hgap.regular.closed).append hclosing), ?_⟩
  rw [ordinary_append hopening, ordinary_append (hlist.append hgap.regular.closed),
    ordinary_append hlist, ordinary_intercalate hitems]
  rintro ⟨-, ⟨hordinary, -⟩, -⟩ part hpart
  exact ((ordinary_append hlead').mp (hordinary _ (List.mem_map_of_mem hpart))).2

theorem closed_and_ordinary_fieldText {f : String × String} (h : Closed f.2.toList) :
    Closed (layout.fieldText f).toList ∧
      (Ordinary (layout.fieldText f).toList → Ordinary f.2.toList) := by
  obtain ⟨gap, hgap, heq⟩ := toList_fieldText layout f
  have hname := (quotation_quote layout.ascii f.1).regular.closed
  have hcolon : Closed [':'] := rfl
  rw [heq, ← List.singleton_append, ← List.append_assoc, ← List.append_assoc]
  have hfront := (hname.append hcolon).append hgap.regular.closed
  refine ⟨hfront.append h, ?_⟩
  intro hordinary
  exact ((ordinary_append hfront).mp hordinary).2

theorem closed_and_ordinary_object (h : ∀ f ∈ fields, Closed f.2.toList) :
    Closed (layout.enclose indent "\x7b" "\x7d" (fields.map layout.fieldText)).toList ∧
      (Ordinary (layout.enclose indent "\x7b" "\x7d" (fields.map layout.fieldText)).toList →
        ∀ f ∈ fields, Ordinary f.2.toList) := by
  have hparts : ∀ part ∈ fields.map layout.fieldText, Closed part.toList := by
    intro part hpart
    obtain ⟨f, hf, rfl⟩ := List.mem_map.mp hpart
    exact (closed_and_ordinary_fieldText (h f hf)).1
  obtain ⟨hclosed, hordinary⟩ := closed_and_ordinary_enclose (by decide : Closed "\x7b".toList)
    (by decide : Closed "\x7d".toList) hparts
  refine ⟨hclosed, ?_⟩
  intro hwhole f hf
  exact (closed_and_ordinary_fieldText (h f hf)).2 (hordinary hwhole _ (List.mem_map_of_mem hf))

end Enclose

theorem mem_sortFields {fields : List (String × String)} {f : String × String} :
    f ∈ sortFields fields ↔ f ∈ fields :=
  List.mem_mergeSort

theorem standard_render (layout : Layout) {v : Json} (h : v.Finite) (indent : ℕ) :
    Standard (v.render layout indent).toList := by
  induction h generalizing indent with
  | null => rw [render]; exact .null
  | bool b =>
    rw [toList_render_bool]
    cases b
    · exact .false
    · exact .true
  | int n => rw [render]; exact .number (numeric_toString n)
  | float h =>
    rw [render, floatText, Number.isNaN_of_isFinite h, Number.isInf_of_isFinite h]
    exact .number (numeric_text h)
  | string s => rw [render]; exact .text (quotation_quote _ s)
  | torn points => rw [render]; exact .text (quotation_quotePoints _ points)
  | @array items _ ih =>
    rw [render, renderItems_eq]
    refine standard_array ?_
    intro part hpart
    obtain ⟨item, hitem, rfl⟩ := List.mem_map.mp hpart
    exact ih item hitem _
  | @object fields _ ih =>
    rw [render, renderFields_eq]
    refine standard_object ?_
    intro f hf
    obtain ⟨field, hfield, rfl⟩ := List.mem_map.mp (mem_sortFields.mp hf)
    exact ih field hfield _

theorem closed_and_not_ordinary_floatText {v : Float} (h : ¬ v.isFinite = true) :
    Closed (floatText v).toList ∧ ¬ Ordinary (floatText v).toList := by
  rw [floatText]
  split
  · decide
  next hnan =>
    rw [if_pos (Number.isInf_of_not_isFinite h hnan)]
    split <;> decide

/-- What is written of a value has its quotes closed. It has a word that is not JSON if a number is
not finite. -/
theorem closed_and_finite_of_ordinary (layout : Layout) (v : Json) :
    ∀ indent, Closed (v.render layout indent).toList ∧
      (Ordinary (v.render layout indent).toList → v.Finite) := by
  induction v using induction_on with
  | null | bool | int | string | torn =>
    intro indent
    exact ⟨(standard_render layout (by constructor) indent).regular.closed, fun _ => by constructor⟩
  | float v =>
    intro indent
    by_cases hv : v.isFinite = true
    · exact ⟨(standard_render layout (.float hv) indent).regular.closed, fun _ => .float hv⟩
    · rw [render]
      obtain ⟨hclosed, hordinary⟩ := closed_and_not_ordinary_floatText hv
      exact ⟨hclosed, fun h => absurd h hordinary⟩
  | array items ih =>
    intro indent
    rw [render, renderItems_eq]
    have hparts : ∀ part ∈ items.map fun item => item.render layout (indent + 1),
        Closed part.toList := by
      intro part hpart
      obtain ⟨item, hitem, rfl⟩ := List.mem_map.mp hpart
      exact (ih item hitem _).1
    obtain ⟨hclosed, hordinary⟩ := closed_and_ordinary_enclose (by decide : Closed "[".toList)
      (by decide : Closed "]".toList) hparts
    refine ⟨hclosed, ?_⟩
    intro h
    refine .array ?_
    intro item hitem
    exact (ih item hitem _).2 (hordinary h _ (List.mem_map_of_mem hitem))
  | object fields ih =>
    intro indent
    rw [render, renderFields_eq]
    have hfields : ∀ f ∈ sortFields (fields.map fun f => (f.1, f.2.render layout (indent + 1))),
        Closed f.2.toList := by
      intro f hf
      obtain ⟨field, hfield, rfl⟩ := List.mem_map.mp (mem_sortFields.mp hf)
      exact (ih field hfield _).1
    obtain ⟨hclosed, hordinary⟩ := closed_and_ordinary_object hfields
    refine ⟨hclosed, ?_⟩
    intro h
    refine .object ?_
    intro field hfield
    have hmem : (field.1, field.2.render layout (indent + 1)) ∈
        sortFields (fields.map fun f => (f.1, f.2.render layout (indent + 1))) :=
      mem_sortFields.mpr (List.mem_map.mpr ⟨field, hfield, rfl⟩)
    exact (ih field hfield (indent + 1)).2 (hordinary h _ hmem)

/-- **A value is written as a JSON text if every number in it is finite, and only then.** -/
theorem standard_write_iff (layout : Layout) (v : Json) :
    Standard (v.write layout).toList ↔ v.Finite := by
  have hend : Blanks ['\n'] := List.forall_mem_singleton.mpr (by decide)
  have htext : (v.write layout).toList = (v.render layout 0).toList ++ ['\n'] := by
    rw [write, String.toList_append]
    rfl
  rw [htext]
  constructor
  · intro h
    obtain ⟨hclosed, hfinite⟩ := closed_and_finite_of_ordinary layout v 0
    exact hfinite ((ordinary_append hclosed).mp h.regular.ordinary).1
  · intro h
    simpa using Standard.blanks blanks_nil (standard_render layout h 0) hend

end Calculator.Json

import Mathlib.Data.List.TakeWhile
import Calculator.Token.Read

/-! # Numerals

A numeral is what a literal should look like: ASCII digits with at most one point among them, and at
least one digit. A literal that is a numeral behind an optional sign is well formed, and its value
is the number nearest to the digits at their places, with the sign (`read_numeral`).
-/

namespace Calculator

open Text

/-- Digits, and those behind the point if there is one. -/
structure Numeral where
  whole : List Char
  behind : Option (List Char)
  all_digits : (whole ++ behind.getD []).all isAsciiDigit = true
  digits_ne_nil : whole ++ behind.getD [] ≠ []

namespace Numeral

/-- A numeral as it is written. -/
def text (n : Numeral) : List Char :=
  n.whole ++ (n.behind.map fun ds => '.' :: ds).getD []

/-- The decimal that a numeral denotes. -/
def decimal (n : Numeral) : Decimal :=
  Number.ofPlaces n.whole (n.behind.getD [])

variable (n : Numeral)

theorem isAsciiDigit_whole {c : Char} (h : c ∈ n.whole) : isAsciiDigit c = true :=
  List.all_eq_true.mp n.all_digits c (List.mem_append_left _ h)

theorem isAsciiDigit_behind {ds : List Char} (hds : n.behind = some ds) {c : Char} (h : c ∈ ds) :
    isAsciiDigit c = true :=
  List.all_eq_true.mp n.all_digits c (List.mem_append_right _ (by rw [hds]; exact h))

theorem isNumberChar_of_mem {c : Char} (h : c ∈ n.text) : isNumberChar c = true := by
  rcases List.mem_append.mp h with h | h
  · simp [isNumberChar, n.isAsciiDigit_whole h]
  · cases hb : n.behind with
    | none => rw [hb] at h; simp at h
    | some ds =>
      rw [hb] at h
      rcases List.mem_cons.mp h with rfl | h
      · rfl
      · simp [isNumberChar, n.isAsciiDigit_behind hb h]

theorem text_ne_nil : n.text ≠ [] := by
  intro h
  obtain ⟨hwhole, hrest⟩ := List.append_eq_nil_iff.mp h
  cases hb : n.behind with
  | none => exact n.digits_ne_nil (by rw [hwhole, hb]; rfl)
  | some ds => rw [hb] at hrest; simp at hrest

theorem not_isAsciiDigit_point : isAsciiDigit '.' = false := by decide

theorem count_point_of_digits {ds : List Char} (h : ∀ c ∈ ds, isAsciiDigit c = true) :
    ds.count '.' = 0 := by
  rw [List.count_eq_zero]
  intro hmem
  have := h '.' hmem
  rw [not_isAsciiDigit_point] at this
  contradiction

theorem wellFormed_text (sign : Option Char) : (Literal.mk sign n.text).wellFormed = true := by
  have hwhole : n.whole.count '.' = 0 := count_point_of_digits fun c hc => n.isAsciiDigit_whole hc
  have hne := n.digits_ne_nil
  cases hb : n.behind with
  | none =>
    have hpoint : n.whole ≠ ['.'] := by
      intro h
      rw [h] at hwhole
      simp at hwhole
    simp [Literal.wellFormed, text, hb, hwhole, hpoint]
  | some ds =>
    have hds : ds.count '.' = 0 := count_point_of_digits fun c hc => n.isAsciiDigit_behind hb hc
    have hpoint : n.whole ++ '.' :: ds ≠ ['.'] := by
      intro h
      cases hw : n.whole with
      | nil => rw [hw, hb] at hne; rw [hw] at h; simp_all
      | cons c whole => rw [hw] at h; simp at h
    simp [Literal.wellFormed, text, hb, hwhole, hds, hpoint]

theorem value_text (sign : Option Char) :
    (Literal.mk sign n.text).value = Number.withSign (sign == some '-') n.decimal.toFloat := by
  have hwhole : ∀ c ∈ n.whole, isAsciiDigit c = true := fun c hc => n.isAsciiDigit_whole hc
  simp only [Literal.value, text, decimal]
  cases hb : n.behind with
  | none =>
    simp only [Option.map_none, Option.getD_none, List.append_nil]
    rw [List.takeWhile_eq_self_iff.mpr hwhole, List.dropWhile_eq_nil_iff.mpr hwhole]
    rfl
  | some ds =>
    have hds : ∀ c ∈ ds, isAsciiDigit c = true := fun c hc => n.isAsciiDigit_behind hb hc
    simp only [Option.map_some, Option.getD_some]
    rw [List.takeWhile_append_of_pos hwhole, List.dropWhile_append_of_pos hwhole,
      List.takeWhile_cons_of_neg (by simp [not_isAsciiDigit_point]),
      List.dropWhile_cons_of_neg (by simp [not_isAsciiDigit_point]), List.append_nil,
      List.drop_succ_cons, List.drop_zero, List.takeWhile_eq_self_iff.mpr hds]

/-- **A numeral is read as the number nearest to it**, by both readers. -/
theorem read_numeral (strict : Bool) (sign : Option Char) :
    (Literal.mk sign n.text).read strict =
      .ok (Number.withSign (sign == some '-') n.decimal.toFloat) := by
  rw [Literal.read, n.wellFormed_text sign, n.value_text sign]
  rfl

end Numeral

end Calculator

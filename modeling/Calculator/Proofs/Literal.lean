import Calculator.Proofs.Lexing
import Calculator.Proofs.Number.Denotation

/-! # Every literal is read

A literal is handed to the reader of numbers as a text (`Literal.numberText?`), and that reader
refuses much. But a literal has a digit or a point, and up to a second point it is a numeral unless
it is only a point (`exists_numeral_upToSecondPoint`). So whatever is handed over is read
(`read_numberText?`).
-/

namespace Calculator

open Text

namespace Literal

/-- The text of a literal that is read as a number: all of it, or leniently what stands before a
second point. Nothing is read of what is malformed for a strict reader, or only a point for a
lenient one. -/
def numberText? (strict : Bool) (l : Literal) : Option (List Char) :=
  if l.wellFormed then some l.text
  else if strict || upToSecondPoint l.body == ['.'] then none
  else some (l.sign.toList ++ upToSecondPoint l.body)

section Body

variable {body : List Char} (hbody : ∀ c ∈ body, isNumberChar c = true)

include hbody

theorem digits_or_exists_point : (∀ c ∈ body, isAsciiDigit c = true) ∨
    ∃ whole more, body = whole ++ '.' :: more ∧ ∀ c ∈ whole, isAsciiDigit c = true := by
  induction body with
  | nil => exact Or.inl (by simp)
  | cons c body ih =>
    obtain ⟨hc, hrest⟩ := List.forall_mem_cons.mp hbody
    by_cases hdigit : isAsciiDigit c = true
    · rcases ih hrest with hall | ⟨whole, more, rfl, hwhole⟩
      · exact Or.inl (List.forall_mem_cons.mpr ⟨hdigit, hall⟩)
      · exact Or.inr ⟨c :: whole, more, rfl, List.forall_mem_cons.mpr ⟨hdigit, hwhole⟩⟩
    · have hpoint : c = '.' := by simpa [isNumberChar, hdigit] using hc
      exact Or.inr ⟨[], body, by rw [hpoint, List.nil_append], by simp⟩

omit hbody

theorem upToSecondPoint_digits {ds : List Char} (h : ∀ c ∈ ds, isAsciiDigit c = true) :
    upToSecondPoint ds = ds := by
  rw [upToSecondPoint, List.dropWhile_eq_nil_iff.mpr h]

theorem span_point {whole : List Char} (h : ∀ c ∈ whole, isAsciiDigit c = true) (more : List Char) :
    (whole ++ '.' :: more).takeWhile isAsciiDigit = whole ∧
      (whole ++ '.' :: more).dropWhile isAsciiDigit = '.' :: more := by
  refine Number.span_digits h ?_
  rintro c ⟨⟩
  decide

theorem upToSecondPoint_point {whole : List Char} (h : ∀ c ∈ whole, isAsciiDigit c = true)
    (more : List Char) :
    upToSecondPoint (whole ++ '.' :: more) = whole ++ '.' :: more.takeWhile isAsciiDigit := by
  obtain ⟨htake, hdrop⟩ := span_point h more
  simp only [upToSecondPoint, htake, hdrop]

include hbody

/-- **Up to a second point a body is a numeral**, unless it is only a point. -/
theorem exists_numeral_upToSecondPoint (hne : body ≠ []) (hpoint : upToSecondPoint body ≠ ['.']) :
    ∃ n : Numeral, upToSecondPoint body = n.text ∧
      ∀ sign, (Literal.mk sign body).value =
        Number.withSign (sign == some '-') n.decimal.toFloat := by
  rcases digits_or_exists_point hbody with hall | ⟨whole, more, rfl, hwhole⟩
  · have hdigits : (body ++ (none : Option (List Char)).getD []).all isAsciiDigit = true := by
      rw [Option.getD_none, List.append_nil]
      exact List.all_eq_true.mpr hall
    refine ⟨⟨body, none, hdigits, by simpa using hne⟩, ?_, ?_⟩
    · rw [upToSecondPoint_digits hall]
      simp [Numeral.text]
    · intro sign
      rw [value, List.takeWhile_eq_self_iff.mpr hall, List.dropWhile_eq_nil_iff.mpr hall]
      rfl
  · rw [upToSecondPoint_point hwhole] at hpoint ⊢
    have hdigits : (whole ++ (some (more.takeWhile isAsciiDigit)).getD []).all isAsciiDigit =
        true := by
      rw [Option.getD_some, List.all_append, List.all_takeWhile, Bool.and_true]
      exact List.all_eq_true.mpr hwhole
    have hsome : whole ++ (some (more.takeWhile isAsciiDigit)).getD [] ≠ [] := by
      intro h
      obtain ⟨rfl, hmore⟩ := List.append_eq_nil_iff.mp h
      rw [Option.getD_some] at hmore
      rw [hmore] at hpoint
      exact hpoint rfl
    refine ⟨⟨whole, some (more.takeWhile isAsciiDigit), hdigits, hsome⟩, rfl, ?_⟩
    intro sign
    simp only [value, (span_point hwhole more).1, (span_point hwhole more).2]
    rfl

omit hbody

theorem digits_of_count {whole more : List Char}
    (hbody : ∀ c ∈ whole ++ '.' :: more, isNumberChar c = true)
    (h : (whole ++ '.' :: more).count '.' ≤ 1) : ∀ c ∈ more, isAsciiDigit c = true := by
  rw [List.count_append, List.count_cons_self] at h
  have hnone : '.' ∉ more := List.count_eq_zero.mp (by omega)
  intro c hc
  have hnumber := hbody c (by simp [hc])
  have hne : c ≠ '.' := by
    rintro rfl
    exact hnone hc
  simpa [isNumberChar, hne] using hnumber

include hbody

theorem upToSecondPoint_of_count (h : body.count '.' ≤ 1) : upToSecondPoint body = body := by
  rcases digits_or_exists_point hbody with hall | ⟨whole, more, rfl, hwhole⟩
  · exact upToSecondPoint_digits hall
  · rw [upToSecondPoint_point hwhole, List.takeWhile_eq_self_iff.mpr (digits_of_count hbody h)]

end Body

variable {l : Literal} (hsign : ∀ c ∈ l.sign, isSign c = true)
    (hbody : ∀ c ∈ l.body, isNumberChar c = true) (hne : l.body ≠ [])

include hsign hbody hne

theorem ofText?_upToSecondPoint (hpoint : upToSecondPoint l.body ≠ ['.']) :
    Number.ofText? (l.sign.toList ++ upToSecondPoint l.body) = some l.value := by
  obtain ⟨n, htext, hvalue⟩ := exists_numeral_upToSecondPoint hbody hne hpoint
  rw [htext, Number.ofText?_numeral hsign n]
  exact congrArg some (hvalue l.sign).symm

/-- **Whatever of a literal is handed to the reader of numbers is read**, and gives the value of the
literal. A literal of which nothing is handed over is malformed, and leniently no number. -/
theorem read_numberText? (strict : Bool) :
    match l.numberText? strict with
    | some cs => ∃ v, Number.ofText? cs = some v ∧ l.read strict = .ok v
    | none => l.read strict =
        if strict then .error (.malformedNumber (String.ofList l.text)) else .ok (0.0 / 0.0) := by
  by_cases hformed : l.wellFormed = true
  · have hparts := hformed
    simp only [wellFormed, Bool.and_eq_true, decide_eq_true_eq, bne_iff_ne] at hparts
    have hwhole := upToSecondPoint_of_count hbody hparts.1
    have hread := ofText?_upToSecondPoint hsign hbody hne (by rw [hwhole]; exact hparts.2)
    rw [hwhole] at hread
    rw [numberText?, if_pos hformed]
    exact ⟨l.value, hread, by rw [read, if_pos hformed]⟩
  · cases strict with
    | true =>
      rw [numberText?, if_neg hformed, read, if_neg hformed]
      rfl
    | false =>
      rw [numberText?, if_neg hformed, read, if_neg hformed, lenientValue]
      by_cases hpoint : upToSecondPoint l.body = ['.']
      · rw [hpoint]
        rfl
      · have hother : ¬ (upToSecondPoint l.body == ['.']) = true := by simpa using hpoint
        rw [Bool.false_or, if_neg hother, if_neg hother]
        exact ⟨l.value, ofText?_upToSecondPoint hsign hbody hne hpoint, rfl⟩

end Literal

end Calculator

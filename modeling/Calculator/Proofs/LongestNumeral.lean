import Calculator.Proofs.Literal
import Calculator.Proofs.Reading

/-! # The longest numeral of a literal

A literal is any run of digits and points behind an optional sign. It is well-formed exactly if it
is a numeral with an optional sign (`signed_text_iff`), and a strict reader takes nothing else.

A lenient reader takes what stands in front of a second point. That is the longest numeral that the
literal begins with (`longest_upToSecondPoint`): a numeral has one point at most, so it ends in
front of the second one (`Numeral.prefix_upToSecondPoint`). If only a point stands there, the
literal begins with no numeral (`not_signed_of_point`), and the reader has NaN.
-/

namespace Calculator

open Text

/-- The longest beginning of a text that is of some kind. -/
structure LongestPrefix (kind : List Char → Prop) (front cs : List Char) : Prop where
  begins : front <+: cs
  isKind : kind front
  longest : ∀ other, other <+: cs → kind other → other.length ≤ front.length

theorem LongestPrefix.unique {kind : List Char → Prop} {front front' cs : List Char}
    (h : LongestPrefix kind front cs) (h' : LongestPrefix kind front' cs) : front = front' := by
  have hle : front.length ≤ front'.length := h'.longest front h.begins h.isKind
  have hge : front'.length ≤ front.length := h.longest front' h'.begins h'.isKind
  exact (List.prefix_of_prefix_length_le h.begins h'.begins hle).eq_of_length_le hge

namespace Numeral

/-- A numeral with an optional sign. -/
def Signed (cs : List Char) : Prop :=
  ∃ (sign : Option Char) (n : Numeral), (∀ c ∈ sign, isSign c = true) ∧ cs = sign.toList ++ n.text

/-- A text that begins with a numeral begins with the numeral's sign. -/
theorem prefix_of_signed {sign sign' : Option Char} {body : List Char} {n : Numeral}
    (hsign : ∀ c ∈ sign, isSign c = true) (hsign' : ∀ c ∈ sign', isSign c = true)
    (hbody : ∀ c ∈ body, isNumberChar c = true)
    (h : sign'.toList ++ n.text <+: sign.toList ++ body) : sign' = sign ∧ n.text <+: body := by
  cases sign' with
  | none =>
    cases sign with
    | none => exact ⟨rfl, h⟩
    | some c =>
      obtain ⟨d, rest, htext, hd⟩ := Number.head_numeral n []
      rw [List.append_nil] at htext
      rw [Option.toList_none, Option.toList_some, htext, List.nil_append, List.singleton_append,
        List.cons_prefix_cons] at h
      have hc := hsign c rfl
      rw [← h.1, Number.isSign_of_isNumberChar hd] at hc
      exact absurd hc Bool.false_ne_true
  | some d =>
    rw [Option.toList_some, List.singleton_append] at h
    cases sign with
    | none =>
      have hd : d ∈ body := h.subset List.mem_cons_self
      have hsigned := hsign' d rfl
      rw [Number.isSign_of_isNumberChar (hbody d hd)] at hsigned
      exact absurd hsigned Bool.false_ne_true
    | some c =>
      rw [Option.toList_some, List.singleton_append, List.cons_prefix_cons] at h
      exact ⟨congrArg some h.1, h.2⟩

theorem text_ne_point (n : Numeral) : n.text ≠ ['.'] := by
  intro h
  have hformed := n.wellFormed_text none
  rw [h] at hformed
  contradiction

theorem count_point_text (n : Numeral) : n.text.count '.' ≤ 1 := by
  have hformed := n.wellFormed_text none
  simp only [Literal.wellFormed, Bool.and_eq_true, decide_eq_true_eq] at hformed
  exact hformed.1

/-- **A numeral that a body begins with ends in front of the second point.** -/
theorem prefix_upToSecondPoint {n : Numeral} {body : List Char}
    (hbody : ∀ c ∈ body, isNumberChar c = true) (h : n.text <+: body) :
    n.text <+: Literal.upToSecondPoint body := by
  rcases Literal.digits_or_exists_point hbody with hall | ⟨whole, more, rfl, hwhole⟩
  · rwa [Literal.upToSecondPoint_digits hall]
  · rw [Literal.upToSecondPoint_point hwhole]
    have hfirst : whole ++ ['.'] <+: whole ++ '.' :: more.takeWhile isAsciiDigit := by simp
    by_cases hlength : n.text.length ≤ (whole ++ ['.']).length
    · -- the numeral ends with the first point at the latest
      have hpoint : whole ++ ['.'] <+: whole ++ '.' :: more := by simp
      exact (List.prefix_of_prefix_length_le h hpoint hlength).trans hfirst
    · -- behind the first point it has digits only
      obtain ⟨behind, hbehind⟩ : whole ++ ['.'] <+: n.text := by
        refine List.prefix_of_prefix_length_le ?_ h (by omega)
        simp
      rw [← hbehind, List.append_assoc, List.prefix_append_right_inj, List.singleton_append,
        List.cons_prefix_cons] at h ⊢
      have hcount := n.count_point_text
      rw [← hbehind, List.append_assoc, List.singleton_append] at hcount
      have hnumber : ∀ c ∈ whole ++ '.' :: behind, isNumberChar c = true := by
        intro c hc
        refine n.isNumberChar_of_mem ?_
        rw [← hbehind]
        simpa using hc
      have hdigits := Literal.digits_of_count hnumber hcount
      obtain ⟨rest, rfl⟩ := h.2
      refine ⟨rfl, ?_⟩
      rw [List.takeWhile_append_of_pos hdigits]
      exact List.prefix_append behind _

end Numeral

namespace Literal

open Numeral

theorem upToSecondPoint_prefix {body : List Char} (hbody : ∀ c ∈ body, isNumberChar c = true) :
    upToSecondPoint body <+: body := by
  rcases digits_or_exists_point hbody with hall | ⟨whole, more, rfl, hwhole⟩
  · rw [upToSecondPoint_digits hall]
  · rw [upToSecondPoint_point hwhole, List.prefix_append_right_inj, List.cons_prefix_cons]
    exact ⟨rfl, List.takeWhile_prefix isAsciiDigit⟩

variable {l : Literal} (hsign : ∀ c ∈ l.sign, isSign c = true)
    (hbody : ∀ c ∈ l.body, isNumberChar c = true) (hne : l.body ≠ [])

include hsign hbody

/-- A numeral that a literal begins with has the literal's sign, and ends in front of the second
point. -/
theorem prefix_of_signed {front : List Char} (hfront : Signed front) (h : front <+: l.text) :
    ∃ n : Numeral, front = l.sign.toList ++ n.text ∧ n.text <+: upToSecondPoint l.body := by
  obtain ⟨sign, n, hsigned, rfl⟩ := hfront
  obtain ⟨rfl, hn⟩ := Numeral.prefix_of_signed hsign hsigned hbody h
  exact ⟨n, rfl, prefix_upToSecondPoint hbody hn⟩

/-- **A literal with only a point in front of the second one begins with no numeral.** -/
theorem not_signed_of_point (hpoint : upToSecondPoint l.body = ['.']) {front : List Char}
    (h : front <+: l.text) : ¬ Signed front := by
  intro hfront
  obtain ⟨n, -, hn⟩ := prefix_of_signed hsign hbody hfront h
  rw [hpoint, List.prefix_cons_iff] at hn
  rcases hn with hnil | ⟨rest, htext, hrest⟩
  · exact n.text_ne_nil hnil
  · rw [List.prefix_nil.mp hrest] at htext
    exact n.text_ne_point htext

include hne

/-- **What stands in front of the second point is the longest numeral that a literal begins with**,
unless it is only a point. -/
theorem longest_upToSecondPoint (hpoint : upToSecondPoint l.body ≠ ['.']) :
    LongestPrefix Signed (l.sign.toList ++ upToSecondPoint l.body) l.text := by
  obtain ⟨n, htext, -⟩ := exists_numeral_upToSecondPoint hbody hne hpoint
  refine ⟨?_, ⟨l.sign, n, hsign, by rw [htext]⟩, ?_⟩
  · rw [text, List.prefix_append_right_inj]
    exact upToSecondPoint_prefix hbody
  · intro other hother hsigned
    obtain ⟨m, rfl, hm⟩ := prefix_of_signed hsign hbody hsigned hother
    rw [List.length_append, List.length_append]
    exact Nat.add_le_add_left hm.length_le _

/-- **A literal is well-formed exactly if it is a numeral** with an optional sign. -/
theorem signed_text_iff : Signed l.text ↔ l.wellFormed = true := by
  constructor
  · rintro ⟨sign, n, hsigned, htext⟩
    have hwhole : sign.toList ++ n.text <+: l.sign.toList ++ l.body := by
      rw [← htext]
      exact List.prefix_refl l.text
    obtain ⟨hsame, -⟩ := Numeral.prefix_of_signed hsign hsigned hbody hwhole
    obtain ⟨own, body⟩ := l
    obtain rfl : sign = own := hsame
    obtain rfl : body = n.text := List.append_cancel_left htext
    exact n.wellFormed_text sign
  · intro hformed
    have hparts := hformed
    simp only [wellFormed, Bool.and_eq_true, decide_eq_true_eq, bne_iff_ne] at hparts
    have hwhole := upToSecondPoint_of_count hbody hparts.1
    obtain ⟨n, htext, -⟩ :=
      exists_numeral_upToSecondPoint hbody hne (by rw [hwhole]; exact hparts.2)
    rw [hwhole] at htext
    exact ⟨l.sign, n, hsign, by rw [text, htext]⟩

omit hsign hbody hne

theorem read_eq_malformed_iff :
    l.read true = .error (.malformedNumber (String.ofList l.text)) ↔ l.wellFormed = false := by
  rw [read]
  split
  next h => simp [h]
  next h => simpa using h

theorem read_lenient_of_strict {v : Float} (h : l.read true = .ok v) : l.read false = .ok v := by
  obtain ⟨hformed, rfl⟩ := read_strict_iff.mp h
  rw [read, if_pos hformed]

theorem read_lenient_of_ne_point (hpoint : upToSecondPoint l.body ≠ ['.']) :
    l.read false = .ok l.value := by
  have hother : (upToSecondPoint l.body == ['.']) = false := beq_eq_false_iff_ne.mpr hpoint
  rw [read, lenientValue, hother]
  split <;> rfl

theorem read_lenient_of_point (hformed : l.wellFormed = false)
    (hpoint : upToSecondPoint l.body = ['.']) : l.read false = .ok (0.0 / 0.0) := by
  rw [read, hformed, lenientValue, hpoint]
  rfl

end Literal

/-- **How a literal is read.** Strictly it is refused exactly if it is no numeral with an optional
sign. Leniently its value is that of the longest such numeral that it begins with, and NaN if it
begins with none. What is read strictly has the same value leniently. -/
theorem Literal.read_longest {text : String} {l : Literal}
    (h : .literal l ∈ Lexeme.cut text.toList) :
    (l.read true = .error (.malformedNumber (String.ofList l.text)) ↔ ¬ Numeral.Signed l.text) ∧
      (∀ front, LongestPrefix Numeral.Signed front l.text →
        ∃ v, Number.ofText? front = some v ∧ l.read false = .ok v) ∧
      ((∀ front, front <+: l.text → ¬ Numeral.Signed front) → l.read false = .ok (0.0 / 0.0)) ∧
      ∀ v, l.read true = .ok v → l.read false = .ok v := by
  obtain ⟨hsign, hbody⟩ := Lexeme.wellFormed_of_mem_cutFrom h
  have hne := Lexeme.body_ne_nil_of_mem_cutFrom h
  refine ⟨?_, ?_, ?_, fun v hv => read_lenient_of_strict hv⟩
  · rw [signed_text_iff hsign hbody hne, Bool.not_eq_true]
    exact read_eq_malformed_iff
  · intro front hfront
    have hpoint : upToSecondPoint l.body ≠ ['.'] := by
      intro hpoint
      exact not_signed_of_point hsign hbody hpoint hfront.begins hfront.isKind
    obtain rfl := hfront.unique (longest_upToSecondPoint hsign hbody hne hpoint)
    exact ⟨l.value, ofText?_upToSecondPoint hsign hbody hne hpoint, read_lenient_of_ne_point hpoint⟩
  · intro hnone
    have hpoint : upToSecondPoint l.body = ['.'] := by
      by_contra hpoint
      have hlongest := longest_upToSecondPoint hsign hbody hne hpoint
      exact hnone _ hlongest.begins hlongest.isKind
    have hformed : l.wellFormed = false := by
      rw [← Bool.not_eq_true, ← signed_text_iff hsign hbody hne]
      exact hnone l.text (List.prefix_refl l.text)
    exact read_lenient_of_point hformed hpoint

/-- A literal with a sign and three points, behind a symbol, and one that starts with two points. -/
theorem Literal.read_longest_points :
    ((Literal.mk (some '-') "1.5.2.".toList).read true = .error (.malformedNumber "-1.5.2.") ∧
        (Literal.mk (some '-') "1.5.2.".toList).read false = .ok (-1.5)) ∧
      (Literal.mk none "..7".toList).read false = .ok (0.0 / 0.0) := by
  have hcut : .literal ⟨some '-', "1.5.2.".toList⟩ ∈ Lexeme.cut "2*-1.5.2. (..7)".toList := by
    decide +kernel
  have hcut' : .literal ⟨none, "..7".toList⟩ ∈ Lexeme.cut "2*-1.5.2. (..7)".toList := by
    decide +kernel
  obtain ⟨hsign, hbody⟩ := Lexeme.wellFormed_of_mem_cutFrom hcut
  obtain ⟨hsign', hbody'⟩ := Lexeme.wellFormed_of_mem_cutFrom hcut'
  have hne := Lexeme.body_ne_nil_of_mem_cutFrom hcut
  have hlongest := longest_upToSecondPoint hsign hbody hne (by decide)
  obtain ⟨hstrict, hlenient, -⟩ := @read_longest "2*-1.5.2. (..7)" _ hcut
  obtain ⟨-, -, hnone, -⟩ := @read_longest "2*-1.5.2. (..7)" _ hcut'
  obtain ⟨v, hv, hread⟩ := hlenient _ hlongest
  have hvalue : Number.ofText? "-1.5".toList = some (-1.5) := by decide +kernel
  obtain rfl : v = -1.5 := Option.some.inj (hv.symm.trans hvalue)
  refine ⟨⟨hstrict.mpr ?_, hread⟩, hnone fun front hfront =>
    not_signed_of_point hsign' hbody' (by decide) hfront⟩
  rw [signed_text_iff hsign hbody hne]
  decide

end Calculator

import Calculator.Proofs.Errors
import Calculator.Proofs.Lookahead

/-! # Characters that are not recognized

A strict reader stops at a stray character and names it with its position. The character stands in
the text at that position (`character_of_read`), and is of no kind that the reader knows
(`Lexeme.kind_of_stray`).

What stands in front of it is read strictly, and a lenient reader reads it the same way
(`read_before_stray`). The reader looks ahead for the `(` of a call, but a stray character opens
none, so a text that is cut off there has the lexemes that were in front of it
(`Lexeme.cutFrom_front`).
-/

namespace Calculator

open Text

namespace Lexeme

variable {expects : Bool} {cs : List Char} {c : Char} {front back : List Lexeme}

/-- **A stray character is no blank, no digit and no point, no symbol and no letter.** -/
theorem kind_of_stray (h : cutFrom expects cs = front ++ stray c :: back) :
    isBlank c = false ∧ isNumberChar c = false ∧ Token.ofChar? c = none ∧ isLetter c = false := by
  have hmem : stray c ∈ cutFrom expects cs := by simp [h]
  obtain ⟨before, d, rest, hfirst⟩ := exists_first_of_mem_cutFrom hmem
  unfold first at hfirst
  split at hfirst
  · contradiction
  next hblank =>
  split at hfirst
  · contradiction
  split at hfirst
  · contradiction
  next hnumber =>
  split at hfirst
  · contradiction
  split at hfirst
  · contradiction
  next hsymbol =>
  split at hfirst
  · contradiction
  next hletter =>
    obtain rfl := stray.inj hfirst
    exact ⟨Bool.eq_false_iff.mpr hblank, Bool.eq_false_iff.mpr hnumber, hsymbol,
      Bool.eq_false_iff.mpr hletter⟩

theorem not_opensCall_of_stray (h : cutFrom expects cs = front ++ stray c :: back) :
    opensCall ((stray c :: back).flatMap text) = false := by
  obtain ⟨hblank, -, hsymbol, -⟩ := kind_of_stray h
  rw [List.flatMap_cons, text, List.singleton_append, opensCall_cons hblank, beq_eq_false_iff_ne]
  rintro rfl
  contradiction

end Lexeme

namespace Token

variable {strict : Bool}

theorem stray_of_ofLexeme {position : Nat} {lexeme : Lexeme} {c : Char} {p : Nat}
    (h : ofLexeme strict position lexeme = .error (.unrecognizedCharacter c p)) :
    lexeme = .stray c ∧ p = position := by
  cases lexeme with
  | blank | call | symbol => contradiction
  | literal l =>
    have hread := error_of_map h
    unfold Literal.read at hread
    split at hread
    · contradiction
    · split at hread <;> cases hread
  | name word =>
    rw [ofLexeme] at h
    split at h
    · contradiction
    · split at h <;> cases h
  | stray d =>
    cases strict with
    | false => contradiction
    | true =>
      cases h
      exact ⟨rfl, rfl⟩

/-- A text with a character that is not recognized: the lexemes in front of it are read, and it is
stray. -/
theorem exists_stray_of_read {text : String} {c : Char} {p : Nat}
    (h : read strict text = .error (.unrecognizedCharacter c p)) :
    ∃ front back tokens, Lexeme.cut text.toList = front ++ .stray c :: back ∧
      readFrom strict 0 front = .ok tokens ∧
      text.toList = front.flatMap Lexeme.text ++ c :: back.flatMap Lexeme.text ∧
      (front.flatMap Lexeme.text).length = p := by
  obtain ⟨front, lexeme, back, tokens, hcut, hfront, hstop⟩ := error_of_readFrom h
  obtain ⟨rfl, rfl⟩ := stray_of_ofLexeme hstop
  have htexts := Lexeme.texts_cut text.toList
  rw [hcut, List.flatMap_append, List.flatMap_cons] at htexts
  exact ⟨front, back, tokens, hcut, hfront, htexts.symm, (Nat.zero_add _).symm⟩

/-- **The character that is not recognized stands in the text at the position that is named**, and
is no digit and no point. -/
theorem character_of_read {text : String} {c : Char} {p : Nat}
    (h : read strict text = .error (.unrecognizedCharacter c p)) :
    ∃ front back, text.toList = front ++ c :: back ∧ front.length = p ∧ isNumberChar c = false := by
  obtain ⟨front, back, tokens, hcut, -, htext, hlength⟩ := exists_stray_of_read h
  exact ⟨_, _, htext, hlength, (Lexeme.kind_of_stray hcut).2.1⟩

/-- What stands in front of a stray character is cut without it as it is with it. -/
theorem read_front_of_stray {text : String} {c : Char} {front back : List Lexeme}
    {tokens : List Token} (hcut : Lexeme.cut text.toList = front ++ .stray c :: back)
    (hfront : readFrom strict 0 front = .ok tokens) :
    read strict (String.ofList (front.flatMap Lexeme.text)) = .ok tokens := by
  have hlexemes := Lexeme.cutFrom_front hcut (Lexeme.not_opensCall_of_stray hcut)
  rwa [read, String.toList_ofList, Lexeme.cut, hlexemes]

/-- **A strict reader that stops at a character has read what stands in front of it.** The character
stands at the position that is named and is of no kind that a reader knows. The text up to it is
read strictly, and its tokens are the first ones that a lenient reader finds in the whole text. -/
theorem read_before_stray {text : String} {c : Char} {i : Nat}
    (h : read true text = .error (.unrecognizedCharacter c i)) :
    text.toList[i]? = some c ∧
      (isBlank c = false ∧ isAsciiDigit c = false ∧ c ≠ '.' ∧ c ∉ ['+', '-', '*', '/', '(', ')'] ∧
        isLetter c = false) ∧
      ∃ before tokens, read true (String.ofList (text.toList.take i)) = .ok before ∧
      read false text = .ok tokens ∧ before <+: tokens := by
  obtain ⟨front, back, before, hcut, hfront, htext, rfl⟩ := exists_stray_of_read h
  obtain ⟨hblank, hnumber, hsymbol, hletter⟩ := Lexeme.kind_of_stray hcut
  obtain ⟨hdigit, hpoint⟩ := Number.isAsciiDigit_of_isNumberChar hnumber
  refine ⟨?_, ⟨hblank, hdigit, hpoint, ?_, hletter⟩, ?_⟩
  · rw [htext, List.getElem?_append_right le_rfl, Nat.sub_self]
    rfl
  · intro hc
    simp only [List.mem_cons, List.not_mem_nil, or_false] at hc
    rcases hc with rfl | rfl | rfl | rfl | rfl | rfl <;> contradiction
  · obtain ⟨rest, hrest⟩ :=
      exists_readFrom_lenient (0 + (front.flatMap Lexeme.text).length) (.stray c :: back)
    refine ⟨before, before ++ rest, ?_, ?_, List.prefix_append before rest⟩
    · rw [htext, List.take_left]
      exact read_front_of_stray hcut hfront
    · rw [read, hcut, readFrom_append (readFrom_lenient hfront), hrest]
      rfl

/-- A call in front of the character, and a name that would be one with it. -/
theorem read_before_stray_exponent :
    read true "cos (3*sin²(4)" = .error (.unrecognizedCharacter '²' 10) ∧
      ∃ tokens, read false "cos (3*sin²(4)" = .ok tokens ∧
        [.function .cos "cos", .opening, number 3.0, .operator .mul, .function .sin "sin"] <+:
          tokens := by
  have hstop : read true "cos (3*sin²(4)" = .error (.unrecognizedCharacter '²' 10) := by
    decide +kernel
  have hfront : read true (String.ofList ("cos (3*sin²(4)".toList.take 10)) =
      .ok [.function .cos "cos", .opening, number 3.0, .operator .mul, .function .sin "sin"] := by
    decide +kernel
  obtain ⟨-, -, before, tokens, hbefore, htokens, hprefix⟩ := read_before_stray hstop
  obtain rfl := Except.ok.inj (hfront.symm.trans hbefore)
  exact ⟨hstop, tokens, htokens, hprefix⟩

end Token

end Calculator

import Calculator.Proofs.Groups
import Calculator.Proofs.Literal
import Calculator.Proofs.Lookahead
import Calculator.Proofs.Number.Negation
import Calculator.Proofs.Reading
import Calculator.Proofs.Substitution
import Calculator.SignKey

/-! # The number that a text ends in

The sign key finds the last number of a text by its characters, and decides by them whether a sign
in front of the number belongs to it. Reading decides the same by lexemes. The two agree on every
text that is read strictly:

* `trailingNumber?_append`: the digits and the point at the end of a text are a well-formed
  literal's, as long as it ends in a digit. One that ends in its point is not found
  (`trailingNumber?_of_not_digit`).
* `expectsOperand_texts`: what is in front of a sign lets it belong to a number exactly if an
  operand is expected there.
* `press_texts`: so the key replaces the last literal by the one with the other sign
  (`Literal.toggled`).
-/

namespace Calculator

open Text

namespace SignKey

/-! ### The digits at the end -/

/-- The trailing digits of a text are those behind the last character that is none. -/
theorem splitDigits_append {front ds : List Char} (hds : ∀ c ∈ ds, isAsciiDigit c = true)
    (hfront : ∀ c ∈ front.getLast?, isAsciiDigit c = false) :
    splitDigits (front ++ ds) = (front, ds) := by
  have hrev : ∀ c ∈ ds.reverse, isAsciiDigit c = true := fun c hc => hds c (List.mem_reverse.mp hc)
  have hhead : ∀ c ∈ front.reverse.head?, isAsciiDigit c = false := by
    rw [List.head?_reverse]
    exact hfront
  obtain ⟨htake, hdrop⟩ := Number.span_digits hrev hhead
  rw [splitDigits, List.reverse_append, htake, hdrop, List.reverse_reverse, List.reverse_reverse]

/-- **The number at the end of a text is the run of digits and points there**, if it has one point
at most and ends in a digit. -/
theorem trailingNumber?_append {front body : List Char} (hbody : ∀ c ∈ body, isNumberChar c = true)
    (hcount : body.count '.' ≤ 1) {d : Char} (hlast : body.getLast? = some d)
    (hdigit : isAsciiDigit d = true) (hfront : ∀ c ∈ front.getLast?, isNumberChar c = false) :
    trailingNumber? (front ++ body) = some (front, body) := by
  have hnodigit : ∀ c ∈ front.getLast?, isAsciiDigit c = false ∧ c ≠ '.' := by
    intro c hc
    have hnumber := hfront c hc
    rw [isNumberChar, Bool.or_eq_false_iff, beq_eq_false_iff_ne] at hnumber
    exact hnumber
  rcases Literal.digits_or_exists_point hbody with hall | ⟨whole, more, rfl, hwhole⟩
  · have hsplit := splitDigits_append hall fun c hc => (hnodigit c hc).1
    have hne : body ≠ [] := by
      rintro rfl
      simp at hlast
    have hpoint : front.getLast? ≠ some '.' := fun hc => (hnodigit '.' hc).2 rfl
    simp [trailingNumber?, hsplit, hne, hpoint]
  · -- the digits behind the point are found first, then the point, then those in front of it
    have hmore := Literal.digits_of_count hbody hcount
    have hne : more ≠ [] := by
      rintro rfl
      obtain rfl : '.' = d := by simpa using hlast
      exact absurd hdigit (by decide)
    have hbehind :
        splitDigits (front ++ whole ++ ['.'] ++ more) = (front ++ whole ++ ['.'], more) := by
      refine splitDigits_append hmore ?_
      intro c hc
      obtain rfl : '.' = c := by simpa using hc
      decide
    have hbefore := splitDigits_append hwhole fun c hc => (hnodigit c hc).1
    rw [List.append_assoc, List.append_assoc, List.singleton_append] at hbehind
    simp [trailingNumber?, hbehind, hne, hbefore]

theorem trailingNumber?_of_not_digit {cs : List Char}
    (h : ∀ c ∈ cs.getLast?, isAsciiDigit c = false) : trailingNumber? cs = none := by
  have hsplit : splitDigits (cs ++ []) = (cs, []) := splitDigits_append (by simp) h
  rw [List.append_nil] at hsplit
  simp [trailingNumber?, hsplit]

theorem withoutLineEnd_of_last {cs : List Char} {d : Char} (hlast : cs.getLast? = some d)
    (hline : d ≠ '\n') : withoutLineEnd cs = cs := by
  rw [withoutLineEnd, if_neg]
  rw [hlast]
  simpa using hline

/-! ### What is in front of a sign -/

theorem expectsOperand_blank {c : Char} (h : isBlank c = true) (cs : List Char) :
    expectsOperand (cs ++ [c]) = expectsOperand cs := by
  have htrim : trimEnd isBlank (cs ++ [c]) = trimEnd isBlank cs := by
    rw [trimEnd, List.reverse_append, List.reverse_singleton, List.singleton_append,
      List.dropWhile_cons_of_pos h, trimEnd]
  rw [expectsOperand, htrim, expectsOperand]

/-- Behind a character that is no blank, it alone decides. -/
theorem expectsOperand_append {c : Char} (h : isBlank c = false) (cs : List Char) :
    expectsOperand (cs ++ [c]) = expectsOperand [c] := by
  have htrim : ∀ front, trimEnd isBlank (front ++ [c]) = front ++ [c] := by
    intro front
    rw [trimEnd, List.reverse_append, List.reverse_singleton, List.singleton_append,
      List.dropWhile_cons_of_neg (by simp [h]), List.reverse_cons, List.reverse_reverse]
  have halone := htrim []
  rw [List.nil_append] at halone
  rw [expectsOperand, htrim, expectsOperand, halone, List.getLast?_append]
  rfl

/-! ### The sign in front of the number -/

theorem flip_minus {front : List Char} (h : expectsOperand front = true) :
    flip (front ++ ['-']) = front := by
  simp [flip, h]

theorem flip_plus {front : List Char} (h : expectsOperand front = true) :
    flip (front ++ ['+']) = front ++ ['-'] := by
  simp [flip, h]

theorem flip_unsigned {front : List Char}
    (h : ∀ before c, front = before ++ [c] → isSign c = true → expectsOperand before = false) :
    flip front = front ++ ['-'] := by
  rcases List.eq_nil_or_concat' front with rfl | ⟨before, c, rfl⟩
  · rfl
  · by_cases hsign : isSign c = true
    · have hbefore := h before c rfl hsign
      rcases eq_of_isSign hsign with rfl | rfl <;> simp [flip, hbefore]
    · have hplus : c ≠ '+' := by
        rintro rfl
        exact hsign rfl
      have hminus : c ≠ '-' := by
        rintro rfl
        exact hsign rfl
      simp [flip, hplus, hminus]

end SignKey

/-! ### What lexemes end in -/

theorem SignKey.expectsOperand_of_isSign {c : Char} (h : isSign c = true) :
    expectsOperand [c] = true := by
  rcases eq_of_isSign h with rfl | rfl <;> decide

theorem SignKey.expectsOperand_of_isNumberChar {c : Char} (h : isNumberChar c = true) :
    expectsOperand [c] = false := by
  have hblank := isBlank_of_isNumberChar h
  have hrange := toNat_of_isNumberChar h
  have hne : ∀ d : Char, d.toNat < 0x2E ∨ d.toNat = 0x2F → c ≠ d := by
    rintro d hd rfl
    omega
  simp [expectsOperand, trimEnd, hblank, hne]

namespace Lexeme

theorem exists_last_of_spelling {word : List Char} {f : MathFunction}
    (h : (String.ofList word, f) ∈ MathFunction.spellings) :
    ∃ front c, word = front ++ [c] ∧ isBlank c = false ∧ SignKey.expectsOperand [c] = false := by
  have hall : (MathFunction.spellings.all fun s => s.1.toList.getLast?.all fun c =>
      !SignKey.expectsOperand [c]) = true := by decide +kernel
  have hne := spelling_ne_nil h
  have hlast := List.all_eq_true.mp hall _ h
  rw [String.toList_ofList] at hne hlast
  rcases List.eq_nil_or_concat' word with rfl | ⟨front, c, rfl⟩
  · exact absurd rfl hne
  · have hc : c ∈ (String.ofList (front ++ [c])).toList := by simp
    exact ⟨front, c, rfl, (spelling_chars h hc).1, by simpa using hlast⟩

/-- **The last character of a token tells whether an operand is expected behind the token**, and it
is a sign only if it is the token. -/
theorem exists_last {expects : Bool} {cs : List Char} {lexeme : Lexeme}
    (hmem : lexeme ∈ cutFrom expects cs) {position : Nat} {token : Token}
    (hread : Token.ofLexeme true position lexeme = .ok (some token)) :
    ∃ front c, lexeme.text = front ++ [c] ∧ isBlank c = false ∧
      SignKey.expectsOperand [c] = token.expectsOperand ∧
      (isSign c = true → lexeme = symbol c token) := by
  have hformed := wellFormed_of_mem_cutFrom hmem
  have hnosign : ∀ c, SignKey.expectsOperand [c] = false → isSign c = true →
      lexeme = symbol c token := by
    intro c hc hsign
    rw [SignKey.expectsOperand_of_isSign hsign] at hc
    contradiction
  cases lexeme with
  | blank c => cases Except.ok.inj hread
  | call spelling f =>
    obtain rfl := Option.some.inj (Except.ok.inj hread)
    obtain ⟨front, c, hword, hblank, hexpects⟩ := exists_last_of_spelling hformed
    exact ⟨front, c, hword, hblank, hexpects, hnosign c hexpects⟩
  | literal l =>
    obtain ⟨v, -, hv⟩ := ok_of_map hread
    obtain rfl := Option.some.inj hv
    rcases List.eq_nil_or_concat' l.body with hbody | ⟨front, c, hbody⟩
    · exact absurd hbody (body_ne_nil_of_mem_cutFrom hmem)
    · have hnumber : isNumberChar c = true := hformed.2 c (by simp [hbody])
      have hexpects := SignKey.expectsOperand_of_isNumberChar hnumber
      refine ⟨l.sign.toList ++ front, c, ?_, isBlank_of_isNumberChar hnumber, hexpects,
        hnosign c hexpects⟩
      rw [text, Literal.text, hbody, List.append_assoc]
  | symbol c t =>
    obtain rfl := Option.some.inj (Except.ok.inj hread)
    have ht : Token.ofChar? c = some t := hformed
    refine ⟨[], c, rfl, ?_, ?_, fun _ => rfl⟩
    · rcases eq_of_ofChar? ht with rfl | rfl | rfl | rfl | rfl | rfl <;> decide
    · rcases eq_of_ofChar? ht with rfl | rfl | rfl | rfl | rfl | rfl <;> cases ht <;> decide
  | name word =>
    rw [Token.ofLexeme] at hread
    split at hread
    next f hf =>
      obtain rfl := Option.some.inj (Except.ok.inj hread)
      obtain ⟨front, c, hword, hblank, hexpects⟩ :=
        exists_last_of_spelling (MathFunction.ofSpelling?_eq_some_iff.mp hf)
      exact ⟨front, c, hword, hblank, hexpects, hnosign c hexpects⟩
    · contradiction
  | stray c => contradiction

theorem eq_blank_of_read {position : Nat} {lexeme : Lexeme}
    (h : Token.ofLexeme true position lexeme = .ok none) : ∃ c, lexeme = blank c := by
  cases lexeme with
  | blank c => exact ⟨c, rfl⟩
  | literal l =>
    obtain ⟨v, -, hv⟩ := ok_of_map h
    cases hv
  | name word =>
    rw [Token.ofLexeme] at h
    split at h
    · cases Except.ok.inj h
    · contradiction
  | call | symbol => cases Except.ok.inj h
  | stray c => contradiction

theorem expectsOperand_of_read {position : Nat} {lexeme : Lexeme} {token : Token}
    (h : Token.ofLexeme true position lexeme = .ok (some token)) (expects : Bool) :
    lexeme.expectsOperand expects = token.expectsOperand := by
  cases lexeme with
  | blank c => cases Except.ok.inj h
  | call spelling f =>
    obtain rfl := Option.some.inj (Except.ok.inj h)
    rfl
  | literal l =>
    obtain ⟨v, -, hv⟩ := ok_of_map h
    obtain rfl := Option.some.inj hv
    rfl
  | symbol c t =>
    obtain rfl := Option.some.inj (Except.ok.inj h)
    rfl
  | name word =>
    rw [Token.ofLexeme] at h
    split at h
    · obtain rfl := Option.some.inj (Except.ok.inj h)
      rfl
    · contradiction
  | stray c => contradiction

end Lexeme

/-- The literal with the other sign. A plus is not written. -/
def Literal.toggled (l : Literal) : Literal :=
  ⟨if l.sign = some '-' then none else some '-', l.body⟩

theorem Literal.getLast?_append_text {l : Literal} (h : l.body ≠ []) (front : List Char) :
    (front ++ l.text).getLast? = l.body.getLast? := by
  rw [text, ← List.append_assoc, List.getLast?_append_of_ne_nil _ h]

theorem Literal.value_toggled (l : Literal) : l.toggled.value = -l.value := by
  by_cases hsign : l.sign = some '-'
  · simp [Literal.toggled, Literal.value, Number.withSign, hsign, Number.negated_twice]
  · simp [Literal.toggled, Literal.value, Number.withSign, hsign]

namespace Postfix

theorem operandNext_nil : OperandNext [] := by
  intro t ht
  contradiction

theorem operandNext_concat {tokens : List Token} {t : Token} :
    OperandNext (tokens ++ [t]) ↔ t.expectsOperand = true := by
  simp [OperandNext]

end Postfix

namespace Lexeme

open Postfix

variable {cs : List Char} {lead more : List Lexeme} {front : List Token} {position : Nat}

/-- **Whether an operand is expected is told alike by the characters, by the lexemes and by the
tokens** in front of a place. -/
theorem expectsOperand_texts (h : cut cs = lead ++ more)
    (hread : Token.readFrom true position lead = .ok front) :
    SignKey.expectsOperand (lead.flatMap text) = expectsBehind true lead ∧
      (expectsBehind true lead = true ↔ OperandNext front) := by
  induction lead using List.reverseRecOn generalizing more front with
  | nil =>
    obtain rfl : [] = front := Except.ok.inj hread
    exact ⟨rfl, iff_of_true rfl operandNext_nil⟩
  | append_singleton lead lexeme ih =>
    obtain ⟨tokens, token, place, hlead, hlexeme, rfl⟩ := Token.ok_of_readFrom_concat hread
    rw [List.append_assoc] at h
    have hmem : lexeme ∈ cut cs := by simp [h]
    have hbefore := ih h hlead
    rw [expectsBehind_concat, List.flatMap_append, List.flatMap_singleton]
    cases token with
    | none =>
      obtain ⟨c, rfl⟩ := eq_blank_of_read hlexeme
      have hblank : isBlank c = true := wellFormed_of_mem_cutFrom hmem
      rw [text, SignKey.expectsOperand_blank hblank, expectsOperand]
      simpa using hbefore
    | some t =>
      obtain ⟨start, c, htext, hblank, hexpects, -⟩ := exists_last hmem hlexeme
      rw [htext, ← List.append_assoc, SignKey.expectsOperand_append hblank, hexpects,
        expectsOperand_of_read hlexeme]
      exact ⟨rfl, operandNext_concat.symm⟩

/-- A sign at the end of a text, in front of an unsigned literal, is an operator, and behind an
operand. -/
theorem expectsOperand_of_unsigned {l : Literal} (h : cut cs = lead ++ literal l :: more)
    (hunsigned : l.sign = none) (hread : Token.readFrom true position lead = .ok front)
    {before : List Char} {c : Char} (hlead : lead.flatMap text = before ++ [c])
    (hsign : isSign c = true) : SignKey.expectsOperand before = false := by
  rcases List.eq_nil_or_concat' lead with rfl | ⟨lead, lexeme, rfl⟩
  · simp at hlead
  have hends := endsAt_concat.mp (endsAt_of_cutFrom h)
  rw [List.append_assoc] at h
  have hmem : lexeme ∈ cut cs := by simp [h]
  obtain ⟨tokens, token, place, htokens, hlexeme, rfl⟩ := Token.ok_of_readFrom_concat hread
  rw [List.flatMap_append, List.flatMap_singleton] at hlead
  cases token with
  | none =>
    obtain ⟨d, rfl⟩ := eq_blank_of_read hlexeme
    have hblank : isBlank d = true := wellFormed_of_mem_cutFrom hmem
    obtain ⟨-, rfl⟩ := List.append_singleton_inj.mp hlead
    rcases eq_of_isSign hsign with rfl | rfl <;> exact absurd hblank (by decide)
  | some t =>
    obtain ⟨start, d, htext, -, -, hsymbol⟩ := exists_last hmem hlexeme
    rw [htext, ← List.append_assoc] at hlead
    obtain ⟨hbefore, rfl⟩ := List.append_singleton_inj.mp hlead
    obtain rfl := hsymbol hsign
    obtain rfl : [] = start := by simpa [text] using htext
    rw [List.append_nil] at hbefore
    rw [← hbefore, (expectsOperand_texts h htokens).1]
    have hmem : literal l ∈ cut cs := by simp [h]
    rw [List.flatMap_cons, goesOn, hsign, any_head_of_unsigned hmem hunsigned] at hends
    simpa using hends

theorem not_isNumberChar_of_unsigned {l : Literal} (h : cut cs = lead ++ literal l :: more)
    (hunsigned : l.sign = none) (hread : Token.readFrom true position lead = .ok front) :
    ∀ c ∈ (lead.flatMap text).getLast?, isNumberChar c = false := by
  intro c hc
  rcases List.eq_nil_or_concat' lead with rfl | ⟨lead, lexeme, rfl⟩
  · contradiction
  have hends := endsAt_concat.mp (endsAt_of_cutFrom h)
  rw [List.append_assoc, List.singleton_append] at h
  have hmem : lexeme ∈ cut cs := by simp [h]
  have hliteral : literal l ∈ cut cs := by simp [h]
  have hformed := wellFormed_of_mem_cutFrom hmem
  have hhead := any_head_of_unsigned hliteral hunsigned (more.flatMap text)
  rw [List.flatMap_cons] at hends
  have hlast : c ∈ lexeme.text := by
    rw [List.flatMap_append, List.flatMap_singleton,
      List.getLast?_append_of_ne_nil _ (text_ne_nil_of_mem_cutFrom hmem)] at hc
    exact List.mem_of_getLast? hc
  obtain ⟨tokens, token, place, -, hlexeme, -⟩ := Token.ok_of_readFrom_concat hread
  cases lexeme with
  | blank d =>
    obtain rfl := List.mem_singleton.mp hlast
    exact isNumberChar_of_isBlank hformed
  | call spelling f =>
    have hopens := opensCall_of_cutFrom h
    rw [List.flatMap_cons] at hopens
    cases htext : (literal l).text ++ more.flatMap text with
    | nil =>
      rw [htext] at hhead
      contradiction
    | cons n rest =>
      rw [htext] at hhead hopens
      have hnumber : isNumberChar n = true := hhead
      rw [opensCall_cons (isBlank_of_isNumberChar hnumber), beq_iff_eq] at hopens
      rw [hopens] at hnumber
      exact absurd hnumber (by decide)
  | literal l' =>
    rw [goesOn, hhead] at hends
    contradiction
  | symbol d t =>
    obtain rfl := List.mem_singleton.mp hlast
    rcases eq_of_ofChar? hformed with rfl | rfl | rfl | rfl | rfl | rfl <;> decide
  | name word =>
    rw [← Bool.not_eq_true]
    intro hnumber
    have hname := isNameChar_of_isNumberChar hnumber
    rw [hformed c hlast] at hname
    contradiction
  | stray d => contradiction

theorem not_isNumberChar_of_cut {l : Literal} (h : cut cs = lead ++ literal l :: more)
    (hread : Token.readFrom true position lead = .ok front) :
    ∀ c ∈ (lead.flatMap text ++ l.sign.toList).getLast?, isNumberChar c = false := by
  cases hs : l.sign with
  | none =>
    rw [Option.toList_none, List.append_nil]
    exact not_isNumberChar_of_unsigned h hs hread
  | some c =>
    have hmem : literal l ∈ cut cs := by simp [h]
    have hc := (wellFormed_of_mem_cutFrom hmem).1 c hs
    intro e he
    obtain rfl : c = e := by simpa using he
    rcases eq_of_isSign hc with rfl | rfl <;> decide

/-- **The key takes the sign for the literal's exactly if it is**, and gives the literal the other
one. -/
theorem flip_texts {l : Literal} (h : cut cs = lead ++ literal l :: more)
    (hread : Token.readFrom true position lead = .ok front) :
    SignKey.flip (lead.flatMap text ++ l.sign.toList) = lead.flatMap text ++
      l.toggled.sign.toList := by
  cases hs : l.sign with
  | none =>
    rw [Option.toList_none, List.append_nil, SignKey.flip_unsigned fun before c =>
      expectsOperand_of_unsigned h hs hread]
    simp [Literal.toggled, hs]
  | some c =>
    have hmem : literal l ∈ cut cs := by simp [h]
    have hexpects : expectsBehind true lead = true := expectsBehind_of_sign h (by simp [hs])
    rw [← (expectsOperand_texts h hread).1] at hexpects
    rcases eq_of_isSign ((wellFormed_of_mem_cutFrom hmem).1 c hs) with rfl | rfl
    · rw [Option.toList_some, SignKey.flip_plus hexpects]
      simp [Literal.toggled, hs]
    · rw [Option.toList_some, SignKey.flip_minus hexpects]
      simp [Literal.toggled, hs]

end Lexeme

open Lexeme

/-- **The key replaces the literal at the end of a text by the one with the other sign**, if the
text is read strictly and ends in a digit. -/
theorem SignKey.press_texts {cs : List Char} {lead : List Lexeme} {l : Literal} {front : List Token}
    {position : Nat} (hcut : cut cs = lead ++ [literal l])
    (hread : Token.readFrom true position lead = .ok front) (hformed : l.wellFormed = true)
    {d : Char} (hlast : cs.getLast? = some d) (hdigit : isAsciiDigit d = true) :
    press (String.ofList cs) = String.ofList (lead.flatMap text ++ l.toggled.text) := by
  have hmem : literal l ∈ cut cs := by simp [hcut]
  have hbody := (wellFormed_of_mem_cutFrom hmem).2
  have hne := body_ne_nil_of_mem_cutFrom hmem
  have htexts : cs = lead.flatMap text ++ (l.sign.toList ++ l.body) := texts_of_cutFrom_concat hcut
  have hend : l.body.getLast? = some d := by
    rwa [htexts, ← Literal.text, Literal.getLast?_append_text hne] at hlast
  have hcount : l.body.count '.' ≤ 1 := by
    simp only [Literal.wellFormed, Bool.and_eq_true, decide_eq_true_eq] at hformed
    exact hformed.1
  have hline : d ≠ '\n' := by
    rintro rfl
    exact absurd hdigit (by decide)
  have hnumber :
      trailingNumber? (withoutLineEnd cs) = some (lead.flatMap text ++ l.sign.toList, l.body) := by
    rw [withoutLineEnd_of_last hlast hline, htexts, ← List.append_assoc]
    exact trailingNumber?_append hbody hcount hend hdigit (not_isNumberChar_of_cut hcut hread)
  rw [press, String.toList_ofList, hnumber]
  simp only [flip_texts hcut hread, Literal.text, List.append_assoc]
  rfl

end Calculator

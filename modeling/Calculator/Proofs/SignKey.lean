import Calculator.Proofs.Trailing
import Calculator.Proofs.Writing

/-! # What the sign key does to the tokens

On a text that is read strictly and ends in a digit, the key changes the sign of the last literal.
How the changed text is read depends on what stands in front of the literal (`Pressed`,
`read_press`). Where an operand is expected, the last number is negated. Behind an operand, the new
minus is an operator. And a sign that stood in front of a minus, where an operand is expected, is
now the sign of the number itself: the operator is gone.

In a phrase only the first of the three occurs (`Writes.exists_number`), so the key negates the last
number of whatever a phrase is written as, and does so again (`press_negates_last`).
-/

namespace Calculator

open Text Lexeme Postfix

/-! ### The last lexeme -/

theorem Lexeme.exists_literal_of_number {expects : Bool} {cs : List Char} {lexeme : Lexeme}
    (hmem : lexeme ∈ cutFrom expects cs) {place : Nat} {x : Float}
    (h : Token.ofLexeme true place lexeme = .ok (some (.number x))) :
    ∃ l, lexeme = literal l ∧ l.wellFormed = true ∧ l.value = x := by
  cases lexeme with
  | literal l =>
    obtain ⟨v, hv, heq⟩ := ok_of_map h
    obtain rfl : v = x := by simpa using heq
    exact ⟨l, rfl, Literal.read_strict_iff.mp hv⟩
  | symbol c t =>
    obtain rfl := Option.some.inj (Except.ok.inj h)
    have ht : Token.ofChar? c = some (.number x) := wellFormed_of_mem_cutFrom hmem
    rcases eq_of_ofChar? ht with rfl | rfl | rfl | rfl | rfl | rfl <;> cases ht
  | name word =>
    rw [Token.ofLexeme] at h
    split at h
    · cases Except.ok.inj h
    · contradiction
  | blank | call => cases Except.ok.inj h
  | stray c => contradiction

/-- **A text that is read with a number last ends in a literal**, unless it ends in blanks. -/
theorem Lexeme.exists_literal_of_read {text : String} {front : List Token} {x : Float}
    (h : Token.read true text = .ok (front ++ [Token.number x]))
    (hblank : ∀ c ∈ text.toList.getLast?, isBlank c = false) :
    ∃ lead l, cut text.toList = lead ++ [literal l] ∧ Token.readFrom true 0 lead = .ok front ∧
      l.wellFormed = true ∧ l.value = x := by
  rw [Token.read] at h
  rcases List.eq_nil_or_concat' (cut text.toList) with hcut | ⟨lead, lexeme, hcut⟩
  · rw [hcut] at h
    exact absurd (Except.ok.inj h) (by simp)
  · have hmem : lexeme ∈ cut text.toList := by simp [hcut]
    rw [hcut] at h
    obtain ⟨tokens, token, place, hlead, hlexeme, heq⟩ := Token.ok_of_readFrom_concat h
    cases token with
    | none =>
      obtain ⟨c, rfl⟩ := eq_blank_of_read hlexeme
      have hc : isBlank c = true := wellFormed_of_mem_cutFrom hmem
      have hlast : text.toList.getLast? = some c := by
        rw [texts_of_cutFrom_concat hcut, Lexeme.text, List.getLast?_concat]
      rw [hblank c hlast] at hc
      contradiction
    | some t =>
      obtain ⟨rfl, rfl⟩ := List.append_singleton_inj.mp heq
      obtain ⟨l, rfl, hformed, hvalue⟩ := exists_literal_of_number hmem hlexeme
      exact ⟨lead, l, hcut, hlead, hformed, hvalue⟩

/-! ### Cutting the changed text -/

namespace Literal

theorem opening_notMem_text {l : Literal} (hsign : ∀ c ∈ l.sign, isSign c = true)
    (hbody : ∀ c ∈ l.body, isNumberChar c = true) : '(' ∉ l.text := by
  intro h
  rcases List.mem_append.mp h with h | h
  · exact absurd (hsign '(' (Option.mem_toList.mp h)) (by decide)
  · exact absurd (hbody '(' h) (by decide)

theorem text_toggled_of_ne {l : Literal} (h : l.sign ≠ some '-') :
    l.toggled.text = '-' :: l.body := by
  simp [toggled, text, h]

theorem isSign_toggled (l : Literal) : ∀ c ∈ l.toggled.sign, isSign c = true := by
  intro c hc
  by_cases hsign : l.sign = some '-'
  · simp [toggled, hsign] at hc
  · obtain rfl : '-' = c := by simpa [toggled, hsign] using hc
    decide

end Literal

namespace Lexeme

theorem cutFrom_literal_alone {l : Literal} {expects : Bool} (hsign : ∀ c ∈ l.sign, isSign c = true)
    (hexpects : l.sign ≠ none → expects = true) (hbody : ∀ c ∈ l.body, isNumberChar c = true)
    (hne : l.body ≠ []) : cutFrom expects l.text = [literal l] := by
  have hcut := cutFrom_literal hsign hexpects hbody hne stops_nil
  rwa [List.append_nil, cutFrom_nil] at hcut

theorem endsAt_minus (expects : Bool) (lexemes : List Lexeme) : EndsAt expects lexemes (some '-') :=
  endsAt_of_stop (by decide) (by decide +kernel) expects lexemes

/-- Where an operand is expected, only a sign goes on with a digit or a point, and one that stands
where an operand is expected. -/
theorem endsAt_or_exists_sign {expects : Bool} {lexemes : List Lexeme}
    (h : expectsBehind expects lexemes = true) (next : Option Char) :
    EndsAt expects lexemes next ∨
      ∃ front c t, lexemes = front ++ [symbol c t] ∧ isSign c = true ∧
      expectsBehind expects front = true := by
  rcases List.eq_nil_or_concat' lexemes with rfl | ⟨front, lexeme, rfl⟩
  · exact Or.inl (endsAt_nil _ _)
  · rw [expectsBehind_concat] at h
    rw [endsAt_concat]
    cases lexeme with
    | literal | name => contradiction
    | blank | call | stray => exact Or.inl rfl
    | symbol c t =>
      by_cases hsign : isSign c = true ∧ expectsBehind expects front = true
      · exact Or.inr ⟨front, c, t, rfl, hsign⟩
      · left
        rw [goesOn, Bool.and_eq_false_iff, ← Bool.not_eq_true, Bool.and_eq_true]
        exact Or.inl hsign

end Lexeme

/-! ### Reading the changed text -/

/-- The tokens that a text has after the key was pressed, if it ended in the number `x` behind the
tokens `front`. -/
inductive Pressed (front : List Token) (x : Float) : List Token → Prop where
  /-- The number is negated where an operand is expected. -/
  | negated (h : OperandNext front) : Pressed front x (front ++ [Token.number (-x)])
  /-- Behind an operand the new minus is an operator. -/
  | subtracted (h : ¬ OperandNext front) :
    Pressed front x (front ++ [Token.operator .sub, .number x])
  /-- A plus in front of the minus that goes is now the sign of the number. -/
  | joinedPlus {before : List Token} (hfront : front = before ++ [Token.operator .add])
    (h : OperandNext before) :
    Pressed front x (before ++ [Token.number (-x)])
  /-- A minus in front of the minus that goes is now the sign of the number. -/
  | joinedMinus {before : List Token} (hfront : front = before ++ [Token.operator .sub])
    (h : OperandNext before) :
    Pressed front x (before ++ [Token.number x])

namespace Token

variable {lead : List Lexeme} {front : List Token} {position : Nat}

theorem readFrom_concat {strict : Bool} (hread : readFrom strict position lead = .ok front)
    {lexeme : Lexeme} {t : Token} (hlexeme : ∀ place, ofLexeme strict place lexeme = .ok (some t)) :
    readFrom strict position (lead ++ [lexeme]) = .ok (front ++ [t]) := by
  rw [readFrom_append hread, readFrom_cons_of_ok (hlexeme _)]
  rfl

theorem readFrom_literal (hread : readFrom true position lead = .ok front) {l : Literal}
    (hformed : l.wellFormed = true) :
    readFrom true position (lead ++ [literal l]) = .ok (front ++ [Token.number l.value]) := by
  refine readFrom_concat hread fun place => ?_
  rw [ofLexeme, Literal.read, if_pos hformed]
  rfl

end Token

namespace Lexeme

variable {cs : List Char} {lead more : List Lexeme} {l : Literal} {front : List Token}

/-- **A literal in the place of the end of a text is read as its value**, where an operand is
expected. -/
theorem read_exchanged (hcut : cut cs = lead ++ more) (hmore : '(' ∉ more.flatMap text)
    (hread : Token.readFrom true 0 lead = .ok front) (hsign : ∀ c ∈ l.sign, isSign c = true)
    (hbody : ∀ c ∈ l.body, isNumberChar c = true) (hne : l.body ≠ [])
    (hformed : l.wellFormed = true)
    (hexpects : expectsBehind true lead = true) (hends : EndsAt true lead l.text.head?) :
    Token.read true (String.ofList (lead.flatMap text ++ l.text)) =
      .ok (front ++ [Token.number l.value]) := by
  have hexchange := cutFrom_exchange hcut hmore (Literal.opening_notMem_text hsign hbody) hends
  rw [hexpects, cutFrom_literal_alone hsign (fun _ => rfl) hbody hne] at hexchange
  rw [Token.read, String.toList_ofList, cut, hexchange]
  exact Token.readFrom_literal hread hformed

section Literal

variable (hcut : cut cs = lead ++ [literal l]) (hread : Token.readFrom true 0 lead = .ok front)
  (hformed : l.wellFormed = true)

include hcut

theorem opening_notMem_of_cut : '(' ∉ (literal l).text := by
  have hmem : literal l ∈ cut cs := by simp [hcut]
  exact Literal.opening_notMem_text (wellFormed_of_mem_cutFrom hmem).1
    (wellFormed_of_mem_cutFrom hmem).2

include hread hformed

/-- Where an operand is expected, the literal with the other sign is read as the negated number,
unless what is in front of it goes on with the literal. -/
theorem read_negated (hexpects : expectsBehind true lead = true)
    (hends : EndsAt true lead l.toggled.text.head?) :
    Token.read true (String.ofList (lead.flatMap text ++ l.toggled.text)) =
      .ok (front ++ [Token.number (-l.value)]) := by
  have hmem : literal l ∈ cut cs := by simp [hcut]
  obtain ⟨-, hbody⟩ := wellFormed_of_mem_cutFrom hmem
  have hne := body_ne_nil_of_mem_cutFrom hmem
  have hmore : '(' ∉ [literal l].flatMap text := by
    rw [List.flatMap_singleton]
    exact opening_notMem_of_cut hcut
  rw [← Literal.value_toggled]
  exact read_exchanged hcut hmore hread l.isSign_toggled hbody hne hformed hexpects hends

/-- Behind an operand the literal has no sign, and the new minus is not its. -/
theorem read_subtracted (hexpects : expectsBehind true lead = false) :
    Token.read true (String.ofList (lead.flatMap text ++ l.toggled.text)) =
      .ok (front ++ [Token.operator .sub, .number l.value]) := by
  have hmem : literal l ∈ cut cs := by simp [hcut]
  obtain ⟨hsign, hbody⟩ := wellFormed_of_mem_cutFrom hmem
  have hne := body_ne_nil_of_mem_cutFrom hmem
  have hunsigned : l.sign = none := by
    by_contra hsigned
    rw [expectsBehind_of_sign hcut hsigned] at hexpects
    contradiction
  have htoggled : l.toggled.text = '-' :: l.text := by
    rw [Literal.text_toggled_of_ne (by simp [hunsigned])]
    simp [Literal.text, hunsigned]
  have hmore : '(' ∉ [literal l].flatMap text := by
    rw [List.flatMap_singleton]
    exact opening_notMem_of_cut hcut
  have htail : '(' ∉ '-' :: l.text := by
    rw [← htoggled]
    exact Literal.opening_notMem_text l.isSign_toggled hbody
  have hsymbol : startsSigned false '-' l.text = false := by
    simp [startsSigned]
  have hexchange := cutFrom_exchange hcut hmore htail (endsAt_minus true lead)
  rw [hexpects, cutFrom_symbol (t := .operator .sub) rfl false _ hsymbol, Token.expectsOperand,
    cutFrom_literal_alone hsign (fun _ => rfl) hbody hne] at hexchange
  have hminus : Token.readFrom true 0 (lead ++ [symbol '-' (.operator .sub)]) =
      .ok (front ++ [Token.operator .sub]) :=
    Token.readFrom_concat hread fun _ => rfl
  have hboth := Token.readFrom_literal hminus hformed
  rw [List.append_assoc, List.append_assoc] at hboth
  rw [Token.read, String.toList_ofList, cut, htoggled, hexchange]
  exact hboth

end Literal

/-- A sign in front of a minus that goes is the sign of the literal, if an operand is expected in
front of it. -/
theorem read_joined {c : Char} {t : Token} (hcut : cut cs = lead ++ [symbol c t] ++ [literal l])
    (hread : Token.readFrom true 0 lead = .ok front) (hformed : l.wellFormed = true)
    (hminus : l.sign = some '-') (hc : isSign c = true)
    (hexpects : expectsBehind true lead = true) :
    Token.read true (String.ofList ((lead ++ [symbol c t]).flatMap text ++ l.toggled.text)) =
      .ok (front ++ [Token.number (if c = '-' then l.value else -l.value)]) := by
  have hmem : literal l ∈ cut cs := by simp [hcut]
  obtain ⟨-, hbody⟩ := wellFormed_of_mem_cutFrom hmem
  have hne := body_ne_nil_of_mem_cutFrom hmem
  have htext : (lead ++ [symbol c t]).flatMap text ++ l.toggled.text =
      lead.flatMap text ++ (Literal.mk (some c) l.body).text := by
    simp [Literal.toggled, Literal.text, hminus, text]
  have hvalue : (Literal.mk (some c) l.body).value = if c = '-' then l.value else -l.value := by
    rcases eq_of_isSign hc with rfl | rfl
    · rw [if_neg (by decide), ← l.value_toggled]
      simp [Literal.toggled, Literal.value, hminus]
    · rw [if_pos rfl, ← hminus]
  have hmore : '(' ∉ [symbol c t, literal l].flatMap text := by
    rw [List.flatMap_cons, List.flatMap_singleton]
    intro h
    rcases List.mem_append.mp h with h | h
    · obtain rfl : '(' = c := List.mem_singleton.mp h
      exact absurd hc (by decide)
    · exact opening_notMem_of_cut hcut h
  rw [List.append_assoc, List.singleton_append] at hcut
  rw [htext, ← hvalue]
  exact read_exchanged hcut hmore hread (by simpa using hc) hbody hne hformed hexpects
    (endsAt_of_cutFrom hcut)

/-- **How a text is read when the sign of the literal that it ends in is changed.** -/
theorem read_toggled (hcut : cut cs = lead ++ [literal l])
    (hread : Token.readFrom true 0 lead = .ok front) (hformed : l.wellFormed = true) :
    ∃ tokens, Token.read true (String.ofList (lead.flatMap text ++ l.toggled.text)) = .ok tokens ∧
      Pressed front l.value tokens := by
  have hnext := (expectsOperand_texts hcut hread).2
  by_cases hexpects : expectsBehind true lead = true
  · by_cases hends : EndsAt true lead l.toggled.text.head?
    · exact ⟨_, read_negated hcut hread hformed hexpects hends, .negated (hnext.mp hexpects)⟩
    · -- only a minus that goes lets what is in front of it go on with the digits
      have hminus : l.sign = some '-' := by
        by_contra hsign
        refine hends ?_
        rw [Literal.text_toggled_of_ne hsign]
        exact endsAt_minus true lead
      rcases endsAt_or_exists_sign hexpects l.toggled.text.head? with
        hends' | ⟨lead, c, t, rfl, hc, hbefore⟩
      · exact absurd hends' hends
      have hsymbol : Token.ofChar? c = some t := by
        have hmem : symbol c t ∈ cut cs := by simp [hcut]
        exact wellFormed_of_mem_cutFrom hmem
      obtain ⟨before, token, place, hlead, hlexeme, rfl⟩ := Token.ok_of_readFrom_concat hread
      obtain rfl : some t = token := Except.ok.inj hlexeme
      have hjoined := read_joined hcut hlead hformed hminus hc hbefore
      rw [List.append_assoc] at hcut
      have hoperand : OperandNext before := (expectsOperand_texts hcut hlead).2.mp hbefore
      refine ⟨_, hjoined, ?_⟩
      rcases eq_of_isSign hc with rfl | rfl
      · obtain rfl : Token.operator .add = t := Option.some.inj hsymbol
        exact .joinedPlus rfl hoperand
      · obtain rfl : Token.operator .sub = t := Option.some.inj hsymbol
        exact .joinedMinus rfl hoperand
  · rw [Bool.not_eq_true] at hexpects
    refine ⟨_, read_subtracted hcut hread hformed hexpects, .subtracted fun hoperand => ?_⟩
    rw [hnext.mpr hoperand] at hexpects
    contradiction

end Lexeme

/-- **What the key does to the tokens of a text that ends in a digit.** The last character stays. -/
theorem SignKey.read_press {text : String} {front : List Token} {x : Float} {d : Char}
    (h : Token.read true text = .ok (front ++ [Token.number x]))
    (hlast : text.toList.getLast? = some d) (hdigit : isAsciiDigit d = true) :
    (∃ tokens, Token.read true (press text) = .ok tokens ∧ Pressed front x tokens) ∧
      (press text).toList.getLast? = some d := by
  have hblank : ∀ c ∈ text.toList.getLast?, isBlank c = false := by
    intro c hc
    obtain rfl : d = c := Option.some.inj (hlast.symm.trans hc)
    exact isBlank_of_isNumberChar (by simp [isNumberChar, hdigit])
  obtain ⟨lead, l, hcut, hread, hformed, rfl⟩ := exists_literal_of_read h hblank
  have hne : l.body ≠ [] := by
    have hmem : literal l ∈ cut text.toList := by simp [hcut]
    exact body_ne_nil_of_mem_cutFrom hmem
  have hpress := press_texts hcut hread hformed hlast hdigit
  have hend : l.body.getLast? = some d := by
    rwa [texts_of_cutFrom_concat hcut, Lexeme.text, Literal.getLast?_append_text hne] at hlast
  have hsame : l.toggled.body = l.body := rfl
  rw [String.ofList_toList] at hpress
  refine ⟨?_, ?_⟩
  · rw [hpress]
    exact read_toggled hcut hread hformed
  · rw [hpress, String.toList_ofList, Literal.getLast?_append_text (hsame ▸ hne), hsame, hend]

/-! ### Phrases -/

namespace Postfix

/-- Behind a token that expects one, whether an operand is expected is told by what follows. -/
theorem operandNext_append_cons {before behind : List Token} {t : Token}
    (ht : t.expectsOperand = true) : OperandNext (before ++ t :: behind) ↔ OperandNext behind := by
  rcases List.eq_nil_or_concat' behind with rfl | ⟨behind, u, rfl⟩
  · exact iff_of_true (operandNext_concat.mpr ht) operandNext_nil
  · rw [← List.cons_append, ← List.append_assoc, operandNext_concat, operandNext_concat]

/-- The last of these tokens is an operator, and an operand is expected in its place. -/
def Misplaced (tokens : List Token) : Prop :=
  ∃ before op, tokens = before ++ [Token.operator op] ∧ OperandNext before

theorem not_misplaced_nil : ¬ Misplaced [] := by
  rintro ⟨before, op, h, -⟩
  simp at h

theorem misplaced_concat {before : List Token} {op : BinaryOp} :
    Misplaced (before ++ [Token.operator op]) ↔ OperandNext before := by
  constructor
  · rintro ⟨before', op', h, hnext⟩
    rwa [(List.append_singleton_inj.mp h).1]
  · intro hnext
    exact ⟨before, op, rfl, hnext⟩

theorem Misplaced.of_append_cons {before behind : List Token} {t : Token}
    (h : Misplaced (before ++ t :: behind)) (ht : t.expectsOperand = true) (hne : behind ≠ []) :
    Misplaced behind := by
  rcases List.eq_nil_or_concat' behind with rfl | ⟨behind, u, rfl⟩
  · exact absurd rfl hne
  · obtain ⟨before', op, heq, hnext⟩ := h
    rw [← List.cons_append, ← List.append_assoc] at heq
    obtain ⟨rfl, rfl⟩ := List.append_singleton_inj.mp heq
    exact ⟨behind, op, rfl, (operandNext_append_cons ht).mp hnext⟩

end Postfix

theorem Pressed.eq_of_operandNext {front tokens : List Token} {x : Float}
    (h : Pressed front x tokens) (hnext : OperandNext front) (hplaced : ¬ Misplaced front) :
    tokens = front ++ [Token.number (-x)] := by
  cases h with
  | negated _ => rfl
  | subtracted hnot => exact absurd hnext hnot
  | joinedPlus hfront hbefore => exact absurd ⟨_, _, hfront, hbefore⟩ hplaced
  | joinedMinus hfront hbefore => exact absurd ⟨_, _, hfront, hbefore⟩ hplaced

theorem Phrase.not_operandNext {l : Level} (p : Phrase l) : ¬ OperandNext p.tokens := by
  induction p with
  | number v => simp [tokens, OperandNext, Token.expectsOperand]
  | group s ih =>
    rw [tokens, ← List.cons_append, operandNext_concat]
    simp [Token.expectsOperand]
  | call f name s ih =>
    rw [tokens, ← List.cons_append, ← List.cons_append, operandNext_concat]
    simp [Token.expectsOperand]
  | ofFactor p ih => exact ih
  | ofTerm p ih => exact ih
  | binary op p q _ ih =>
    rw [tokens, operandNext_append_cons rfl]
    exact ih

namespace Writes

theorem text_ne_nil {l : Level} {p : Phrase l} {text : List Char} (h : Writes p text) :
    text ≠ [] := by
  induction h with
  | number sign n hsign => simp [n.text_ne_nil]
  | group | call | binary => simp
  | ofFactor _ ih => exact ih
  | ofTerm _ ih => exact ih

/-- **A phrase that ends in a digit ends in a number**, which stands where an operand is expected
and behind no misplaced operator. -/
theorem exists_number {l : Level} {p : Phrase l} {text : List Char} (h : Writes p text) {d : Char}
    (hlast : text.getLast? = some d) (hdigit : isAsciiDigit d = true) :
    ∃ front x, p.tokens = front ++ [Token.number x] ∧ OperandNext front ∧ ¬ Misplaced front := by
  have hclosing : some ')' ≠ some d := by
    rintro ⟨⟩
    exact absurd hdigit (by decide)
  induction h with
  | number sign n hsign => exact ⟨[], _, rfl, operandNext_nil, not_misplaced_nil⟩
  | group =>
    rw [← List.cons_append, List.getLast?_concat] at hlast
    exact absurd hlast hclosing
  | call =>
    rw [← List.cons_append, ← List.append_assoc, List.getLast?_concat] at hlast
    exact absurd hlast hclosing
  | ofFactor _ ih => exact ih hlast
  | ofTerm _ ih => exact ih hlast
  | @binary op p q left right before behind _ hq _ _ _ ih =>
    have hright : right.getLast? = some d := by
      rw [← List.cons_append, ← List.append_assoc, List.getLast?_append_of_ne_nil _ hq.text_ne_nil]
        at hlast
      exact hlast
    obtain ⟨front, x, htokens, hnext, hplaced⟩ := ih hright
    refine ⟨p.tokens ++ .operator op :: front, x, ?_, (operandNext_append_cons rfl).mpr hnext, ?_⟩
    · rw [Phrase.tokens, htokens, List.append_assoc, List.cons_append]
    · intro hmisplaced
      by_cases hempty : front = []
      · rw [hempty, misplaced_concat] at hmisplaced
        exact p.not_operandNext hmisplaced
      · exact hplaced (hmisplaced.of_append_cons rfl hempty)

end Writes

/-- **The key negates the last number of an expression, and again.** Whatever way a sum is written,
with a digit last, pressing the key changes the last number's sign in the tokens and nothing else,
and pressing it twice changes nothing. -/
theorem SignKey.press_negates_last {s : Phrase .sum} {text before : List Char} (h : Writes s text)
    (hbefore : Blanks before) {d : Char} (hlast : text.getLast? = some d)
    (hdigit : isAsciiDigit d = true) :
    let expression := String.ofList (before ++ text)
    Token.read true expression = .ok s.tokens ∧
      ∃ front x, s.tokens = front ++ [Token.number x] ∧
        Token.read true (press expression) = .ok (front ++ [Token.number (-x)]) ∧
        Token.read true (press (press expression)) = .ok s.tokens := by
  obtain ⟨front, x, htokens, hnext, hplaced⟩ := h.exists_number hlast hdigit
  obtain ⟨lexemes, hcut, hread⟩ := h.cut true stops_nil
  have htext : Token.read true (String.ofList (before ++ text)) = .ok s.tokens := by
    rw [List.append_nil, cutFrom_nil, List.append_nil] at hcut
    rw [Token.read, String.toList_ofList, Lexeme.cut, cutFrom_blanks hbefore, hcut]
    exact (Token.reads_blanks before).append hread 0
  have hend : (String.ofList (before ++ text)).toList.getLast? = some d := by
    rw [String.toList_ofList, List.getLast?_append_of_ne_nil _ h.text_ne_nil, hlast]
  refine ⟨htext, front, x, htokens, ?_⟩
  rw [htokens] at htext
  obtain ⟨⟨once, hreads, hpressed⟩, hend⟩ := read_press htext hend hdigit
  rw [hpressed.eq_of_operandNext hnext hplaced] at hreads
  obtain ⟨⟨twice, hreads', hpressed'⟩, -⟩ := read_press hreads hend hdigit
  rw [hpressed'.eq_of_operandNext hnext hplaced, Number.negated_twice, ← htokens] at hreads'
  exact ⟨hreads, hreads'⟩

/-- A plus that belongs to the number becomes a minus, and goes when the key is pressed again. -/
theorem SignKey.press_negates_last_plus :
    Token.read true (press (String.ofList " 2-10^x( 3 )*+4.5".toList)) =
        .ok [.number 2.0, .operator .sub, .function .powerOfTen "10^x", .opening, .number 3.0,
          .closing, .operator .mul, .number (-4.5)] ∧
      Token.read true (press (press (String.ofList " 2-10^x( 3 )*+4.5".toList))) =
        .ok [.number 2.0, .operator .sub, .function .powerOfTen "10^x", .opening, .number 3.0,
          .closing, .operator .mul, .number 4.5] := by
  have htwo := Writes.number none ⟨['2'], none, by decide, by decide⟩ (by simp)
  have hthree := Writes.number none ⟨['3'], none, by decide, by decide⟩ (by simp)
  have hlast :=
    Writes.number (some '+') ⟨['4'], some ['5'], by decide, by decide⟩ (by simp [isSign])
  have hblank : Blanks [' '] := by
    intro c hc
    obtain rfl := List.mem_singleton.mp hc
    decide
  have hnone : Blanks [] := by simp [Blanks]
  have hname : ("10^x", MathFunction.powerOfTen) ∈ MathFunction.spellings := by decide +kernel
  have hcall := Writes.call hname hthree.ofFactor.ofTerm hnone hblank hblank
  have hproduct : Writes (.binary .mul (.ofFactor _) _) _ :=
    Writes.binary hcall.ofFactor hlast hnone hnone
  have hsum : Writes (.binary .sub (.ofTerm (.ofFactor _)) _) _ :=
    Writes.binary htwo.ofFactor.ofTerm hproduct hnone hnone
  obtain ⟨-, front, x, htokens, honce, htwice⟩ :=
    press_negates_last hsum hblank (d := '5') (by decide) (by decide)
  have hlisted :
      front ++ [Token.number x] = [Token.number 2.0, .operator .sub, .function .powerOfTen "10^x",
        .opening, .number 3.0, .closing, .operator .mul] ++ [Token.number 4.5] := by
    rw [← htokens]
    decide +kernel
  obtain ⟨rfl, hx⟩ := List.append_singleton_inj.mp hlisted
  obtain rfl : x = 4.5 := Token.number.inj hx
  refine ⟨honce, Eq.trans htwice ?_⟩
  rw [htokens]
  rfl

end Calculator

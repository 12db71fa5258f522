import Calculator.Proofs.Forest
import Calculator.Proofs.SignKey

/-! # Whether an expression has a value after the sign key

An expression that has a value still has one when its last number is negated, unless a factorial is
not defined any more: what a strict run needs of the stack is that there are enough numbers
(`run_of_length`).

When the key does not negate the last number (`Pressed`), it makes an operator of the minus or takes
one away. An expression with a value has one number more than it has operators (`numbers_of_value`),
so it has no value then (`evaluate_press`).
-/

namespace Calculator

open Text Lexeme

namespace Postfix

variable {mode : AngleMode}

/-! ### Another number -/

theorem applyFunction_cases (mode : AngleMode) (f : MathFunction) (v : Float) :
    (∃ y, applyFunction mode true f v = .ok y) ∨ ∃ w,
      applyFunction mode true f v = .error (.factorialUndefined w) := by
  rcases Tree.apply_cases mode f v with ⟨y, hy, -⟩ | ⟨-, -, hundefined⟩
  · exact Or.inl ⟨y, by rw [applyFunction, hy]⟩
  · exact Or.inr ⟨v, by rw [applyFunction, hundefined]; rfl⟩

/-- **What a strict step needs of the stack are numbers, no matter which**, but for the argument of
a factorial. -/
theorem step_of_length {stack stack' other : List Float} {t : Token}
    (h : step mode true stack t = .ok stack') (hlength : other.length = stack.length) :
    (∃ other', step mode true other t = .ok other' ∧ other'.length = stack'.length) ∨
      ∃ w, step mode true other t = .error (.factorialUndefined w) := by
  cases t with
  | number v =>
    obtain rfl : v :: stack = stack' := by cases stack <;> exact Except.ok.inj h
    refine Or.inl ⟨v :: other, by cases other <;> rfl, ?_⟩
    rw [List.length_cons, List.length_cons, hlength]
  | function f name =>
    cases stack with
    | nil => contradiction
    | cons a stack =>
      obtain ⟨b, other, rfl⟩ : ∃ b rest, other = b :: rest :=
        List.exists_cons_of_length_eq_add_one hlength
      obtain ⟨y, -, hy⟩ := ok_of_bind h
      obtain rfl : y :: stack = stack' := Except.ok.inj hy
      rcases applyFunction_cases mode f b with ⟨z, hz⟩ | ⟨w, hw⟩
      · refine Or.inl ⟨z :: other, ?_, hlength⟩
        rw [step, hz]
        rfl
      · refine Or.inr ⟨w, ?_⟩
        rw [step, hw]
        rfl
  | operator op =>
    rcases stack with _ | ⟨b, _ | ⟨a, stack⟩⟩
    · contradiction
    · contradiction
    · obtain rfl : op.apply a b :: stack = stack' := Except.ok.inj h
      rcases other with _ | ⟨d, _ | ⟨c, other⟩⟩
      · simp at hlength
      · simp at hlength
      · refine Or.inl ⟨op.apply c d :: other, rfl, ?_⟩
        simpa using hlength
  | opening | closing | «foreign» =>
    rcases stack with _ | ⟨b, _ | ⟨a, stack⟩⟩ <;> contradiction

/-- **So does a strict run.** -/
theorem run_of_length {program : List Token} {stack stack' other : List Float}
    (h : run mode true stack program = .ok stack') (hlength : other.length = stack.length) :
    (∃ other', run mode true other program = .ok other' ∧ other'.length = stack'.length) ∨
      ∃ w, run mode true other program = .error (.factorialUndefined w) := by
  induction program generalizing stack other with
  | nil =>
    obtain rfl : stack = stack' := Except.ok.inj h
    exact Or.inl ⟨other, rfl, hlength⟩
  | cons t program ih =>
    rw [run_cons] at h
    obtain ⟨next, hstep, hrun⟩ := ok_of_bind h
    rcases step_of_length hstep hlength with ⟨next', hnext', hlength'⟩ | ⟨w, hw⟩
    · rw [run_cons, hnext']
      exact ih hrun hlength'
    · rw [run_cons, hw]
      exact Or.inr ⟨w, rfl⟩

theorem result_of_length {stack other : List Float} {v : Float} (h : result true stack = .ok v)
    (hlength : other.length = stack.length) : ∃ w, result true other = .ok w := by
  by_cases hmore : 1 < stack.length
  · rw [result, if_pos (by simpa using hmore)] at h
    contradiction
  · refine ⟨other.getLast?.getD 0.0, ?_⟩
    rw [result, if_neg (by simpa [hlength] using hmore)]

/-- **Another number in the place of the last one leaves an expression with a value**, or a
factorial is not defined. -/
theorem value_of_last {front : List Token} {x v : Float}
    (h : (ofTokens true (front ++ [Token.number x])).bind (value mode true) = .ok v) (y : Float) :
    (∃ w, (ofTokens true (front ++ [Token.number y])).bind (value mode true) = .ok w) ∨
      ∃ w, (ofTokens true (front ++ [Token.number y])).bind (value mode true) =
        .error (.factorialUndefined w) := by
  obtain ⟨program, horder, hvalue⟩ := ok_of_bind h
  rcases order_append true [] front with ⟨emitted, stack, hfront⟩ | ⟨e, hfront⟩
  · have hordered : ∀ z,
        ofTokens true (front ++ [Token.number z]) = emit (emitted ++ [Token.number z])
          (drain true stack) := by
      intro z
      rw [ofTokens, hfront, order_number, order_nil, emit_emit]
    rw [hordered] at horder
    obtain ⟨drained, hdrained, rfl⟩ := ok_of_emit horder
    have hrun : ∀ z, run mode true [] (emitted ++ [Token.number z] ++ drained) =
        (run mode true [] emitted).bind fun below => run mode true (z :: below) drained := by
      intro z
      rw [List.append_assoc, run_append]
      rfl
    rw [value, hrun] at hvalue
    obtain ⟨left, hleft, hresult⟩ := ok_of_bind hvalue
    obtain ⟨below, hbelow, hleft⟩ := ok_of_bind hleft
    have hlength : (y :: below).length = (x :: below).length := rfl
    have hother : (ofTokens true (front ++ [Token.number y])).bind (value mode true) =
        (run mode true (y :: below) drained).bind (result true) := by
      rw [hordered, hdrained]
      change value mode true _ = _
      rw [value, hrun, hbelow]
      rfl
    rw [hother]
    rcases run_of_length hleft hlength with ⟨left', hleft', hlength'⟩ | ⟨w, hw⟩
    · rw [hleft']
      exact Or.inl (result_of_length hresult hlength')
    · rw [hw]
      exact Or.inr ⟨w, rfl⟩
  · rw [ofTokens, hfront] at horder
    contradiction

/-! ### Another operator -/

theorem countP_bare {p : Token → Bool} (hp : ∀ t, t.isParenthesis = true → p t = false)
    (tokens : List Token) : (bare tokens).countP p = tokens.countP p := by
  rw [bare, List.countP_filter]
  refine List.countP_congr fun t _ => ?_
  cases ht : t.isParenthesis with
  | false => simp
  | true => simp [hp t ht]

/-- **An expression with a value has one number more than it has operators.** -/
theorem numbers_of_value {tokens : List Token} {v : Float}
    (h : (ofTokens true tokens).bind (value mode true) = .ok v) (hbare : bare tokens ≠ []) :
    numbers tokens = operators tokens + 1 := by
  obtain ⟨t, horder, -⟩ := exists_tree_of_value h hbare
  have hperm := ofTokens_perm true horder
  have hnumbers : numbers t.postorder = numbers tokens :=
    (hperm.countP_eq _).trans
      (countP_bare (fun t ht => by cases t <;> first | rfl | contradiction) tokens)
  have hoperators : operators t.postorder = operators tokens :=
    (hperm.countP_eq _).trans
      (countP_bare (fun t ht => by cases t <;> first | rfl | contradiction) tokens)
  rw [← hnumbers, ← hoperators, numbers_postorder]

theorem bare_number_ne_nil (front : List Token) (x : Float) :
    bare (front ++ [Token.number x]) ≠ [] := by
  rw [bare_append, bare_cons rfl]
  simp

/-- **If an expression has a value, what the key makes of its tokens has none, unless the last
number is negated.** There is an operator too many then, or one too few. -/
theorem no_value_of_pressed {front tokens : List Token} {x v : Float}
    (h : (ofTokens true (front ++ [Token.number x])).bind (value mode true) = .ok v)
    (hpressed : Pressed front x tokens) (hother : tokens ≠ front ++ [Token.number (-x)])
    (w : Float) : (ofTokens true tokens).bind (value mode true) ≠ .ok w := by
  have hcount : ∀ (front : List Token) (x v : Float),
      (ofTokens true (front ++ [Token.number x])).bind (value mode true) = .ok v →
      numbers front = operators front := by
    intro front x v h
    have hsum := numbers_of_value h (bare_number_ne_nil front x)
    rw [numbers_append, operators_append] at hsum
    exact Nat.add_right_cancel hsum
  have hfront := hcount front x v h
  intro hw
  cases hpressed with
  | negated => exact hother rfl
  | subtracted =>
    have hlonger := hcount (front ++ [Token.operator .sub]) x w (by simpa using hw)
    rw [numbers_append, operators_append, hfront] at hlonger
    exact absurd hlonger (by simp [numbers, operators])
  | @joinedPlus before hjoined =>
    have hshorter := hcount before _ w hw
    rw [hjoined, numbers_append, operators_append, hshorter] at hfront
    exact absurd hfront (by simp [numbers, operators])
  | @joinedMinus before hjoined =>
    have hshorter := hcount before _ w hw
    rw [hjoined, numbers_append, operators_append, hshorter] at hfront
    exact absurd hfront (by simp [numbers, operators])

end Postfix

/-! ### The key -/

namespace SignKey

theorem press_of_not_digit {text : String} {d : Char} (hlast : text.toList.getLast? = some d)
    (hdigit : isAsciiDigit d = false) (hline : d ≠ '\n') : press text = text := by
  have hnone : trailingNumber? text.toList = none := by
    refine trailingNumber?_of_not_digit fun c hc => ?_
    obtain rfl : d = c := Option.some.inj (hlast.symm.trans hc)
    exact hdigit
  rw [press, withoutLineEnd_of_last hlast hline, hnone]

theorem text_toggled_ne (l : Literal) : l.toggled.text ≠ l.text := by
  intro h
  have hsign : l.toggled.sign.toList = l.sign.toList := List.append_cancel_right h
  by_cases hminus : l.sign = some '-'
  · simp [Literal.toggled, hminus] at hsign
  · cases hs : l.sign with
    | none => simp [Literal.toggled, hs] at hsign
    | some c =>
      rw [Literal.toggled, if_neg hminus, hs] at hsign
      rw [hs, ← List.singleton_inj.mp hsign] at hminus
      exact hminus rfl

/-- A text that is read with a number last ends in a digit or a point, and the key changes it if it
ends in a digit. -/
theorem exists_last_of_number {text : String} {front : List Token} {x : Float}
    (h : Token.read true text = .ok (front ++ [Token.number x]))
    (hblank : ∀ c ∈ text.toList.getLast?, isBlank c = false) :
    ∃ d, text.toList.getLast? = some d ∧ isNumberChar d = true ∧
      (isAsciiDigit d = true → press text ≠ text) := by
  obtain ⟨lead, l, hcut, hread, hformed, -⟩ := exists_literal_of_read h hblank
  have hmem : literal l ∈ cut text.toList := by simp [hcut]
  have hne := body_ne_nil_of_mem_cutFrom hmem
  have htexts := texts_of_cutFrom_concat hcut
  obtain ⟨front, d, hbody⟩ := (List.eq_nil_or_concat' l.body).resolve_left hne
  have hlast : text.toList.getLast? = some d := by
    rw [htexts, Lexeme.text, Literal.getLast?_append_text hne, hbody, List.getLast?_concat]
  refine ⟨d, hlast, (wellFormed_of_mem_cutFrom hmem).2 d (by simp [hbody]), ?_⟩
  intro hdigit hsame
  have hpress := press_texts hcut hread hformed hlast hdigit
  rw [String.ofList_toList, hsame] at hpress
  rw [hpress, String.toList_ofList] at htexts
  exact text_toggled_ne l (List.append_cancel_left htexts)

open Expression in
/-- **When the sign key works.** Let an expression with a value end in a number. The key leaves it
as it is exactly if the number ends in its point. If the key negates the number, what can go wrong
with the changed expression is that it is too long or that a factorial is not defined. If it does
not, because of what stands in front of the number (`Pressed`), the changed expression has no
value. -/
theorem evaluate_press {modeName : Option String} {limit : Int} {text : String} {front : List Token}
    {x v : Float} (hvalue : evaluate modeName true limit (some text) = .ok v)
    (hread : Token.read true text = .ok (front ++ [Token.number x]))
    (hblank : ∀ c ∈ text.toList.getLast?, isBlank c = false) :
    (press text = text ↔ text.toList.getLast? = some '.') ∧
      (press text ≠ text → ∃ tokens, Token.read true (press text) = .ok tokens ∧
        Pressed front x tokens ∧
        (tokens = front ++ [Token.number (-x)] → ∀ e,
          evaluate modeName true limit (some (press text)) = .error e →
          e = .tooLong limit ∨ ∃ w, e = .factorialUndefined w) ∧
        (tokens ≠ front ++ [Token.number (-x)] → ∀ w,
          evaluate modeName true limit (some (press text)) ≠ .ok w)) := by
  obtain ⟨mode, tokens, program, hmode, -, hread', horder, hrun⟩ := evaluate_eq_ok_iff.mp hvalue
  obtain rfl : front ++ [Token.number x] = tokens := Except.ok.inj (hread.symm.trans hread')
  have hprogram :
      (Postfix.ofTokens true (front ++ [Token.number x])).bind (Postfix.value mode true) =
        .ok v := by
    rw [horder]
    exact hrun
  obtain ⟨d, hlast, hnumber, hchanged⟩ := exists_last_of_number hread hblank
  by_cases hdigit : isAsciiDigit d = true
  · refine ⟨iff_of_false (hchanged hdigit) ?_, fun _ => ?_⟩
    · rw [hlast]
      rintro ⟨⟩
      exact absurd hdigit (by decide)
    · obtain ⟨⟨tokens, htokens, hpressed⟩, -⟩ := read_press hread hlast hdigit
      refine ⟨tokens, htokens, hpressed, ?_, ?_⟩
      · rintro rfl e he
        by_cases hlength : (press text).length ≤ limit
        · rw [evaluate_eq hmode hlength, htokens] at he
          change (Postfix.ofTokens true _).bind _ = _ at he
          rcases Postfix.value_of_last hprogram (-x) with ⟨w, hw⟩ | ⟨w, hw⟩
          · rw [hw] at he
            contradiction
          · rw [hw] at he
            exact Or.inr ⟨w, (Except.error.inj he).symm⟩
        · rw [evaluate, hmode, check_eq_error_iff.mpr ⟨by omega, rfl⟩] at he
          exact Or.inl (Except.error.inj he).symm
      · intro hother w hw
        obtain ⟨mode', tokens', program', hmode', -, htokens', horder', hrun'⟩ :=
          evaluate_eq_ok_iff.mp hw
        obtain rfl : mode = mode' := Except.ok.inj (hmode.symm.trans hmode')
        obtain rfl : tokens = tokens' := Except.ok.inj (htokens.symm.trans htokens')
        refine Postfix.no_value_of_pressed hprogram hpressed hother w ?_
        rw [horder']
        exact hrun'
  · have hpoint : d = '.' := by simpa [isNumberChar, hdigit] using hnumber
    have hsame : press text = text :=
      press_of_not_digit hlast (Bool.eq_false_iff.mpr hdigit) (by rw [hpoint]; decide)
    exact ⟨iff_of_true hsame (by rw [hlast, hpoint]), fun h => absurd hsame h⟩

open Expression in
/-- Behind a function that is written bare, the new minus asks for an operand in front of it. -/
theorem evaluate_press_behind_function :
    press "fact 3" = "fact -3" ∧
      ∀ w, evaluate (some "degree") true defaultMaxLength (some (press "fact 3")) ≠ .ok w := by
  have hvalue : evaluate (some "degree") true defaultMaxLength (some "fact 3") = .ok 6.0 := by
    decide +kernel
  have hread :
      Token.read true "fact 3" = .ok ([.function .factorial "fact"] ++ [Token.number 3.0]) := by
    decide +kernel
  have hlast : "fact 3".toList.getLast? = some '3' := by decide
  have hblank : ∀ c ∈ "fact 3".toList.getLast?, isBlank c = false := by
    rw [hlast]
    rintro c ⟨⟩
    decide
  have hpress : press "fact 3" = "fact -3" := by decide
  obtain ⟨-, hchanged⟩ := evaluate_press hvalue hread hblank
  obtain ⟨tokens, htokens, -, -, hnone⟩ := hchanged (by rw [hpress]; decide)
  refine ⟨hpress, hnone ?_⟩
  rintro rfl
  rw [hpress] at htokens
  exact absurd htokens (by decide +kernel)

open Expression in
/-- A number that ends in its point is not found. Behind a function the new minus is an operator,
and in front of a minus that goes an operator is lost. -/
theorem press_misses :
    (evaluate (some "degree") true defaultMaxLength (some "5.") = .ok 5.0 ∧
      Token.read true "5." = .ok [.number 5.0] ∧ press "5." = "5.") ∧
    (evaluate (some "degree") true defaultMaxLength (some "fact 3") = .ok 6.0 ∧
      Token.read true "fact 3" = .ok [.function .factorial "fact", .number 3.0] ∧
      evaluate (some "degree") true defaultMaxLength (some (press "fact 3")) =
        .error (.missingOperand (.operator .sub))) ∧
    (evaluate (some "degree") true defaultMaxLength (some "2 3*--5") = .ok 11.0 ∧
      Token.read true "2 3*--5" = .ok [.number 2.0, .number 3.0, .operator .mul, .operator .sub,
        .number (-5.0)] ∧
      evaluate (some "degree") true defaultMaxLength (some (press "2 3*--5")) =
        .error (.excessOperands 2)) := by
  refine ⟨⟨by decide +kernel, by decide +kernel, by decide⟩,
    ⟨by decide +kernel, by decide +kernel, by decide +kernel⟩,
    by decide +kernel, by decide +kernel, by decide +kernel⟩

end SignKey

end Calculator

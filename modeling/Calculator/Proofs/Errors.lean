import Calculator.Proofs.Forest
import Calculator.Proofs.Literal

/-! # What can go wrong

An expression is evaluated by running its program, and so is the report on it
(`evaluate_eq_compile`, `report_eq_compile`). So what can go wrong is what can go wrong in one of
the stages, and every error has a code (`hasCode_of_compile`, `error_of_evaluate`,
`error_of_report`).

Leniently, little is left of it. Every lexeme is read (`exists_readFrom_lenient`), and known tokens
have an order whatever their parentheses are (`exists_order_lenient`). Only an operand may be
missing when the program is run (`missingOperand_of_value`), and only the length is checked before
(`eq_tooLong_of_compile`).

`errors_of_expression` puts it together, with what makes it true of literals: whatever is handed to
the reader of numbers is read.
-/

namespace Calculator

/-! ### The stages of a lenient evaluation -/

namespace Token

theorem exists_ofLexeme_lenient (position : Nat) (lexeme : Lexeme) :
    ∃ token, ofLexeme false position lexeme = .ok token := by
  cases lexeme with
  | blank c => exact ⟨none, rfl⟩
  | call spelling f => exact ⟨_, rfl⟩
  | symbol c t => exact ⟨some t, rfl⟩
  | stray c => exact ⟨none, rfl⟩
  | literal l =>
    rw [ofLexeme, Literal.read]
    by_cases hformed : l.wellFormed = true
    · exact ⟨some (number l.value), by rw [if_pos hformed]; rfl⟩
    · exact ⟨some (number l.lenientValue), by rw [if_neg hformed]; rfl⟩
  | name word =>
    rw [ofLexeme]
    cases MathFunction.ofSpelling? (String.ofList word) with
    | some f => exact ⟨_, rfl⟩
    | none => exact ⟨_, rfl⟩

theorem exists_readFrom_lenient (position : Nat) (lexemes : List Lexeme) :
    ∃ tokens, readFrom false position lexemes = .ok tokens := by
  induction lexemes generalizing position with
  | nil => exact ⟨[], rfl⟩
  | cons lexeme lexemes ih =>
    obtain ⟨token, htoken⟩ := exists_ofLexeme_lenient position lexeme
    obtain ⟨rest, hrest⟩ := ih (position + lexeme.text.length)
    exact ⟨token.toList ++ rest, by rw [readFrom_cons_of_ok htoken, hrest]; rfl⟩

end Token

namespace Postfix

theorem exists_order_lenient {stack tokens : List Token} (hknown : ∀ t ∈ tokens, t.isKnown = true) :
    ∃ out, order false stack tokens = .ok out := by
  induction stack, tokens using order_induct with
  | nil stack => exact ⟨_, rfl⟩
  | number v stack tokens ih =>
    obtain ⟨out, hout⟩ := ih fun t ht => hknown t (List.mem_cons_of_mem _ ht)
    exact ⟨_, by rw [order_number, hout, emit_ok]⟩
  | function f name stack tokens ih => exact ih fun t ht => hknown t (List.mem_cons_of_mem _ ht)
  | opening stack tokens ih => exact ih fun t ht => hknown t (List.mem_cons_of_mem _ ht)
  | closing waiting below tokens hwaiting ih =>
    obtain ⟨out, hout⟩ := ih fun t ht => hknown t (List.mem_cons_of_mem _ ht)
    exact ⟨_, by rw [order_closing false hwaiting, hout, emit_ok]⟩
  | stray stack tokens hclosed ih =>
    obtain ⟨out, hout⟩ := ih fun t ht => hknown t (List.mem_cons_of_mem _ ht)
    exact ⟨_, by rw [order_closing_stray false hclosed, hout]; rfl⟩
  | operator op leaving stack tokens hleaving hclear ih =>
    obtain ⟨out, hout⟩ := ih fun t ht => hknown t (List.mem_cons_of_mem _ ht)
    exact ⟨_, by rw [order_operator false hleaving hclear, hout, emit_ok]⟩
  | unknown symbol stack tokens => simp [Token.isKnown] at hknown

theorem missingOperand_of_value {mode : AngleMode} {program : List Token} {e : Error}
    (h : value mode false program = .error e) (hprogram : ∀ t ∈ program, t.IsStep) :
    ∃ t ∈ program, e = .missingOperand t := by
  by_cases hsupplied : Supplied program
  · obtain ⟨trees, rfl⟩ := (supplied_iff hprogram).mp hsupplied
    rw [value_forest_lenient] at h
    contradiction
  · obtain ⟨front, t, hlacking⟩ := exists_firstLacking hsupplied
    obtain ⟨trees, rest, -, rfl, hlacks, ht⟩ := hlacking.exists_forest hprogram
    rw [value_lacking_lenient ht hlacks] at h
    exact ⟨t, by simp, (Except.error.inj h).symm⟩

end Postfix

/-! ### Expressions -/

namespace Expression

variable {modeName : Option String} {mode : AngleMode} {strict : Bool} {limit : Int}
    {given : Option String} {text : String} {e : Error}

theorem evaluate_eq_compile (hmode : AngleMode.read modeName = .ok mode) :
    evaluate modeName strict limit given = (compile strict limit given).bind
      (Postfix.value mode strict) := by
  rw [evaluate, hmode, compile]
  cases check limit given with
  | error e => rfl
  | ok text =>
    change (Token.read strict text).bind _ = ((Token.read strict text).bind _).bind _
    cases Token.read strict text with
    | error e => rfl
    | ok tokens =>
      -- without tokens the program is empty, and its value is zero too
      cases tokens with
      | nil => cases strict <;> rfl
      | cons t tokens => rfl

theorem report_eq_compile (hmode : AngleMode.read modeName = .ok mode) :
    report modeName strict limit given =
      (compile strict limit given).bind fun program =>
        (Postfix.value mode strict program).map fun v =>
          ⟨given.getD "", finite? v, v.isFinite, Number.display v, program.map Token.text,
            mode⟩ := by
  rw [report, hmode]
  change (compile strict limit given).bind _ = _
  cases compile strict limit given with
  | error e => rfl
  | ok program =>
    change (Postfix.value mode strict program).bind _ = (Postfix.value mode strict program).map _
    cases Postfix.value mode strict program <;> rfl

theorem error_of_compile (h : compile strict limit (some text) = .error e) :
    e = .tooLong limit ∨ Token.read strict text = .error e ∨
      ∃ tokens, Token.read strict text = .ok tokens ∧
      Postfix.ofTokens strict tokens = .error e := by
  rcases error_of_bind h with hcheck | ⟨checked, hcheck, hrest⟩
  · exact Or.inl (check_eq_error_iff.mp hcheck).2
  obtain ⟨-, rfl⟩ := check_eq_ok_iff.mp hcheck
  rcases error_of_bind hrest with hread | ⟨tokens, hread, horder⟩
  · exact Or.inr (Or.inl hread)
  · exact Or.inr (Or.inr ⟨tokens, hread, horder⟩)

theorem hasCode_of_compile (h : compile strict limit (some text) = .error e) : e.HasCode := by
  rcases error_of_compile h with rfl | h | ⟨tokens, hread, h⟩
  · rfl
  · exact Error.hasCode_of_stage (Token.stage_of_readFrom h)
  · exact Error.hasCode_of_stage (Postfix.stage_of_order h (Token.isKnown_of_read hread))

/-- **Leniently, only the length is checked before the program is run.** -/
theorem eq_tooLong_of_compile (h : compile false limit (some text) = .error e) :
    e = .tooLong limit := by
  rcases error_of_compile h with h | h | ⟨tokens, hread, h⟩
  · exact h
  · obtain ⟨tokens, htokens⟩ := Token.exists_readFrom_lenient 0 (Lexeme.cut text.toList)
    rw [Token.read, htokens] at h
    contradiction
  · obtain ⟨out, hout⟩ := @Postfix.exists_order_lenient [] tokens (Token.isKnown_of_read hread)
    rw [Postfix.ofTokens, hout] at h
    contradiction

theorem program_of_compile {program : List Token}
    (h : compile strict limit (some text) = .ok program) : ∀ t ∈ program, t.IsStep := by
  obtain ⟨tokens, -, hread, horder⟩ := compile_eq_ok_iff.mp h
  exact Postfix.program_of_ofTokens horder (Token.isKnown_of_read hread)

/-- What can go wrong with an expression: the error has a code, and leniently there are only two. -/
theorem error_of_program
    (h : compile strict limit (some text) = .error e ∨ ∃ program,
      compile strict limit (some text) = .ok program ∧
      Postfix.value mode strict program = .error e) :
    e.HasCode ∧ (strict = false → e = .tooLong limit ∨ ∃ t, e = .missingOperand t) := by
  rcases h with h | ⟨program, hcompile, h⟩
  · refine ⟨hasCode_of_compile h, ?_⟩
    rintro rfl
    exact Or.inl (eq_tooLong_of_compile h)
  · have hprogram := program_of_compile hcompile
    refine ⟨Error.hasCode_of_stage (Postfix.stage_of_value h hprogram), ?_⟩
    rintro rfl
    obtain ⟨t, -, he⟩ := Postfix.missingOperand_of_value h hprogram
    exact Or.inr ⟨t, he⟩

theorem error_of_evaluate (hmode : AngleMode.read modeName = .ok mode)
    (h : evaluate modeName strict limit (some text) = .error e) :
    e.HasCode ∧ (strict = false → e = .tooLong limit ∨ ∃ t, e = .missingOperand t) := by
  rw [evaluate_eq_compile hmode] at h
  exact error_of_program (error_of_bind h)

theorem error_of_report (hmode : AngleMode.read modeName = .ok mode)
    (h : report modeName strict limit (some text) = .error e) :
    e.HasCode ∧ (strict = false → e = .tooLong limit ∨ ∃ t, e = .missingOperand t) := by
  rw [report_eq_compile hmode] at h
  rcases error_of_bind h with h | ⟨program, hcompile, h⟩
  · exact @error_of_program mode _ _ _ _ (Or.inl h)
  · exact error_of_program (Or.inr ⟨program, hcompile, error_of_map h⟩)

/-- **What can go wrong with an expression.** Of every literal of the text, whatever is handed to
the reader of numbers is read, and where nothing is handed over the literal is malformed. No error
is without a code, and an unknown operator has none. Leniently, the expression is too long or lacks
an operand, and its program is made if it is not too long. -/
theorem errors_of_expression (text : String) (strict : Bool) (limit : Int)
    (hmode : AngleMode.read modeName = .ok mode) :
    (∀ l, .literal l ∈ Lexeme.cut text.toList →
      match l.numberText? strict with
      | some cs => ∃ v, Number.ofText? cs = some v ∧ l.read strict = .ok v
      | none => l.read strict =
          if strict then .error (.malformedNumber (String.ofList l.text)) else .ok (0.0 / 0.0)) ∧
    (∀ e, compile strict limit (some text) = .error e →
      e.HasCode ∧ (strict = false → e = .tooLong limit)) ∧
    (∀ e, evaluate modeName strict limit (some text) = .error e →
      e.HasCode ∧ (strict = false → e = .tooLong limit ∨ ∃ t, e = .missingOperand t)) ∧
    (∀ e, report modeName strict limit (some text) = .error e →
      e.HasCode ∧ (strict = false → e = .tooLong limit ∨ ∃ t, e = .missingOperand t)) := by
  refine ⟨?_, ?_, ?_, ?_⟩
  · intro l hl
    obtain ⟨hsign, hbody⟩ := Lexeme.wellFormed_of_mem_cutFrom hl
    exact Literal.read_numberText? hsign hbody (Lexeme.body_ne_nil_of_mem_cutFrom hl) strict
  · intro e h
    refine ⟨hasCode_of_compile h, ?_⟩
    rintro rfl
    exact eq_tooLong_of_compile h
  · intro e h
    exact error_of_evaluate hmode h
  · intro e h
    exact error_of_report hmode h

/-- An operator without an operand, behind a literal with two points and in front of a character
that is none. -/
theorem errors_of_expression_operand :
    (Literal.mk none "1.2.3".toList).numberText? false = some "1.2".toList ∧
      (∃ v, Number.ofText? "1.2".toList = some v) ∧
      evaluate (some "deg") false 9 (some "1.2.3+?") = .error (.missingOperand (.operator .add)) ∧
      (Error.missingOperand (.operator .add)).HasCode := by
  have hmode : AngleMode.read (some "deg") = .ok .degree := by decide +kernel
  have hliteral : Lexeme.literal ⟨none, "1.2.3".toList⟩ ∈ Lexeme.cut "1.2.3+?".toList := by
    decide +kernel
  have hhanded : (Literal.mk none "1.2.3".toList).numberText? false = some "1.2".toList := by
    decide +kernel
  have hvalue :
      evaluate (some "deg") false 9 (some "1.2.3+?") =
        .error (.missingOperand (.operator .add)) := by
    decide +kernel
  obtain ⟨hliterals, -, hevaluate, -⟩ := errors_of_expression "1.2.3+?" false 9 hmode
  have hread := hliterals _ hliteral
  rw [hhanded] at hread
  obtain ⟨v, hv, -⟩ := hread
  exact ⟨hhanded, ⟨v, hv⟩, hvalue, (hevaluate _ hvalue).1⟩

end Expression

end Calculator

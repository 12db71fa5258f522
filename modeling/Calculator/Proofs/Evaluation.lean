import Calculator.Expression
import Calculator.Proofs.Groups
import Calculator.Proofs.Lexing
import Calculator.Proofs.Reading

/-! # Evaluating an expression

An evaluation checks mode and length, and what is left is a function of the tokens (`evaluate_eq`).
So it has a value exactly if each of its parts has one (`evaluate_eq_ok_iff`), and the same goes for
the program and for the report (`compile_eq_ok_iff`, `report_eq_ok_iff`).

Each of the parts has errors of its own, which tell where an evaluation went wrong (`Error.stage?`).
Whatever goes wrong has a code (`hasCode_of_evaluate`): the one error without a code is for a symbol
that is no operator, and no text is read as one (`isKnown_of_read`).
-/

namespace Calculator

/-- A symbol that has a meaning, a number or a function. -/
def Token.isKnown : Token → Bool
  | foreign _ => false
  | _ => true

/-- A token that a program can have. -/
def Token.IsStep (t : Token) : Prop :=
  t.isKnown = true ∧ t.isParenthesis = false

/-- The error is one that an expression can have. -/
def Error.HasCode (e : Error) : Prop :=
  e.code?.isSome = true

/-- A part of an evaluation. -/
inductive Stage where
  | choosing
  | checking
  | reading
  | ordering
  | running
deriving DecidableEq

/-- The stage that an error comes from. Two errors come from none: going on from a value that is not
finite, and a symbol that is no operator. -/
def Error.stage? : Error → Option Stage
  | invalidAngleMode => some .choosing
  | notText | tooLong _ => some .checking
  | unrecognizedCharacter .. | unknownFunction _ | malformedNumber _ => some .reading
  | unmatchedClosing | unmatchedOpening => some .ordering
  | missingOperand _ | excessOperands _ | factorialUndefined _ => some .running
  | nonFinitePrevious | unknownOperator _ => none

theorem Error.hasCode_of_stage {e : Error} {stage : Stage} (h : e.stage? = some stage) :
    e.HasCode := by
  cases e with
  | unknownOperator symbol => contradiction
  | _ => rfl

theorem AngleMode.read_name (m : AngleMode) : AngleMode.read (some m.name) = .ok m := by
  rw [read, Option.bind_some, ofText?_name]

namespace Expression

variable {modeName : Option String} {mode : AngleMode} {strict : Bool} {limit : Int} {text : String}

theorem check_eq_ok_iff {checked : String} :
    check limit (some text) = .ok checked ↔ text.length ≤ limit ∧ checked = text := by
  by_cases hlength : text.length ≤ limit
  · rw [check, if_neg (by omega), Except.ok.injEq]
    exact ⟨fun h => ⟨hlength, h.symm⟩, fun h => h.2.symm⟩
  · rw [check, if_pos (by omega)]
    constructor
    · intro h
      contradiction
    · intro h
      exact absurd h.1 hlength

theorem check_eq_error_iff {e : Error} :
    check limit (some text) = .error e ↔ limit < text.length ∧ e = .tooLong limit := by
  by_cases hlength : limit < text.length
  · rw [check, if_pos hlength, Except.error.injEq]
    exact ⟨fun h => ⟨hlength, h.symm⟩, fun h => h.2.symm⟩
  · rw [check, if_neg hlength]
    constructor
    · intro h
      contradiction
    · intro h
      exact absurd h.1 hlength

theorem evaluate_eq (hmode : AngleMode.read modeName = .ok mode) (hlength : text.length ≤ limit) :
    evaluate modeName strict limit (some text) =
      (Token.read strict text).bind fun tokens =>
        (Postfix.ofTokens strict tokens).bind (Postfix.value mode strict) := by
  rw [evaluate, hmode, check_eq_ok_iff.mpr ⟨hlength, rfl⟩]
  change (Token.read strict text).bind _ = _
  congr 1
  funext tokens
  -- without tokens the program is empty, and its value is zero too
  cases tokens with
  | nil => cases strict <;> rfl
  | cons t tokens => rfl

theorem evaluate_eq_ok_iff {v : Float} :
    evaluate modeName strict limit (some text) = .ok v ↔
      ∃ mode tokens program, AngleMode.read modeName = .ok mode ∧ text.length ≤ limit ∧
        Token.read strict text = .ok tokens ∧ Postfix.ofTokens strict tokens = .ok program ∧
        Postfix.value mode strict program = .ok v := by
  constructor
  · intro h
    obtain ⟨mode, hmode, hrest⟩ := ok_of_bind h
    obtain ⟨_, hcheck, -⟩ := ok_of_bind hrest
    have hlength := (check_eq_ok_iff.mp hcheck).1
    rw [evaluate_eq hmode hlength] at h
    obtain ⟨tokens, hread, h⟩ := ok_of_bind h
    obtain ⟨program, horder, h⟩ := ok_of_bind h
    exact ⟨mode, tokens, program, hmode, hlength, hread, horder, h⟩
  · rintro ⟨mode, tokens, program, hmode, hlength, hread, horder, hvalue⟩
    rw [evaluate_eq hmode hlength, hread]
    change (Postfix.ofTokens strict tokens).bind _ = _
    rw [horder]
    exact hvalue

theorem compile_eq_ok_iff {program : List Token} :
    compile strict limit (some text) = .ok program ↔
      ∃ tokens, text.length ≤ limit ∧ Token.read strict text = .ok tokens ∧
        Postfix.ofTokens strict tokens = .ok program := by
  constructor
  · intro h
    obtain ⟨checked, hcheck, hrest⟩ := ok_of_bind h
    obtain ⟨hlength, rfl⟩ := check_eq_ok_iff.mp hcheck
    obtain ⟨tokens, hread, horder⟩ := ok_of_bind hrest
    exact ⟨tokens, hlength, hread, horder⟩
  · rintro ⟨tokens, hlength, hread, horder⟩
    rw [compile, check_eq_ok_iff.mpr ⟨hlength, rfl⟩]
    change (Token.read strict text).bind _ = _
    rw [hread]
    exact horder

theorem report_eq_ok_iff {r : Report} :
    report modeName strict limit (some text) = .ok r ↔
      ∃ mode program v, AngleMode.read modeName = .ok mode ∧
        compile strict limit (some text) = .ok program ∧ Postfix.value mode strict program = .ok v ∧
        r = ⟨text, finite? v, v.isFinite, Number.display v, program.map Token.text, mode⟩ := by
  constructor
  · intro h
    obtain ⟨mode, hmode, h⟩ := ok_of_bind h
    obtain ⟨program, hcompile, h⟩ := ok_of_bind h
    obtain ⟨v, hvalue, h⟩ := ok_of_bind h
    exact ⟨mode, program, v, hmode, hcompile, hvalue, (Except.ok.inj h).symm⟩
  · rintro ⟨mode, program, v, hmode, hcompile, hvalue, rfl⟩
    simp only [report, hmode, hcompile, hvalue, bind, Except.bind, pure, Except.pure,
      Option.getD_some]

theorem report_of_evaluate {strict : Bool} {v : Float}
    (h : evaluate modeName strict limit (some text) = .ok v) :
    ∃ r, report modeName strict limit (some text) = .ok r ∧ r.display = Number.display v := by
  obtain ⟨mode, tokens, program, hmode, hlength, hread, horder, hvalue⟩ := evaluate_eq_ok_iff.mp h
  have hcompile := compile_eq_ok_iff.mpr ⟨tokens, hlength, hread, horder⟩
  exact ⟨_, report_eq_ok_iff.mpr ⟨mode, program, v, hmode, hcompile, hvalue, rfl⟩, rfl⟩

end Expression

/-! ### Tokens -/

namespace Token

theorem isKnown_of_ofChar? {c : Char} {t : Token} (h : ofChar? c = some t) : t.isKnown = true := by
  unfold ofChar? at h
  split at h <;> first | contradiction | (obtain rfl := Option.some.inj h; rfl)

theorem isKnown_of_ofLexeme {strict : Bool} {position : Nat} {lexeme : Lexeme} {t : Token}
    (h : ofLexeme strict position lexeme = .ok (some t))
    (hsymbol : ∀ c t, lexeme = .symbol c t → ofChar? c = some t) : t.isKnown = true := by
  cases lexeme with
  | blank c => cases Except.ok.inj h
  | call spelling f => obtain rfl := Option.some.inj (Except.ok.inj h); rfl
  | literal l =>
    obtain ⟨v, -, h⟩ := ok_of_map h
    obtain rfl := Option.some.inj h
    rfl
  | symbol c t' =>
    obtain rfl := Option.some.inj (Except.ok.inj h)
    exact isKnown_of_ofChar? (hsymbol c t' rfl)
  | name word =>
    rw [ofLexeme] at h
    split at h
    · obtain rfl := Option.some.inj (Except.ok.inj h); rfl
    · split at h
      · contradiction
      · obtain rfl := Option.some.inj (Except.ok.inj h); rfl
  | stray c =>
    cases strict with
    | true => contradiction
    | false => cases Except.ok.inj h

theorem isKnown_of_readFrom {strict : Bool} {position : Nat} {lexemes : List Lexeme}
    {tokens : List Token} (h : readFrom strict position lexemes = .ok tokens)
    (hsymbol : ∀ c t, .symbol c t ∈ lexemes → ofChar? c = some t) :
    ∀ t ∈ tokens, t.isKnown = true := by
  induction lexemes generalizing position tokens with
  | nil => obtain rfl := Except.ok.inj h; simp
  | cons lexeme lexemes ih =>
    obtain ⟨token, rest, ht, hr, rfl⟩ := ok_of_readFrom_cons h
    intro t hmem
    rcases List.mem_append.mp hmem with hmem | hmem
    · obtain rfl : token = some t := by simpa using hmem
      exact isKnown_of_ofLexeme ht fun c t' hc => hsymbol c t' (by simp [hc])
    · exact ih hr (fun c t' hc => hsymbol c t' (by simp [hc])) t hmem

/-- **No text is read as a foreign symbol.** -/
theorem isKnown_of_read {strict : Bool} {text : String} {tokens : List Token}
    (h : read strict text = .ok tokens) : ∀ t ∈ tokens, t.isKnown = true :=
  isKnown_of_readFrom h fun _ _ hc => Lexeme.wellFormed_of_mem_cutFrom hc

end Token

/-! ### Errors -/

theorem AngleMode.stage_of_read {modeName : Option String} {e : Error}
    (h : read modeName = .error e) : e.stage? = some .choosing := by
  unfold read at h
  split at h
  · contradiction
  · obtain rfl := Except.error.inj h
    rfl

theorem Expression.stage_of_check {limit : Int} {given : Option String} {e : Error}
    (h : check limit given = .error e) : e.stage? = some .checking := by
  unfold check at h
  split at h
  · obtain rfl := Except.error.inj h
    rfl
  · split at h
    · obtain rfl := Except.error.inj h
      rfl
    · contradiction

theorem Literal.stage_of_read {strict : Bool} {l : Literal} {e : Error}
    (h : l.read strict = .error e) : e.stage? = some .reading := by
  unfold Literal.read at h
  split at h
  · contradiction
  · split at h
    · obtain rfl := Except.error.inj h; rfl
    · contradiction

namespace Token

theorem stage_of_ofLexeme {strict : Bool} {position : Nat} {lexeme : Lexeme} {e : Error}
    (h : ofLexeme strict position lexeme = .error e) : e.stage? = some .reading := by
  cases lexeme with
  | blank | call | symbol => contradiction
  | literal l => exact Literal.stage_of_read (error_of_map h)
  | name word =>
    rw [ofLexeme] at h
    split at h
    · contradiction
    · split at h
      · obtain rfl := Except.error.inj h; rfl
      · contradiction
  | stray c =>
    cases strict with
    | false => contradiction
    | true => obtain rfl := Except.error.inj h; rfl

theorem stage_of_readFrom {strict : Bool} {position : Nat} {lexemes : List Lexeme} {e : Error}
    (h : readFrom strict position lexemes = .error e) : e.stage? = some .reading := by
  obtain ⟨front, lexeme, back, tokens, -, -, hstop⟩ := error_of_readFrom h
  exact stage_of_ofLexeme hstop

end Token

namespace Postfix

theorem unmatched_of_order {strict : Bool} {stack tokens : List Token} {e : Error}
    (h : order strict stack tokens = .error e) (hknown : ∀ t ∈ tokens, t.isKnown = true) :
    e = .unmatchedClosing ∨ e = .unmatchedOpening := by
  induction stack, tokens using order_induct with
  | nil stack =>
    rw [order_nil, drain] at h
    split at h
    · exact Or.inr (Except.error.inj h).symm
    · contradiction
  | number v stack tokens ih =>
    rw [order_number] at h
    exact ih (error_of_emit h) fun t ht => hknown t (List.mem_cons_of_mem _ ht)
  | function f name stack tokens ih => exact ih h fun t ht => hknown t (List.mem_cons_of_mem _ ht)
  | opening stack tokens ih => exact ih h fun t ht => hknown t (List.mem_cons_of_mem _ ht)
  | closing waiting below tokens hwaiting ih =>
    rw [order_closing strict hwaiting] at h
    exact ih (error_of_emit h) fun t ht => hknown t (List.mem_cons_of_mem _ ht)
  | stray stack tokens hclosed ih =>
    rw [order_closing_stray strict hclosed] at h
    split at h
    · exact Or.inl (Except.error.inj h).symm
    · exact ih (error_of_emit h) fun t ht => hknown t (List.mem_cons_of_mem _ ht)
  | operator op leaving stack tokens hleaving hclear ih =>
    rw [order_operator strict hleaving hclear] at h
    exact ih (error_of_emit h) fun t ht => hknown t (List.mem_cons_of_mem _ ht)
  | unknown symbol stack tokens => simp [Token.isKnown] at hknown

theorem stage_of_order {strict : Bool} {stack tokens : List Token} {e : Error}
    (h : order strict stack tokens = .error e) (hknown : ∀ t ∈ tokens, t.isKnown = true) :
    e.stage? = some .ordering := by
  rcases unmatched_of_order h hknown with rfl | rfl <;> rfl

variable {mode : AngleMode} {strict : Bool}

theorem stage_of_step {stack : List Float} {t : Token} {e : Error}
    (h : step mode strict stack t = .error e) (ht : t.IsStep) : e.stage? = some .running := by
  cases t with
  | number v => cases stack <;> contradiction
  | function f name =>
    cases stack with
    | nil => obtain rfl := Except.error.inj h; rfl
    | cons v stack =>
      simp only [step, bind, Except.bind, applyFunction] at h
      cases hf : f.apply mode v with
      | ok y => rw [hf] at h; contradiction
      | error e' =>
        obtain ⟨-, -, rfl⟩ := MathFunction.apply_error hf
        rw [hf] at h
        cases strict with
        | false => contradiction
        | true => obtain rfl := Except.error.inj h; rfl
  | operator op =>
    cases stack with
    | nil => obtain rfl := Except.error.inj h; rfl
    | cons b stack =>
      cases stack with
      | nil => obtain rfl := Except.error.inj h; rfl
      | cons a stack => contradiction
  | opening | closing | «foreign» => simp [Token.IsStep, Token.isKnown, Token.isParenthesis] at ht

theorem stage_of_run {stack : List Float} {program : List Token} {e : Error}
    (h : run mode strict stack program = .error e)
    (hprogram : ∀ t ∈ program, t.IsStep) : e.stage? = some .running := by
  induction program generalizing stack with
  | nil => contradiction
  | cons t program ih =>
    rw [run_cons] at h
    rcases error_of_bind h with h | ⟨next, -, h⟩
    · exact stage_of_step h (hprogram t List.mem_cons_self)
    · exact ih h fun t ht => hprogram t (List.mem_cons_of_mem _ ht)

theorem stage_of_value {program : List Token} {e : Error} (h : value mode strict program = .error e)
    (hprogram : ∀ t ∈ program, t.IsStep) : e.stage? = some .running := by
  rcases error_of_bind h with h | ⟨stack, -, h⟩
  · exact stage_of_run h hprogram
  · unfold result at h
    split at h
    · obtain rfl := Except.error.inj h; rfl
    · contradiction

theorem program_of_ofTokens {tokens program : List Token} (h : ofTokens strict tokens = .ok program)
    (hknown : ∀ t ∈ tokens, t.isKnown = true) : ∀ t ∈ program, t.IsStep := by
  intro t ht
  obtain ⟨hmem, hbare⟩ := List.mem_filter.mp ((ofTokens_perm strict h).mem_iff.mp ht)
  exact ⟨hknown t hmem, by simpa using hbare⟩

end Postfix

/-- **Every error of an evaluation has a code.** -/
theorem Expression.hasCode_of_evaluate {modeName : Option String} {strict : Bool} {limit : Int}
    {given : Option String} {e : Error} (h : evaluate modeName strict limit given = .error e) :
    e.HasCode := by
  rcases error_of_bind h with h | ⟨mode, -, h⟩
  · exact Error.hasCode_of_stage (AngleMode.stage_of_read h)
  rcases error_of_bind h with h | ⟨text, -, h⟩
  · exact Error.hasCode_of_stage (stage_of_check h)
  rcases error_of_bind h with h | ⟨tokens, hread, h⟩
  · exact Error.hasCode_of_stage (Token.stage_of_readFrom h)
  have hknown := Token.isKnown_of_read hread
  split at h
  · contradiction
  rcases error_of_bind h with h | ⟨program, horder, h⟩
  · exact Error.hasCode_of_stage (Postfix.stage_of_order h hknown)
  · exact Error.hasCode_of_stage
      (Postfix.stage_of_value h (Postfix.program_of_ofTokens horder hknown))

end Calculator

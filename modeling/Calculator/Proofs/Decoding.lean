import Calculator.Proofs.Errors
import Calculator.Proofs.Number.RoundTrip
import Calculator.Proofs.Segmentation

/-! # A report tells the program

A report lists the texts of the program's tokens. A token is told by its text (`Token.ofText?`): an
operator's sign is no spelling, a spelling tells its function, and neither is read as a number
(`unread_of_operator`, `unread_of_spelling`), while every number is read back from its text. So the
texts are decoded as the program that was run (`mapM_ofText?`), and what is reported is the value of
the decoded program (`program_of_report`).
-/

namespace Calculator

/-- The operator that a text is the sign of. -/
def BinaryOp.ofText? (text : String) : Option BinaryOp :=
  [add, sub, mul, div].find? fun op => String.singleton op.symbol == text

namespace Token

/-- The token that a text stands for: an operator, a function by one of its spellings, or else a
number. -/
def ofText? (text : String) : Option Token :=
  match BinaryOp.ofText? text with
  | some op => some (operator op)
  | none =>
    match MathFunction.ofSpelling? text with
    | some f => some (function f text)
    | none => (Number.ofText? text.toList).map number

/-! ### Texts of different kinds -/

theorem unread_of_operator {text : String} {op : BinaryOp} (h : BinaryOp.ofText? text = some op) :
    Number.ofText? text.toList = none := by
  have htext := List.find?_some h
  obtain rfl : String.singleton op.symbol = text := by simpa using htext
  cases op <;> decide +kernel

theorem unread_of_spelling {text : String} {f : MathFunction}
    (h : MathFunction.ofSpelling? text = some f) : Number.ofText? text.toList = none := by
  have hall : ∀ s ∈ MathFunction.spellings, Number.ofText? s.1.toList = none := by decide +kernel
  exact hall (text, f) (MathFunction.ofSpelling?_eq_some_iff.mp h)

theorem ofText?_number (v : Float) : ofText? (number v).text = some (number v) := by
  have hread := Number.ofText?_text v
  have hoperator : BinaryOp.ofText? (Number.text v) = none := by
    rw [Option.eq_none_iff_forall_ne_some]
    intro op h
    rw [unread_of_operator h] at hread
    contradiction
  have hspelling : MathFunction.ofSpelling? (Number.text v) = none := by
    rw [Option.eq_none_iff_forall_ne_some]
    intro f h
    rw [unread_of_spelling h] at hread
    contradiction
  rw [text, ofText?, hoperator, hspelling]
  exact congrArg (Option.map number) hread

theorem ofText?_function {f : MathFunction} {name : String}
    (h : (name, f) ∈ MathFunction.spellings) : ofText? name = some (function f name) := by
  have hall : ∀ s ∈ MathFunction.spellings, BinaryOp.ofText? s.1 = none := by decide +kernel
  have hoperator : BinaryOp.ofText? name = none := hall (name, f) h
  rw [ofText?, hoperator, MathFunction.ofSpelling?_eq_some_iff.mpr h]

/-- **A step of a program is told by its text**, if a function among its steps is spelled as it
should be. -/
theorem ofText?_text {t : Token} (hstep : t.IsStep) {word : List Char} (hspells : Spells t word) :
    ofText? t.text = some t := by
  cases hspells with
  | number => exact ofText?_number _
  | operator op => cases op <;> decide +kernel
  | opening => exact absurd hstep.2 (by simp [isParenthesis])
  | closing => exact absurd hstep.2 (by simp [isParenthesis])
  | function hname => exact ofText?_function hname

/-- **The texts of a program are decoded as the program.** -/
theorem mapM_ofText? {program : List Token} (hprogram : ∀ t ∈ program, ofText? t.text = some t) :
    (program.map text).mapM ofText? = some program := by
  induction program with
  | nil => rfl
  | cons t program ih =>
    obtain ⟨ht, hrest⟩ := List.forall_mem_cons.mp hprogram
    rw [List.map_cons, List.mapM_cons, ht, ih hrest]
    rfl

end Token

namespace Expression

variable {modeName : Option String} {limit : Int} {text : String}

theorem ofText?_of_compile {program : List Token}
    (h : compile true limit (some text) = .ok program) :
    ∀ t ∈ program, Token.ofText? t.text = some t := by
  intro t ht
  obtain ⟨tokens, -, hread, horder⟩ := compile_eq_ok_iff.mp h
  have hbare : t ∈ Postfix.bare tokens := (Postfix.ofTokens_perm true horder).mem_iff.mp ht
  obtain ⟨words, hwords, -⟩ := Token.exists_words hread
  obtain ⟨word, -, hspells⟩ := exists_partner hwords (List.mem_of_mem_filter hbare)
  exact Token.ofText?_text (program_of_compile h t ht) hspells

/-- **A report tells the program and its value.** The texts that it lists are decoded as the tokens
of the program, and what it says of the value is said of the value that the decoded program has in
the mode that it names. -/
theorem program_of_report {r : Report} (h : report modeName true limit (some text) = .ok r) :
    ∃ program mode v, r.program.mapM Token.ofText? = some program ∧
      compile true limit (some text) = .ok program ∧
      AngleMode.read (some r.mode.name) = .ok mode ∧ Postfix.value mode true program = .ok v ∧
      r.finite = v.isFinite ∧ r.result = finite? v ∧ r.display = Number.display v := by
  obtain ⟨mode, program, v, -, hcompile, hvalue, rfl⟩ := report_eq_ok_iff.mp h
  refine ⟨program, mode, v, ?_, hcompile, AngleMode.read_name mode, hvalue, rfl, rfl, rfl⟩
  exact Token.mapM_ofText? (ofText?_of_compile hcompile)

/-- A negative zero, a spelling that begins like a number, and one that is no word. -/
theorem program_of_report_spellings :
    report (some "deg") true 13 (some "x²(-0)+1/x(4)") =
        .ok ⟨"x²(-0)+1/x(4)", some 0.25, true, "0.25", ["-0.0", "x²", "4.0", "1/x", "+"], .degree⟩ ∧
      ∃ program mode v, ["-0.0", "x²", "4.0", "1/x", "+"].mapM Token.ofText? = some program ∧
        compile true 13 (some "x²(-0)+1/x(4)") = .ok program ∧
        Postfix.value mode true program = .ok v ∧
        finite? v = some 0.25 := by
  have hreport : report (some "deg") true 13 (some "x²(-0)+1/x(4)") =
      .ok ⟨"x²(-0)+1/x(4)", some 0.25, true, "0.25", ["-0.0", "x²", "4.0", "1/x", "+"], .degree⟩ :=
        by decide +kernel
  obtain ⟨program, mode, v, hdecoded, hcompile, -, hvalue, -, hresult, -⟩ :=
    program_of_report hreport
  exact ⟨hreport, program, mode, v, hdecoded, hcompile, hvalue, hresult.symm⟩

end Expression

end Calculator

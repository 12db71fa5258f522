import Calculator.Proofs.Evaluation

/-! # The lenient mode only adds answers

Reader, reordering and program each ask how strict they are to be, and each asks only where the
strict one fails. So what a strict run gives a lenient one gives too: the tokens
(`Token.readFrom_lenient`), their order (`order_of_strict`), the value (`value_of_strict`), and with
them whatever is said of an expression (`lenient_of_strict`).
-/

namespace Calculator

namespace Postfix

theorem drain_of_strict {stack out : List Token} (h : drain true stack = .ok out) :
    drain false stack = .ok out := by
  unfold drain at h
  split at h
  · contradiction
  · exact h

theorem order_of_strict {stack tokens out : List Token} (h : order true stack tokens = .ok out) :
    order false stack tokens = .ok out := by
  induction stack, tokens using order_induct generalizing out with
  | nil stack => exact drain_of_strict h
  | number v stack tokens ih =>
    rw [order_number] at h
    obtain ⟨back, hback, rfl⟩ := ok_of_emit h
    rw [order_number, ih hback, emit_ok]
  | function f name stack tokens ih => exact ih h
  | opening stack tokens ih => exact ih h
  | closing waiting below tokens hwaiting ih =>
    rw [order_closing true hwaiting] at h
    obtain ⟨back, hback, rfl⟩ := ok_of_emit h
    rw [order_closing false hwaiting, ih hback, emit_ok]
  | stray stack tokens hclosed ih =>
    rw [order_closing_stray true hclosed] at h
    contradiction
  | operator op leaving stack tokens hleaving hclear ih =>
    rw [order_operator true hleaving hclear] at h
    obtain ⟨back, hback, rfl⟩ := ok_of_emit h
    rw [order_operator false hleaving hclear, ih hback, emit_ok]
  | unknown symbol stack tokens => contradiction

variable {mode : AngleMode}

theorem applyFunction_of_strict {f : MathFunction} {v y : Float}
    (h : applyFunction mode true f v = .ok y) : applyFunction mode false f v = .ok y := by
  unfold applyFunction at h ⊢
  cases hf : f.apply mode v with
  | ok z => simpa [hf] using h
  | error e => simp [hf] at h

theorem step_of_strict {stack stack' : List Float} {t : Token}
    (h : step mode true stack t = .ok stack') : step mode false stack t = .ok stack' := by
  cases t with
  | function f name =>
    cases stack with
    | nil => exact h
    | cons v stack =>
      obtain ⟨y, hy, h⟩ := ok_of_bind h
      rw [step, applyFunction_of_strict hy]
      exact h
  -- no other token asks for the mode
  | number | operator | opening | closing | «foreign» =>
    rcases stack with _ | ⟨b, _ | ⟨a, stack⟩⟩ <;> exact h

theorem run_of_strict {stack stack' : List Float} {program : List Token}
    (h : run mode true stack program = .ok stack') : run mode false stack program = .ok stack' := by
  induction program generalizing stack with
  | nil => exact h
  | cons t program ih =>
    rw [run_cons] at h
    obtain ⟨next, hstep, hrun⟩ := ok_of_bind h
    rw [run_cons, step_of_strict hstep]
    exact ih hrun

theorem value_of_strict {program : List Token} {v : Float} (h : value mode true program = .ok v) :
    value mode false program = .ok v := by
  obtain ⟨stack, hrun, hresult⟩ := ok_of_bind h
  unfold result at hresult
  split at hresult
  · contradiction
  · rw [value, run_of_strict hrun]
    exact hresult

end Postfix

namespace Expression

variable {modeName : Option String} {limit : Int} {text : String}

theorem compile_of_strict {program : List Token}
    (h : compile true limit (some text) = .ok program) :
    compile false limit (some text) = .ok program := by
  obtain ⟨tokens, hlength, hread, horder⟩ := compile_eq_ok_iff.mp h
  exact compile_eq_ok_iff.mpr
    ⟨tokens, hlength, Token.readFrom_lenient hread, Postfix.order_of_strict horder⟩

/-- **The lenient mode changes no answer of the strict one**: not the tokens of a text, not its
program, not its value, and not what is reported of it. -/
theorem lenient_of_strict (modeName : Option String) (limit : Int) (text : String) :
    (∀ tokens, Token.read true text = .ok tokens → Token.read false text = .ok tokens) ∧
    (∀ program, compile true limit (some text) = .ok program →
      compile false limit (some text) = .ok program) ∧
    (∀ v, evaluate modeName true limit (some text) = .ok v →
      evaluate modeName false limit (some text) = .ok v) ∧
    (∀ r, report modeName true limit (some text) = .ok r →
      report modeName false limit (some text) = .ok r) := by
  refine ⟨fun tokens h => Token.readFrom_lenient h, fun program h => compile_of_strict h, ?_, ?_⟩
  · intro v h
    obtain ⟨mode, tokens, program, hmode, hlength, hread, horder, hvalue⟩ := evaluate_eq_ok_iff.mp h
    exact evaluate_eq_ok_iff.mpr ⟨mode, tokens, program, hmode, hlength,
      Token.readFrom_lenient hread, Postfix.order_of_strict horder, Postfix.value_of_strict hvalue⟩
  · intro r h
    obtain ⟨mode, program, v, hmode, hcompile, hvalue, hr⟩ := report_eq_ok_iff.mp h
    exact report_eq_ok_iff.mpr
      ⟨mode, program, v, hmode, compile_of_strict hcompile, Postfix.value_of_strict hvalue, hr⟩

/-- A factorial of a group, which is defined. -/
theorem lenient_of_strict_factorial :
    Token.read false "fact(3)" =
        .ok [.function .factorial "fact", .opening, .number 3.0, .closing] ∧
      compile false 9 (some "fact(3)") = .ok [.number 3.0, .function .factorial "fact"] ∧
      evaluate (some "deg") false 9 (some "fact(3)") = .ok 6.0 ∧
      report (some "deg") false 9 (some "fact(3)") =
        .ok ⟨"fact(3)", some 6.0, true, "6", ["3.0", "fact"], .degree⟩ := by
  obtain ⟨htokens, hcompile, hvalue, hreport⟩ := lenient_of_strict (some "deg") 9 "fact(3)"
  have hread : Token.read true "fact(3)" =
      .ok [.function .factorial "fact", .opening, .number 3.0, .closing] := by decide +kernel
  have hprogram :
      compile true 9 (some "fact(3)") = .ok [.number 3.0, .function .factorial "fact"] := by
    decide +kernel
  have hsix : evaluate (some "deg") true 9 (some "fact(3)") = .ok 6.0 := by decide +kernel
  have hsaid : report (some "deg") true 9 (some "fact(3)") =
      .ok ⟨"fact(3)", some 6.0, true, "6", ["3.0", "fact"], .degree⟩ := by decide +kernel
  exact ⟨htokens _ hread, hcompile _ hprogram, hvalue _ hsix, hreport _ hsaid⟩

end Expression

end Calculator

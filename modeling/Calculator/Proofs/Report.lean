import Calculator.Proofs.Errors

/-! # Values and reports

An expression is evaluated in two ways: for its value alone, and for a report on it. The first goes
through the stages by itself and stops at a text without tokens; the second runs the compiled
program, even an empty one. Both come to the same findings (`evaluate_eq_findings`,
`report_eq_findings`), so the fault that the one meets first the other meets first too, and what is
reported is said of the value (`evaluate_agrees_report`).
-/

namespace Calculator

/-- The empty program has the value zero. A text without tokens has it, and one with parentheses
only. -/
theorem Postfix.value_nil (mode : AngleMode) (strict : Bool) : value mode strict [] = .ok 0.0 := by
  cases strict <;> rfl

namespace Expression

variable {modeName : Option String} {mode : AngleMode} {strict : Bool} {limit : Int}
    {given : Option String}

/-- What an evaluation finds: the mode, the program, and its value. -/
def findings (modeName : Option String) (strict : Bool) (limit : Int) (given : Option String) :
    Except Error (AngleMode × List Token × Float) := do
  let mode ← AngleMode.read modeName
  let program ← compile strict limit given
  let v ← Postfix.value mode strict program
  return (mode, program, v)

theorem findings_eq_compile (hmode : AngleMode.read modeName = .ok mode) :
    findings modeName strict limit given =
      (compile strict limit given).bind fun program =>
        (Postfix.value mode strict program).map fun v => (mode, program, v) := by
  rw [findings, hmode]
  rfl

theorem findings_eq_ok_iff {program : List Token} {v : Float} :
    findings modeName strict limit given = .ok (mode, program, v) ↔
      AngleMode.read modeName = .ok mode ∧ compile strict limit given = .ok program ∧
        Postfix.value mode strict program = .ok v := by
  constructor
  · intro h
    obtain ⟨mode', hmode, h⟩ := ok_of_bind h
    obtain ⟨program', hcompile, h⟩ := ok_of_bind h
    obtain ⟨v', hvalue, h⟩ := ok_of_bind h
    cases h
    exact ⟨hmode, hcompile, hvalue⟩
  · rintro ⟨hmode, hcompile, hvalue⟩
    simp only [findings, hmode, hcompile, hvalue, bind, Except.bind, pure, Except.pure]

theorem evaluate_eq_findings :
    evaluate modeName strict limit given = (findings modeName strict limit given).map fun found =>
      found.2.2 := by
  cases hmode : AngleMode.read modeName with
  | error e =>
    rw [evaluate, findings, hmode]
    rfl
  | ok mode =>
    rw [evaluate_eq_compile hmode, findings_eq_compile hmode]
    cases compile strict limit given with
    | error e => rfl
    | ok program =>
      change Postfix.value mode strict program = ((Postfix.value mode strict program).map _).map _
      cases Postfix.value mode strict program <;> rfl

theorem report_eq_findings :
    report modeName strict limit given = (findings modeName strict limit given).map
        fun (mode, program, v) =>
      ⟨given.getD "", finite? v, v.isFinite, Number.display v, program.map Token.text, mode⟩ := by
  cases hmode : AngleMode.read modeName with
  | error e =>
    rw [report, findings, hmode]
    rfl
  | ok mode =>
    rw [report_eq_compile hmode, findings_eq_compile hmode]
    cases compile strict limit given with
    | error e => rfl
    | ok program =>
      change (Postfix.value mode strict program).map _ =
        ((Postfix.value mode strict program).map _).map _
      cases Postfix.value mode strict program <;> rfl

/-- **An expression is evaluated and reported on alike**: both have the same error, or there is a
value and the report tells it, with the mode that was named and the texts of the compiled program. A
mode can be given by its name, and an empty program has the value zero. -/
theorem evaluate_agrees_report (modeName : Option String) (strict : Bool) (limit : Int)
    (given : Option String) :
    (∀ mode : AngleMode, AngleMode.read (some mode.name) = .ok mode) ∧
    ((∃ e, evaluate modeName strict limit given = .error e ∧
      report modeName strict limit given = .error e) ∨
      ∃ mode program v, AngleMode.read modeName = .ok mode ∧
      compile strict limit given = .ok program ∧
        (program = [] → v = 0.0) ∧ evaluate modeName strict limit given = .ok v ∧
        report modeName strict limit given = .ok {
          expression := given.getD ""
          result := if v.isFinite then some v else none
          finite := v.isFinite
          display := Number.display v
          program := program.map Token.text
          mode := mode }) := by
  refine ⟨AngleMode.read_name, ?_⟩
  rw [evaluate_eq_findings, report_eq_findings]
  cases hfound : findings modeName strict limit given with
  | error e => exact Or.inl ⟨e, rfl, rfl⟩
  | ok found =>
    obtain ⟨mode, program, v⟩ := found
    obtain ⟨hmode, hcompile, hvalue⟩ := findings_eq_ok_iff.mp hfound
    refine Or.inr ⟨mode, program, v, hmode, hcompile, ?_, rfl, rfl⟩
    rintro rfl
    rw [Postfix.value_nil] at hvalue
    exact (Except.ok.inj hvalue).symm

/-- Parentheses around nothing. -/
theorem evaluate_agrees_report_parentheses :
    compile true 4 (some "(())") = .ok [] ∧ evaluate (some "rad") true 4 (some "(())") = .ok 0.0 ∧
      report (some "rad") true 4 (some "(())") =
        .ok ⟨"(())", some 0.0, true, "0", [], .radian⟩ := by
  have hempty : compile true 4 (some "(())") = .ok [] := by decide +kernel
  have hradian : AngleMode.read (some "rad") = .ok .radian := by decide +kernel
  obtain ⟨-, ⟨e, herror, -⟩ | ⟨mode, program, v, hmode, hcompile, hzero, hevaluate, hreport⟩⟩ :=
    evaluate_agrees_report (some "rad") true 4 (some "(())")
  · rw [evaluate_eq_compile hradian, hempty] at herror
    contradiction
  · obtain rfl := Except.ok.inj (hradian.symm.trans hmode)
    obtain rfl := Except.ok.inj (hempty.symm.trans hcompile)
    obtain rfl := hzero rfl
    refine ⟨hempty, hevaluate, hreport.trans ?_⟩
    decide +kernel

end Expression

end Calculator

import Calculator.Proofs.CommandLine
import Calculator.Proofs.Service.Posting

/-! # Constants change no strict answer

A text that is read strictly has no constant to write out (`substituteConstants_of_read`). So an
evaluation that succeeds strictly comes to the same whether constants are written out or not
(`same_with_constants`): the service replies the same and is left in the same state, and the command
line prints the same.
-/

namespace Calculator

/-! ### The service -/

namespace Service

variable {settings : Settings} {state : State} {plain request : Request} {form : EvaluateForm}

theorem Request.Holds.unique {α : Type} {read : List (String × Json) → Checked α} {form form' : α}
    (h : request.Holds settings read form) (h' : request.Holds settings read form') :
    form = form' := by
  rw [← Request.form?_eq_some_iff] at h h'
  exact Option.some.inj (h.symm.trans h')

theorem respond_with_constants (hplain : plain.Asks .evaluate .post)
    (hrequest : request.Asks .evaluate .post)
    (hwithout : plain.Holds settings EvaluateForm.read { form with substitute := false })
    (hwith : request.Holds settings EvaluateForm.read { form with substitute := true })
    (hstrict : settings.strictFor form.strict = true)
    (hok : (respond settings state plain).2.status = 200) :
    respond settings state request = respond settings state plain := by
  obtain ⟨next, data, hacted, hrespond⟩ := exists_acted hplain hok
  cases hacted with
  | @evaluate held mode limit report next hheld hmode hlimit hreport hnext =>
    obtain rfl := hheld.unique hwithout
    have hreport' : Expression.report (some mode.name) true limit (some form.expression) =
        .ok report := by
      rw [← hstrict]
      exact hreport
    have hsame := Expression.substituteConstants_of_report hreport'
    rw [hrespond]
    refine respond_of_acted hrequest (.evaluate hwith hmode hlimit ?_ hnext)
    rw [EvaluateForm.text, if_pos rfl, hsame]
    exact hreport

end Service

/-! ### The command line -/

namespace CommandLine

variable {expression : String} {mode : AngleMode}

theorem answer_with_constants {data : Json}
    (h : (Command.eval expression mode false true).answer = .ok data) :
    (Command.eval expression mode false false).answer = .ok data := by
  obtain ⟨report, hreport, -⟩ := ok_of_bind h
  have hsame : substituteConstants expression = expression :=
    Expression.substituteConstants_of_report hreport
  rw [← h, Command.answer_eval, Command.answer_eval, if_neg (by simp), if_pos rfl, hsame]

theorem run_with_constants {plain arguments : List String}
    (hplain : Command.ofArguments plain = .ok (.eval expression mode false true))
    (harguments : Command.ofArguments arguments = .ok (.eval expression mode false false))
    (hok : (run plain).exitCode = 0) : run arguments = run plain := by
  cases hanswer : (Command.eval expression mode false true).answer with
  | error e =>
    rw [run_of_refused hplain hanswer] at hok
    exact absurd hok (show ¬ (1 : UInt32) = 0 by decide)
  | ok data =>
    rw [run_of_answer hplain hanswer, run_of_answer harguments (answer_with_constants hanswer)]

end CommandLine

/-! ### Both -/

namespace Service

/-- **Writing out constants never touches a text that is read strictly.** So a request for an
evaluation that succeeds strictly without it is answered the same with it and leaves the same state,
and a command prints the same. -/
theorem same_with_constants :
    (∀ text tokens, Token.read true text = .ok tokens → substituteConstants text = text) ∧
    (∀ (settings : Settings) (state : State) (plain request : Request) (form : EvaluateForm),
      plain.Asks .evaluate .post → request.Asks .evaluate .post →
      plain.Holds settings EvaluateForm.read { form with substitute := false } →
      request.Holds settings EvaluateForm.read { form with substitute := true } →
      settings.strictFor form.strict = true → (respond settings state plain).2.status = 200 →
      respond settings state request = respond settings state plain) ∧
    ∀ (plain arguments : List String) (expression : String) (mode : AngleMode),
      CommandLine.Command.ofArguments plain = .ok (.eval expression mode false true) →
      CommandLine.Command.ofArguments arguments = .ok (.eval expression mode false false) →
      (CommandLine.run plain).exitCode = 0 → CommandLine.run arguments = CommandLine.run plain := by
  refine ⟨?_, ?_, ?_⟩
  · intro text tokens h
    exact substituteConstants_of_read h
  · intro settings state plain request form hplain hrequest hwithout hwith hstrict hok
    exact respond_with_constants hplain hrequest hwithout hwith hstrict hok
  · intro plain arguments expression mode hplain harguments hok
    exact CommandLine.run_with_constants hplain harguments hok

/-- The exponential of zero: its spelling has the letter of a constant, which is left alone. -/
theorem same_with_constants_exponential :
    substituteConstants "e^x(0)" = "e^x(0)" ∧
      respond .standard (State.fresh .standard) (Request.evaluating "e^x(0)" .radian true true) =
        respond .standard (State.fresh .standard) (Request.evaluating "e^x(0)" .radian true false) ∧
      CommandLine.run ["eval", "e^x(0)"] =
        CommandLine.run ["eval", "--no-constants", "e^x(0)"] := by
  obtain ⟨htext, hservice, hcommand⟩ := same_with_constants
  have hread : Token.read true "e^x(0)" = .ok [.function .exp "e^x", .opening, .number 0.0,
      .closing] := by
    decide +kernel
  have htrimmed : Text.Trimmed Text.isWhiteSpace "e^x(0)".toList :=
    Text.trimmed_of_forall (by simp; decide)
  have hholds : ∀ substitute,
      (Request.evaluating "e^x(0)" .radian true substitute).Holds .standard EvaluateForm.read
      ⟨"e^x(0)", some .radian, some true, substitute, true⟩ := by
    intro substitute
    refine Request.holds_evaluating _ _ _ htrimmed ?_
    rw [Request.received_evaluating]
    cases substitute <;> decide +kernel
  have hreport : Expression.report (some "radian") true 1024 (some "e^x(0)") =
      .ok ⟨"e^x(0)", some 1.0, true, "1", ["0.0", "e^x"], .radian⟩ := by
    decide +kernel
  obtain ⟨history, hhistory⟩ : ∃ history, (State.fresh .standard).history = some history :=
    Option.isSome_iff_exists.mp (by decide +kernel)
  obtain ⟨next, hnext, -⟩ := State.recorded_of_history hhistory rfl ⟨"e^x(0)", "1", "radian"⟩
  refine ⟨htext _ _ hread, ?_, ?_⟩
  · refine hservice _ _ _ _ ⟨"e^x(0)", some .radian, some true, true, true⟩
      (Request.asks_evaluating _ _ _ _)
      (Request.asks_evaluating _ _ _ _) (hholds false) (hholds true) rfl ?_
    rw [respond_of_acted (Request.asks_evaluating _ _ _ _)
      (.evaluate (hholds false) rfl rfl hreport hnext)]
    rfl
  · exact hcommand _ _ "e^x(0)" .degree (by decide +kernel) (by decide +kernel) (by decide +kernel)

end Service

end Calculator

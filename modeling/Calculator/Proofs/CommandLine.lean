import Calculator.CommandLine
import Calculator.Proofs.Evaluation

/-! # Commands and their arguments

Every command can be given by arguments (`ofArguments_arguments`): its switches stand in front of
the mark, behind which the expression is an operand whatever it looks like.

A command prints its answer, or why there is none (`run_of_answer`, `run_of_refused`). One that asks
for tokens is refused for an expression that cannot be read before the length is looked at
(`answer_tokens`).
-/

namespace Calculator.CommandLine

/-! ### Arguments -/

namespace Command

/-- The switch, if it is set. -/
def given (s : Switch) (set : Bool) : List String :=
  if set then [s.name] else []

/-- Arguments that make a command. -/
def arguments : Command → List String
  | eval expression mode lenient noConstants =>
    ["eval", Switch.mode.name, mode.name] ++ given .lenient lenient ++
      given .noConstants noConstants ++ ["--", expression]
  | tokens expression lenient => "tokens" :: given .lenient lenient ++ ["--", expression]
  | functions => ["functions"]

/-- **Every command has arguments that make it.** -/
theorem ofArguments_arguments (command : Command) :
    ofArguments command.arguments = .ok command := by
  cases command with
  | eval expression mode lenient noConstants => cases mode <;> cases lenient <;>
    cases noConstants <;> rfl
  | tokens expression lenient => cases lenient <;> rfl
  | functions => rfl

/-! ### Answers -/

theorem answer_eval (expression : String) (mode : AngleMode) (lenient noConstants : Bool) :
    (eval expression mode lenient noConstants).answer =
      (Expression.report (some mode.name) (!lenient) Expression.defaultMaxLength
        (some (if noConstants then expression else substituteConstants expression))).map
          Expression.Report.describe :=
  rfl

/-- The text is read first, then its length is checked. -/
theorem answer_tokens (expression : String) (lenient : Bool) :
    (tokens expression lenient).answer =
      (Token.read (!lenient) expression).bind fun listed =>
        if Expression.defaultMaxLength < expression.length then
          .error (.tooLong Expression.defaultMaxLength)
        else (Postfix.ofTokens (!lenient) listed).map (Token.describeBoth listed) := by
  rw [answer]
  cases hread : Token.read (!lenient) expression with
  | error e => rfl
  | ok listed =>
    change (Expression.compile _ _ _).bind _ = ite _ _ _
    rw [Expression.compile, Expression.check]
    split
    · rfl
    · change ((Token.read (!lenient) expression).bind _).bind _ = _
      rw [hread]
      change (Postfix.ofTokens (!lenient) listed).bind _ = _
      cases Postfix.ofTokens (!lenient) listed <;> rfl

theorem answer_tokens_of_long {expression : String} {lenient : Bool} {listed : List Token}
    (hread : Token.read (!lenient) expression = .ok listed)
    (hlong : Expression.defaultMaxLength < expression.length) :
    (tokens expression lenient).answer = .error (.tooLong Expression.defaultMaxLength) := by
  rw [answer_tokens, hread]
  exact if_pos hlong

end Command

variable {arguments : List String} {command : Command}

theorem run_of_answer (hcommand : Command.ofArguments arguments = .ok command) {data : Json}
    (h : command.answer = .ok data) : run arguments = ⟨0, data.write Json.Layout.page⟩ := by
  rw [run, hcommand]
  simp only [h]

theorem run_of_refused (hcommand : Command.ofArguments arguments = .ok command) {e : Error}
    (h : command.answer = .error e) :
    run arguments = ⟨1, (Json.object [("error", e.describe)]).write Json.Layout.page⟩ := by
  rw [run, hcommand]
  simp only [h]

end Calculator.CommandLine

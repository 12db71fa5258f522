import Calculator.Expression
import Calculator.Json

/-! # Answers

What is told about tokens, functions and evaluated expressions, as JSON values. The service and the
command line give the same answers.
-/

namespace Calculator

/-- A token, by its type. A function is named twice: as it was spelled and by its symbol. -/
def Token.describe : Token → Json
  | .number v => .object [("type", .string "number"), ("value", .float v)]
  | .function f name =>
    .object [("type", .string "function"), ("value", .string name), ("function", .string f.symbol)]
  | t => .object [("type", .string "operator"), ("value", .string t.text)]

/-- An expression's tokens, as they stand and in postfix order. -/
def Token.describeBoth (tokens program : List Token) : Json :=
  .object [("tokens", .array (tokens.map Token.describe)),
    ("postfix", .array (program.map Token.describe))]

/-- A function with its spellings. -/
def MathFunction.describe (f : MathFunction) : Json :=
  .object [("symbol", .string f.symbol), ("names", .ofTexts f.names),
    ("angle_dependent", .bool f.angleDependent)]

/-- All functions that can be spelled. -/
def MathFunction.describeAll : Json :=
  .object [("functions", .array (MathFunction.listed.map MathFunction.describe))]

/-- A report. A value that is not finite is not told as a number. -/
def Expression.Report.describe (r : Expression.Report) : Json :=
  .object [
    ("expression", .string r.expression), ("result", .ofFloat? r.result),
    ("finite", .bool r.finite),
    ("display", .string r.display), ("postfix", .ofTexts r.program),
    ("angle_mode", .string r.mode.name)]

/-- An error by its code and wording; one without a code is told by its wording alone. -/
def Error.describe (e : Error) : Json :=
  .object ((e.code?.map fun code => ("code", Json.string code)).toList ++
    [("message", .string e.message)])

end Calculator

import Calculator.Postfix.Value

/-! # Expressions

From a text to an answer: the length is checked, the tokens are read and reordered, and the program
is run. An expression is handed over as what it was given as, so it may not be a text at all
(`none`); the same goes for the name of an angle mode. Of two faults the one named first here wins:
the mode, the type, the length, the tokens, the parentheses, the values.
-/

namespace Calculator

/-- The mode that a caller names. What is not a text names none. -/
def AngleMode.read (given : Option String) : Except Error AngleMode :=
  match given.bind AngleMode.ofText? with
  | some mode => .ok mode
  | none => .error .invalidAngleMode

namespace Expression

/-- The most characters of an expression, unless another limit is set. -/
def defaultMaxLength : Int := 1024

/-- The text of an expression that is one and is not too long. -/
def check (maxLength : Int) (given : Option String) : Except Error String :=
  match given with
  | none => .error .notText
  | some text => if maxLength < text.length then .error (.tooLong maxLength) else .ok text

/-- The program of an expression: its tokens in postfix order. -/
def compile (strict : Bool) (maxLength : Int) (given : Option String) :
    Except Error (List Token) := do
  let text ← check maxLength given
  Postfix.ofTokens strict (← Token.read strict text)

/-- The value of an expression. One without tokens has the value zero. -/
def evaluate (modeName : Option String) (strict : Bool) (maxLength : Int) (given : Option String) :
    Except Error Float := do
  let mode ← AngleMode.read modeName
  let text ← check maxLength given
  let tokens ← Token.read strict text
  if tokens.isEmpty then return 0.0
  Postfix.value mode strict (← Postfix.ofTokens strict tokens)

/-- All that is told about an evaluated expression. -/
structure Report where
  /-- The text that was evaluated. -/
  expression : String
  /-- The value, if it is finite. -/
  result : Option Float
  finite : Bool
  /-- What the calculator shows. -/
  display : String
  /-- The texts of the program's tokens. -/
  program : List String
  mode : AngleMode
deriving DecidableEq

/-- A value that can be written as a plain number. -/
def finite? (v : Float) : Option Float :=
  if v.isFinite then some v else none

/-- The report on an expression. -/
def report (modeName : Option String) (strict : Bool) (maxLength : Int) (given : Option String) :
    Except Error Report := do
  let mode ← AngleMode.read modeName
  let program ← compile strict maxLength given
  let value ← Postfix.value mode strict program
  return {
    expression := given.getD ""
    result := finite? value
    finite := value.isFinite
    display := Number.display value
    program := program.map Token.text
    mode := mode }

/-- The value of a calculation that goes on from a previous value: the expression that starts with
its display. -/
def chain (previous : Float) (continuation : String) (modeName : Option String) (strict : Bool)
    (maxLength : Int) : Except Error Float :=
  if previous.isFinite then
    evaluate modeName strict maxLength (some (Number.display previous ++ continuation))
  else .error .nonFinitePrevious

end Expression

end Calculator

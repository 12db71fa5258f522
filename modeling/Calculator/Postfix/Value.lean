import Calculator.MathFunction.Value
import Calculator.Postfix

/-! # The value of tokens in postfix order

Tokens in postfix order are a program for a stack of numbers: a number is pushed, a function
replaces the topmost number, an operator the two topmost ones. What is left at the end is the value;
nothing at all has the value zero.

Strictly, nothing may be left beside the value. Leniently, the first number is the value, and a
factorial that is not defined is NaN.
-/

namespace Calculator.Postfix

/-- What is known of a symbol that is to be applied to two numbers. -/
def applySymbol : Token → Float → Float → Except Error Float
  | .operator op, a, b => .ok (op.apply a b)
  | t, _, _ => .error (.unknownOperator t.text)

/-- The value of a function in a lenient program is NaN where it is not defined. -/
def applyFunction (mode : AngleMode) (strict : Bool) (f : MathFunction) (v : Float) :
    Except Error Float :=
  match f.apply mode v with
  | .ok y => .ok y
  | .error e => if strict then .error e else .ok (0.0 / 0.0)

/-- One token acts on the stack, whose top is its head. -/
def step (mode : AngleMode) (strict : Bool) : List Float → Token → Except Error (List Float)
  | stack, .number v => .ok (v :: stack)
  | [], t => .error (.missingOperand t)
  | v :: stack, .function f _ => do return (← applyFunction mode strict f v) :: stack
  | [_], t => .error (.missingOperand t)
  | b :: a :: stack, t => do return (← applySymbol t a b) :: stack

/-- The stack that a program leaves. -/
def run (mode : AngleMode) (strict : Bool) : List Float → List Token → Except Error (List Float)
  | stack, [] => .ok stack
  | stack, t :: tokens => do run mode strict (← step mode strict stack t) tokens

/-- The value that a stack shows: the number at its bottom. -/
def result (strict : Bool) (stack : List Float) : Except Error Float :=
  if strict && 1 < stack.length then .error (.excessOperands stack.length)
  else .ok (stack.getLast?.getD 0.0)

/-- The value of a program. -/
def value (mode : AngleMode) (strict : Bool) (tokens : List Token) : Except Error Float := do
  result strict (← run mode strict [] tokens)

theorem run_cons (mode : AngleMode) (strict : Bool) (stack : List Float) (t : Token)
    (tokens : List Token) :
    run mode strict stack (t :: tokens) = (step mode strict stack t).bind fun s =>
      run mode strict s tokens := rfl

theorem run_append (mode : AngleMode) (strict : Bool) (stack : List Float)
    (first second : List Token) :
    run mode strict stack (first ++ second) =
      (run mode strict stack first).bind fun s => run mode strict s second := by
  induction first generalizing stack with
  | nil => rfl
  | cons t tokens ih =>
    simp only [List.cons_append, run_cons]
    cases step mode strict stack t with
    | error e => rfl
    | ok s => exact ih s

end Calculator.Postfix

import Calculator.Token

/-! # Errors

Why an expression is refused, cause by cause, with the wording of each cause in one place
(`Error.message`) and its code in another (`Error.code`). All causes but one concern the expression;
an operator that nobody knows (`unknownOperator`) can only come from a token list that was not read
from a text.
-/

namespace Calculator

/-- Why there is no answer. -/
inductive Error where
  /-- The expression is not a text. -/
  | notText
  /-- The expression has more characters than allowed. -/
  | tooLong (limit : Int)
  /-- The angle mode has no such name. -/
  | invalidAngleMode
  /-- A character that belongs to no token, and its position. -/
  | unrecognizedCharacter (character : Char) (position : Nat)
  /-- A name that is no function's. -/
  | unknownFunction (name : String)
  /-- A numeric literal with two points, or with a point and nothing else. -/
  | malformedNumber (literal : String)
  /-- A `)` that closes nothing. -/
  | unmatchedClosing
  /-- A `(` that is not closed. -/
  | unmatchedOpening
  /-- A function or an operator without its operands. -/
  | missingOperand (token : Token)
  /-- Several values are left and nothing joins them. -/
  | excessOperands (count : Nat)
  /-- A factorial of what is not a natural number. -/
  | factorialUndefined (value : Float)
  /-- A calculation cannot go on from infinity or NaN. -/
  | nonFinitePrevious
  /-- A symbol that is no operator was to be ranked or applied. -/
  | unknownOperator (symbol : String)
deriving DecidableEq

namespace Error

/-- The code of an error in answers. An unknown operator has none. -/
def code? : Error → Option String
  | notText => some "invalid_expression"
  | tooLong _ => some "expression_too_long"
  | invalidAngleMode => some "invalid_angle_mode"
  | unrecognizedCharacter .. => some "unrecognized_character"
  | unknownFunction _ => some "unknown_function"
  | malformedNumber _ => some "malformed_number"
  | unmatchedClosing | unmatchedOpening => some "unbalanced_parentheses"
  | missingOperand _ => some "stack_underflow"
  | excessOperands _ => some "excess_operands"
  | factorialUndefined _ | nonFinitePrevious => some "domain_error"
  | unknownOperator _ => none

/-- The wording of an error. -/
def message : Error → String
  | notText => "Expression must be a string"
  | tooLong limit => "Expression is longer than " ++ toString limit ++ " characters"
  | invalidAngleMode => "angle_mode must be 'degree' or 'radian'"
  | unrecognizedCharacter c position =>
    "Unrecognized character '" ++ String.singleton c ++ "' at position " ++ toString position
  | unknownFunction name => "Unknown function '" ++ name ++ "'"
  | malformedNumber literal => "Malformed number '" ++ literal ++ "'"
  | unmatchedClosing => "Unmatched ')'"
  | unmatchedOpening => "Unmatched '('"
  | missingOperand token => "Missing operand for '" ++ token.text ++ "'"
  | excessOperands count =>
    "Expression leaves " ++ toString count ++ " values; missing an operator?"
  | factorialUndefined value => "Factorial is undefined for " ++ Number.text value
  | nonFinitePrevious => "Cannot continue from a non-finite result"
  | unknownOperator symbol => "Unknown operator '" ++ symbol ++ "'"

theorem code?_eq_none {e : Error} : e.code? = none ↔ ∃ symbol, e = unknownOperator symbol := by
  cases e <;> simp [code?]

end Error

end Calculator

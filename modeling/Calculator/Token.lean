import Calculator.MathFunction
import Calculator.Number.Text

/-! # Tokens

What an expression is made of. Six symbols have a meaning: four binary operators and the
parentheses. A token list that did not come from a text may hold other symbols, which stay what they
are (`foreign`) and cannot be ranked or applied.
-/

namespace Calculator

/-- A binary operator. -/
inductive BinaryOp where
  | add | sub | mul | div
deriving DecidableEq, Repr

namespace BinaryOp

/-- The sign of an operator. -/
def symbol : BinaryOp → Char
  | add => '+'
  | sub => '-'
  | mul => '*'
  | div => '/'

/-- Multiplication and division bind tighter. -/
def precedence : BinaryOp → Nat
  | add | sub => 1
  | mul | div => 2

/-- The operator in binary64 arithmetic. Dividing by a zero gives an infinity, and NaN if the
dividend is a zero too. -/
def apply : BinaryOp → Float → Float → Float
  | add, a, b => a + b
  | sub, a, b => a - b
  | mul, a, b => a * b
  | div, a, b => a / b

end BinaryOp

/-- A token of an expression. A function keeps the spelling it was written with. -/
inductive Token where
  | number (value : Float)
  | operator (op : BinaryOp)
  | opening
  | closing
  | function (f : MathFunction) (name : String)
  | foreign (symbol : String)
deriving DecidableEq

namespace Token

/-- The token of a single symbol. -/
def ofChar? : Char → Option Token
  | '+' => some (operator .add)
  | '-' => some (operator .sub)
  | '*' => some (operator .mul)
  | '/' => some (operator .div)
  | '(' => some opening
  | ')' => some closing
  | _ => none

/-- The token of any symbol. -/
def ofSymbol (symbol : String) : Token :=
  match symbol.toList with
  | [c] => (ofChar? c).getD (foreign symbol)
  | _ => foreign symbol

/-- The text of a token; that of a number is the number's. -/
def text : Token → String
  | number v => Number.text v
  | operator op => String.singleton op.symbol
  | opening => "("
  | closing => ")"
  | function _ name => name
  | foreign symbol => symbol

def isOpening : Token → Bool
  | opening => true
  | _ => false

/-- A token that is a parenthesis. -/
def isParenthesis : Token → Bool
  | opening | closing => true
  | _ => false

/-- After this token a sign belongs to the number that follows it: the token is a symbol other than
`)`. -/
def expectsOperand : Token → Bool
  | operator _ | opening | foreign _ => true
  | number _ | closing | function .. => false

theorem text_ofChar? {c : Char} {t : Token} (h : ofChar? c = some t) :
    t.text = String.singleton c := by
  unfold ofChar? at h
  split at h <;> first | contradiction | (cases h; rfl)

end Token

end Calculator

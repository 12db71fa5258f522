import Calculator.Text.Blank
import Calculator.Text.Digit

/-! # The sign key

The key flips the sign of the number that an expression ends in. A minus that belongs to the number
goes, a plus becomes a minus, and otherwise a minus is put in front of the number. An expression
that does not end in a number stays as it is.

A line end behind the number does not count as part of the expression and goes when the sign is
flipped.
-/

namespace Calculator.SignKey

open Text

/-- The trailing digits of a text: what stands in front of them, and the digits. -/
def splitDigits (cs : List Char) : List Char × List Char :=
  ((cs.reverse.dropWhile isAsciiDigit).reverse, (cs.reverse.takeWhile isAsciiDigit).reverse)

/-- The number at the end of a text, with what stands in front of it: digits, and if a point
precedes them, the point and the digits in front of it too. -/
def trailingNumber? (cs : List Char) : Option (List Char × List Char) :=
  let (front, ds) := splitDigits cs
  if ds.isEmpty then none
  else if front.getLast? = some '.' then
    let (head, whole) := splitDigits front.dropLast
    some (head, whole ++ '.' :: ds)
  else some (front, ds)

/-- The text without one line end at its end. -/
def withoutLineEnd (cs : List Char) : List Char :=
  if cs.getLast? = some '\n' then cs.dropLast else cs

/-- A sign behind this text belongs to the number that follows: the text is blank, or ends in an
operator or a `(`. -/
def expectsOperand (cs : List Char) : Bool :=
  match (trimEnd isBlank cs).getLast? with
  | none => true
  | some c => c == '+' || c == '-' || c == '*' || c == '/' || c == '('

/-- The text in front of the number, with its sign flipped. -/
def flip (front : List Char) : List Char :=
  match front.getLast? with
  | some '-' => if expectsOperand front.dropLast then front.dropLast else front ++ ['-']
  | some '+' => if expectsOperand front.dropLast then front.dropLast ++ ['-'] else front ++ ['-']
  | _ => front ++ ['-']

/-- The expression after the key is pressed. -/
def press (expression : String) : String :=
  match trailingNumber? (withoutLineEnd expression.toList) with
  | none => expression
  | some (front, number) => String.ofList (flip front ++ number)

end Calculator.SignKey

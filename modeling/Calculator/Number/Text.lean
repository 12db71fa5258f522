import Calculator.Number.Shortest

/-! # The texts of a number

A number is written in two ways. Its *text* shows its shortest decimal as a number that a program
reads: with at least one digit behind the point, and with an exponent where the number is very small
or very large. Its *display* is what the calculator shows and what can be typed in again: positional
throughout, since an expression has no exponents.
-/

namespace Calculator.Number

/-- A minus sign in front of the text of a negative number. -/
def signed (v : Float) (text : List Char) : List Char :=
  if isNegative v then '-' :: text else text

/-- The mark of an exponent, its sign and at least two digits. -/
def exponentText (k : Int) : List Char :=
  let ds := Nat.toDigits 10 k.natAbs
  'e' :: (if k < 0 then '-' else '+') :: (if ds.length < 2 then '0' :: ds else ds)

/-- One digit before the point, the others behind it, and an exponent. -/
def scientific (d : Decimal) (leading : Int) : List Char :=
  match d.digits with
  | [] => []
  | [c] => c :: exponentText leading
  | c :: rest => c :: '.' :: rest ++ exponentText leading

/-- The text of a decimal. A number is written positionally if its leading digit stands from the
fourth place behind the point to the sixteenth before it, and an integer then gets a zero behind a
point. -/
def decimalText (d : Decimal) : List Char :=
  let leading := d.exponent + d.digits.length - 1
  if leading < -4 || 16 ≤ leading then scientific d leading
  else if 0 ≤ d.exponent then d.positional ++ ['.', '0']
  else d.positional

/-- The text of a number: its shortest decimal, with a point or an exponent. -/
def text (v : Float) : String :=
  String.ofList <|
    if v.isNaN then ['n', 'a', 'n']
    else if v.isInf then signed v ['i', 'n', 'f']
    else if mantissa v = 0 then signed v ['0', '.', '0']
    else signed v (decimalText (shortest v))

/-- What the calculator shows for a number: its shortest decimal, positional. Both zeros are shown
alike. -/
def display (v : Float) : String :=
  String.ofList <|
    if v.isNaN then ['N', 'a', 'N']
    else if v.isInf then signed v ['I', 'n', 'f', 'i', 'n', 'i', 't', 'y']
    else if mantissa v = 0 then ['0']
    else signed v (shortest v).positional

end Calculator.Number

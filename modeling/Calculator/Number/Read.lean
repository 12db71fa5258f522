import Calculator.Number.Decimal
import Calculator.Text.Blank
import Calculator.Text.Digit

/-! # Reading numbers

Two grammars are read here. `Number.ofText?` reads a number as programs exchange it: an optional
sign, then digits with an optional point and an optional exponent, or one of the words for infinity
and NaN in any case. `Integer.ofText?` reads an integer as a setting has it: with blanks around it,
digits of any script, and single underscores between digits.
-/

namespace Calculator

open Text

namespace Number

/-- The number that a run of ASCII digits denotes. -/
def ofDigits (ds : List Char) : Nat :=
  ds.foldl (fun n c => 10 * n + asciiDigitValue c) 0

/-- The decimal with these digits before and behind the point. -/
def ofPlaces (whole behind : List Char) : Decimal :=
  ⟨ofDigits (whole ++ behind), -(behind.length : Int)⟩

/-- An optional sign: whether it is a minus, and the rest. -/
def splitSign : List Char → Bool × List Char
  | '-' :: cs => (true, cs)
  | '+' :: cs => (false, cs)
  | cs => (false, cs)

/-- The number with the given sign. -/
def withSign (negative : Bool) (v : Float) : Float :=
  if negative then -v else v

/-- The number nearest to an integer. -/
def ofInt (n : Int) : Float :=
  withSign (n < 0) (nearest n.natAbs)

/-- An exponent with its mark, or nothing. -/
def exponentOf? : List Char → Option Int
  | [] => some 0
  | c :: cs =>
    let (negative, ds) := splitSign cs
    if (c = 'e' || c = 'E') && !ds.isEmpty && ds.all isAsciiDigit then
      some (if negative then -(ofDigits ds : Int) else ofDigits ds)
    else none

/-- Digits with an optional point, at least one digit in all, and an optional exponent. -/
def unsignedDecimal? (cs : List Char) : Option Decimal :=
  let whole := cs.takeWhile isAsciiDigit
  let rest := cs.dropWhile isAsciiDigit
  let (behind, rest) :=
    match rest with
    | '.' :: more => (more.takeWhile isAsciiDigit, more.dropWhile isAsciiDigit)
    | rest => ([], rest)
  if whole.isEmpty && behind.isEmpty then none
  else (exponentOf? rest).map fun k =>
    ⟨(ofPlaces whole behind).coefficient, (ofPlaces whole behind).exponent + k⟩

/-- A number without its sign; the words are read in any case. -/
def unsigned? (cs : List Char) : Option Float :=
  let word := String.ofList (cs.map Char.toLower)
  if word = "inf" || word = "infinity" then some (1.0 / 0.0)
  else if word = "nan" then some (0.0 / 0.0)
  else (unsignedDecimal? cs).map fun d => d.withinReach.toFloat

/-- The number that a text denotes. -/
def ofText? (cs : List Char) : Option Float :=
  (unsigned? (splitSign cs).2).map (withSign (splitSign cs).1)

end Number

namespace Integer

/-- The digits of a run in which single underscores may stand between digits. -/
def digits? : List Char → Option (List Nat)
  | [] => none
  | [c] => (digitValue? c).map fun d => [d]
  | c :: '_' :: cs => do return (← digitValue? c) :: (← digits? cs)
  | c :: cs => do return (← digitValue? c) :: (← digits? cs)

/-- The most digits that an integer is read with. -/
def maxDigits : Nat := 4300

/-- The integer that a text denotes, blanks around it left out. -/
def ofText? (cs : List Char) : Option Int :=
  let (negative, ds) := Number.splitSign (trim isWhiteSpace cs)
  match digits? ds with
  | none => none
  | some values =>
    let n : Nat := values.foldl (fun n d => 10 * n + d) 0
    if maxDigits < values.length then none
    else some (if negative then -(n : Int) else n)

end Integer

end Calculator

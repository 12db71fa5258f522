import Calculator.Number.Binary64

/-! # Decimals

A decimal is a natural number times a power of ten. It stands between a number and its text: a
number has a `shortest` decimal (the module `Calculator.Number.Shortest`), a decimal has a number
(`toFloat`) and a positional text (`positional`), in which no exponent is written.
-/

namespace Calculator

/-- The number `coefficient · 10 ^ exponent`. -/
structure Decimal where
  coefficient : Nat
  exponent : Int
deriving DecidableEq, Repr

namespace Decimal

/-- The value of a decimal. -/
def toRat (d : Decimal) : Rat :=
  d.coefficient * 10 ^ d.exponent

/-- The number nearest to a decimal. -/
def toFloat (d : Decimal) : Float :=
  Number.nearest d.toRat

/-- A decimal whose power of ten fits into memory and to which the same number is nearest. What is
at least `10 ^ 400` is nearest to infinity, and what is at most `10 ^ (-400)` to zero, however large
the exponent is. -/
def withinReach (d : Decimal) : Decimal :=
  let lowest : Int := -(400 + d.coefficient.log2)
  ⟨d.coefficient, max lowest (min 400 d.exponent)⟩

/-- The decimal of the same value whose coefficient does not end in zero. -/
def reduce (coefficient : Nat) (exponent : Int) : Decimal :=
  if h : coefficient ≠ 0 ∧ coefficient % 10 = 0 then reduce (coefficient / 10) (exponent + 1)
  else ⟨coefficient, exponent⟩
termination_by coefficient
decreasing_by omega

/-- The digits of the coefficient. -/
def digits (d : Decimal) : List Char :=
  Nat.toDigits 10 d.coefficient

/-- The text in which each digit stands at its place: zeros fill up to the unit on either side, and
there is a point only if there is a digit behind it. -/
def positional (d : Decimal) : List Char :=
  let ds := d.digits
  if 0 ≤ d.exponent then ds ++ List.replicate d.exponent.toNat '0'
  else
    let places := (-d.exponent).toNat
    if places < ds.length then ds.take (ds.length - places) ++ '.' :: ds.drop (ds.length - places)
    else '0' :: '.' :: List.replicate (places - ds.length) '0' ++ ds

end Decimal

end Calculator

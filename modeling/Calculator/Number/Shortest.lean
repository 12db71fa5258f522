import Calculator.Number.Decimal

/-! # The shortest decimal of a number

Among the decimals that read back as a given number, the one with the fewest digits is written, and
among those the one nearest to the number; of two that are equally near, the one whose last digit is
even.

The search goes through the grids `10 ^ k`, the coarsest first. On each of them only the two
neighbours of the number can read back if anything on the grid does. Seventeen digits always read
back, so the last grid is not tested.
-/

namespace Calculator.Number

/-- The place of the leading decimal digit of a positive rational. -/
def leadingDigit (q : Rat) : Int :=
  if q.den ≤ q.num.toNat then ((Nat.toDigits 10 (q.num.toNat / q.den)).length : Int) - 1
  else -((Nat.toDigits 10 (q.den / q.num.toNat)).length : Int)

/-- The decimal with this coefficient on the grid `10 ^ k` reads back as the absolute value of
`v`. -/
def readsBack (v : Float) (k : Int) (coefficient : Nat) : Bool :=
  0 < coefficient && nearestBits (Decimal.mk coefficient k).toRat == magnitudeBits v

/-- The coefficient to write on the grid `10 ^ k`, if one of the two neighbours of the number reads
back. -/
def coefficientOn? (v : Float) (k : Int) : Option Nat :=
  let scaled := magnitude v / 10 ^ k
  let below := scaled.floor.toNat
  match readsBack v k below, readsBack v k (below + 1) with
  | true, true => some (roundHalfEven scaled).toNat
  | true, false => some below
  | false, true => some (below + 1)
  | false, false => none

/-- The first grid from `10 ^ k` downwards on which a neighbour reads back. After as many grids as
the fuel says the next one is taken untested. -/
def searchGrids (v : Float) : Nat → Int → Decimal
  | 0, k => Decimal.reduce (roundHalfEven (magnitude v / 10 ^ k)).toNat k
  | n + 1, k =>
    match coefficientOn? v k with
    | some coefficient => Decimal.reduce coefficient k
    | none => searchGrids v n (k - 1)

/-- The shortest decimal that reads back as the absolute value of a finite number other than
zero. -/
def shortest (v : Float) : Decimal :=
  searchGrids v 16 (leadingDigit (magnitude v))

end Calculator.Number

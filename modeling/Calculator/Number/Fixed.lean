import Calculator.Number.Binary64

/-! # Fixed-point series

Elementary functions are computed with integers that stand for multiples of `2 ^ (-p)`. The
precision `p` is far beyond that of the numbers: even the smallest of them is a multiple of some
`2 ^ 200` of such units, so the few units that the series below lose to rounding do not show in a
result. What is computed here is then rounded once (`Calculator.Number.Elementary`).
-/

namespace Calculator.Fixed

/-- The number of binary places. -/
def precision : Nat := 1344

/-- More places, for reducing an angle of any size. -/
def anglePrecision : Nat := precision + 1120

/-- The unit with `p` places. -/
def one (p : Nat) : Int :=
  ((1 <<< p : Nat) : Int)

/-- The fixed-point number below a rational. -/
def ofRat (q : Rat) : Int :=
  q.num * one precision / q.den

/-- The rational that a fixed-point number stands for. -/
def toRat (a : Int) : Rat :=
  mkRat a (1 <<< precision)

def mul (a b : Int) : Int :=
  a * b / one precision

def div (a b : Int) : Int :=
  a * one precision / b

def sqrt (a : Int) : Int :=
  ((a.toNat <<< precision).sqrt : Int)

/-- The series `t - t·r/3 + t·r²/5 - …` from the term `t / d` on, where `r` is a fixed-point
ratio. -/
def oddSeries (ratio : Int) : Nat → Int → Int → Int
  | 0, _, _ => 0
  | fuel + 1, term, d =>
    if term = 0 then 0 else term / d + oddSeries ratio fuel (-mul term ratio) (d + 2)

/-- The series whose terms are `t`, `t·r/((n+1)(n+2))` and so on, as those of the sine and the
cosine. -/
def angleSeries (ratio : Int) : Nat → Int → Int → Int
  | 0, _, _ => 0
  | fuel + 1, term, n =>
    if term = 0 then 0
    else term + angleSeries ratio fuel (mul term ratio / ((n + 1) * (n + 2))) (n + 2)

/-- The series whose terms are `t`, `t·r/(n+1)` and so on, as those of the exponential function. -/
def expSeries (ratio : Int) : Nat → Int → Int → Int
  | 0, _, _ => 0
  | fuel + 1, term, n =>
    if term = 0 then 0 else term + expSeries ratio fuel (mul term ratio / (n + 1)) (n + 1)

/-- More terms than any of the series has with these places. -/
def terms : Nat := 2 * precision

/-- The series for the arctangent of `1 / n` with `p` places, from the term `t / d` on. -/
def arctanInverseFrom (square : Int) : Nat → Int → Int → Int
  | 0, _, _ => 0
  | fuel + 1, term, d =>
    if term = 0 then 0 else term / d + arctanInverseFrom square fuel (-(term / square)) (d + 2)

/-- The arctangent of `1 / n` with `p` places. -/
def arctanInverse (p : Nat) (n : Int) : Int :=
  arctanInverseFrom (n * n) p (one p / n) 1

/-- A quarter of the circle's ratio with `p` places, by the arctangents of a fifth and of 1/239. -/
def quarterPi (p : Nat) : Int :=
  4 * arctanInverse p 5 - arctanInverse p 239

/-- A right angle, for reducing angles. -/
def rightAngleWide : Int := 2 * quarterPi anglePrecision

/-- A right angle. -/
def rightAngle : Int := 2 * quarterPi precision

/-- The arctangent of a fixed-point number from 0 to 1. Halving the angle three times makes the
series short. -/
def arctan (t : Int) : Int :=
  8 * series (half (half (half t)))
where
  half (t : Int) : Int := div t (one precision + sqrt (one precision + mul t t))
  series (t : Int) : Int := oddSeries (mul t t) terms t 1

/-- Twice the area tangent of a fixed-point number between -1 and 1: the logarithm of
`(1 + t) / (1 - t)`. -/
def twiceArtanh (t : Int) : Int :=
  2 * oddSeries (-mul t t) terms t 1

/-- The logarithm of two. -/
def ln2 : Int := twiceArtanh (one precision / 3)

/-- The logarithm of ten, which is eight times 1.25. -/
def ln10 : Int := 3 * ln2 + twiceArtanh (one precision / 9)

/-- The logarithm of a positive rational. It is scaled by a power of two to lie between 3/4 and
3/2. -/
def ln (q : Rat) : Int :=
  let k := Number.leadingBit q
  let scaled := q / 2 ^ k
  let (scaled, k) := if 3 / 2 < scaled then (scaled / 2, k + 1) else (scaled, k)
  k * ln2 + twiceArtanh (ofRat ((scaled - 1) / (scaled + 1)))

/-- The exponential of a fixed-point number, as a fixed-point number and a power of two. -/
def exp (a : Int) : Int × Int :=
  let k := (a + ln2 / 2) / ln2
  (expSeries (a - k * ln2) terms (one precision) 0, k)

/-- A rational angle as a number of right angles and the rest, which lies between plus and minus
half a right angle. -/
def reduceAngle (q : Rat) : Int × Int :=
  let wide := q.num * one anglePrecision / q.den
  let k := (wide + rightAngleWide / 2) / rightAngleWide
  (k, (wide - k * rightAngleWide) / one (anglePrecision - precision))

/-- The sine and the cosine of a rational angle. -/
def sinCos (q : Rat) : Int × Int :=
  let (k, r) := reduceAngle q
  let s := angleSeries (-mul r r) terms r 1
  let c := angleSeries (-mul r r) terms (one precision) 0
  match k % 4 with
  | 0 => (s, c)
  | 1 => (c, -s)
  | 2 => (-s, -c)
  | _ => (-c, s)

/-- Newton's iteration for a cube root, from above. -/
def cubeRootFrom (n x : Nat) : Nat :=
  let next := (2 * x + n / (x * x)) / 3
  if next < x then cubeRootFrom n next else x
termination_by x

/-- The natural cube root. -/
def cubeRoot (n : Nat) : Nat :=
  cubeRootFrom n (1 <<< (n.log2 / 3 + 1))

end Calculator.Fixed

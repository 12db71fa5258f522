import Calculator.Number.Fixed

/-! # Elementary functions

The value of each function is the number nearest to the true value: the function is computed with
far more places than a number has, and rounded once. So a result does not depend on a machine.
Outside its domain a function has the value NaN, and a value that is too large is infinite.

A mathematical library need not round so, and its results may differ from these in the last place:
the cube root of 27 may come out as 3.0000000000000004 there, and ten to the power 23 as
1.0000000000000001e+23. Then the factorial of that root, which is 6 here, is refused there, since
its argument is no integer.
-/

namespace Calculator.Number

/-- Not a number. -/
def notANumber : Float := 0.0 / 0.0

def infinity : Float := 1.0 / 0.0

/-- The number nearest to a rational. -/
def ofRat (q : Rat) : Float :=
  if q < 0 then -nearest (-q) else nearest q

/-- The value of a finite number. -/
def toRat (v : Float) : Rat :=
  if isNegative v then -magnitude v else magnitude v

/-- A function that is only computed for finite numbers other than zero. A zero is its own value. -/
def fixingZero (atInfinity : Float → Float) (f : Rat → Float) (v : Float) : Float :=
  if v.isNaN || v == 0.0 then v
  else if v.isInf then atInfinity v
  else f (toRat v)

/-- The sign of a number, given to another. -/
def withSignOf (v w : Float) : Float :=
  if isNegative v then -w else w

def undefined (_ : Float) : Float := notANumber

def sin : Float → Float :=
  fixingZero undefined fun q => ofRat (Fixed.toRat (Fixed.sinCos q).1)

def cos (v : Float) : Float :=
  if v.isFinite then ofRat (Fixed.toRat (Fixed.sinCos (toRat v)).2) else notANumber

def tan : Float → Float :=
  fixingZero undefined fun q => ofRat (mkRat (Fixed.sinCos q).1 1 / (Fixed.sinCos q).2)

/-- The arctangent of a rational that is not negative. -/
def arctanOf (q : Rat) : Int :=
  if 1 < q then Fixed.rightAngle - Fixed.arctan (Fixed.ofRat (1 / q)) else
    Fixed.arctan (Fixed.ofRat q)

def arctan : Float → Float :=
  fixingZero (fun v => withSignOf v (ofRat (Fixed.toRat Fixed.rightAngle))) fun q =>
    if q < 0 then -ofRat (Fixed.toRat (arctanOf (-q))) else ofRat (Fixed.toRat (arctanOf q))

/-- The arcsine of a rational from 0 to 1: the angle whose tangent is `q / √(1 - q²)`. -/
def arcsinOf (q : Rat) : Int :=
  if q = 1 then Fixed.rightAngle else
    let opposite := Fixed.ofRat q
    let adjacent := Fixed.sqrt (Fixed.ofRat ((1 - q) * (1 + q)))
    if opposite ≤ adjacent then Fixed.arctan (Fixed.div opposite adjacent)
    else Fixed.rightAngle - Fixed.arctan (Fixed.div adjacent opposite)

def arcsin : Float → Float :=
  fixingZero undefined fun q =>
    if q < -1 || 1 < q then notANumber
    else if q < 0 then -ofRat (Fixed.toRat (arcsinOf (-q))) else ofRat (Fixed.toRat (arcsinOf q))

/-- The arccosine is twice the angle whose tangent is `√((1 - q) / (1 + q))`. -/
def arccos (v : Float) : Float :=
  let q := toRat v
  if !v.isFinite || q < -1 || 1 < q then notANumber
  else
    let opposite := Fixed.sqrt (Fixed.ofRat (1 - q))
    let adjacent := Fixed.sqrt (Fixed.ofRat (1 + q))
    ofRat (Fixed.toRat (2 *
      if opposite ≤ adjacent then Fixed.arctan (Fixed.div opposite adjacent)
      else Fixed.rightAngle - Fixed.arctan (Fixed.div adjacent opposite)))

/-- A logarithm: minus infinity at zero, and only for numbers that are not negative. -/
def logarithm (f : Rat → Rat) (v : Float) : Float :=
  if v == 0.0 then -infinity
  else if v.isNaN || isNegative v then notANumber
  else if v.isInf then infinity
  else ofRat (f (magnitude v))

def ln : Float → Float :=
  logarithm fun q => Fixed.toRat (Fixed.ln q)

def log10 : Float → Float :=
  logarithm fun q => mkRat (Fixed.ln q) 1 / Fixed.ln10

/-- The exponential of a number that is not too large, `e` to the fixed-point number that `f` makes
of it. Beyond a thousand the value is infinite or zero. -/
def exponential (f : Rat → Int) (v : Float) : Float :=
  if v.isNaN then notANumber
  else if v < -1000.0 then 0.0
  else if 1000.0 < v then infinity
  else
    let (a, k) := Fixed.exp (f (toRat v))
    ofRat (Fixed.toRat a * 2 ^ k)

def exp : Float → Float :=
  exponential Fixed.ofRat

/-- A power of ten. With a whole exponent it is rational, and may lie halfway between two
numbers. -/
def powerOfTen (v : Float) : Float :=
  if v.isFinite && (toRat v).den == 1 && v.abs < 1000.0 then ofRat (10 ^ (toRat v).num)
  else exponential (fun q => q.num * Fixed.ln10 / q.den) v

/-- The cube root is taken of a natural number, after scaling by a power of eight. -/
def cbrt : Float → Float :=
  fixingZero id fun q =>
    let scaled := q.num.natAbs * (1 <<< (3 * Fixed.precision)) / q.den
    let root := nearest (mkRat (Fixed.cubeRoot scaled) (1 <<< Fixed.precision))
    if q < 0 then -root else root

end Calculator.Number

import Calculator.AngleMode
import Calculator.Error
import Calculator.Number.Elementary

/-! # Values of functions

What each function does to a number. Outside its domain a function has the value NaN, and what is
too large is infinite; only the factorial refuses an argument. Trigonometric functions work in
radians, so an angle in degrees is converted on the way in, or on the way out.
-/

namespace Calculator

namespace Number

/-- The natural number that a number is; both zeros are 0. -/
def natural? (v : Float) : Option Nat :=
  if v.isFinite && (magnitude v).den == 1 && (!isNegative v || mantissa v == 0) then
    some (magnitude v).num.toNat
  else none

/-- The product of a number with the naturals from `i` to `n`, from left to right. It stops at
infinity, which no later factor changes. -/
def productFrom (product : Float) (i n : Nat) : Float :=
  if n < i then product
  else
    let next := product * Float.ofNat i
    if next.isInf then next else productFrom next (i + 1) n
termination_by n + 1 - i
decreasing_by omega

/-- The factorial of a natural number. -/
def factorial (v : Float) : Except Error Float :=
  match natural? v with
  | some n => .ok (productFrom 1.0 2 n)
  | none => .error (.factorialUndefined v)

/-- The circle's ratio. -/
def pi : Float := 3.141592653589793

end Number

namespace AngleMode

/-- An angle in this unit, in radians. -/
def toRadians : AngleMode → Float → Float
  | degree, v => v * (Number.pi / 180.0)
  | radian, v => v

/-- An angle in radians, in this unit. -/
def ofRadians : AngleMode → Float → Float
  | degree, v => v * (180.0 / Number.pi)
  | radian, v => v

end AngleMode

namespace MathFunction

open Number

/-- The value of a function. -/
def apply (mode : AngleMode) : MathFunction → Float → Except Error Float
  | sin, v => .ok (Number.sin (mode.toRadians v))
  | cos, v => .ok (Number.cos (mode.toRadians v))
  | tan, v => .ok (Number.tan (mode.toRadians v))
  | asin, v => .ok (mode.ofRadians (Number.arcsin v))
  | acos, v => .ok (mode.ofRadians (Number.arccos v))
  | atan, v => .ok (mode.ofRadians (Number.arctan v))
  | log, v => .ok (Number.log10 v)
  | ln, v => .ok (Number.ln v)
  | square, v => .ok (v * v)
  | cube, v => .ok (v * v * v)
  | sqrt, v => .ok v.sqrt
  | cbrt, v => .ok (Number.cbrt v)
  | powerOfTen, v => .ok (Number.powerOfTen v)
  | exp, v => .ok (Number.exp v)
  | factorial, v => Number.factorial v
  | reciprocal, v => .ok (1.0 / v)
  | identity, v => .ok v

/-- **The angle mode matters only to the functions that are marked so.** -/
theorem apply_eq_of_not_angleDependent {f : MathFunction} (h : f.angleDependent = false)
    (m m' : AngleMode) (v : Float) : f.apply m v = f.apply m' v := by
  cases f <;> first | rfl | simp [angleDependent] at h

theorem apply_error {f : MathFunction} {m : AngleMode} {v : Float} {e : Error}
    (h : f.apply m v = .error e) :
    f = factorial ∧ natural? v = none ∧ e = .factorialUndefined v := by
  cases f <;> simp [apply] at h
  unfold Number.factorial at h
  split at h <;> simp_all

end MathFunction

end Calculator

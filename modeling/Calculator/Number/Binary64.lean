/-! # Binary64 numbers and rationals

Every number of the calculator is a binary64 floating point number. This module joins them to the
rationals: a finite number is plus or minus `mantissa · 2 ^ exponent` (`magnitude`), and a rational
that is not negative has a `nearest` number, where a tie goes to the even mantissa and what is too
large becomes infinity.

The bits of a number that is not negative, read as a natural number, count the numbers below it. So
a rounded mantissa that spills over into the next power of two needs no correction: the carry lands
in the exponent field.
-/

namespace Calculator.Number

/-- The weight of the bit that a normal number's mantissa has and its fraction field leaves out: two
to the 52. -/
def hiddenBit : Nat := 4503599627370496

/-- The bits of positive infinity, read as a natural number: a full exponent field and an empty
fraction. -/
def infinityBits : Nat := 2047 * hiddenBit

/-- The weight of the sign bit: two to the 63. -/
def signBit : Nat := 2048 * hiddenBit

/-- The bits of a number but for its sign. -/
def magnitudeBits (v : Float) : Nat :=
  v.toBits.toNat % signBit

/-- The low 52 bits of a number. -/
def fraction (v : Float) : Nat :=
  magnitudeBits v % hiddenBit

/-- The eleven bits above the fraction. -/
def exponentField (v : Float) : Nat :=
  magnitudeBits v / hiddenBit

/-- The sign bit is set; so it is for `-0.0`. -/
def isNegative (v : Float) : Bool :=
  signBit ≤ v.toBits.toNat

/-- The mantissa of a finite number. Subnormal numbers have no hidden bit. -/
def mantissa (v : Float) : Nat :=
  if exponentField v = 0 then fraction v else hiddenBit + fraction v

/-- The exponent that goes with the mantissa. -/
def exponent (v : Float) : Int :=
  max (exponentField v : Int) 1 - 1075

/-- The absolute value of a finite number. -/
def magnitude (v : Float) : Rat :=
  mantissa v * 2 ^ exponent v

/-- The integer nearest to a rational; a tie goes to the even one. -/
def roundHalfEven (q : Rat) : Int :=
  let below := q.floor
  let rest := q - below
  if rest < 1 / 2 then below
  else if 1 / 2 < rest then below + 1
  else if below % 2 = 0 then below else below + 1

/-- The place of the leading binary digit of a positive rational: a place `k` with
`2 ^ k ≤ q ≤ 2 ^ (k + 1)`. -/
def leadingBit (q : Rat) : Int :=
  if q.den ≤ q.num.toNat then ((q.num.toNat / q.den).log2 : Int)
  else -((q.den / q.num.toNat).log2 : Int) - 1

/-- The exponent at which a positive rational is rounded: 53 digits are kept, fewer below the normal
range. -/
def roundingExponent (q : Rat) : Int :=
  max (leadingBit q - 52) (-1074)

/-- The bits of the number nearest to a positive rational. -/
def nearestBits (q : Rat) : Nat :=
  let e := roundingExponent q
  min ((e + 1074).toNat * hiddenBit + (roundHalfEven (q / 2 ^ e)).toNat) infinityBits

/-- The number nearest to a rational that is not negative. -/
def nearest (q : Rat) : Float :=
  if 0 < q then Float.ofBits (UInt64.ofNat (nearestBits q)) else 0.0

end Calculator.Number

/-! # Punycode

A label of a host name that has characters beyond ASCII is written in ASCII: its ASCII characters,
and behind a hyphen a number for each of the others. The others are inserted one after another, in
the order of their codes and, for equal codes, of their places. Each number says how many steps
further the next insertion is, where a step is one place in the label, or, past its end, one code. A
number is written in digits to a base of 36 with a threshold for each digit, so that its end shows;
the thresholds follow the size of the numbers before it.
-/

namespace Calculator.Text.Punycode

/-- A digit: the letters stand for 0 to 25, the decimal digits for 26 to 35. -/
def digit (n : Nat) : Char :=
  if n < 26 then Char.ofNat ('a'.toNat + n) else Char.ofNat ('0'.toNat + (n - 26))

/-- The threshold of a digit at a place that is a multiple of 36: a digit below it ends a number. -/
def threshold (place bias : Nat) : Nat :=
  max 1 (min 26 (place - bias))

/-- The digits of a number from a place on. -/
def digits (bias place n : Nat) : List Char :=
  let t := threshold place bias
  if n < t then [digit n]
  else digit (t + (n - t) % (36 - t)) :: digits bias (place + 36) ((n - t) / (36 - t))
termination_by n
decreasing_by
  have hpos : 1 ≤ threshold place bias := by unfold threshold; omega
  have := Nat.div_le_self (n - threshold place bias) (36 - threshold place bias)
  omega

/-- A number is brought below 456 by dividing by 35; each division counts for 36. -/
def settle (n count : Nat) : Nat :=
  if 455 < n then settle (n / 35) (count + 36) else count + 36 * n / (n + 38)
termination_by n
decreasing_by exact Nat.div_lt_self (by omega) (by omega)

/-- The bias after a number was written and the label has some size. The first number is damped more
than the others. -/
def adapt (n size : Nat) (isFirst : Bool) : Nat :=
  let damped := if isFirst then n / 700 else n / 2
  settle (damped + damped / size) 0

/-- How far the insertions are. -/
structure Progress where
  /-- Steps since the last insertion. -/
  steps : Nat
  bias : Nat
  /-- The size of the label so far. -/
  size : Nat
  written : List Char

/-- One character of the label is passed while those with some code are inserted. -/
def pass (basic code : Nat) (p : Progress) (c : Char) : Progress :=
  if c.toNat < code then { p with steps := p.steps + 1 }
  else if c.toNat = code then
    { steps := 0
      bias := adapt p.steps (p.size + 1) (p.size == basic)
      size := p.size + 1
      written := p.written ++ digits p.bias 36 p.steps }
  else p

/-- The insertions of the characters with these codes, which are in ascending order; `next` is the
first code that no insertion was tried for. -/
def insertAll (label : List Char) (basic : Nat) : List Nat → Nat → Progress → List Char
  | [], _, p => p.written
  | code :: codes, next, p =>
    let start := { p with steps := p.steps + (code - next) * (p.size + 1) }
    let done := label.foldl (pass basic code) start
    insertAll label basic codes (code + 1) { done with steps := done.steps + 1 }

/-- A label in ASCII. -/
def encode (label : List Char) : List Char :=
  let basic := label.filter fun c => c.toNat < 128
  let codes := ((label.filter fun c => 128 ≤ c.toNat).map Char.toNat).mergeSort.eraseDups
  (if basic.isEmpty then [] else basic ++ ['-']) ++
    insertAll label basic.length codes 128 ⟨0, 72, basic.length, []⟩

end Calculator.Text.Punycode

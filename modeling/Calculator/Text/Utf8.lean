/-! # UTF-8

Characters as bytes, and bytes as characters. Not every run of bytes spells characters: where one is
broken off or makes no sense, as many bytes as could have begun a character are read as one
replacement character, and reading goes on behind them.
-/

namespace Calculator.Text

/-- The bytes of a character. -/
def utf8Char (c : Char) : List Nat :=
  let n := c.toNat
  if n < 0x80 then [n]
  else if n < 0x800 then [0xC0 + n / 0x40, 0x80 + n % 0x40]
  else if n < 0x10000 then [0xE0 + n / 0x1000, 0x80 + n / 0x40 % 0x40, 0x80 + n % 0x40]
  else [0xF0 + n / 0x40000, 0x80 + n / 0x1000 % 0x40, 0x80 + n / 0x40 % 0x40, 0x80 + n % 0x40]

/-- The bytes of a text. -/
def utf8 (cs : List Char) : List Nat :=
  cs.flatMap utf8Char

/-- What a first byte promises: the bits it carries, and the ranges of the bytes that have to
follow. The second byte's range leaves out what has a shorter spelling, the surrogates, and what
lies beyond the last code point. -/
def utf8Lead? (b : Nat) : Option (Nat × List (Nat × Nat)) :=
  let any := (0x80, 0xBF)
  if b < 0x80 then some (b, [])
  else if b < 0xC2 then none
  else if b < 0xE0 then some (b - 0xC0, [any])
  else if b = 0xE0 then some (0, [(0xA0, 0xBF), any])
  else if b = 0xED then some (0xD, [(0x80, 0x9F), any])
  else if b < 0xF0 then some (b - 0xE0, [any, any])
  else if b = 0xF0 then some (0, [(0x90, 0xBF), any, any])
  else if b < 0xF4 then some (b - 0xF0, [any, any, any])
  else if b = 0xF4 then some (4, [(0x80, 0x8F), any, any])
  else none

/-- The character that the promised bytes complete, and how many of them were there. -/
def utf8Follow (code : Nat) : List (Nat × Nat) → List Nat → Char × Nat
  | [], _ => (Char.ofNat code, 0)
  | r :: ranges, b :: bytes =>
    if r.1 ≤ b && b ≤ r.2 then
      let (c, used) := utf8Follow (code * 0x40 + (b - 0x80)) ranges bytes
      (c, used + 1)
    else ('\uFFFD', 0)
  | _ :: _, [] => ('\uFFFD', 0)

/-- The characters that bytes spell. -/
def ofUtf8 : List Nat → List Char
  | [] => []
  | b :: bytes =>
    match utf8Lead? b with
    | none => '\uFFFD' :: ofUtf8 bytes
    | some (code, ranges) =>
      let (c, used) := utf8Follow code ranges bytes
      c :: ofUtf8 (bytes.drop used)
termination_by bytes => bytes.length
decreasing_by
  · simp only [List.length_cons]; omega
  · simp only [List.length_drop, List.length_cons]; omega

@[simp] theorem ofUtf8_nil : ofUtf8 [] = [] := by
  rw [ofUtf8]

theorem ofUtf8_cons_of_lt {b : Nat} (h : b < 0x80) (bytes : List Nat) :
    ofUtf8 (b :: bytes) = Char.ofNat b :: ofUtf8 bytes := by
  rw [ofUtf8]
  simp [utf8Lead?, h, utf8Follow]

end Calculator.Text

import Calculator.Text.Utf8

/-! # The encoding of a JSON text

A JSON text may be encoded in units of one, two or four bytes, and it starts with an ASCII
character. So zeros among its first bytes show the size of the units and their order. A text in
units of one byte is UTF-8, and may have a mark of the byte order in front, which is passed over.
-/

namespace Calculator.Json

/-- How characters are turned into bytes: the size of a unit, and whether its first byte weighs
least. -/
inductive Encoding where
  | bytes
  | pairs (little : Bool)
  | quads (little : Bool)
deriving DecidableEq, Repr

namespace Encoding

/-- The encoding of a text that starts with these bytes. -/
def ofBytes : List Nat → Encoding
  | a :: b :: c :: d :: _ =>
    if a = 0 then (if b = 0 then quads false else pairs false)
    else if b = 0 then (if c = 0 && d = 0 then quads true else pairs true)
    else bytes
  | [a, b] => if a = 0 then pairs false else if b = 0 then pairs true else bytes
  | _ => bytes

/-- A unit of several bytes. -/
def unit (little : Bool) (bs : List Nat) : Nat :=
  (if little then bs.reverse else bs).foldl (fun n b => 0x100 * n + b) 0

/-- The units of `size` bytes, if the last one is complete. -/
def units? (little : Bool) (size : Nat) (bs : List Nat) : Option (List Nat) :=
  if size = 0 || bs.length % size != 0 then none
  else some ((List.range (bs.length / size)).map fun i =>
    unit little ((bs.drop (size * i)).take size))

/-- The character of a code point that has one. -/
def char? (n : Nat) : Option Char :=
  if n.isValidChar then some (Char.ofNat n) else none

/-- The characters of units of two bytes. Those beyond the basic plane take two units. -/
def ofPairs? : List Nat → Option (List Char)
  | [] => some []
  | m :: n :: units =>
    if 0xD800 ≤ m && m < 0xDC00 && 0xDC00 ≤ n && n < 0xE000 then do
      return (← char? (0x10000 + (m - 0xD800) * 0x400 + (n - 0xDC00))) :: (← ofPairs? units)
    else do return (← char? m) :: (← ofPairs? (n :: units))
  | [m] => do return [← char? m]

/-- A text without a mark of the byte order. -/
def withoutMark : List Char → List Char
  | '\uFEFF' :: cs => cs
  | cs => cs

/-- The characters of a text that is given by its bytes in UTF-8, read in the encoding that the
bytes show. -/
def characters? (text : List Char) : Option (List Char) :=
  let bs := Text.utf8 text
  match ofBytes bs with
  | bytes => some (withoutMark text)
  | pairs little => (units? little 2 bs).bind ofPairs?
  | quads little => (units? little 4 bs).bind fun units => units.mapM char?

end Encoding

end Calculator.Json

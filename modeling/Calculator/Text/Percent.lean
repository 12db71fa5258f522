import Calculator.Text.Digit
import Calculator.Text.Letter
import Calculator.Text.Utf8

/-! # Percent escapes

In an address a byte may be written as a percent sign and two hexadecimal digits. A character beyond
ASCII is written as the escapes of its bytes in UTF-8. A percent sign without two such digits behind
it stands for itself.
-/

namespace Calculator.Text

/-- A hexadecimal digit in upper case. -/
def hexDigit (n : Nat) : Char :=
  if n < 10 then Char.ofNat ('0'.toNat + n) else Char.ofNat ('A'.toNat + (n - 10))

/-- A character that is never escaped: an ASCII letter, a digit, or one of four marks. -/
def isUnreserved (c : Char) : Bool :=
  isAsciiLetter c || isAsciiDigit c || c == '_' || c == '.' || c == '-' || c == '~'

/-- The escape of a byte. -/
def percentByte (b : Nat) : List Char :=
  ['%', hexDigit (b / 16), hexDigit (b % 16)]

/-- A text with every character escaped that is neither unreserved nor one of the `safe` ones. -/
def percentEscape (safe : List Char) (cs : List Char) : List Char :=
  cs.flatMap fun c =>
    if isUnreserved c || safe.contains c then [c] else (utf8Char c).flatMap percentByte

/-- The bytes of a text in which escapes stand for bytes. -/
def percentBytes : List Char → List Nat
  | '%' :: high :: low :: cs =>
    match hexValue? high, hexValue? low with
    | some m, some n => (16 * m + n) :: percentBytes cs
    | _, _ => 0x25 :: percentBytes (high :: low :: cs)
  | c :: cs => utf8Char c ++ percentBytes cs
  | [] => []

/-- The text that a text with escapes stands for. -/
def percentUnescape (cs : List Char) : List Char :=
  ofUtf8 (percentBytes cs)

end Calculator.Text

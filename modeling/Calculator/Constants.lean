import Calculator.Number.Read
import Calculator.Text.Letter

/-! # Constants

The words for two constants are written out as numbers before an expression is read. A word next to
a character that could make it part of a longer one, or next to a digit or a point, is left alone;
what counts is what stands next to it in the text that is searched, even if that is replaced too.

The circle's ratio is written out first, then Euler's number in the text that this gives.
-/

namespace Calculator

open Text

/-- A word that stands for a number. -/
structure Constant where
  word : List Char
  /-- The number's text. -/
  digits : List Char
  /-- The characters that may not stand next to the word. -/
  touches : Char → Bool

namespace Constant

/-- A digit or a point. -/
def isNumeric (c : Char) : Bool :=
  isAsciiDigit c || c == '.'

/-- An ASCII letter, a digit or a point. -/
def isWordLike (c : Char) : Bool :=
  isAsciiLetter c || isNumeric c

def piDigits : List Char := "3.141592653589793".toList

def eulerDigits : List Char := "2.718281828459045".toList

/-- The circle's ratio, by its letter. -/
def piSymbol : Constant := ⟨['π'], piDigits, isNumeric⟩

/-- The circle's ratio, by its name. -/
def piName : Constant := ⟨['p', 'i'], piDigits, isWordLike⟩

/-- Euler's number. A caret makes it part of a function's spelling. -/
def euler : Constant := ⟨['e'], eulerDigits, fun c => isWordLike c || c == '^'⟩

/-- The constant's word stands at the front of a text, with `before` in front of it, and nothing
touches it. -/
def standsAt (before : Option Char) (cs : List Char) (k : Constant) : Bool :=
  k.word.isPrefixOf cs && !before.any k.touches && !(cs.drop k.word.length).head?.any k.touches

/-- The text with every word that stands alone replaced; `before` is the character in front of
it. -/
def replaceFrom (ks : List Constant) (before : Option Char) : List Char → List Char
  | [] => []
  | c :: rest =>
    match ks.find? (standsAt before (c :: rest)) with
    | some k => k.digits ++ replaceFrom ks k.word.getLast? (rest.drop (k.word.length - 1))
    | none => c :: replaceFrom ks (some c) rest
termination_by cs => cs.length
decreasing_by
  · simp only [List.length_drop, List.length_cons]; omega
  · simp

/-- The text with every word of these constants replaced that stands alone. -/
def replace (ks : List Constant) (cs : List Char) : List Char :=
  replaceFrom ks none cs

@[simp] theorem replaceFrom_nil (ks : List Constant) (before : Option Char) :
    replaceFrom ks before [] = [] := by
  rw [replaceFrom]

theorem replaceFrom_cons (ks : List Constant) (before : Option Char) (c : Char) (rest : List Char) :
    replaceFrom ks before (c :: rest) =
      match ks.find? (standsAt before (c :: rest)) with
      | some k => k.digits ++ replaceFrom ks k.word.getLast? (rest.drop (k.word.length - 1))
      | none => c :: replaceFrom ks (some c) rest := by
  rw [replaceFrom]

end Constant

/-- The expression with its constants written out. -/
def substituteConstants (expression : String) : String :=
  String.ofList (Constant.replace [Constant.euler]
    (Constant.replace [Constant.piSymbol, Constant.piName] expression.toList))

end Calculator

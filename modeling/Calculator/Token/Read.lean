import Calculator.Lexeme

/-! # Reading tokens

Lexemes are read as tokens in one of two ways. A strict reader refuses a malformed literal, an
unknown name and a stray character. A lenient one takes the longest part of a literal that is a
number, takes an unknown name for the identity, and passes over what is stray. On a text that the
strict reader accepts, the two agree (`readFrom_lenient`).
-/

namespace Calculator

open Text

namespace Literal

/-- A number as it should be written: at most one point, and not the point alone. -/
def wellFormed (l : Literal) : Bool :=
  l.body.count '.' ≤ 1 && l.body != ['.']

/-- The part of the body up to a second point. -/
def upToSecondPoint (body : List Char) : List Char :=
  match body.dropWhile isAsciiDigit with
  | '.' :: rest => body.takeWhile isAsciiDigit ++ '.' :: rest.takeWhile isAsciiDigit
  | _ => body

/-- The number that the digits before and behind the first point denote, with the literal's sign. -/
def value (l : Literal) : Float :=
  let behind := ((l.body.dropWhile isAsciiDigit).drop 1).takeWhile isAsciiDigit
  Number.withSign (l.sign == some '-')
    (Number.ofPlaces (l.body.takeWhile isAsciiDigit) behind).toFloat

/-- The value for a lenient reader: NaN if what stands before a second point is only a point. -/
def lenientValue (l : Literal) : Float :=
  if upToSecondPoint l.body == ['.'] then 0.0 / 0.0 else l.value

/-- The value of a literal, or that it is malformed. -/
def read (strict : Bool) (l : Literal) : Except Error Float :=
  if l.wellFormed then .ok l.value
  else if strict then .error (.malformedNumber (String.ofList l.text))
  else .ok l.lenientValue

end Literal

namespace Token

/-- The token of a lexeme that starts at `position`, if it has one. -/
def ofLexeme (strict : Bool) (position : Nat) : Lexeme → Except Error (Option Token)
  | .blank _ => .ok none
  | .call spelling f => .ok (some (function f (String.ofList spelling)))
  | .literal l => (l.read strict).map fun v => some (number v)
  | .symbol _ t => .ok (some t)
  | .name word =>
    match MathFunction.ofSpelling? (String.ofList word) with
    | some f => .ok (some (function f (String.ofList word)))
    | none =>
      if strict then .error (.unknownFunction (String.ofList word))
      else .ok (some (function .identity (String.ofList word)))
  | .stray c => if strict then .error (.unrecognizedCharacter c position) else .ok none

/-- The tokens of a run of lexemes that starts at `position`. -/
def readFrom (strict : Bool) : Nat → List Lexeme → Except Error (List Token)
  | _, [] => .ok []
  | position, lexeme :: lexemes => do
    let token ← ofLexeme strict position lexeme
    let tokens ← readFrom strict (position + lexeme.text.length) lexemes
    return token.toList ++ tokens

/-- The tokens of a text. -/
def read (strict : Bool) (expression : String) : Except Error (List Token) :=
  readFrom strict 0 (Lexeme.cut expression.toList)

/-! ### The lenient reader goes on where the strict one stops -/

theorem ofLexeme_lenient {position : Nat} {lexeme : Lexeme} {token : Option Token}
    (h : ofLexeme true position lexeme = .ok token) :
    ofLexeme false position lexeme = .ok token := by
  cases lexeme with
  | literal l =>
    by_cases hw : l.wellFormed = true
    · simpa [ofLexeme, Literal.read, hw] using h
    · simp [ofLexeme, Literal.read, hw, Except.map] at h
  | name word =>
    cases hf : MathFunction.ofSpelling? (String.ofList word) with
    | none => simp [ofLexeme, hf] at h
    | some f => simpa [ofLexeme, hf] using h
  | stray c => simp [ofLexeme] at h
  | blank | call | symbol => exact h

/-- **On what the strict reader accepts, the lenient one agrees.** -/
theorem readFrom_lenient {position : Nat} {lexemes : List Lexeme} {tokens : List Token}
    (h : readFrom true position lexemes = .ok tokens) :
    readFrom false position lexemes = .ok tokens := by
  induction lexemes generalizing position tokens with
  | nil => exact h
  | cons lexeme lexemes ih =>
    simp only [readFrom, bind, Except.bind] at h ⊢
    cases ht : ofLexeme true position lexeme with
    | error e => simp [ht] at h
    | ok token =>
      cases hr : readFrom true (position + lexeme.text.length) lexemes with
      | error e => simp [ht, hr] at h
      | ok rest =>
        rw [ofLexeme_lenient ht, ih hr]
        simpa [ht, hr] using h

end Token

end Calculator

import Calculator.Error
import Calculator.Number.Read
import Calculator.Text.Letter

/-! # Lexemes

A text is cut into lexemes: blanks, calls, literals, symbols, names and stray characters. Nothing is
lost: the texts of the lexemes, put together, are the text again (`texts_cut`). Where a cut is made
does not depend on how strictly the lexemes are read afterwards (the module
`Calculator.Token.Read`).

A function whose spelling has digits or symbols in it (`10^x`, `1/x`) is a call only if a `(`
follows, blanks aside. A sign belongs to the literal behind it only where an operand is expected: at
the start, and after a symbol other than `)`.
-/

namespace Calculator

open Text

/-- A numeric literal as it is written: an optional sign, and a run of digits and points. -/
structure Literal where
  sign : Option Char
  body : List Char
deriving DecidableEq

/-- A piece of an expression's text. -/
inductive Lexeme where
  /-- A blank character. -/
  | blank (c : Char)
  /-- A spelling with a `(` behind it. -/
  | call (spelling : List Char) (f : MathFunction)
  /-- A numeric literal. -/
  | literal (l : Literal)
  /-- A character that is a token. -/
  | symbol (c : Char) (t : Token)
  /-- A word with no `(` behind it, or one that is no spelling. -/
  | name (word : List Char)
  /-- A character that belongs to no token. -/
  | stray (c : Char)
deriving DecidableEq

/-- A character of a literal's body. -/
def isNumberChar (c : Char) : Bool :=
  isAsciiDigit c || c == '.'

/-- A character of a name behind its first letter. -/
def isNameChar (c : Char) : Bool :=
  isLetter c || c == '^'

def isSign (c : Char) : Bool :=
  c == '+' || c == '-'

namespace Literal

/-- The text of a literal. -/
def text (l : Literal) : List Char :=
  l.sign.toList ++ l.body

end Literal

namespace Lexeme

/-- The text of a lexeme. -/
def text : Lexeme → List Char
  | blank c => [c]
  | call spelling _ => spelling
  | literal l => l.text
  | symbol c _ => [c]
  | name word => word
  | stray c => [c]

/-- A sign behind this lexeme belongs to the literal that follows it. Blanks and stray characters
leave open what was expected before them. -/
def expectsOperand (before : Bool) : Lexeme → Bool
  | blank _ | stray _ => before
  | symbol _ t => t.expectsOperand
  | call .. | literal _ | name _ => false

/-- A `(` follows, blanks aside. -/
def opensCall (cs : List Char) : Bool :=
  (cs.dropWhile isBlank).head? == some '('

/-- The spelling at the front of a text that is called there, with its function. -/
def callAt? (cs : List Char) : Option (List Char × MathFunction) :=
  (MathFunction.spellings.find? fun s => s.1.toList.isPrefixOf cs &&
    opensCall (cs.drop s.1.toList.length)).map fun s => (s.1.toList, s.2)

/-- A literal with its sign starts at `c`: a sign that may belong to a literal, and directly behind
it a digit or a point. -/
def startsSigned (expects : Bool) (c : Char) (rest : List Char) : Bool :=
  isSign c && expects && rest.head?.any isNumberChar

/-- The first lexeme of the text `c :: rest`. -/
def first (expects : Bool) (c : Char) (rest : List Char) : Lexeme :=
  if isBlank c then blank c
  else match callAt? (c :: rest) with
  | some (spelling, f) => call spelling f
  | none =>
    if isNumberChar c then literal ⟨none, c :: rest.takeWhile isNumberChar⟩
    else if startsSigned expects c rest then literal ⟨some c, rest.takeWhile isNumberChar⟩
    else match Token.ofChar? c with
    | some t => symbol c t
    | none => if isLetter c then name (c :: rest.takeWhile isNameChar) else stray c

/-- The lexemes of a text. -/
def cutFrom (expects : Bool) : List Char → List Lexeme
  | [] => []
  | c :: rest =>
    let lexeme := first expects c rest
    lexeme :: cutFrom (lexeme.expectsOperand expects) (rest.drop (lexeme.text.length - 1))
termination_by cs => cs.length
decreasing_by simp only [List.length_drop, List.length_cons]; omega

/-- The lexemes of a whole text. At its start an operand is expected. -/
def cut (cs : List Char) : List Lexeme :=
  cutFrom true cs

@[simp] theorem cutFrom_nil (expects : Bool) : cutFrom expects [] = [] := by
  rw [cutFrom]

theorem cutFrom_cons (expects : Bool) (c : Char) (rest : List Char) :
    cutFrom expects (c :: rest) =
      first expects c rest ::
        cutFrom ((first expects c rest).expectsOperand expects)
          (rest.drop ((first expects c rest).text.length - 1)) := by
  rw [cutFrom]

/-! ### Nothing is lost -/

theorem isPrefixOf_of_callAt? {cs spelling : List Char} {f : MathFunction}
    (h : callAt? cs = some (spelling, f)) : spelling <+: cs := by
  simp only [callAt?, Option.map_eq_some_iff, Prod.exists, Prod.mk.injEq] at h
  obtain ⟨s, g, hs, rfl, rfl⟩ := h
  have := List.find?_some hs
  simp only [Bool.and_eq_true, List.isPrefixOf_iff_prefix] at this
  exact this.1

theorem ne_nil_of_callAt? {cs spelling : List Char} {f : MathFunction}
    (h : callAt? cs = some (spelling, f)) : spelling ≠ [] := by
  simp only [callAt?, Option.map_eq_some_iff, Prod.exists, Prod.mk.injEq] at h
  obtain ⟨s, g, hs, rfl, rfl⟩ := h
  have hall : ∀ s ∈ MathFunction.spellings, s.1.toList ≠ [] := by decide +kernel
  exact hall _ (List.mem_of_find?_eq_some hs)

theorem text_first (expects : Bool) (c : Char) (rest : List Char) :
    ∃ word, (first expects c rest).text = c :: word ∧ word <+: rest := by
  unfold first
  split
  · exact ⟨[], rfl, List.nil_prefix⟩
  · split
    next spelling f h =>
      have hp := isPrefixOf_of_callAt? h
      cases spelling with
      | nil => exact absurd rfl (ne_nil_of_callAt? h)
      | cons d word =>
        rw [List.cons_prefix_cons] at hp
        exact ⟨word, by simp [text, hp.1], hp.2⟩
    next h =>
      split
      · exact ⟨rest.takeWhile isNumberChar, rfl, List.takeWhile_prefix _⟩
      · split
        · exact ⟨rest.takeWhile isNumberChar, rfl, List.takeWhile_prefix _⟩
        · split
          · exact ⟨[], rfl, List.nil_prefix⟩
          · split
            · exact ⟨rest.takeWhile isNameChar, rfl, List.takeWhile_prefix _⟩
            · exact ⟨[], rfl, List.nil_prefix⟩

/-- **Nothing is lost: the texts of the lexemes, put together, are the text.** -/
theorem texts_cutFrom (expects : Bool) (cs : List Char) :
    (cutFrom expects cs).flatMap text = cs := by
  induction h : cs.length using Nat.strongRecOn generalizing expects cs with
  | ind n ih =>
    cases cs with
    | nil => simp
    | cons c rest =>
      obtain ⟨word, htext, tail, rfl⟩ := text_first expects c rest
      have hlt : tail.length < n := by
        rw [← h, List.length_cons, List.length_append]; omega
      have hdrop : (word ++ tail).drop ((first expects c (word ++ tail)).text.length - 1) =
          tail := by
        simp [htext]
      rw [cutFrom_cons, List.flatMap_cons, hdrop, ih tail.length hlt _ tail rfl, htext]
      rfl

theorem texts_cut (cs : List Char) : (cut cs).flatMap text = cs :=
  texts_cutFrom true cs

end Lexeme

end Calculator

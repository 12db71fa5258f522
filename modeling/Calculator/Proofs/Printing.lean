import Calculator.Proofs.Lookahead
import Calculator.Proofs.Number.Canonical
import Calculator.Proofs.Reading

/-! # Tokens are read back

The tokens of a text can be written down, with a space between each two of them, and are read again
(`read_written`). They can because of where they were read (`Token.Placed`): a negative number only
where an operand is expected, so that its sign belongs to it again; and a spelling that is no word
only in front of a `(`, so that it is called again. Whatever is read is placed so
(`placed_of_readFrom`), and whatever is placed so is read back (`reads_spaced`).

The sign of a zero is not displayed, so that of `-0.0` is lost (`Token.shown`).
-/

namespace Calculator

open Text Lexeme

theorem Literal.sign_of_isNegative {l : Literal} (h : Number.isNegative l.value = true) :
    l.sign = some '-' := by
  by_contra hsign
  rw [value, Number.withSign, if_neg (by simpa using hsign), Decimal.toFloat,
    Number.isNegative_nearest] at h
  contradiction

namespace Token

/-! ### Where tokens stand -/

/-- The text of a token in an expression. A number is displayed. -/
def written : Token → String
  | number v => Number.display v
  | t => t.text

/-- The token that the text of a token is read as. -/
def shown : Token → Token
  | number v => number (Number.shown v)
  | t => t

/-- Two tokens differ in the sign of a zero at most. -/
def Same : Token → Token → Prop
  | number v, number w => (v == w) = true
  | t, u => t = u

/-- What is known of a token that is read in front of another one, or at the end: a number is
negative only where an operand is expected, and a spelling that is no word has a `(` behind it. -/
def Fits (expects : Bool) (next : Option Token) : Token → Prop
  | number v => Number.isNegative v = true → expects = true
  | function f spelling =>
    (spelling, f) ∈ MathFunction.spellings ∧
      ((∀ c ∈ spelling.toList, isNameChar c = true) ∨ next = some .opening)
  | operator _ | opening | closing => True
  | foreign _ => False

/-- Tokens that stand where they can be read. -/
def Placed : Bool → List Token → Prop
  | _, [] => True
  | expects, t :: tokens => t.Fits expects tokens.head? ∧ Placed t.expectsOperand tokens

theorem head?_of_opensCall {expects : Bool} {cs : List Char} {position : Nat} {tokens : List Token}
    (hopens : opensCall cs = true)
    (hread : readFrom true position (cutFrom expects cs) = .ok tokens) :
    tokens.head? = some .opening := by
  induction cs generalizing position with
  | nil => contradiction
  | cons c cs ih =>
    cases hblank : isBlank c with
    | true =>
      have hrest : opensCall cs = true := by
        rwa [← List.singleton_append, opensCall_blanks (by simpa using hblank)] at hopens
      rw [cutFrom_blank hblank, readFrom_blank] at hread
      exact ih hrest hread
    | false =>
      rw [opensCall_cons hblank] at hopens
      obtain rfl : c = '(' := by simpa using hopens
      have hsign : startsSigned expects '(' cs = false := by simp [startsSigned, isSign]
      rw [cutFrom_symbol (t := .opening) rfl expects cs hsign] at hread
      obtain ⟨token, rest, htoken, -, rfl⟩ := ok_of_readFrom_cons hread
      obtain rfl := Except.ok.inj htoken
      rfl

/-- **Whatever is read strictly is placed.** -/
theorem placed_of_readFrom {expects : Bool} {cs : List Char} {lexemes : List Lexeme}
    {position : Nat} {tokens : List Token} (hcut : cutFrom expects cs = lexemes)
    (hread : readFrom true position lexemes = .ok tokens) : Placed expects tokens := by
  induction lexemes generalizing expects cs position tokens with
  | nil =>
    obtain rfl := Except.ok.inj hread
    trivial
  | cons lexeme more ih =>
    have hmem : lexeme ∈ cutFrom expects cs := by simp [hcut]
    have hformed := wellFormed_of_mem_cutFrom hmem
    obtain ⟨c, word, -, -, -, hmore⟩ := cutFrom_eq_cons hcut
    obtain ⟨token, rest, htoken, hrest, rfl⟩ := ok_of_readFrom_cons hread
    have hplaced := ih hmore hrest
    have hlead : cutFrom expects cs = [] ++ lexeme :: more := hcut
    cases lexeme with
    | blank c =>
      obtain rfl := Except.ok.inj htoken
      exact hplaced
    | call spelling f =>
      obtain rfl := Except.ok.inj htoken
      rw [← hmore] at hrest
      have hopening := head?_of_opensCall (opensCall_of_cutFrom hlead) hrest
      exact ⟨⟨hformed, Or.inr hopening⟩, hplaced⟩
    | literal l =>
      obtain ⟨v, hv, rfl⟩ := ok_of_map htoken
      obtain ⟨-, rfl⟩ := Literal.read_strict_iff.mp hv
      have hfits : Fits expects rest.head? (number l.value) := by
        intro hneg
        have hsign : l.sign ≠ none := by
          rw [Literal.sign_of_isNegative hneg]
          exact Option.some_ne_none '-'
        exact expectsBehind_of_sign hlead hsign
      exact ⟨hfits, hplaced⟩
    | symbol c t =>
      obtain rfl := Except.ok.inj htoken
      refine ⟨?_, hplaced⟩
      have ht : ofChar? c = some t := hformed
      rcases eq_of_ofChar? ht with rfl | rfl | rfl | rfl | rfl | rfl <;> cases ht <;>
        exact True.intro
    | name word =>
      rw [ofLexeme] at htoken
      split at htoken
      next f hf =>
        obtain rfl := Except.ok.inj htoken
        refine ⟨⟨MathFunction.ofSpelling?_eq_some_iff.mp hf, Or.inl ?_⟩, hplaced⟩
        rwa [String.toList_ofList]
      next => contradiction
    | stray c => contradiction

/-! ### Reading them back -/

theorem isBlank_space : isBlank ' ' = true := by decide

/-- The texts of tokens, each with a space in front of it. -/
def spaced (tokens : List Token) : List Char :=
  tokens.flatMap fun t => ' ' :: t.written.toList

theorem spaced_cons (t : Token) (tokens : List Token) :
    spaced (t :: tokens) = ' ' :: (t.written.toList ++ spaced tokens) := by
  rw [spaced, List.flatMap_cons, List.cons_append]
  rfl

theorem eq_of_head_spaced {tokens : List Token} {c : Char} (hc : c ∈ (spaced tokens).head?) :
    c = ' ' := by
  cases tokens with
  | nil => contradiction
  | cons t tokens =>
    rw [spaced_cons] at hc
    exact (Option.some.inj hc).symm

theorem stops_spaced (tokens : List Token) : Stops (spaced tokens) := by
  cases tokens with
  | nil => exact stops_nil
  | cons t tokens =>
    rw [spaced_cons]
    exact stops_cons (by decide) (by decide) _

theorem opensCall_spaced (tokens : List Token) :
    opensCall (spaced (.opening :: tokens)) = true := by
  have hblank : ∀ c ∈ [' '], isBlank c = true := by simp [isBlank_space]
  rw [spaced_cons, ← List.singleton_append, opensCall_blanks hblank]
  rfl

/-- A symbol is cut off in front of a space, since no literal follows it directly. -/
theorem cutFrom_symbol_spaced {c : Char} {t : Token} (ht : ofChar? c = some t) (expects : Bool)
    (tokens : List Token) :
    cutFrom expects (t.text.toList ++ spaced tokens) = symbol c t ::
      cutFrom t.expectsOperand (spaced tokens) := by
  have hsign : startsSigned expects c (spaced tokens) = false := by
    cases tokens with
    | nil => simp [startsSigned, spaced]
    | cons u tokens =>
      have hspace : isNumberChar ' ' = false := isNumberChar_of_isBlank isBlank_space
      simp [startsSigned, spaced_cons, hspace]
  rw [text_ofChar? ht, String.toList_singleton]
  exact cutFrom_symbol ht expects _ hsign

/-- A spelling is read as its function: with a `(` behind it as a call, and else as a name. -/
theorem cutFrom_spelling_spaced {f : MathFunction} {spelling : String} {tokens : List Token}
    (expects : Bool) (hmem : (spelling, f) ∈ MathFunction.spellings)
    (hword : (∀ c ∈ spelling.toList, isNameChar c = true) ∨ tokens.head? = some .opening) :
    ∃ lexeme, cutFrom expects (spelling.toList ++ spaced tokens) = lexeme ::
      cutFrom false (spaced tokens) ∧
      ∀ position, ofLexeme true position lexeme = .ok (some (function f spelling)) := by
  by_cases hopens : opensCall (spaced tokens) = true
  · refine ⟨call spelling.toList f, cutFrom_call hmem expects hopens, fun position => ?_⟩
    rw [ofLexeme, String.ofList_toList]
  · -- nothing is called, so the spelling is a word
    have hletters : ∀ c ∈ spelling.toList, isNameChar c = true := by
      refine hword.resolve_right fun hopening => hopens ?_
      obtain ⟨rest, rfl⟩ := List.head?_eq_some_iff.mp hopening
      exact opensCall_spaced rest
    refine ⟨name spelling.toList, ?_, fun position => ?_⟩
    · cases hs : spelling.toList with
      | nil => exact absurd hs (spelling_ne_nil hmem)
      | cons c word =>
        rw [hs] at hletters
        have hblank : ∀ d ∈ (spaced tokens).head?, isBlank d = true ∨ d = '(' := by
          intro d hd
          rw [eq_of_head_spaced hd]
          exact Or.inl isBlank_space
        exact cutFrom_name (isLetter_of_spelling hmem hs (hletters c (by simp)))
          (fun d hd => hletters d (by simp [hd])) hblank (fun h => absurd h hopens) expects
    · rw [ofLexeme, String.ofList_toList, MathFunction.ofSpelling?_eq_some_iff.mpr hmem]

/-- **The text of a token that fits is cut off, and read as the token.** -/
theorem cutFrom_written {expects : Bool} {t : Token} {tokens : List Token}
    (hfits : t.Fits expects tokens.head?) (hfinite : ∀ v, t = number v → v.isFinite = true) :
    ∃ lexeme, cutFrom expects (t.written.toList ++ spaced tokens) =
        lexeme :: cutFrom t.expectsOperand (spaced tokens) ∧
      ∀ position, ofLexeme true position lexeme = .ok (some t.shown) := by
  cases t with
  | number v =>
    obtain ⟨l, hread, hcut⟩ := Number.cutFrom_display (hfinite v rfl)
    refine ⟨literal l, hcut expects hfits (stops_spaced tokens), fun position => ?_⟩
    rw [ofLexeme, hread]
    rfl
  | operator op => exact ⟨_, cutFrom_symbol_spaced op.ofChar?_symbol expects tokens, fun _ => rfl⟩
  | opening => exact ⟨_, cutFrom_symbol_spaced (c := '(') rfl expects tokens, fun _ => rfl⟩
  | closing => exact ⟨_, cutFrom_symbol_spaced (c := ')') rfl expects tokens, fun _ => rfl⟩
  | function f spelling => exact cutFrom_spelling_spaced expects hfits.1 hfits.2
  | foreign text => exact hfits.elim

/-- **Tokens that are placed are read back.** -/
theorem reads_spaced {expects : Bool} {tokens : List Token} (h : Placed expects tokens)
    (hfinite : ∀ v, number v ∈ tokens → v.isFinite = true) :
    Reads true (cutFrom expects (spaced tokens)) (tokens.map shown) := by
  induction tokens generalizing expects with
  | nil =>
    rw [spaced, List.flatMap_nil, cutFrom_nil]
    exact reads_nil
  | cons t tokens ih =>
    obtain ⟨hfits, hplaced⟩ := h
    have hhere : ∀ v, t = number v → v.isFinite = true := fun v hv => hfinite v (by simp [hv])
    obtain ⟨lexeme, hcut, hread⟩ := cutFrom_written hfits hhere
    have hrest := ih hplaced fun v hv => hfinite v (by simp [hv])
    rw [spaced_cons, cutFrom_blank isBlank_space, hcut]
    intro position
    rw [readFrom_blank]
    exact hrest.cons hread (position + 1)

/-! ### The written text -/

theorem spaced_eq {tokens : List Token} (h : tokens ≠ []) :
    spaced tokens = ' ' :: (" ".intercalate (tokens.map written)).toList := by
  rw [String.toList_intercalate]
  induction tokens with
  | nil => exact absurd rfl h
  | cons t tokens ih =>
    cases tokens with
    | nil => simp [spaced]
    | cons u tokens =>
      rw [spaced_cons, ih (List.cons_ne_nil u tokens)]
      simp only [List.map_cons]
      rw [List.intercalate_cons_cons]
      simp

theorem same_shown {t : Token} (hfinite : ∀ v, t = number v → v.isFinite = true) :
    t.shown.Same t := by
  cases t with
  | number v => exact Number.shown_beq (hfinite v rfl)
  | operator | opening | closing | function | foreign => rfl

/-- **Tokens that were read are read again from their texts**, with a space between each two of
them; only the sign of a zero is lost. -/
theorem read_written {text : String} {tokens : List Token} (hread : read true text = .ok tokens)
    (hfinite : ∀ v, number v ∈ tokens → v.isFinite = true) :
    read true (" ".intercalate (tokens.map written)) = .ok (tokens.map shown) ∧
      List.Forall₂ Same (tokens.map shown) tokens := by
  constructor
  · cases tokens with
    | nil => decide +kernel
    | cons t tokens =>
      have hplaced : Placed true (t :: tokens) := placed_of_readFrom rfl hread
      have hspaced := reads_spaced hplaced hfinite 0
      rw [spaced_eq (List.cons_ne_nil t tokens), cutFrom_blank isBlank_space, readFrom_blank]
        at hspaced
      exact readFrom_of_ok _ 0 hspaced
  · rw [List.forall₂_map_left_iff, List.forall₂_same]
    exact fun t ht => same_shown fun v hv => hfinite v (hv ▸ ht)

/-- A text with a negative zero, and a call of a spelling that is no word. -/
theorem read_written_zero :
    read true "-0*x² (" = .ok [number (-0.0), .operator .mul, .function .square "x²", .opening] ∧
      read true "0 * x² (" = .ok [number 0.0, .operator .mul, .function .square "x²",
        .opening] := by
  have hread : read true "-0*x² (" = .ok [number (-0.0), .operator .mul, .function .square "x²",
    .opening] := by decide +kernel
  have hfinite : ∀ v, number v ∈ [number (-0.0), .operator .mul, .function .square "x²", .opening] →
      v.isFinite = true := by
    simp only [List.mem_cons, number.injEq, reduceCtorEq, List.not_mem_nil, or_false]
    rintro v rfl
    decide +kernel
  have hwritten :
      " ".intercalate
        ([number (-0.0), .operator .mul, .function .square "x²", .opening].map written) =
      "0 * x² (" := by decide +kernel
  have hshown : [number (-0.0), .operator .mul, .function .square "x²", .opening].map shown =
      [number 0.0, .operator .mul, .function .square "x²", .opening] := by decide +kernel
  have hagain := (read_written hread hfinite).1
  rw [hwritten, hshown] at hagain
  exact ⟨hread, hagain⟩

end Token

end Calculator

import Calculator.Proofs.Outcome
import Calculator.Token.Read

/-! # Reading runs of lexemes

The tokens of a concatenation are those of its parts (`readFrom_append`), and what cannot be read is
one of the lexemes (`error_of_readFrom`). Where a run of lexemes starts is told by no token; only
the error for a stray character names a position. So two readings of the same lexemes agree up to
positions (`readFrom_unplaced`), and a reading that succeeds does so at every position
(`readFrom_of_ok`).
-/

namespace Calculator

/-- An error without the position it names, if it names one. -/
def Error.unplaced : Error → Error
  | unrecognizedCharacter c _ => unrecognizedCharacter c 0
  | e => e

theorem Literal.read_strict_iff {l : Literal} {v : Float} :
    l.read true = .ok v ↔ l.wellFormed = true ∧ l.value = v := by
  rw [read]
  split
  next h => simp [h]
  next h => simp [h]

namespace Token

variable {strict : Bool} {position : Nat}

theorem readFrom_cons (lexeme : Lexeme) (lexemes : List Lexeme) :
    readFrom strict position (lexeme :: lexemes) =
      (ofLexeme strict position lexeme).bind fun token =>
        (readFrom strict (position + lexeme.text.length) lexemes).map (token.toList ++ ·) := by
  rw [readFrom]
  cases ofLexeme strict position lexeme with
  | error e => rfl
  | ok token => cases readFrom strict (position + lexeme.text.length) lexemes <;> rfl

theorem readFrom_cons_of_ok {lexeme : Lexeme} {token : Option Token}
    (h : ofLexeme strict position lexeme = .ok token) (lexemes : List Lexeme) :
    readFrom strict position (lexeme :: lexemes) =
      (readFrom strict (position + lexeme.text.length) lexemes).map (token.toList ++ ·) := by
  rw [readFrom_cons, h]
  rfl

theorem readFrom_cons_of_error {lexeme : Lexeme} {e : Error}
    (h : ofLexeme strict position lexeme = .error e) (lexemes : List Lexeme) :
    readFrom strict position (lexeme :: lexemes) = .error e := by
  rw [readFrom_cons, h]
  rfl

theorem ok_of_readFrom_cons {lexeme : Lexeme} {lexemes : List Lexeme} {tokens : List Token}
    (h : readFrom strict position (lexeme :: lexemes) = .ok tokens) :
    ∃ token rest, ofLexeme strict position lexeme = .ok token ∧
      readFrom strict (position + lexeme.text.length) lexemes = .ok rest ∧
      token.toList ++ rest = tokens := by
  rw [readFrom_cons] at h
  obtain ⟨token, htoken, h⟩ := ok_of_bind h
  obtain ⟨rest, hrest, h⟩ := ok_of_map h
  exact ⟨token, rest, htoken, hrest, h⟩

theorem readFrom_append {first : List Lexeme} {tokens : List Token}
    (h : readFrom strict position first = .ok tokens) (second : List Lexeme) :
    readFrom strict position (first ++ second) =
      (readFrom strict (position + (first.flatMap Lexeme.text).length) second).map
        (tokens ++ ·) := by
  induction first generalizing position tokens with
  | nil =>
    obtain rfl : [] = tokens := by simpa [readFrom] using h
    rw [List.nil_append, List.flatMap_nil, List.length_nil, Nat.add_zero]
    cases readFrom strict position second <;> rfl
  | cons lexeme first ih =>
    obtain ⟨token, rest, ht, hr, rfl⟩ := ok_of_readFrom_cons h
    rw [List.cons_append, readFrom_cons_of_ok ht, ih hr, List.flatMap_cons, List.length_append,
      Nat.add_assoc]
    cases readFrom strict (position + (lexeme.text.length + (first.flatMap Lexeme.text).length))
        second with
    | error e => rfl
    | ok back => simp [Except.map]

theorem ok_of_readFrom_append {first second : List Lexeme} {tokens : List Token}
    (h : readFrom strict position (first ++ second) = .ok tokens) :
    ∃ front back, readFrom strict position first = .ok front ∧
      readFrom strict (position + (first.flatMap Lexeme.text).length) second = .ok back ∧
      front ++ back = tokens := by
  induction first generalizing position tokens with
  | nil => exact ⟨[], tokens, rfl, h, rfl⟩
  | cons lexeme first ih =>
    obtain ⟨token, rest, ht, hr, rfl⟩ := ok_of_readFrom_cons h
    obtain ⟨front, back, hfront, hback, rfl⟩ := ih hr
    refine ⟨token.toList ++ front, back, ?_, ?_, List.append_assoc ..⟩
    · rw [readFrom_cons_of_ok ht, hfront]
      rfl
    · rwa [List.flatMap_cons, List.length_append, ← Nat.add_assoc]

theorem ok_of_readFrom_concat {lexemes : List Lexeme} {lexeme : Lexeme} {tokens : List Token}
    (h : readFrom strict position (lexemes ++ [lexeme]) = .ok tokens) :
    ∃ front token place, readFrom strict position lexemes = .ok front ∧
      ofLexeme strict place lexeme = .ok token ∧ front ++ token.toList = tokens := by
  obtain ⟨front, back, hfront, hback, rfl⟩ := ok_of_readFrom_append h
  obtain ⟨token, rest, htoken, hrest, rfl⟩ := ok_of_readFrom_cons hback
  obtain rfl : [] = rest := Except.ok.inj hrest
  exact ⟨front, token, _, hfront, htoken, by rw [List.append_nil]⟩

/-- Reading stops at a lexeme, with the error that this lexeme has where it stands. Those in front
of it are read. -/
theorem error_of_readFrom {lexemes : List Lexeme} {e : Error}
    (h : readFrom strict position lexemes = .error e) :
    ∃ front lexeme back tokens, lexemes = front ++ lexeme :: back ∧
      readFrom strict position front = .ok tokens ∧
      ofLexeme strict (position + (front.flatMap Lexeme.text).length) lexeme = .error e := by
  induction lexemes generalizing position with
  | nil => contradiction
  | cons lexeme lexemes ih =>
    rw [readFrom_cons] at h
    rcases error_of_bind h with h | ⟨token, htoken, h⟩
    · exact ⟨[], lexeme, lexemes, [], rfl, rfl, h⟩
    · obtain ⟨front, stop, back, tokens, rfl, hfront, hstop⟩ := ih (error_of_map h)
      refine ⟨lexeme :: front, stop, back, token.toList ++ tokens, rfl, ?_, ?_⟩
      · rw [readFrom_cons_of_ok htoken, hfront]
        rfl
      · rwa [List.flatMap_cons, List.length_append, ← Nat.add_assoc]

/-! ### Positions -/

theorem ofLexeme_unplaced (strict : Bool) (p q : Nat) (lexeme : Lexeme) :
    (ofLexeme strict p lexeme).mapError Error.unplaced =
      (ofLexeme strict q lexeme).mapError Error.unplaced := by
  cases lexeme with
  | stray c => cases strict <;> rfl
  | blank | call | literal | symbol | name => rfl

theorem readFrom_cons_unplaced {first second : List Lexeme}
    (h : ∀ p q, (readFrom strict p first).mapError Error.unplaced =
      (readFrom strict q second).mapError Error.unplaced)
    (lexeme : Lexeme) (p q : Nat) :
    (readFrom strict p (lexeme :: first)).mapError Error.unplaced =
      (readFrom strict q (lexeme :: second)).mapError Error.unplaced := by
  rcases ok_or_error_of_mapError (ofLexeme_unplaced strict p q lexeme) with
    ⟨token, hp, hq⟩ | ⟨d, e, hp, hq, he⟩
  · rw [readFrom_cons_of_ok hp, readFrom_cons_of_ok hq]
    rcases ok_or_error_of_mapError (h (p + lexeme.text.length) (q + lexeme.text.length)) with
      ⟨rest, hp', hq'⟩ | ⟨d, e, hp', hq', he⟩
    · rw [hp', hq']
    · rw [hp', hq']
      exact congrArg Except.error he
  · rw [readFrom_cons_of_error hp, readFrom_cons_of_error hq]
    exact congrArg Except.error he

/-- **Two readings of the same lexemes differ in the position that an error names, if in
anything.** -/
theorem readFrom_unplaced (strict : Bool) (p q : Nat) (lexemes : List Lexeme) :
    (readFrom strict p lexemes).mapError Error.unplaced =
      (readFrom strict q lexemes).mapError Error.unplaced := by
  induction lexemes generalizing p q with
  | nil => rfl
  | cons lexeme lexemes ih => exact readFrom_cons_unplaced ih lexeme p q

theorem readFrom_blank (c : Char) (lexemes : List Lexeme) :
    readFrom strict position (.blank c :: lexemes) = readFrom strict (position + 1) lexemes := by
  have hblank : ofLexeme strict position (.blank c) = .ok none := rfl
  rw [readFrom_cons_of_ok hblank]
  cases hrest : readFrom strict (position + (Lexeme.blank c).text.length) lexemes with
  | error e => exact hrest.symm
  | ok tokens => exact hrest.symm

theorem readFrom_of_ok {lexemes : List Lexeme} {tokens : List Token} (p q : Nat)
    (h : readFrom strict p lexemes = .ok tokens) : readFrom strict q lexemes = .ok tokens := by
  rcases ok_or_error_of_mapError (readFrom_unplaced strict p q lexemes) with
    ⟨tokens', hp, hq⟩ | ⟨d, e, hp, -, -⟩
  · rw [hq, ← hp, h]
  · rw [hp] at h
    contradiction

/-! ### Lexemes that the strict reader accepts -/

/-- The lexemes are read as these tokens, wherever they start. -/
def Reads (strict : Bool) (lexemes : List Lexeme) (tokens : List Token) : Prop :=
  ∀ position, readFrom strict position lexemes = .ok tokens

theorem Reads.append {first second : List Lexeme} {front back : List Token}
    (h : Reads strict first front) (h' : Reads strict second back) :
    Reads strict (first ++ second) (front ++ back) := by
  intro position
  rw [readFrom_append (h position), h']
  rfl

theorem reads_nil : Reads strict [] [] := fun _ => rfl

theorem reads_blanks (blanks : List Char) : Reads strict (blanks.map .blank) [] := by
  intro position
  induction blanks generalizing position with
  | nil => rfl
  | cons c blanks ih => rw [List.map_cons, readFrom_blank, ih]

theorem Reads.cons {lexeme : Lexeme} {token : Token} {lexemes : List Lexeme} {tokens : List Token}
    (h : ∀ position, ofLexeme strict position lexeme = .ok (some token))
    (h' : Reads strict lexemes tokens) : Reads strict (lexeme :: lexemes) (token :: tokens) := by
  intro position
  rw [readFrom_cons_of_ok (h position), h']
  rfl

end Token

end Calculator

import Calculator.Proofs.LongestNumeral

/-! # Every character belongs to one token

Each token stands for a word of the text (`Token.Spells`): a number for a numeral with an optional
sign, a function for a spelling of it, a symbol for itself. A lexeme that is read strictly is a
blank and no token, or it is the word of the one token that it is read as (`blank_or_spells`). Since
no lexeme of a text is lost, a text that is read strictly is made of the words of its tokens, in
their order, and of blanks (`MadeOf`).

No word has a blank in it (`Spells.not_isBlank`). So the words, put together, are the text without
its blanks (`MadeOf.filter`).
-/

namespace Calculator

open Text

theorem exists_partner {α β : Type} {R : α → β → Prop} {xs : List α} {ys : List β}
    (h : List.Forall₂ R xs ys) {x : α} (hx : x ∈ xs) : ∃ y ∈ ys, R x y := by
  induction h with
  | nil => contradiction
  | cons hhead _ ih =>
    rcases List.mem_cons.mp hx with rfl | hx
    · exact ⟨_, List.mem_cons_self, hhead⟩
    · obtain ⟨y, hy, hrest⟩ := ih hx
      exact ⟨y, List.mem_cons_of_mem _ hy, hrest⟩

/-- A text is made of these words, in this order, with blanks between them and around them. -/
inductive MadeOf : List (List Char) → List Char → Prop where
  | nil : MadeOf [] []
  | blank {c : Char} {words : List (List Char)} {cs : List Char} (hc : isBlank c = true)
    (h : MadeOf words cs) :
    MadeOf words (c :: cs)
  | word {words : List (List Char)} {cs : List Char} (word : List Char) (h : MadeOf words cs) :
    MadeOf (word :: words) (word ++ cs)

theorem MadeOf.filter {words : List (List Char)} {cs : List Char} (h : MadeOf words cs)
    (hwords : ∀ word ∈ words, ∀ c ∈ word, isBlank c = false) :
    (cs.filter fun c => !isBlank c) = words.flatten := by
  induction h with
  | nil => rfl
  | blank hc _ ih =>
    rw [List.filter_cons_of_neg (by simp [hc])]
    exact ih hwords
  | word word _ ih =>
    obtain ⟨hword, hrest⟩ := List.forall_mem_cons.mp hwords
    have hkept : (word.filter fun c => !isBlank c) = word := by
      rw [List.filter_eq_self]
      intro c hc
      rw [hword c hc]
      rfl
    rw [List.filter_append, hkept, ih hrest, List.flatten_cons]

namespace Token

/-- What a token is written as. -/
inductive Spells : Token → List Char → Prop where
  | number {cs : List Char} {v : Float} (hsigned : Numeral.Signed cs)
    (hvalue : Number.ofText? cs = some v) :
    Spells (number v) cs
  | operator (op : BinaryOp) : Spells (operator op) [op.symbol]
  | opening : Spells opening ['(']
  | closing : Spells closing [')']
  | function {f : MathFunction} {name : String} (hname : (name, f) ∈ MathFunction.spellings) :
    Spells (function f name) name.toList

/-- **No blank stands within a word.** -/
theorem Spells.not_isBlank {t : Token} {word : List Char} (h : Spells t word) {c : Char}
    (hc : c ∈ word) : isBlank c = false := by
  cases h with
  | number hsigned =>
    obtain ⟨sign, n, hsign, rfl⟩ := hsigned
    rcases List.mem_append.mp hc with hc | hc
    · rcases eq_of_isSign (hsign c (by simpa using hc)) with rfl | rfl <;> decide
    · exact isBlank_of_isNumberChar (n.isNumberChar_of_mem hc)
  | operator op =>
    obtain rfl := List.mem_singleton.mp hc
    cases op <;> decide
  | opening =>
    obtain rfl := List.mem_singleton.mp hc
    decide
  | closing =>
    obtain rfl := List.mem_singleton.mp hc
    decide
  | function hname => exact (Lexeme.spelling_chars hname hc).1

theorem spells_of_ofChar? {c : Char} {t : Token} (h : ofChar? c = some t) : Spells t [c] := by
  rcases eq_of_ofChar? h with rfl | rfl | rfl | rfl | rfl | rfl <;> obtain rfl := Option.some.inj h
  · exact .operator .add
  · exact .operator .sub
  · exact .operator .mul
  · exact .operator .div
  · exact .opening
  · exact .closing

theorem spells_literal {l : Literal} {v : Float} (hformed : (Lexeme.literal l).WellFormed)
    (hne : l.body ≠ []) (h : l.read true = .ok v) : Spells (number v) l.text := by
  obtain ⟨hsign, hbody⟩ := hformed
  obtain ⟨hwell, rfl⟩ := Literal.read_strict_iff.mp h
  have hread := Literal.read_numberText? hsign hbody hne true
  rw [Literal.numberText?, if_pos hwell] at hread
  obtain ⟨v, hv, hliteral⟩ := hread
  obtain rfl := Except.ok.inj (h.symm.trans hliteral)
  exact .number ((Literal.signed_text_iff hsign hbody hne).mpr hwell) hv

/-- **A lexeme that is read strictly is a blank and no token, or the word of one token.** -/
theorem blank_or_spells {position : Nat} {lexeme : Lexeme} {token : Option Token}
    (hformed : lexeme.WellFormed) (hne : ∀ l, lexeme = .literal l → l.body ≠ [])
    (h : ofLexeme true position lexeme = .ok token) :
    (∃ c, lexeme.text = [c] ∧ isBlank c = true ∧ token = none) ∨ ∃ t, token = some t ∧
      Spells t lexeme.text := by
  cases lexeme with
  | blank c => exact Or.inl ⟨c, rfl, hformed, (Except.ok.inj h).symm⟩
  | call spelling f =>
    refine Or.inr ⟨_, (Except.ok.inj h).symm, ?_⟩
    have hspells := Spells.function hformed
    rwa [String.toList_ofList] at hspells
  | literal l =>
    obtain ⟨v, hv, rfl⟩ := ok_of_map h
    exact Or.inr ⟨_, rfl, spells_literal hformed (hne l rfl) hv⟩
  | symbol c t => exact Or.inr ⟨t, (Except.ok.inj h).symm, spells_of_ofChar? hformed⟩
  | name word =>
    rw [ofLexeme] at h
    split at h
    next f hf =>
      refine Or.inr ⟨_, (Except.ok.inj h).symm, ?_⟩
      have hspells := Spells.function (MathFunction.ofSpelling?_eq_some_iff.mp hf)
      rwa [String.toList_ofList] at hspells
    next => contradiction
  | stray c => contradiction

/-- **Lexemes that are read strictly are the words of their tokens**, and blanks. -/
theorem madeOf_of_readFrom {position : Nat} {lexemes : List Lexeme} {tokens : List Token}
    (hformed : ∀ lexeme ∈ lexemes, lexeme.WellFormed)
    (hne : ∀ l, .literal l ∈ lexemes → l.body ≠ [])
    (h : readFrom true position lexemes = .ok tokens) :
    ∃ words, List.Forall₂ Spells tokens words ∧ MadeOf words (lexemes.flatMap Lexeme.text) := by
  induction lexemes generalizing position tokens with
  | nil =>
    obtain rfl := Except.ok.inj h
    exact ⟨[], .nil, .nil⟩
  | cons lexeme lexemes ih =>
    obtain ⟨token, rest, htoken, hrest, rfl⟩ := ok_of_readFrom_cons h
    obtain ⟨words, hwords, hmade⟩ := ih (fun x hx => hformed x (List.mem_cons_of_mem _ hx))
      (fun l hl => hne l (List.mem_cons_of_mem _ hl)) hrest
    have hbody : ∀ l, lexeme = .literal l → l.body ≠ [] := by
      rintro l rfl
      exact hne l List.mem_cons_self
    rw [List.flatMap_cons]
    rcases blank_or_spells (hformed lexeme List.mem_cons_self) hbody htoken with
      ⟨c, htext, hblank, rfl⟩ | ⟨t, rfl, hspells⟩
    · rw [htext]
      exact ⟨words, hwords, .blank hblank hmade⟩
    · exact ⟨lexeme.text :: words, .cons hspells hwords, .word lexeme.text hmade⟩

theorem exists_words {text : String} {tokens : List Token} (h : read true text = .ok tokens) :
    ∃ words, List.Forall₂ Spells tokens words ∧ MadeOf words text.toList := by
  have hwords := madeOf_of_readFrom (fun x hx => Lexeme.wellFormed_of_mem_cutFrom hx)
    (fun l hl => Lexeme.body_ne_nil_of_mem_cutFrom hl) h
  rwa [Lexeme.texts_cutFrom] at hwords

/-- **Every character of a text that is read strictly is a blank or belongs to the word of one
token.** The words stand in the order of the tokens, and are what the text is without its blanks. -/
theorem words_of_read {text : String} {tokens : List Token} (h : read true text = .ok tokens) :
    ∃ words, List.Forall₂ Spells tokens words ∧ MadeOf words text.toList ∧
      words.flatten = text.toList.filter fun c => !isBlank c := by
  obtain ⟨words, hwords, hmade⟩ := exists_words h
  refine ⟨words, hwords, hmade, (hmade.filter ?_).symm⟩
  intro word hword c hc
  obtain ⟨t, -, hspells⟩ := exists_partner hwords.flip hword
  exact Spells.not_isBlank hspells hc

/-- A signed number behind blanks, a function of two characters, and a sign that is an operator. -/
theorem words_of_read_signed : ∃ words, List.Forall₂ Spells
      [number (-0.5), .operator .mul, .function .square "x²", .opening, number 3.0, .closing,
        .operator .sub, number 7.0] words ∧
    MadeOf words " -.5\t*x² (3) -7.".toList ∧ words.flatten = "-.5*x²(3)-7.".toList := by
  have hread : read true " -.5\t*x² (3) -7." =
      .ok [number (-0.5), .operator .mul, .function .square "x²", .opening, number 3.0, .closing,
        .operator .sub, number 7.0] := by decide +kernel
  obtain ⟨words, hwords, hmade, hflatten⟩ := words_of_read hread
  exact ⟨words, hwords, hmade, hflatten⟩

end Token

end Calculator

import Calculator.Proofs.Evaluation
import Calculator.Proofs.Groups
import Calculator.Proofs.Lexing
import Calculator.Proofs.Number.Display
import Calculator.Proofs.Reading

/-! # Continuing a calculation

To continue a calculation is to put it in parentheses: the display of its value, in front of any
text, is as good as the calculation itself between `(` and `)` (`chain_eq_group`). Both stand for
one value in front of the same lexemes (`read_display`, `read_group`), and a group acts like its
value (`Postfix.value_group`). Of the two answers only the position of a stray character can differ,
since the texts in front of it have different lengths.
-/

namespace Calculator

open Text Lexeme

/-! ### What is read -/

theorem Token.read_display {v : Float} (hfinite : v.isFinite = true) (hzero : v ≠ -0.0)
    (strict : Bool) (rest : String) :
    ∃ position, read strict (Number.display v ++ (" " ++ rest)) =
      (readFrom strict position (cutFrom false (' ' :: rest.toList))).map (.number v :: ·) := by
  obtain ⟨l, hread, hcut⟩ := Number.cutFrom_display hfinite
  have hstops : Stops (' ' :: rest.toList) := stops_cons (by decide) (by decide) _
  have hlexeme : ofLexeme strict 0 (literal l) = .ok (some (.number v)) := by
    rw [ofLexeme, hread, Number.shown_of_ne hzero]
    rfl
  have hdisplay : Lexeme.cut (Number.display v ++ (" " ++ rest)).toList = literal l ::
      cutFrom false (' ' :: rest.toList) := by
    rw [String.toList_append, String.toList_append]
    exact hcut true (fun _ => rfl) hstops
  refine ⟨0 + (literal l).text.length, ?_⟩
  rw [read, hdisplay, readFrom_cons_of_ok hlexeme]
  rfl

theorem Token.read_group {text : String} {tokens : List Token} (h : read true text = .ok tokens)
    (strict : Bool) (rest : String) :
    ∃ position, read strict ("(" ++ text ++ ") " ++ rest) =
      (readFrom strict position (cutFrom false (' ' :: rest.toList))).map
        fun back => .opening :: (tokens ++ .closing :: back) := by
  have hsign : startsSigned true '(' (text.toList ++ ')' :: ' ' :: rest.toList) = false := by
    simp [startsSigned, isSign]
  have hcut : Lexeme.cut ("(" ++ text ++ ") " ++ rest).toList =
      symbol '(' .opening :: (cutFrom true text.toList ++
        symbol ')' .closing :: cutFrom false (' ' :: rest.toList)) := by
    have hlist : ("(" ++ text ++ ") " ++ rest).toList =
        '(' :: (text.toList ++ ')' :: ' ' :: rest.toList) := by
      simp [String.toList_append]
    rw [hlist, Lexeme.cut, cutFrom_symbol (t := .opening) rfl true _ hsign, cutFrom_append_closing]
    rfl
  have htokens : ∀ position, readFrom strict position (cutFrom true text.toList) = .ok tokens := by
    intro position
    have := readFrom_of_ok 0 position h
    cases strict with
    | true => exact this
    | false => exact readFrom_lenient this
  refine ⟨0 + (symbol '(' .opening).text.length +
    ((cutFrom true text.toList).flatMap Lexeme.text).length + (symbol ')' .closing).text.length, ?_⟩
  have hopening : ofLexeme strict 0 (symbol '(' .opening) = .ok (some .opening) := rfl
  have hclosing : ∀ position,
      ofLexeme strict position (symbol ')' .closing) = .ok (some .closing) :=
    fun _ => rfl
  rw [read, hcut, readFrom_cons_of_ok hopening, readFrom_append (htokens _),
    readFrom_cons_of_ok (hclosing _)]
  generalize readFrom strict _ (cutFrom false (' ' :: rest.toList)) = outcome
  cases outcome <;> rfl

/-! ### What is answered -/

namespace Expression

variable {modeName : Option String} {limit : Int}

/-- **To continue a calculation is to put it in parentheses**, whatever the continuation is. Only
the position that is named for a stray character may differ. -/
theorem chain_eq_group {text continuation : String} {tokens : List Token} {v : Float} {limit' : Int}
    (hvalue : evaluate modeName true limit' (some text) = .ok v)
    (htokens : Token.read true text = .ok tokens) (hbare : ∃ t ∈ tokens, t.isParenthesis = false)
    (hfinite : v.isFinite = true) (hzero : v ≠ -0.0)
    (hchain : (Number.display v ++ (" " ++ continuation)).length ≤ limit)
    (hgroup : ("(" ++ text ++ ") " ++ continuation).length ≤ limit) (strict : Bool) :
    (chain v (" " ++ continuation) modeName strict limit).mapError Error.unplaced =
      (evaluate modeName strict limit (some ("(" ++ text ++ ") " ++ continuation))).mapError
        Error.unplaced := by
  obtain ⟨mode, tokens', program, hmode, -, hread, horder, hrun⟩ := evaluate_eq_ok_iff.mp hvalue
  obtain rfl : tokens = tokens' := by
    rw [htokens] at hread
    exact Except.ok.inj hread
  obtain ⟨t, ht, htoken⟩ := hbare
  have hbare : Postfix.bare tokens ≠ [] :=
    List.ne_nil_of_mem (List.mem_filter.mpr ⟨ht, by simp [htoken]⟩)
  have hprogram : (Postfix.ofTokens true tokens).bind (Postfix.value mode true) = .ok v := by
    rw [horder]
    exact hrun
  obtain ⟨p, hdisplay⟩ := Token.read_display hfinite hzero strict continuation
  obtain ⟨q, hparens⟩ := Token.read_group htokens strict continuation
  rw [chain, if_pos hfinite, evaluate_eq hmode hchain, evaluate_eq hmode hgroup, hdisplay, hparens]
  -- behind the value the same lexemes are read at two positions
  rcases ok_or_error_of_mapError
      (Token.readFrom_unplaced strict p q (cutFrom false (' ' :: continuation.toList))) with
    ⟨back, hp, hq⟩ | ⟨d, e, hp, hq, he⟩
  · rw [hp, hq]
    exact congrArg (Except.mapError Error.unplaced)
      (Postfix.value_group hprogram hbare strict back).symm
  · rw [hp, hq]
    exact congrArg Except.error he

/-- From a negative value, with a continuation that ends in a stray character. -/
theorem chain_eq_group_negative :
    (chain (-1.0) (" " ++ "*4 ?") (some "radian") true 1024).mapError Error.unplaced =
      (evaluate (some "radian") true 1024 (some ("(" ++ "2-3" ++ ") " ++ "*4 ?"))).mapError
        Error.unplaced := by
  have hvalue : evaluate (some "radian") true 1024 (some "2-3") = .ok (-1.0) := by decide +kernel
  have htokens : Token.read true "2-3" = .ok [.number 2.0, .operator .sub, .number 3.0] := by
    decide +kernel
  have hbare : ∃ t ∈ [Token.number 2.0, .operator .sub, .number 3.0], t.isParenthesis = false :=
    ⟨.number 2.0, by simp, rfl⟩
  have hfinite : (-1.0 : Float).isFinite = true := by decide +kernel
  have hzero : (-1.0 : Float) ≠ -0.0 := by decide +kernel
  have hchain : (Number.display (-1.0) ++ (" " ++ "*4 ?")).length ≤ (1024 : Int) := by
    decide +kernel
  have hgroup : ("(" ++ "2-3" ++ ") " ++ "*4 ?").length ≤ (1024 : Int) := by decide +kernel
  exact chain_eq_group hvalue htokens hbare hfinite hzero hchain hgroup true

end Expression

end Calculator

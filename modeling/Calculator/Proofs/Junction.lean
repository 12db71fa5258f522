import Calculator.Proofs.Continuation
import Calculator.Proofs.Number.Canonical

/-! # Where the display of a value meets a continuation

A calculation goes on with the display of its value in front of the continuation. Behind the display
an operator is cut off as a symbol, with or without a space in front of it: no literal goes on with
an operator, and of the spellings that begin like a literal only `1/x` goes on with one. So a space
makes no difference (`chain_space`), except in one case: the value is one, and the continuation
makes a call of `1/x` out of its digit (`MakesReciprocal`). Then the text with the space has the
name `x` in it, which is no function's.
-/

namespace Calculator

open Text Lexeme

/-! ### Calls that start in the display -/

/-- Behind the digit one, the text starts with a call of `1/x`. -/
def MakesReciprocal (continuation : String) : Prop :=
  ∃ tail, continuation.toList = '/' :: 'x' :: tail ∧ opensCall tail = true

theorem Number.eq_one_of_display {v : Float} (hfinite : v.isFinite = true)
    (h : (display v).toList = ['1']) : v = 1.0 := by
  have htext : display v = "1" := String.toList_injective h
  have hzero : v ≠ -0.0 := by
    rintro rfl
    exact absurd htext (by decide +kernel)
  obtain ⟨w, -, hsame, hread⟩ := exists_read_display hfinite
  have hone : Token.read true "1" = .ok [.number 1.0] := by decide +kernel
  have hdisplay := hread true
  rw [htext, hone] at hdisplay
  obtain rfl : 1.0 = w := by simpa using hdisplay
  exact (hsame hzero).symm

theorem Number.display_one : (Number.display 1.0).toList = ['1'] := by decide +kernel

theorem BinaryOp.isNumberChar_symbol (op : BinaryOp) : isNumberChar op.symbol = false := by
  cases op <;> decide

theorem BinaryOp.symbol_ne_caret (op : BinaryOp) : op.symbol ≠ '^' := by
  cases op <;> decide

variable {previous : Float} {continuation : String} {op : BinaryOp}

theorem isNumberChar_head (hop : continuation.toList.head? = some op.symbol) :
    ∀ c ∈ continuation.toList.head?, isNumberChar c = false := by
  rw [hop]
  rintro c ⟨⟩
  exact op.isNumberChar_symbol

/-- **No call starts in the display of a value**, if an operator follows and this makes no
reciprocal out of a one. -/
theorem callAt?_display (hfinite : previous.isFinite = true)
    (hop : continuation.toList.head? = some op.symbol)
    (hcall : ¬ (previous = 1.0 ∧ MakesReciprocal continuation)) :
    callAt? ((Number.display previous).toList ++ continuation.toList) = none := by
  obtain ⟨⟨sign, body⟩, htext, hsign, hbody, hne, -⟩ := Number.display_literal hfinite
  cases sign with
  | some c =>
    rw [htext]
    exact callAt?_sign (hsign c rfl) _
  | none =>
    cases hcalled : callAt? ((Number.display previous).toList ++ continuation.toList) with
    | none => rfl
    | some p =>
      have hdigits : (Number.display previous).toList = body := htext
      rw [hdigits] at hcalled
      obtain ⟨c, tail, hrest, hopens, ⟨-, rfl⟩ | ⟨rfl, rfl⟩⟩ :=
        numeral_of_callAt? hbody hne (isNumberChar_head hop) hcalled
      · rw [hrest, List.head?_cons, Option.some.injEq] at hop
        exact absurd hop.symm op.symbol_ne_caret
      · exact absurd ⟨Number.eq_one_of_display hfinite hdigits, tail, hrest, hopens⟩ hcall

/-! ### How both texts are cut -/

/-- **A space in front of the operator adds a blank**, and nothing else. -/
theorem cut_display (hfinite : previous.isFinite = true)
    (hop : continuation.toList.head? = some op.symbol)
    (hcall : ¬ (previous = 1.0 ∧ MakesReciprocal continuation)) :
    ∃ l lexemes, cut (Number.display previous ++ continuation).toList = literal l :: lexemes ∧
      cut (Number.display previous ++ (" " ++ continuation)).toList =
        literal l :: blank ' ' :: lexemes := by
  obtain ⟨l, htext, hsign, hbody, hne, -⟩ := Number.display_literal hfinite
  refine ⟨l, cutFrom false continuation.toList, ?_, ?_⟩
  · have hnone := callAt?_display hfinite hop hcall
    rw [String.toList_append, cut]
    rw [htext] at hnone ⊢
    exact cutFrom_literal_of_callAt? hsign (fun _ => rfl) hbody hne (isNumberChar_head hop) hnone
  · have hblank : isBlank ' ' = true := by decide
    have hstops : Stops (' ' :: continuation.toList) := stops_cons (by decide) (by decide) _
    rw [String.toList_append, String.toList_append, htext, cut, ← cutFrom_blank hblank]
    exact cutFrom_literal hsign (fun _ => rfl) hbody hne hstops

/-- **Behind a one, `/x(` is read in two ways**: as a call of `1/x` where no space is in front of
it, and else as a division and a name. -/
theorem cut_display_one {tail : List Char} (htext : continuation.toList = '/' :: 'x' :: tail)
    (hopens : opensCall tail = true) :
    cut (Number.display 1.0 ++ continuation).toList =
        call "1/x".toList .reciprocal :: cutFrom false tail ∧
      cut (Number.display 1.0 ++ (" " ++ continuation)).toList =
        literal ⟨none, ['1']⟩ :: blank ' ' :: symbol '/' (.operator .div) :: name ['x'] ::
          cutFrom false tail := by
  constructor
  · have hmem : ("1/x", MathFunction.reciprocal) ∈ MathFunction.spellings := by decide +kernel
    have hlist : (Number.display 1.0 ++ continuation).toList = "1/x".toList ++ tail := by
      rw [String.toList_append, Number.display_one, htext]
      rfl
    rw [hlist, cut, cutFrom_call hmem true hopens]
  · have hx : isLetter 'x' = true := isLetter_of_isAsciiLetter (by decide)
    have hnone : MathFunction.ofSpelling? (String.ofList ['x']) = none := by decide +kernel
    have hname : cutFrom true ('x' :: tail) = name ['x'] :: cutFrom false tail :=
      @cutFrom_name 'x' [] tail hx (by simp) (head_of_opensCall hopens) (fun _ => hnone) true
    have hstops : Stops (' ' :: '/' :: 'x' :: tail) := stops_cons (by decide) (by decide) _
    have hliteral : cutFrom true ('1' :: ' ' :: '/' :: 'x' :: tail) =
        literal ⟨none, ['1']⟩ :: cutFrom false (' ' :: '/' :: 'x' :: tail) :=
      cutFrom_literal (l := ⟨none, ['1']⟩) (by simp) (by simp)
        (by simp [isNumberChar, isAsciiDigit]) (by simp) hstops
    rw [String.toList_append, String.toList_append, Number.display_one, htext, cut]
    refine hliteral.trans ?_
    rw [cutFrom_blank (by decide), cutFrom_symbol (t := .operator .div) rfl false _ rfl, ← hname]
    rfl

/-! ### What both texts are read as -/

/-- The space is read as nothing, but it moves what is behind it. -/
theorem Token.read_display_space (hfinite : previous.isFinite = true)
    (hop : continuation.toList.head? = some op.symbol)
    (hcall : ¬ (previous = 1.0 ∧ MakesReciprocal continuation)) (strict : Bool) :
    (read strict (Number.display previous ++ continuation)).mapError Error.unplaced =
      (read strict (Number.display previous ++ (" " ++ continuation))).mapError Error.unplaced := by
  obtain ⟨l, lexemes, hcut, hspaced⟩ := cut_display hfinite hop hcall
  rw [read, read, hcut, hspaced]
  refine readFrom_cons_unplaced (fun p q => ?_) (literal l) 0 0
  rw [readFrom_blank]
  exact readFrom_unplaced strict p (q + 1) lexemes

theorem Token.read_name_x {text : String} {lexemes : List Lexeme} (h : cut text.toList =
    literal ⟨none, ['1']⟩ :: blank ' ' :: symbol '/' (.operator .div) :: name ['x'] :: lexemes) :
    read true text = .error (.unknownFunction "x") := by
  have hliteral : ofLexeme true 0 (literal ⟨none, ['1']⟩) = .ok (some (.number 1.0)) := by
    decide +kernel
  have hsymbol : ∀ p, ofLexeme true p (symbol '/' (.operator .div)) = .ok (some (.operator .div)) :=
    fun _ => rfl
  have hname : ∀ p, ofLexeme true p (name ['x']) = .error (.unknownFunction "x") := by
    intro p
    have hnone : MathFunction.ofSpelling? (String.ofList ['x']) = none := by decide +kernel
    rw [ofLexeme, hnone]
    rfl
  rw [read, h, readFrom_cons_of_ok hliteral, readFrom_blank, readFrom_cons_of_ok (hsymbol _),
    readFrom_cons_of_error (hname _)]
  rfl

namespace Expression

/-- What is answered depends on what is read, up to the positions that errors name. -/
theorem evaluate_unplaced {text text' : String} {limit : Int} {strict : Bool}
    (hlength : text.length ≤ limit) (hlength' : text'.length ≤ limit)
    (h : (Token.read strict text).mapError Error.unplaced =
      (Token.read strict text').mapError Error.unplaced)
    (modeName : Option String) :
    (evaluate modeName strict limit (some text)).mapError Error.unplaced =
      (evaluate modeName strict limit (some text')).mapError Error.unplaced := by
  cases hmode : AngleMode.read modeName with
  | error e =>
    rw [evaluate, evaluate, hmode]
    rfl
  | ok mode =>
    rw [evaluate_eq hmode hlength, evaluate_eq hmode hlength']
    rcases ok_or_error_of_mapError h with ⟨tokens, hread, hread'⟩ | ⟨d, e, hread, hread', he⟩
    · rw [hread, hread']
    · rw [hread, hread']
      exact congrArg Except.error he

/-- **A space in front of an operator makes no difference**, except where the continuation makes a
call of `1/x` out of the one in front of it. Then the text with the space has the name `x` in it. -/
theorem chain_space {limit : Int} (hop : continuation.toList.head? = some op.symbol)
    (hlength : (Number.display previous ++ (" " ++ continuation)).length ≤ limit)
    (modeName : Option String) (strict : Bool) :
    (¬ (previous = 1.0 ∧ MakesReciprocal continuation) →
      (chain previous continuation modeName strict limit).mapError Error.unplaced =
        (chain previous (" " ++ continuation) modeName strict limit).mapError Error.unplaced) ∧
      (previous = 1.0 → MakesReciprocal continuation → ∃ lexemes,
        cut (Number.display previous ++ continuation).toList =
          call "1/x".toList .reciprocal :: lexemes ∧
        cut (Number.display previous ++ (" " ++ continuation)).toList =
          literal ⟨none, ['1']⟩ :: blank ' ' :: symbol '/' (.operator .div) :: name ['x'] ::
            lexemes ∧
        ∀ mode, AngleMode.read modeName = .ok mode →
          chain previous (" " ++ continuation) modeName true limit =
            .error (.unknownFunction "x")) := by
  constructor
  · intro hcall
    by_cases hfinite : previous.isFinite = true
    · have hshort : (Number.display previous ++ continuation).length ≤ limit := by
        simp only [String.length_append] at hlength ⊢
        omega
      rw [chain, chain, if_pos hfinite, if_pos hfinite]
      exact evaluate_unplaced hshort hlength (Token.read_display_space hfinite hop hcall strict)
        modeName
    · rw [chain, chain, if_neg hfinite, if_neg hfinite]
  · rintro rfl ⟨tail, htext, hopens⟩
    obtain ⟨hcut, hspaced⟩ := cut_display_one htext hopens
    refine ⟨cutFrom false tail, hcut, hspaced, fun mode hmode => ?_⟩
    have hfinite : (1.0 : Float).isFinite = true := by decide +kernel
    rw [chain, if_pos hfinite, evaluate_eq hmode hlength, Token.read_name_x hspaced]
    rfl

/-- A space in front of a product with a stray character behind it, and one in front of a name. -/
theorem chain_space_stray_or_name :
    (chain (-2.5) "*-4 $" (some "radian") true 1024).mapError Error.unplaced =
        (chain (-2.5) (" " ++ "*-4 $") (some "radian") true 1024).mapError Error.unplaced ∧
      chain 1.0 (" " ++ "/x (2)") (some "radian") true 1024 = .error (.unknownFunction "x") := by
  have hproduct : "*-4 $".toList.head? = some BinaryOp.mul.symbol := by decide
  have hproductLength : (Number.display (-2.5) ++ (" " ++ "*-4 $")).length ≤ (1024 : Int) := by
    decide +kernel
  have hquotient : "/x (2)".toList.head? = some BinaryOp.div.symbol := by decide
  have hquotientLength : (Number.display 1.0 ++ (" " ++ "/x (2)")).length ≤ (1024 : Int) := by
    decide +kernel
  constructor
  · refine (chain_space hproduct hproductLength (some "radian") true).1 ?_
    rintro ⟨hone, -⟩
    exact absurd hone (by decide +kernel)
  · obtain ⟨lexemes, -, -, hrefused⟩ :=
      (chain_space hquotient hquotientLength (some "radian") true).2 rfl
      ⟨" (2)".toList, rfl, by decide⟩
    exact hrefused .radian (by decide +kernel)

/-- **In front of `/x(2)` a space makes a difference** if the value is one: strictly the name `x` is
refused, and leniently it joins what would else be two values. -/
theorem chain_one_reciprocal :
    (1.0 : Float).isFinite = true ∧ "/x(2)".toList.head? = some BinaryOp.div.symbol ∧
      (Number.display 1.0 ++ (" " ++ "/x(2) 3*4")).length ≤ (1024 : Int) ∧
      chain 1.0 "/x(2)" (some "radian") true 1024 = .ok 0.5 ∧
      chain 1.0 (" " ++ "/x(2)") (some "radian") true 1024 = .error (.unknownFunction "x") ∧
      chain 1.0 "/x(2) 3*4" (some "radian") false 1024 = .ok 0.5 ∧
      chain 1.0 (" " ++ "/x(2) 3*4") (some "radian") false 1024 = .ok 1.0 := by
  decide +kernel

end Expression

end Calculator

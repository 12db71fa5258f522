import Calculator.Proofs.Infix
import Calculator.Proofs.Lexing
import Calculator.Proofs.Numeral
import Calculator.Proofs.Reading

/-! # Writing phrases

A phrase can be written in many ways: a number as any numeral with an optional sign, a function with
any of its spellings, and any blanks between the lexemes (`Writes`). Whatever the choice, both
readers read the phrase's tokens back (`read_of_writes`).

A piece of the text is found again in front of any rest that does not go on with it. Behind a number
this is `Lexeme.Stops`; the only thing to show is that what is written behind a `/` does not make
the spelling `1/x` with it (`Writes.not_opensCall`).
-/

namespace Calculator

open Text Lexeme

/-- A possibly empty run of blanks. -/
def Blanks (cs : List Char) : Prop :=
  ∀ c ∈ cs, isBlank c = true

/-- A text of a phrase, without blanks around it. -/
inductive Writes : {l : Level} → Phrase l → List Char → Prop where
  | number (sign : Option Char) (n : Numeral) (hsign : ∀ c ∈ sign, isSign c = true) :
    Writes (.number (Number.withSign (sign == some '-') n.decimal.toFloat)) (sign.toList ++ n.text)
  | group {s : Phrase .sum} {text before behind : List Char} (hs : Writes s text)
    (hbefore : Blanks before) (hbehind : Blanks behind) :
    Writes (.group s) ('(' :: (before ++ text ++ behind ++ [')']))
  | call {f : MathFunction} {name : String} {s : Phrase .sum} {gap text before behind : List Char}
    (hname : (name, f) ∈ MathFunction.spellings) (hs : Writes s text) (hgap : Blanks gap)
    (hbefore : Blanks before) (hbehind : Blanks behind) :
    Writes (.call f name s) (name.toList ++ gap ++ '(' :: (before ++ text ++ behind ++ [')']))
  | ofFactor {p : Phrase .factor} {text : List Char} (hp : Writes p text) : Writes p.ofFactor text
  | ofTerm {p : Phrase .term} {text : List Char} (hp : Writes p text) : Writes p.ofTerm text
  | binary {op : BinaryOp} {p : Phrase op.level} {q : Phrase op.level.tighter}
    {left right before behind : List Char} (hp : Writes p left) (hq : Writes q right)
    (hbefore : Blanks before) (hbehind : Blanks behind) :
    Writes (.binary op p q) (left ++ before ++ op.symbol :: (behind ++ right))

namespace Writes

/-- **If a phrase's text starts with an `x`, then no `(` follows the `x`.** -/
theorem not_opensCall {l : Level} {p : Phrase l} {text : List Char} (h : Writes p text)
    {rest tail : List Char} (heq : text ++ rest = 'x' :: tail) : opensCall tail = false := by
  induction h generalizing rest tail with
  | number sign n hsign =>
    cases sign with
    | some c =>
      obtain ⟨rfl, -⟩ := List.cons.inj heq
      exact absurd (hsign 'x' rfl) (by decide)
    | none =>
      cases htext : n.text with
      | nil => exact absurd htext n.text_ne_nil
      | cons c cs =>
        simp only [htext, Option.toList_none, List.nil_append, List.cons_append] at heq
        obtain ⟨rfl, -⟩ := List.cons.inj heq
        exact absurd (n.isNumberChar_of_mem (htext ▸ List.mem_cons_self)) (by decide)
  | group =>
    obtain ⟨h, -⟩ := List.cons.inj heq
    exact absurd h (by decide)
  | @call f name s gap text before behind hname =>
    cases hn : name.toList with
    | nil => exact absurd hn (spelling_ne_nil hname)
    | cons c word =>
      simp only [hn, List.cons_append, List.append_assoc] at heq
      obtain ⟨rfl, rfl⟩ := List.cons.inj heq
      have hword : word ≠ [] := by
        rintro rfl
        exact spelling_ne_x hname hn
      have hsplit : name.toList = ['x'] ++ word := hn
      exact not_opensCall_of_spelling hname hsplit hword _
  | ofFactor _ ih => exact ih heq
  | ofTerm _ ih => exact ih heq
  | @binary op p q left right before behind _ _ _ _ ihp _ =>
    rw [List.append_assoc, List.append_assoc] at heq
    exact ihp heq

theorem stops_operator {op : BinaryOp} {l : Level} {q : Phrase l} {right behind : List Char}
    (hq : Writes q right) (hbehind : Blanks behind) (rest : List Char) :
    Stops (op.symbol :: (behind ++ (right ++ rest))) := by
  refine ⟨by cases op <;> simp [BinaryOp.symbol] <;> decide, ?_⟩
  intro c tail heq _
  obtain ⟨-, heq⟩ := List.cons.inj heq
  cases behind with
  | nil => exact hq.not_opensCall heq
  | cons d behind =>
    obtain ⟨rfl, -⟩ := List.cons.inj heq
    exact absurd (hbehind 'x' (by simp)) (by decide)

theorem stops_closing (rest : List Char) : Stops (')' :: rest) :=
  stops_cons (by decide) (by decide) rest

/-! ### Cutting and reading -/

theorem cut_group {s : Phrase .sum} {text before behind : List Char} {strict : Bool}
    (hbefore : Blanks before) (hbehind : Blanks behind)
    (ih : ∀ rest, Stops rest → ∃ lexemes,
      cutFrom true (text ++ rest) = lexemes ++ cutFrom false rest ∧
      Token.Reads strict lexemes s.tokens)
    (expects : Bool) (rest : List Char) :
    ∃ lexemes, cutFrom expects ('(' :: (before ++ text ++ behind ++ [')']) ++ rest) =
        lexemes ++ cutFrom false rest ∧
      Token.Reads strict lexemes (.opening :: (s.tokens ++ [.closing])) := by
  obtain ⟨lexemes, hcut, hread⟩ :=
    ih (behind ++ ')' :: rest) (stops_blanks hbehind (stops_closing rest))
  refine ⟨symbol '(' .opening ::
    (before.map blank ++ (lexemes ++ (behind.map blank ++ [symbol ')' .closing]))), ?_, ?_⟩
  · have hopen : startsSigned expects '(' (before ++ (text ++ (behind ++ ')' :: rest))) =
        false := by
      simp [startsSigned, isSign]
    have hclose : startsSigned false ')' rest = false := by simp [startsSigned]
    simp only [List.cons_append, List.append_assoc, List.nil_append]
    rw [cutFrom_symbol (t := .opening) rfl expects _ hopen, Token.expectsOperand,
      cutFrom_blanks hbefore, hcut, cutFrom_blanks hbehind,
      cutFrom_symbol (t := .closing) rfl false _ hclose,
      Token.expectsOperand]
  · refine Token.Reads.cons (fun _ => rfl) ?_
    exact (Token.reads_blanks before).append
      (hread.append ((Token.reads_blanks behind).append
        (Token.Reads.cons (fun _ => rfl) Token.reads_nil)))

/-- **The text of a phrase, in front of any rest that does not go on with it, is cut into lexemes
that are read as the phrase's tokens.** -/
theorem cut {l : Level} {p : Phrase l} {text : List Char} (h : Writes p text) (strict : Bool)
    {rest : List Char} (hrest : Stops rest) :
    ∃ lexemes, cutFrom true (text ++ rest) = lexemes ++ cutFrom false rest ∧
      Token.Reads strict lexemes p.tokens := by
  induction h generalizing rest with
  | number sign n hsign =>
    refine ⟨[literal ⟨sign, n.text⟩], ?_, Token.Reads.cons ?_ Token.reads_nil⟩
    · exact cutFrom_literal (l := ⟨sign, n.text⟩) hsign (fun _ => rfl)
        (fun c hc => n.isNumberChar_of_mem hc) n.text_ne_nil hrest
    · intro position
      rw [Token.ofLexeme, n.read_numeral]
      rfl
  | group _ hbefore hbehind ih =>
    exact cut_group hbefore hbehind (fun rest hrest => ih hrest) true rest
  | @call f name s gap text before behind hname _ hgap hbefore hbehind ih =>
    obtain ⟨lexemes, hcut, hread⟩ :=
      cut_group hbefore hbehind (fun rest hrest => ih hrest) false rest
    refine ⟨Lexeme.call name.toList f :: (gap.map blank ++ lexemes), ?_, ?_⟩
    · have hopens : opensCall (gap ++ ('(' :: (before ++ text ++ behind ++ [')']) ++ rest)) =
          true := by
        rw [opensCall_blanks hgap, List.cons_append, opensCall_cons (by decide)]
        rfl
      rw [List.append_assoc, List.append_assoc, cutFrom_call hname true hopens, cutFrom_blanks hgap,
        hcut]
      simp
    · refine Token.Reads.cons (fun _ => ?_) ((Token.reads_blanks gap).append hread)
      rw [Token.ofLexeme, String.ofList_toList]
  | ofFactor _ ih => exact ih hrest
  | ofTerm _ ih => exact ih hrest
  | @binary op p q left right before behind hp hq hbefore hbehind ihp ihq =>
    have hstops : Stops (before ++ op.symbol :: (behind ++ (right ++ rest))) :=
      stops_blanks hbefore (stops_operator hq hbehind rest)
    obtain ⟨front, hfront, hreadp⟩ := ihp hstops
    obtain ⟨back, hback, hreadq⟩ := ihq hrest
    refine ⟨front ++ (before.map blank ++
      (symbol op.symbol (.operator op) :: (behind.map blank ++ back))), ?_, ?_⟩
    · have hsign : startsSigned false op.symbol (behind ++ (right ++ rest)) = false := by
        simp [startsSigned]
      simp only [List.append_assoc, List.cons_append]
      rw [hfront, cutFrom_blanks hbefore, cutFrom_symbol op.ofChar?_symbol false _ hsign,
        Token.expectsOperand, cutFrom_blanks hbehind, hback]
    · exact hreadp.append ((Token.reads_blanks before).append
        (Token.Reads.cons (fun _ => rfl) ((Token.reads_blanks behind).append hreadq)))

end Writes

/-- **Whatever way a sum is written, both readers read its tokens back.** -/
theorem Token.read_of_writes {s : Phrase .sum} {text before behind : List Char} (h : Writes s text)
    (hbefore : Blanks before) (hbehind : Blanks behind) (strict : Bool) :
    read strict (String.ofList (before ++ text ++ behind)) = .ok s.tokens := by
  have hstops : Stops behind := by
    have := stops_blanks hbehind stops_nil
    rwa [List.append_nil] at this
  obtain ⟨lexemes, hcut, hread⟩ := h.cut strict hstops
  have hend : cutFrom false behind = behind.map blank := by
    have := cutFrom_blanks hbehind false []
    rwa [List.append_nil, cutFrom_nil, List.append_nil] at this
  rw [read, String.toList_ofList, Lexeme.cut, List.append_assoc, cutFrom_blanks hbefore, hcut, hend]
  have := (reads_blanks before).append (hread.append (reads_blanks behind)) 0
  rwa [List.nil_append, List.append_nil] at this

/-- A division without blanks, a sign behind its `/`, and a call that starts like `1/x`. -/
theorem Token.read_of_writes_division :
    read true (String.ofList " 1/x²( -.5 )/+2.".toList) =
      .ok [.number 1.0, .operator .div, .function .square "x²", .opening, .number (-0.5), .closing,
        .operator .div, .number 2.0] := by
  have hone := Writes.number none ⟨['1'], none, by decide, by decide⟩ (by simp)
  have hhalf := Writes.number (some '-') ⟨[], some ['5'], by decide, by decide⟩ (by simp [isSign])
  have htwo := Writes.number (some '+') ⟨['2'], some [], by decide, by decide⟩ (by simp [isSign])
  have hblank : Blanks [' '] := by
    intro c hc
    obtain rfl := List.mem_singleton.mp hc
    decide
  have hnone : Blanks [] := by simp [Blanks]
  have hname : ("x²", MathFunction.square) ∈ MathFunction.spellings := by decide +kernel
  have hcall := Writes.call hname hhalf.ofFactor.ofTerm hnone hblank hblank
  have hdivision : Writes (.binary .div (.binary .div (.ofFactor _) _) _) _ :=
    Writes.binary (Writes.binary hone.ofFactor hcall hnone hnone) htwo hnone hnone
  have hread := read_of_writes hdivision.ofTerm hblank hnone true
  refine Eq.trans hread ?_
  decide +kernel

end Calculator

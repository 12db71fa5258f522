import Mathlib.Data.List.Basic
import Calculator.Proofs.Reordering
import Calculator.Proofs.Tree

/-! # Infix phrases

The grammar of ordinary arithmetic, in three levels,

    sum    := term   | sum (+|-) term
    term   := factor | term (*|/) factor
    factor := number | '(' sum ')' | function '(' sum ')'

so that all operators associate to the left and `*` and `/` bind tighter. A phrase is a syntax tree
of this grammar; it has its `tokens`, and the `tree` of what it computes.

The reordering turns the tokens of a sum into the postorder of its tree (`ofTokens_tokens`). In the
middle of a run this is not yet so: behind the tokens of a phrase some operators still wait on the
stack. `order_tokens` is the invariant: what was emitted and what waits make up the postorder, and
what waits binds at least as tightly as the level of the phrase, so that the next operator of this
level lets it leave.
-/

namespace Calculator

/-- The levels of the grammar, the loosest first. -/
inductive Level where
  | sum | term | factor
deriving DecidableEq

namespace Level

/-- The least precedence of the operators that join phrases of this level, three if there are
none. -/
def precedence : Level → Nat
  | sum => 1
  | term => 2
  | factor => 3

/-- The level of right operands. -/
def tighter : Level → Level
  | sum => term
  | term | factor => factor

end Level

/-- The level of the phrases that an operator makes. -/
def BinaryOp.level : BinaryOp → Level
  | add | sub => .sum
  | mul | div => .term

@[simp] theorem BinaryOp.precedence_level (op : BinaryOp) :
    op.level.precedence = op.precedence := by
  cases op <;> rfl

theorem BinaryOp.lt_precedence_tighter (op : BinaryOp) :
    op.precedence < op.level.tighter.precedence := by
  cases op <;> decide

/-- A syntax tree of the grammar. -/
inductive Phrase : Level → Type where
  | number (v : Float) : Phrase .factor
  | group (s : Phrase .sum) : Phrase .factor
  | call (f : MathFunction) (name : String) (s : Phrase .sum) : Phrase .factor
  | ofFactor (p : Phrase .factor) : Phrase .term
  | ofTerm (p : Phrase .term) : Phrase .sum
  | binary (op : BinaryOp) (p : Phrase op.level) (q : Phrase op.level.tighter) : Phrase op.level

namespace Phrase

/-- The tokens of a phrase, in order. -/
def tokens : {l : Level} → Phrase l → List Token
  | _, number v => [.number v]
  | _, group s => .opening :: (s.tokens ++ [.closing])
  | _, call f name s => .function f name :: .opening :: (s.tokens ++ [.closing])
  | _, ofFactor p => p.tokens
  | _, ofTerm p => p.tokens
  | _, binary op p q => p.tokens ++ .operator op :: q.tokens

/-- What a phrase computes. -/
def tree : {l : Level} → Phrase l → Tree
  | _, number v => .number v
  | _, group s => s.tree
  | _, call f name s => .call f name s.tree
  | _, ofFactor p => p.tree
  | _, ofTerm p => p.tree
  | _, binary op p q => .binary op p.tree q.tree

theorem tokens_ne_nil {l : Level} (p : Phrase l) : p.tokens ≠ [] := by
  induction p with
  | number v => simp [tokens]
  | group s => simp [tokens]
  | call f name s => simp [tokens]
  | ofFactor p ih => exact ih
  | ofTerm p ih => exact ih
  | binary op p q => simp [tokens]

/-! ### Reordering a phrase -/

open Postfix

theorem clear_mono {m n : Nat} (h : m ≤ n) {stack : List Token} (hs : Clear m stack) :
    Clear n stack := by
  intro t ht
  have := hs t ht
  cases t <;> simp_all [binds]
  omega

theorem binds_mono {m n : Nat} (h : m ≤ n) {t : Token} (ht : binds n t = true) :
    binds m t = true := by
  cases t <;> simp_all [binds]
  omega

/-- **Behind a phrase, what was emitted and what waits make up the postorder of its tree.** A phrase
that starts with a group must not stand behind a function, which would take the group for its
argument. -/
theorem order_tokens (strict : Bool) {l : Level} (p : Phrase l) :
    ∃ emitted waiting, p.tree.postorder = emitted ++ waiting ∧
      (∀ t ∈ waiting, binds l.precedence t = true) ∧
      ∀ stack tokens, Clear l.precedence stack →
        (p.tokens.head? = some .opening → NoCall stack) →
        order strict stack (p.tokens ++ tokens) =
          emit emitted (order strict (waiting ++ stack) tokens) := by
  induction p with
  | number v =>
    exact ⟨[.number v], [], rfl, by simp, fun stack tokens _ _ => by simp [Phrase.tokens]⟩
  | group s ih =>
    obtain ⟨emitted, waiting, hpost, hwait, horder⟩ := ih
    refine ⟨emitted ++ waiting, [], by simpa [tree] using hpost, by simp, ?_⟩
    intro stack tokens _ hcall
    have hs : closeCall stack = ([], stack) := hcall rfl
    have hclosed : ∀ t ∈ waiting, t.isOpening = false := fun t ht => isOpening_of_binds (hwait t ht)
    simp only [Phrase.tokens, List.cons_append, List.append_assoc, order_opening, List.nil_append]
    rw [horder (.opening :: stack) _ (by simp [Clear, binds]) (fun _ => rfl),
      order_closing strict hclosed, hs, emit_emit, List.append_nil]
  | call f name s ih =>
    obtain ⟨emitted, waiting, hpost, hwait, horder⟩ := ih
    refine ⟨emitted ++ waiting ++ [.function f name], [], by simp [tree, Tree.postorder, hpost],
      by simp, ?_⟩
    intro stack tokens _ _
    have hclosed : ∀ t ∈ waiting, t.isOpening = false := fun t ht => isOpening_of_binds (hwait t ht)
    simp only [Phrase.tokens, List.cons_append, List.append_assoc, order_function, order_opening,
      List.nil_append]
    rw [horder (.opening :: .function f name :: stack) _ (by simp [Clear, binds]) (fun _ => rfl),
      order_closing strict hclosed, emit_emit]
    rfl
  | ofFactor p ih =>
    obtain ⟨emitted, waiting, hpost, hwait, horder⟩ := ih
    refine ⟨emitted, waiting, hpost, fun t ht => binds_mono (by decide) (hwait t ht), ?_⟩
    intro stack tokens hstack hcall
    exact horder stack tokens (clear_mono (by decide) hstack) hcall
  | ofTerm p ih =>
    obtain ⟨emitted, waiting, hpost, hwait, horder⟩ := ih
    refine ⟨emitted, waiting, hpost, fun t ht => binds_mono (by decide) (hwait t ht), ?_⟩
    intro stack tokens hstack hcall
    exact horder stack tokens (clear_mono (by decide) hstack) hcall
  | binary op p q ihp ihq =>
    obtain ⟨emitted, waiting, hpost, hwait, horder⟩ := ihp
    obtain ⟨emitted', waiting', hpost', hwait', horder'⟩ := ihq
    rw [BinaryOp.precedence_level] at hwait horder ⊢
    -- the left operand's waiting operators leave when the operator comes, and it waits instead
    refine ⟨emitted ++ waiting ++ emitted', waiting' ++ [.operator op],
      by simp [tree, Tree.postorder, hpost, hpost'], ?_, ?_⟩
    · intro t ht
      rcases List.mem_append.mp ht with ht | ht
      · exact binds_mono op.lt_precedence_tighter.le (hwait' t ht)
      · rw [List.mem_singleton.mp ht]
        simp [binds]
    · intro stack tokens hstack hcall
      have hhead : (p.tokens ++ .operator op :: q.tokens).head? = p.tokens.head? :=
        List.head?_append_of_ne_nil _ p.tokens_ne_nil
      have hclear : Clear op.level.tighter.precedence (.operator op :: stack) := by
        have := op.lt_precedence_tighter
        intro t ht
        obtain rfl : Token.operator op = t := by simpa using ht
        simpa [binds] using this
      have hstart : order strict stack (p.tokens ++ (.operator op :: (q.tokens ++ tokens))) =
          emit emitted (order strict (waiting ++ stack) (.operator op :: (q.tokens ++ tokens))) :=
        horder stack _ hstack (fun h => hcall (by rw [Phrase.tokens, hhead, h]))
      rw [Phrase.tokens, List.append_assoc, List.cons_append, hstart,
        order_operator strict hwait hstack,
        horder' (.operator op :: stack) tokens hclear (fun _ => rfl)]
      simp

theorem ofTokens_tokens (strict : Bool) (s : Phrase .sum) :
    ofTokens strict s.tokens = .ok s.tree.postorder := by
  obtain ⟨emitted, waiting, hpost, hwait, horder⟩ := s.order_tokens strict
  have h := horder [] [] (by simp [Clear]) (fun _ => rfl)
  rw [List.append_nil, List.append_nil] at h
  rw [ofTokens, h, order_nil, drain_of_closed strict fun t ht => isOpening_of_binds (hwait t ht),
    emit_ok, hpost]

/-- **A sum is reordered into the postorder of its tree, and that program computes the tree.** Both
readers agree on this. Leniently there is always a value; strictly the first factorial in postorder
that is not defined refuses its argument. -/
theorem order_and_value (s : Phrase .sum) (strict : Bool) (mode : AngleMode) :
    ofTokens strict s.tokens = .ok s.tree.postorder ∧
      Postfix.value mode strict s.tree.postorder = s.tree.eval mode strict ∧
      s.tree.eval mode false = .ok (s.tree.value mode) ∧
      s.tree.eval mode true =
        match (s.tree.faults mode).head? with
        | none => .ok (s.tree.value mode)
        | some v => .error (.factorialUndefined v) :=
  ⟨s.ofTokens_tokens strict, s.tree.value_postorder mode strict, s.tree.eval_lenient mode,
    s.tree.eval_strict mode⟩

end Phrase

end Calculator

import Calculator.Proofs.Groups
import Calculator.Proofs.Infix

/-! # Functions without parentheses

A function that is written without parentheses takes all of the rest of its group: `2 * f 30 + 1` is
`2 * f(30 + 1)`. While it waits on the stack, no operator behind it lets anything leave that waits
below it, and a group or a call behind it takes no function away but its own. So it leaves only when
its group ends, in front of the operators below it.

What may stand before such a function in its group is a `Lead`: operators with their left operands,
the tighter one behind. `Lead.order_tokens` says what a run makes of it, and `ofTokens_openCall`
what becomes of the function.
-/

namespace Calculator

open Postfix

/-- What stands in front of the last operand of a sum: no operator, one, or one and a tighter one
behind it, each with its left operand. -/
inductive Lead where
  | nothing
  | one (op : BinaryOp) (left : Phrase op.level)
  | two (op op' : BinaryOp) (left : Phrase op.level) (left' : Phrase op'.level)
    (h : op.precedence < op'.precedence)

namespace Lead

/-- The tokens of a lead, in order. -/
def tokens : Lead → List Token
  | nothing => []
  | one op left => left.tokens ++ [.operator op]
  | two op op' left left' _ => left.tokens ++ .operator op :: (left'.tokens ++ [.operator op'])

/-- The tree of a sum that ends in this operand. -/
def tree : Lead → Tree → Tree
  | nothing, x => x
  | one op left, x => .binary op left.tree x
  | two op op' left left' _, x => .binary op left.tree (.binary op' left'.tree x)

/-- The value of a sum of which the last operand has this value. The left operands are evaluated
before it. -/
def combine (mode : AngleMode) (strict : Bool) (L : Lead) (y : Except Error Float) :
    Except Error Float :=
  match L with
  | nothing => y
  | one op left => do
    let a ← left.tree.eval mode strict
    return op.apply a (← y)
  | two op op' left left' _ => do
    let a ← left.tree.eval mode strict
    let b ← left'.tree.eval mode strict
    return op.apply a (op'.apply b (← y))

theorem eval_tree (mode : AngleMode) (strict : Bool) (L : Lead) (x : Tree) :
    (L.tree x).eval mode strict = L.combine mode strict (x.eval mode strict) := by
  cases L with
  | nothing => rfl
  | one op left => rfl
  | two op op' left left' h =>
    simp only [tree, combine, Tree.eval]
    cases left.tree.eval mode strict with
    | error e => rfl
    | ok a =>
      cases left'.tree.eval mode strict with
      | error e => rfl
      | ok b => cases x.eval mode strict <;> rfl

/-! ### Reordering a lead -/

/-- The tokens of the left operands, reordered. -/
def operands : Lead → List Token
  | nothing => []
  | one _ left => left.tree.postorder
  | two _ _ left left' _ => left.tree.postorder ++ left'.tree.postorder

/-- The operators, the last one first. -/
def waiting : Lead → List Token
  | nothing => []
  | one op _ => [.operator op]
  | two op op' _ _ _ => [.operator op', .operator op]

theorem postorder_tree (L : Lead) (x : Tree) :
    (L.tree x).postorder = L.operands ++ x.postorder ++ L.waiting := by
  cases L <;> simp [tree, operands, waiting, Tree.postorder]

theorem isOpening_of_mem_waiting {L : Lead} {t : Token} (ht : t ∈ L.waiting) :
    t.isOpening = false := by
  cases L with
  | nothing => simp [waiting] at ht
  | one op left =>
    obtain rfl : t = .operator op := by simpa [waiting] using ht
    rfl
  | two op op' left left' h =>
    rcases List.mem_pair.mp ht with rfl | rfl <;> rfl

/-- An operator takes its left operand to itself: behind it only the operator waits. -/
theorem order_left (strict : Bool) {op : BinaryOp} (left : Phrase op.level) {stack : List Token}
    (hclear : Clear op.precedence stack) (hcall : NoCall stack) (tokens : List Token) :
    order strict stack (left.tokens ++ .operator op :: tokens) =
      emit left.tree.postorder (order strict (.operator op :: stack) tokens) := by
  obtain ⟨emitted, waiting, hpost, hwait, horder⟩ := left.order_tokens strict
  rw [BinaryOp.precedence_level] at hwait horder
  rw [horder stack _ hclear fun _ => hcall, order_operator strict hwait hclear, emit_emit, hpost]

/-- **Behind a lead its operands are emitted and its operators wait.** -/
theorem order_tokens (strict : Bool) (L : Lead) (tokens : List Token) :
    order strict [] (L.tokens ++ tokens) = emit L.operands (order strict L.waiting tokens) := by
  have hnothing : ∀ precedence, Clear precedence [] := fun _ => by simp [Clear]
  cases L with
  | nothing => exact (emit_nil _).symm
  | one op left =>
    rw [Lead.tokens, List.append_assoc, List.singleton_append,
      order_left strict left (hnothing _) rfl]
    rfl
  | two op op' left left' h =>
    -- the first operator binds less tightly, so it goes on waiting when the second one comes
    have hclear : Clear op'.precedence [.operator op] := by simpa [Clear, binds] using h
    rw [Lead.tokens, List.append_assoc, List.cons_append, order_left strict left (hnothing _) rfl,
      List.append_assoc, List.singleton_append, order_left strict left' hclear rfl, emit_emit]
    rfl

end Lead

/-! ### Reordering the function -/

namespace Postfix

/-- **A function that is followed by a sum and not by a group waits until its group ends.** -/
theorem order_open (strict : Bool) (f : MathFunction) (name : String) {e : Phrase .sum}
    (he : e.tokens.head? ≠ some .opening) {stack : List Token}
    (hclosed : ∀ t ∈ stack, t.isOpening = false) :
    order strict stack (.function f name :: e.tokens) =
      .ok (e.tree.postorder ++ .function f name :: stack) := by
  obtain ⟨emitted, waiting, hpost, hwait, horder⟩ := e.order_tokens strict
  have hclear : Clear Level.sum.precedence (.function f name :: stack) := by simp [Clear, binds]
  have hrun := horder (.function f name :: stack) [] hclear fun hhead => absurd hhead he
  have hwaiting : ∀ t ∈ waiting ++ .function f name :: stack, t.isOpening = false := by
    intro t ht
    rcases List.mem_append.mp ht with ht | ht
    · exact isOpening_of_binds (hwait t ht)
    · rcases List.mem_cons.mp ht with rfl | ht
      · rfl
      · exact hclosed t ht
  rw [List.append_nil] at hrun
  rw [order_function, hrun, order_nil, drain_of_closed strict hwaiting, emit_ok, hpost,
    List.append_assoc]

/-- **A function that is written without parentheses takes the whole rest of its group.** With any
lead in front of it and any sum behind it that does not begin with a group, and also between
parentheses, it is reordered as its call on all of the sum would be. The value is that of the lead
with the function of the sum's value as its last operand. -/
theorem ofTokens_openCall (L : Lead) (f : MathFunction) (name : String) {e : Phrase .sum}
    (he : e.tokens.head? ≠ some .opening) (strict : Bool) (mode : AngleMode) :
    let program := (L.tree (.call f name e.tree)).postorder
    ofTokens strict (L.tokens ++ .function f name :: e.tokens) = .ok program ∧
      ofTokens strict (.opening :: (L.tokens ++ .function f name :: e.tokens ++ [.closing])) =
        .ok program ∧
      ofTokens strict (L.tokens ++ .function f name :: .opening :: (e.tokens ++ [.closing])) =
        .ok program ∧
      value mode strict program =
        L.combine mode strict
          (((ofTokens strict e.tokens).bind (value mode strict)).bind
            (applyFunction mode strict f)) := by
  have hwaiting : ∀ t ∈ L.waiting, t.isOpening = false := fun t ht =>
    Lead.isOpening_of_mem_waiting ht
  have hopen : ∀ strict, ofTokens strict (L.tokens ++ .function f name :: e.tokens) =
      .ok (L.tree (.call f name e.tree)).postorder := by
    intro strict
    rw [ofTokens, L.order_tokens, order_open strict f name he hwaiting, emit_ok, L.postorder_tree]
    simp [Tree.postorder]
  refine ⟨hopen strict, ?_, ?_, ?_⟩
  · have hnone : NoCall [] := rfl
    have hgroup := order_parenthesised strict (hopen true) hnone []
    rw [List.append_nil] at hgroup
    rw [ofTokens, hgroup, order_nil, drain_of_closed strict (by simp), emit_ok, List.append_nil]
  · have hcall := order_call strict (e.ofTokens_tokens true) f name L.waiting []
    rw [List.append_nil] at hcall
    rw [ofTokens, L.order_tokens, hcall, order_nil, drain_of_closed strict hwaiting, emit_ok,
      emit_ok, L.postorder_tree]
    simp [Tree.postorder]
  · have hargument : (ofTokens strict e.tokens).bind (value mode strict) =
        e.tree.eval mode strict := by
      rw [e.ofTokens_tokens strict]
      exact e.tree.value_postorder mode strict
    rw [Tree.value_postorder, L.eval_tree, hargument]
    rfl

/-- Behind `1 + 2 *`, in front of `3 - 1`: the value is that of `1 + 2 * (3 - 1)²`. -/
theorem ofTokens_openCall_product :
    ofTokens true [.number 1.0, .operator .add, .number 2.0, .operator .mul, .function .square "x²",
        .number 3.0, .operator .sub, .number 1.0] =
      .ok [.number 1.0, .number 2.0, .number 3.0, .number 1.0, .operator .sub,
        .function .square "x²", .operator .mul, .operator .add] ∧
    value .degree true [.number 1.0, .number 2.0, .number 3.0, .number 1.0, .operator .sub,
        .function .square "x²", .operator .mul, .operator .add] = .ok 9.0 := by
  have hhead :
      (Phrase.binary .sub (.ofTerm (.ofFactor (.number 3.0)))
        (.ofFactor (.number 1.0))).tokens.head? ≠
      some .opening := by
    simp [Phrase.tokens]
  obtain ⟨hordered, -, -, hvalue⟩ := ofTokens_openCall
    (.two .add .mul (.ofTerm (.ofFactor (.number 1.0))) (.ofFactor (.number 2.0)) (by decide))
      .square "x²" hhead true .degree
  refine ⟨hordered, hvalue.trans ?_⟩
  decide +kernel

end Postfix

end Calculator

import Mathlib.Data.List.Perm.Basic
import Calculator.Proofs.Reordering
import Calculator.Proofs.Tree

/-! # Groups

What stands between a `(` and its `)` is reordered as it would be alone (`order_group`). If it has a
strict value, it is reordered to the postorder of a tree, which leaves the value on whatever stack
it starts on. So a group acts like the number that is its value, wherever an operand may stand, and
a call like the number that it comes to (`group_eq_number`). The tokens around them may be
ill-formed: what stands before is either reordered or refused whatever follows (`order_append`), and
what comes behind is read on the same stack (`value_block`).

`order_perm` says that nothing but the parentheses is lost on the way.
-/

namespace Calculator.Postfix

/-! ### Nothing is lost -/

/-- The tokens without the parentheses. -/
def bare (tokens : List Token) : List Token :=
  tokens.filter fun t => !t.isParenthesis

@[simp] theorem bare_append (first second : List Token) :
    bare (first ++ second) = bare first ++ bare second :=
  List.filter_append ..

theorem bare_cons {t : Token} (h : t.isParenthesis = false) (tokens : List Token) :
    bare (t :: tokens) = t :: bare tokens :=
  List.filter_cons_of_pos (by simp [h])

theorem bare_cons_parenthesis {t : Token} (h : t.isParenthesis = true) (tokens : List Token) :
    bare (t :: tokens) = bare tokens :=
  List.filter_cons_of_neg (by simp [h])

theorem bare_eq_self {tokens : List Token} (h : ∀ t ∈ tokens, t.isParenthesis = false) :
    bare tokens = tokens :=
  List.filter_eq_self.mpr fun t ht => by simp [h t ht]

/-- No `)` waits. -/
def NoClosing (stack : List Token) : Prop :=
  ∀ t ∈ stack, t ≠ .closing

theorem NoClosing.cons {stack : List Token} (h : NoClosing stack) {t : Token} (ht : t ≠ .closing) :
    NoClosing (t :: stack) := by
  intro t' ht'
  rcases List.mem_cons.mp ht' with rfl | ht'
  · exact ht
  · exact h t' ht'

theorem noClosing_append {first second : List Token} :
    NoClosing (first ++ second) ↔ NoClosing first ∧ NoClosing second :=
  List.forall_mem_append

theorem isParenthesis_eq_isOpening {t : Token} (h : t ≠ .closing) :
    t.isParenthesis = t.isOpening := by
  cases t <;> first | rfl | contradiction

theorem bare_waiting {waiting : List Token} (ho : ∀ t ∈ waiting, t.isOpening = false)
    (hc : NoClosing waiting) : bare waiting = waiting :=
  bare_eq_self fun t ht => by rw [isParenthesis_eq_isOpening (hc t ht), ho t ht]

theorem bare_closeCall (stack : List Token) : bare (closeCall stack).1 = (closeCall stack).1 := by
  refine bare_eq_self fun t ht => ?_
  obtain ⟨f, name, rfl⟩ := eq_function_of_mem_closeCall ht
  rfl

theorem drain_perm (strict : Bool) {stack out : List Token} (hstack : NoClosing stack)
    (h : drain strict stack = .ok out) : out.Perm (bare stack) := by
  have hfilter : (stack.filter fun t => !t.isOpening) = bare stack :=
    List.filter_congr fun t ht => by rw [isParenthesis_eq_isOpening (hstack t ht)]
  rw [drain, hfilter] at h
  split at h
  · contradiction
  · rw [Except.ok.inj h]

/-- **The reordering loses the parentheses and nothing else.** -/
theorem order_perm (strict : Bool) {stack tokens out : List Token} (hstack : NoClosing stack)
    (h : order strict stack tokens = .ok out) : out.Perm (bare (stack ++ tokens)) := by
  induction stack, tokens using order_induct generalizing out with
  | nil stack => rw [List.append_nil]; exact drain_perm strict hstack h
  | number v stack tokens ih =>
    rw [order_number] at h
    obtain ⟨back, hback, rfl⟩ := ok_of_emit h
    have hperm := (ih hstack hback).cons (.number v)
    rw [bare_append] at hperm
    rw [bare_append, bare_cons rfl]
    exact hperm.trans List.perm_middle.symm
  | function f name stack tokens ih =>
    rw [order_function] at h
    have hperm := ih (hstack.cons (by simp)) h
    rw [List.cons_append, bare_cons rfl, bare_append] at hperm
    rw [bare_append, bare_cons rfl]
    exact hperm.trans List.perm_middle.symm
  | opening stack tokens ih =>
    rw [order_opening] at h
    have hperm := ih (hstack.cons (by simp)) h
    rw [List.cons_append, bare_cons_parenthesis rfl, bare_append] at hperm
    rwa [bare_append, bare_cons_parenthesis rfl]
  | closing waiting below tokens hwaiting ih =>
    rw [order_closing strict hwaiting] at h
    obtain ⟨back, hback, rfl⟩ := ok_of_emit h
    obtain ⟨hnone, hopening⟩ := noClosing_append.mp hstack
    have hbelow : NoClosing (closeCall below).2 := fun t ht =>
      hopening t (List.mem_cons_of_mem _ (mem_of_mem_closeCall ht))
    have hsplit : bare below = (closeCall below).1 ++ bare (closeCall below).2 := by
      rw [← bare_closeCall below, ← bare_append, closeCall_append]
    have hperm := ih hbelow hback
    rw [bare_append] at hperm
    rw [bare_append, bare_append, bare_waiting hwaiting hnone, bare_cons_parenthesis rfl,
      bare_cons_parenthesis rfl, hsplit, List.append_assoc, List.append_assoc, List.append_assoc]
    exact (hperm.append_left _).append_left _
  | stray stack tokens hclosed ih =>
    rw [order_closing_stray strict hclosed] at h
    split at h
    · contradiction
    · obtain ⟨back, hback, rfl⟩ := ok_of_emit h
      have hperm := ih (by simp [NoClosing]) hback
      rw [List.nil_append] at hperm
      rw [bare_append, bare_waiting hclosed hstack, bare_cons_parenthesis rfl]
      exact hperm.append_left _
  | operator op leaving stack tokens hleaving hclear ih =>
    rw [order_operator strict hleaving hclear] at h
    obtain ⟨back, hback, rfl⟩ := ok_of_emit h
    obtain ⟨hnone, hrest⟩ := noClosing_append.mp hstack
    have hperm := ih (hrest.cons (by simp)) hback
    rw [List.cons_append, bare_cons rfl, bare_append] at hperm
    rw [bare_append, bare_append,
      bare_waiting (fun t ht => isOpening_of_binds (hleaving t ht)) hnone, bare_cons rfl,
      List.append_assoc]
    exact (hperm.trans List.perm_middle.symm).append_left _
  | unknown symbol stack tokens => contradiction

theorem ofTokens_perm (strict : Bool) {tokens out : List Token}
    (h : ofTokens strict tokens = .ok out) : out.Perm (bare tokens) :=
  order_perm strict (by simp [NoClosing]) h

/-! ### A group is reordered as it is alone -/

theorem clear_append_opening {precedence : Nat} {stack : List Token} (h : Clear precedence stack)
    (below : List Token) : Clear precedence (stack ++ .opening :: below) := by
  cases stack with
  | nil => simp [Clear, binds]
  | cons t stack => exact h

/-- **What a strict reordering makes of some tokens, every reordering makes of them between
parentheses**, above any stack and in front of any tokens. -/
theorem order_group {stack tokens out : List Token} (h : order true stack tokens = .ok out)
    (strict : Bool) (below rest : List Token) :
    order strict (stack ++ .opening :: below) (tokens ++ .closing :: rest) =
      emit (out ++ (closeCall below).1) (order strict (closeCall below).2 rest) := by
  induction stack, tokens using order_induct generalizing out with
  | nil stack =>
    rw [order_nil] at h
    rcases exists_opening stack with ⟨waiting, lower, rfl, hwaiting⟩ | hclosed
    · simp [drain, Token.isOpening] at h
    · rw [drain_of_closed true hclosed] at h
      rw [List.nil_append, order_closing strict hclosed, Except.ok.inj h]
  | number v stack tokens ih =>
    rw [order_number] at h
    obtain ⟨back, hback, rfl⟩ := ok_of_emit h
    rw [List.cons_append, order_number, ih hback, emit_emit, List.append_assoc]
  | function f name stack tokens ih =>
    rw [order_function] at h
    rw [List.cons_append, order_function]
    exact ih h
  | opening stack tokens ih =>
    rw [order_opening] at h
    rw [List.cons_append, order_opening]
    exact ih h
  | closing waiting lower tokens hwaiting ih =>
    rw [order_closing true hwaiting] at h
    obtain ⟨back, hback, rfl⟩ := ok_of_emit h
    rw [List.append_assoc, List.cons_append, List.cons_append, order_closing strict hwaiting,
      closeCall_append_opening, ih hback, emit_emit, List.append_assoc, List.append_assoc,
      List.append_assoc]
  | stray stack tokens hclosed ih =>
    rw [order_closing_stray true hclosed] at h
    contradiction
  | operator op leaving lower tokens hleaving hlower ih =>
    rw [order_operator true hleaving hlower] at h
    obtain ⟨back, hback, rfl⟩ := ok_of_emit h
    have hgroup := ih hback
    rw [List.cons_append] at hgroup
    rw [List.append_assoc, List.cons_append,
      order_operator strict hleaving (clear_append_opening hlower below), hgroup, emit_emit,
      List.append_assoc]
  | unknown symbol stack tokens => contradiction

/-! ### A block among any tokens -/

/-- The next token is where an operand may stand: nothing comes before it, or a symbol other than
`)`. -/
def OperandNext (before : List Token) : Prop :=
  ∀ t ∈ before.getLast?, t.expectsOperand = true

variable {mode : AngleMode} (strict : Bool)

/-- Where an operand may stand no function waits for its argument. -/
theorem order_before_operand {before : List Token} (hbefore : OperandNext before) :
    (∃ emitted stack, NoCall stack ∧
      ∀ rest, order strict [] (before ++ rest) = emit emitted (order strict stack rest)) ∨
    ∃ e, ∀ rest, order strict [] (before ++ rest) = .error e := by
  rcases List.eq_nil_or_concat' before with rfl | ⟨front, t, rfl⟩
  · exact Or.inl ⟨[], [], rfl, fun rest => (emit_nil _).symm⟩
  · have ht : t.expectsOperand = true := hbefore t (by simp)
    simp only [List.append_assoc, List.singleton_append]
    rcases order_append strict [] front with ⟨emitted, stack, hfront⟩ | ⟨e, hfront⟩
    · cases t with
      | opening => exact Or.inl ⟨emitted, .opening :: stack, rfl, fun rest => hfront _⟩
      | operator op =>
        obtain ⟨leaving, lower, rfl, hleaving, hclear⟩ := exists_clear op.precedence stack
        refine Or.inl ⟨emitted ++ leaving, .operator op :: lower, rfl, fun rest => ?_⟩
        rw [hfront, order_operator strict hleaving hclear, emit_emit]
      | «foreign» symbol =>
        refine Or.inr ⟨.unknownOperator symbol, fun rest => ?_⟩
        rw [hfront, order, emit_error]
      | number | closing | function => contradiction
    · exact Or.inr ⟨e, fun rest => hfront _⟩

/-- A part of a program can be replaced by one that does the same to every stack. -/
theorem value_replace {strict : Bool} {part part' : List Token}
    (h : ∀ stack rest, run mode strict stack (part ++ rest) = run mode strict stack (part' ++ rest))
    (front back : List Token) :
    value mode strict (front ++ (part ++ back)) = value mode strict (front ++ (part' ++ back)) := by
  simp only [value, run_append mode strict [] front, h]

/-- **A block of tokens can be replaced by a number** where an operand may stand, if it is reordered
on its own to the postorder of a tree with this value. What stands around it may be ill-formed. -/
theorem value_block {block : List Token} {t : Tree} {v : Float} (ht : t.eval mode true = .ok v)
    (hblock : ∀ stack rest, NoCall stack →
      order strict stack (block ++ rest) = emit t.postorder (order strict stack rest))
    {before : List Token} (hbefore : OperandNext before) (behind : List Token) :
    (ofTokens strict (before ++ (block ++ behind))).bind (value mode strict) =
      (ofTokens strict (before ++ .number v :: behind)).bind (value mode strict) := by
  have hrun : ∀ stack rest,
      run mode strict stack (t.postorder ++ rest) =
        run mode strict stack ([.number v] ++ rest) := by
    intro stack rest
    rw [Tree.run_postorder, Tree.eval_of_strict ht strict]
    rfl
  rcases order_before_operand strict hbefore with ⟨emitted, stack, hcall, horder⟩ | ⟨e, horder⟩
  · rw [ofTokens, ofTokens, horder, horder, hblock stack behind hcall, order_number]
    cases order strict stack behind with
    | error e => rfl
    | ok back => exact value_replace hrun emitted back
  · rw [ofTokens, ofTokens, horder, horder]

/-! ### A group acts like its value -/

/-- Tokens with a strict value are reordered to the postorder of a tree, unless they are parentheses
only. -/
theorem exists_tree_of_value {tokens : List Token} {v : Float}
    (h : (ofTokens true tokens).bind (value mode true) = .ok v) (hbare : bare tokens ≠ []) :
    ∃ t : Tree, ofTokens true tokens = .ok t.postorder ∧ t.eval mode true = .ok v := by
  obtain ⟨out, hout, h⟩ := ok_of_bind h
  rcases Tree.value_eq_ok_iff.mp h with ⟨rfl, -⟩ | ⟨t, rfl, ht⟩
  · exact absurd (ofTokens_perm true hout).nil_eq.symm hbare
  · exact ⟨t, hout, ht⟩

theorem order_parenthesised {tokens out : List Token} (h : ofTokens true tokens = .ok out)
    {stack : List Token} (hcall : NoCall stack) (rest : List Token) :
    order strict stack (.opening :: (tokens ++ [.closing]) ++ rest) =
      emit out (order strict stack rest) := by
  have hgroup := order_group h strict stack rest
  have hstack : closeCall stack = ([], stack) := hcall
  rw [List.nil_append, hstack, List.append_nil] at hgroup
  rw [List.cons_append, List.append_assoc, List.singleton_append, order_opening, hgroup]

theorem order_call {tokens out : List Token} (h : ofTokens true tokens = .ok out) (f : MathFunction)
    (name : String) (stack rest : List Token) :
    order strict stack (.function f name :: .opening :: (tokens ++ [.closing]) ++ rest) =
      emit (out ++ [.function f name]) (order strict stack rest) := by
  have hgroup := order_group h strict (.function f name :: stack) rest
  rw [List.nil_append] at hgroup
  rw [List.cons_append, List.cons_append, List.append_assoc, List.singleton_append, order_function,
    order_opening, hgroup]
  rfl

/-- **A group in front of any tokens acts like the number that is its value.** -/
theorem value_group {tokens : List Token} {v : Float}
    (h : (ofTokens true tokens).bind (value mode true) = .ok v) (hbare : bare tokens ≠ [])
    (strict : Bool) (rest : List Token) :
    (ofTokens strict (.opening :: (tokens ++ .closing :: rest))).bind (value mode strict) =
      (ofTokens strict (.number v :: rest)).bind (value mode strict) := by
  obtain ⟨t, hout, ht⟩ := exists_tree_of_value h hbare
  have hnothing : OperandNext [] := by simp [OperandNext]
  have hblock :=
    value_block strict ht (fun _ rest hcall => order_parenthesised strict hout hcall rest) hnothing
      rest
  simpa using hblock

/-- **A group can be replaced by its value, and a call on it by the value of the call**, between any
tokens behind which an operand may stand and any tokens at all. The outcome is the same, be it a
value or an error. -/
theorem group_eq_number {tokens : List Token} {v : Float}
    (h : (ofTokens true tokens).bind (value mode true) = .ok v)
    (htoken : ∃ t ∈ tokens, t.isParenthesis = false) {before : List Token}
    (hbefore : OperandNext before) (strict : Bool) (behind : List Token) :
    (ofTokens strict (before ++ .opening :: (tokens ++ .closing :: behind))).bind
        (value mode strict) =
        (ofTokens strict (before ++ .number v :: behind)).bind (value mode strict) ∧
      ∀ (f : MathFunction) (name : String) (y : Float), f.apply mode v = .ok y →
        (ofTokens strict (before ++ .function f name :: .opening ::
            (tokens ++ .closing :: behind))).bind (value mode strict) =
          (ofTokens strict (before ++ .number y :: behind)).bind (value mode strict) := by
  obtain ⟨t, ht, hbare⟩ := htoken
  have hbare : bare tokens ≠ [] := List.ne_nil_of_mem (List.mem_filter.mpr ⟨ht, by simp [hbare]⟩)
  obtain ⟨t, hout, ht⟩ := exists_tree_of_value h hbare
  constructor
  · have hblock :=
      value_block strict ht (fun _ rest hcall => order_parenthesised strict hout hcall rest) hbefore
        behind
    simpa using hblock
  · intro f name y hy
    have hcall : (Tree.call f name t).eval mode true = .ok y := by
      simp only [Tree.eval, ht, bind, Except.bind, hy]
    have hblock :=
      value_block strict hcall (fun stack rest _ => order_call strict hout f name stack rest)
        hbefore behind
    simpa using hblock

/-- Behind a `*`, and in front of a `)` that closes nothing. -/
theorem group_eq_number_product :
    (ofTokens false [.number 2.0, .operator .mul, .opening, .number 1.0, .operator .add,
        .number 2.0, .closing, .closing]).bind (value .degree false) =
      (ofTokens false [.number 2.0, .operator .mul, .number 3.0, .closing]).bind
        (value .degree false) ∧
    (ofTokens false [.number 2.0, .operator .mul, .function .square "x²", .opening, .number 1.0,
        .operator .add, .number 2.0, .closing, .closing]).bind (value .degree false) =
      (ofTokens false [.number 2.0, .operator .mul, .number 9.0, .closing]).bind
        (value .degree false) := by
  have hvalue :
      (ofTokens true [.number 1.0, .operator .add, .number 2.0]).bind (value .degree true) =
      .ok 3.0 := by decide +kernel
  have htoken : ∃ t ∈ [Token.number 1.0, .operator .add, .number 2.0], t.isParenthesis = false :=
    ⟨.number 1.0, by simp, rfl⟩
  have hbefore : OperandNext [.number 2.0, .operator .mul] := by
    simp [OperandNext, Token.expectsOperand]
  have hsquare : MathFunction.square.apply .degree 3.0 = .ok 9.0 := by decide +kernel
  obtain ⟨hgroup, hcall⟩ := group_eq_number hvalue htoken hbefore false [.closing]
  exact ⟨hgroup, hcall .square "x²" 9.0 hsquare⟩

end Calculator.Postfix

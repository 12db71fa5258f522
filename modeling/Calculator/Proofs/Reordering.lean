import Mathlib.Data.List.TakeWhile
import Calculator.Postfix
import Calculator.Proofs.Outcome

/-! # Steps of the reordering

What `Postfix.order` does at each kind of token, in the form that proofs about whole runs use: the
tokens that leave the stack are emitted in front of whatever the rest of the run gives (`emit`).

An operator lets those leave that bind at least as tightly (`order_operator`), and a `)` everything
down to the group's `(` (`order_closing`). Both are stated for a stack that is split at the place
where the leaving stops. A stack always splits like this, so a run is an induction over such stacks
(`order_induct`).
-/

namespace Calculator.Postfix

/-- Tokens in front of the outcome of a run. -/
def emit (front : List Token) (outcome : Except Error (List Token)) : Except Error (List Token) :=
  outcome.map (front ++ ·)

@[simp] theorem emit_ok (front back : List Token) :
    emit front (.ok back) = .ok (front ++ back) := rfl

@[simp] theorem emit_error (front : List Token) (e : Error) :
    emit front (.error e) = .error e := rfl

@[simp] theorem emit_nil (outcome : Except Error (List Token)) : emit [] outcome = outcome := by
  cases outcome <;> rfl

@[simp] theorem emit_emit (first second : List Token) (outcome : Except Error (List Token)) :
    emit first (emit second outcome) = emit (first ++ second) outcome := by
  cases outcome with
  | error e => rfl
  | ok back => simp

/-- Nothing leaves the top of the stack for an operator of this precedence. -/
def Clear (precedence : Nat) (stack : List Token) : Prop :=
  ∀ t ∈ stack.head?, binds precedence t = false

theorem takeWhile_of_clear {precedence : Nat} {stack : List Token} (h : Clear precedence stack) :
    stack.takeWhile (binds precedence) = [] := by
  cases stack with
  | nil => rfl
  | cons t stack => rw [List.takeWhile_cons, h t rfl]; rfl

theorem dropWhile_of_clear {precedence : Nat} {stack : List Token} (h : Clear precedence stack) :
    stack.dropWhile (binds precedence) = stack := by
  cases stack with
  | nil => rfl
  | cons t stack => rw [List.dropWhile_cons, h t rfl]; rfl

/-! ### One token -/

variable (strict : Bool)

@[simp] theorem order_nil (stack : List Token) : order strict stack [] = drain strict stack := rfl

@[simp] theorem order_number (stack tokens : List Token) (v : Float) :
    order strict stack (.number v :: tokens) = emit [.number v] (order strict stack tokens) := by
  rw [order]
  cases order strict stack tokens <;> rfl

@[simp] theorem order_function (stack tokens : List Token) (f : MathFunction) (name : String) :
    order strict stack (.function f name :: tokens) =
      order strict (.function f name :: stack) tokens := rfl

@[simp] theorem order_opening (stack tokens : List Token) :
    order strict stack (.opening :: tokens) = order strict (.opening :: stack) tokens := rfl

theorem order_operator {op : BinaryOp} {leaving stack : List Token}
    (hl : ∀ t ∈ leaving, binds op.precedence t = true) (hs : Clear op.precedence stack)
    (tokens : List Token) :
    order strict (leaving ++ stack) (.operator op :: tokens) =
      emit leaving (order strict (.operator op :: stack) tokens) := by
  rw [order, List.takeWhile_append_of_pos hl, List.dropWhile_append_of_pos hl,
    takeWhile_of_clear hs, dropWhile_of_clear hs, List.append_nil]
  cases order strict (.operator op :: stack) tokens <;> rfl

/-- A `)` closes the group whose `(` waits on the stack, and a call if there is one. -/
theorem order_closing {waiting : List Token} (hw : ∀ t ∈ waiting, t.isOpening = false)
    (stack tokens : List Token) :
    order strict (waiting ++ .opening :: stack) (.closing :: tokens) =
      emit (waiting ++ (closeCall stack).1) (order strict (closeCall stack).2 tokens) := by
  have hw' : ∀ t ∈ waiting, (!t.isOpening) = true := fun t ht => by simp [hw t ht]
  rw [order, List.takeWhile_append_of_pos hw', List.dropWhile_append_of_pos hw',
    List.takeWhile_cons_of_neg (by simp [Token.isOpening]),
    List.dropWhile_cons_of_neg (by simp [Token.isOpening]), List.append_nil]
  dsimp only
  cases order strict (closeCall stack).2 tokens <;> rfl

/-- A `)` that closes nothing ends everything before it, or is refused. -/
theorem order_closing_stray {stack : List Token} (hw : ∀ t ∈ stack, t.isOpening = false)
    (tokens : List Token) :
    order strict stack (.closing :: tokens) =
      if strict then .error .unmatchedClosing else emit stack (order strict [] tokens) := by
  have hw' : ∀ t ∈ stack, (!t.isOpening) = true := fun t ht => by simp [hw t ht]
  rw [order, List.takeWhile_eq_self_iff.mpr hw', List.dropWhile_eq_nil_iff.mpr hw']
  cases strict with
  | true => rfl
  | false => cases order false [] tokens <;> rfl

theorem drain_of_closed {stack : List Token} (hw : ∀ t ∈ stack, t.isOpening = false) :
    drain strict stack = .ok stack := by
  have hany : stack.any Token.isOpening = false := List.any_eq_false.mpr fun t ht => by
    simp [hw t ht]
  have hfilter : stack.filter (fun t => !t.isOpening) = stack :=
    List.filter_eq_self.mpr fun t ht => by simp [hw t ht]
  rw [drain, hany, hfilter, Bool.and_false]
  rfl

theorem isOpening_of_binds {precedence : Nat} {t : Token} (h : binds precedence t = true) :
    t.isOpening = false := by
  cases t <;> simp_all [binds, Token.isOpening]

theorem ok_of_emit {front out : List Token} {outcome : Except Error (List Token)}
    (h : emit front outcome = .ok out) : ∃ back, outcome = .ok back ∧ front ++ back = out :=
  ok_of_map h

theorem error_of_emit {front : List Token} {outcome : Except Error (List Token)} {e : Error}
    (h : emit front outcome = .error e) : outcome = .error e :=
  error_of_map h

theorem exists_emit_iff (front : List Token) (outcome : Except Error (List Token)) :
    (∃ out, emit front outcome = .ok out) ↔ ∃ out, outcome = .ok out := by
  cases outcome <;> simp

/-! ### Calls -/

/-- No call closes with a group that starts here: the top of the stack is no function. -/
def NoCall (stack : List Token) : Prop :=
  closeCall stack = ([], stack)

theorem closeCall_append (stack : List Token) :
    (closeCall stack).1 ++ (closeCall stack).2 = stack := by
  unfold closeCall
  split <;> rfl

theorem mem_of_mem_closeCall {stack : List Token} {t : Token} (h : t ∈ (closeCall stack).2) :
    t ∈ stack := by
  rw [← closeCall_append stack]
  exact List.mem_append_right _ h

theorem eq_function_of_mem_closeCall {stack : List Token} {t : Token}
    (h : t ∈ (closeCall stack).1) : ∃ f name, t = .function f name := by
  unfold closeCall at h
  split at h
  next f name _ => exact ⟨f, name, List.mem_singleton.mp h⟩
  next => simp at h

theorem closeCall_append_opening (stack below : List Token) :
    closeCall (stack ++ .opening :: below) =
      ((closeCall stack).1, (closeCall stack).2 ++ .opening :: below) := by
  cases stack with
  | nil => rfl
  | cons t stack => cases t <;> rfl

/-! ### Whole runs -/

theorem exists_clear (precedence : Nat) (stack : List Token) :
    ∃ leaving rest, stack = leaving ++ rest ∧ (∀ t ∈ leaving, binds precedence t = true) ∧
      Clear precedence rest := by
  induction stack with
  | nil => exact ⟨[], [], rfl, by simp, by simp [Clear]⟩
  | cons t stack ih =>
    by_cases ht : binds precedence t = true
    · obtain ⟨leaving, rest, rfl, hleaving, hrest⟩ := ih
      exact ⟨t :: leaving, rest, rfl, by simpa [ht] using hleaving, hrest⟩
    · exact ⟨[], t :: stack, rfl, by simp, by simpa [Clear] using ht⟩

theorem exists_opening (stack : List Token) :
    (∃ waiting below, stack = waiting ++ .opening :: below ∧ ∀ t ∈ waiting, t.isOpening = false) ∨
      ∀ t ∈ stack, t.isOpening = false := by
  induction stack with
  | nil => exact Or.inr (by simp)
  | cons t stack ih =>
    by_cases ht : t.isOpening = true
    · left
      refine ⟨[], stack, ?_, by simp⟩
      cases t <;> simp_all [Token.isOpening]
    · rcases ih with ⟨waiting, below, rfl, hwaiting⟩ | hclosed
      · exact Or.inl ⟨t :: waiting, below, rfl, by simpa [ht] using hwaiting⟩
      · exact Or.inr (by simpa [ht] using hclosed)

/-- **Induction along a run**, with the stack split as the steps split it. -/
@[elab_as_elim]
theorem order_induct {motive : List Token → List Token → Prop}
    (nil : ∀ stack, motive stack [])
    (number : ∀ v stack tokens, motive stack tokens → motive stack (.number v :: tokens))
    (function : ∀ f name stack tokens, motive (.function f name :: stack) tokens →
      motive stack (.function f name :: tokens))
    (opening : ∀ stack tokens, motive (.opening :: stack) tokens →
      motive stack (.opening :: tokens))
    (closing : ∀ waiting below tokens, (∀ t ∈ waiting, t.isOpening = false) →
      motive (closeCall below).2 tokens →
      motive (waiting ++ .opening :: below) (.closing :: tokens))
    (stray : ∀ stack tokens, (∀ t ∈ stack, t.isOpening = false) → motive [] tokens →
      motive stack (.closing :: tokens))
    (operator : ∀ op leaving stack tokens, (∀ t ∈ leaving, binds op.precedence t = true) →
      Clear op.precedence stack → motive (.operator op :: stack) tokens →
      motive (leaving ++ stack) (.operator op :: tokens))
    (unknown : ∀ symbol stack tokens, motive stack (.foreign symbol :: tokens))
    (stack tokens : List Token) : motive stack tokens := by
  induction tokens generalizing stack with
  | nil => exact nil stack
  | cons t tokens ih =>
    cases t with
    | number v => exact number v stack tokens (ih stack)
    | function f name => exact function f name stack tokens (ih _)
    | opening => exact opening stack tokens (ih _)
    | closing =>
      rcases exists_opening stack with ⟨waiting, below, rfl, hwaiting⟩ | hclosed
      · exact closing waiting below tokens hwaiting (ih _)
      · exact stray stack tokens hclosed (ih [])
    | operator op =>
      obtain ⟨leaving, rest, rfl, hleaving, hrest⟩ := exists_clear op.precedence stack
      exact operator op leaving rest tokens hleaving hrest (ih _)
    | «foreign» symbol => exact unknown symbol stack tokens

/-- **Whatever follows them, some tokens are either reordered or refused**: they leave the same
stack in front of every rest, or the same error. -/
theorem order_append (stack front : List Token) :
    (∃ emitted left, ∀ rest,
      order strict stack (front ++ rest) = emit emitted (order strict left rest)) ∨
      ∃ e, ∀ rest, order strict stack (front ++ rest) = .error e := by
  induction stack, front using order_induct with
  | nil stack => exact Or.inl ⟨[], stack, fun rest => (emit_nil _).symm⟩
  | number v stack front ih =>
    rcases ih with ⟨emitted, left, ih⟩ | ⟨e, ih⟩
    · exact Or.inl ⟨.number v :: emitted, left, fun rest => by simp [ih]⟩
    · exact Or.inr ⟨e, fun rest => by simp [ih]⟩
  | function f name stack front ih => exact ih
  | opening stack front ih => exact ih
  | closing waiting below front hwaiting ih =>
    rcases ih with ⟨emitted, left, ih⟩ | ⟨e, ih⟩
    · refine Or.inl ⟨waiting ++ (closeCall below).1 ++ emitted, left, fun rest => ?_⟩
      rw [List.cons_append, order_closing strict hwaiting, ih, emit_emit]
    · refine Or.inr ⟨e, fun rest => ?_⟩
      rw [List.cons_append, order_closing strict hwaiting, ih, emit_error]
  | stray stack front hclosed ih =>
    cases strict with
    | true => exact Or.inr ⟨.unmatchedClosing, fun rest => order_closing_stray true hclosed _⟩
    | false =>
      have hstray : ∀ rest, order false stack (.closing :: front ++ rest) =
          emit stack (order false [] (front ++ rest)) :=
        fun rest => order_closing_stray false hclosed _
      rcases ih with ⟨emitted, left, ih⟩ | ⟨e, ih⟩
      · exact Or.inl ⟨stack ++ emitted, left, fun rest => by rw [hstray, ih, emit_emit]⟩
      · exact Or.inr ⟨e, fun rest => by rw [hstray, ih, emit_error]⟩
  | operator op leaving stack front hleaving hclear ih =>
    rcases ih with ⟨emitted, left, ih⟩ | ⟨e, ih⟩
    · refine Or.inl ⟨leaving ++ emitted, left, fun rest => ?_⟩
      rw [List.cons_append, order_operator strict hleaving hclear, ih, emit_emit]
    · refine Or.inr ⟨e, fun rest => ?_⟩
      rw [List.cons_append, order_operator strict hleaving hclear, ih, emit_error]
  | unknown symbol stack front => exact Or.inr ⟨.unknownOperator symbol, fun rest => rfl⟩

end Calculator.Postfix

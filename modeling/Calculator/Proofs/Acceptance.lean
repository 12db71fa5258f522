import Calculator.Proofs.Sentence
import Calculator.Proofs.Tree

/-! # What the strict mode accepts

The strict mode does not look at the order in which operands and operators are written. It balances
parentheses, reorders, and then needs the operands that are there when an operator or a function is
applied. So it accepts what is reordered to the postorder of one tree (`evaluate_strict`), `2 3 +`
as well as `2 + 3`, and pairs of parentheses with nothing in them.

Every sentence is reordered to such a postorder (`exists_tree`). The invariant (`run_order`) counts:
where an operand is expected there are as many numbers as operators wait, and behind an operand
there is one more.
-/

namespace Calculator

open Token

namespace Postfix

/-! ### The tree of a sentence -/

/-- The number of operators among some tokens. -/
def operators (tokens : List Token) : Nat :=
  tokens.countP fun
    | .operator _ => true
    | _ => false

theorem operators_append (first second : List Token) :
    operators (first ++ second) = operators first + operators second :=
  List.countP_append ..

theorem operators_operator (op : BinaryOp) (tokens : List Token) :
    operators (.operator op :: tokens) = operators tokens + 1 :=
  List.countP_cons_of_pos rfl

theorem operators_function (f : MathFunction) (name : String) (tokens : List Token) :
    operators (.function f name :: tokens) = operators tokens :=
  List.countP_cons_of_neg (by simp)

theorem operators_opening (tokens : List Token) :
    operators (.opening :: tokens) = operators tokens :=
  List.countP_cons_of_neg (by simp)

theorem operators_filter (stack : List Token) :
    operators (stack.filter fun t => !t.isOpening) = operators stack := by
  rw [operators, operators, List.countP_filter]
  refine List.countP_congr fun t _ => ?_
  cases t <;> simp [isOpening]

/-- A token that is applied when it leaves the stack. -/
def isApplied : Token → Bool
  | .function .. | .operator _ => true
  | _ => false

/-- Only functions, operators and `(` wait. -/
def Waits (stack : List Token) : Prop :=
  ∀ t ∈ stack, isApplied t = true ∨ t = .opening

theorem Waits.cons {stack : List Token} (h : Waits stack) {t : Token}
    (ht : isApplied t = true ∨ t = .opening) : Waits (t :: stack) := by
  intro t' ht'
  rcases List.mem_cons.mp ht' with rfl | ht'
  · exact ht
  · exact h t' ht'

theorem waits_append {first second : List Token} :
    Waits (first ++ second) ↔ Waits first ∧ Waits second :=
  List.forall_mem_append

theorem Waits.isApplied {stack : List Token} (h : Waits stack)
    (hclosed : ∀ t ∈ stack, t.isOpening = false) : ∀ t ∈ stack, isApplied t = true := by
  intro t ht
  rcases h t ht with h | rfl
  · exact h
  · exact absurd (hclosed _ ht) (by decide)

theorem Waits.filter {stack : List Token} (h : Waits stack) :
    ∀ t ∈ stack.filter (fun t => !t.isOpening), Postfix.isApplied t = true := by
  intro t ht
  obtain ⟨hmem, hopening⟩ := List.mem_filter.mp ht
  rcases h t hmem with h | rfl
  · exact h
  · exact absurd hopening (by decide)

variable (mode : AngleMode)

theorem exists_applyFunction (f : MathFunction) (v : Float) :
    ∃ y, applyFunction mode false f v = .ok y := by
  unfold applyFunction
  cases f.apply mode v with
  | ok y => exact ⟨y, rfl⟩
  | error e => exact ⟨_, rfl⟩

/-- What is applied joins as many numbers as there are operators, and one more. -/
theorem run_applied {applied : List Token} (ht : ∀ t ∈ applied, isApplied t = true)
    {stack : List Float} {more : Nat} (hstack : stack.length = operators applied + 1 + more)
    (rest : List Token) :
    ∃ stack', stack'.length = 1 + more ∧
      run mode false stack (applied ++ rest) = run mode false stack' rest := by
  induction applied generalizing stack with
  | nil => exact ⟨stack, by simpa [operators] using hstack, rfl⟩
  | cons t applied ih =>
    have hrest : ∀ t ∈ applied, isApplied t = true := fun t h => ht t (by simp [h])
    cases t with
    | function f name =>
      rw [operators_function] at hstack
      cases stack with
      | nil => rw [List.length_nil] at hstack; omega
      | cons v stack =>
        obtain ⟨y, hy⟩ := exists_applyFunction mode f v
        have hcount : (y :: stack).length = operators applied + 1 + more := by simpa using hstack
        obtain ⟨stack', hlength, hrun⟩ := ih hrest hcount
        refine ⟨stack', hlength, ?_⟩
        rw [List.cons_append, run_cons, step, hy]
        exact hrun
    | operator op =>
      rw [operators_operator] at hstack
      cases stack with
      | nil => rw [List.length_nil] at hstack; omega
      | cons b stack =>
        cases stack with
        | nil => rw [List.length_singleton] at hstack; omega
        | cons a stack =>
          rw [List.length_cons, List.length_cons] at hstack
          have hcount : (op.apply a b :: stack).length = operators applied + 1 + more := by
            rw [List.length_cons]
            omega
          obtain ⟨stack', hlength, hrun⟩ := ih hrest hcount
          exact ⟨stack', hlength, hrun⟩
    | number | opening | closing | «foreign» =>
      exact absurd (ht _ List.mem_cons_self) (by simp [isApplied])

/-- **If every token stands in its place, no operand is missing and one value is left.** Where an
operand is expected there are as many numbers as operators wait, and behind an operand one more. -/
theorem run_order {strict expects : Bool} {stack tokens out : List Token} {numbers : List Float}
    (h : order strict stack tokens = .ok out) (hstack : Waits stack)
    (hplace : inPlaceFrom expects tokens = true)
    (hnumbers : numbers.length = operators stack + (!expects).toNat) :
    ∃ v, run mode false numbers out = .ok [v] := by
  induction stack, tokens using order_induct generalizing expects out numbers with
  | nil stack =>
    obtain rfl : expects = false := by simpa [inPlaceFrom] using hplace
    rw [order_nil, drain] at h
    split at h
    · contradiction
    · obtain rfl := Except.ok.inj h
      have hcount : numbers.length = operators (stack.filter fun t => !t.isOpening) + 1 + 0 := by
        rw [operators_filter]
        exact hnumbers
      obtain ⟨left, hlength, hrun⟩ := run_applied mode hstack.filter hcount []
      rw [List.append_nil] at hrun
      obtain ⟨v, rfl⟩ := List.length_eq_one_iff.mp hlength
      exact ⟨v, hrun⟩
  | number v stack tokens ih =>
    rw [order_number] at h
    obtain ⟨back, hback, rfl⟩ := ok_of_emit h
    obtain ⟨rfl, hplace⟩ : expects = true ∧ inPlaceFrom false tokens = true := by
      simpa [inPlaceFrom] using hplace
    have hcount : (v :: numbers).length = operators stack + (!false).toNat := by
      simpa using hnumbers
    obtain ⟨w, hw⟩ := ih hback hstack hplace hcount
    exact ⟨w, hw⟩
  | function f name stack tokens ih =>
    obtain ⟨rfl, hplace⟩ : expects = true ∧ inPlaceFrom true tokens = true := by
      simpa [inPlaceFrom] using hplace
    rw [← operators_function f name] at hnumbers
    exact ih h (hstack.cons (Or.inl rfl)) hplace hnumbers
  | opening stack tokens ih =>
    obtain ⟨rfl, hplace⟩ : expects = true ∧ inPlaceFrom true tokens = true := by
      simpa [inPlaceFrom] using hplace
    rw [← operators_opening] at hnumbers
    exact ih h (hstack.cons (Or.inr rfl)) hplace hnumbers
  | closing waiting below tokens hwaiting ih =>
    obtain ⟨rfl, hplace⟩ : expects = false ∧ inPlaceFrom false tokens = true := by
      simpa [inPlaceFrom] using hplace
    rw [order_closing strict hwaiting] at h
    obtain ⟨back, hback, rfl⟩ := ok_of_emit h
    obtain ⟨hfront, hopening⟩ := waits_append.mp hstack
    have hbelow : Waits below := fun t ht => hopening t (List.mem_cons_of_mem _ ht)
    have happlied : ∀ t ∈ waiting ++ (closeCall below).1, isApplied t = true := by
      intro t ht
      rcases List.mem_append.mp ht with ht | ht
      · exact hfront.isApplied hwaiting t ht
      · obtain ⟨f, name, rfl⟩ := eq_function_of_mem_closeCall ht
        rfl
    have hsplit : operators below = operators (closeCall below).1 +
        operators (closeCall below).2 := by
      rw [← operators_append, closeCall_append]
    have hcount : numbers.length =
        operators (waiting ++ (closeCall below).1) + 1 + operators (closeCall below).2 := by
      rw [hnumbers, operators_append, operators_append, operators_opening, hsplit, Bool.not_false,
        Bool.toNat_true]
      omega
    obtain ⟨left, hlength, hrun⟩ := run_applied mode happlied hcount back
    have hleft : left.length = operators (closeCall below).2 + (!false).toNat := by
      rw [hlength, Nat.add_comm]
      rfl
    obtain ⟨v, hv⟩ := ih hback (fun t ht => hbelow t (mem_of_mem_closeCall ht)) hplace hleft
    exact ⟨v, by rw [hrun, hv]⟩
  | stray stack tokens hclosed ih =>
    obtain ⟨rfl, hplace⟩ : expects = false ∧ inPlaceFrom false tokens = true := by
      simpa [inPlaceFrom] using hplace
    rw [order_closing_stray strict hclosed] at h
    split at h
    · contradiction
    · obtain ⟨back, hback, rfl⟩ := ok_of_emit h
      have hcount : numbers.length = operators stack + 1 + 0 := hnumbers
      obtain ⟨left, hlength, hrun⟩ := run_applied mode (hstack.isApplied hclosed) hcount back
      have hleft : left.length = operators [] + (!false).toNat := hlength
      obtain ⟨v, hv⟩ := ih hback (by simp [Waits]) hplace hleft
      exact ⟨v, by rw [hrun, hv]⟩
  | operator op leaving stack tokens hleaving hclear ih =>
    obtain ⟨rfl, hplace⟩ : expects = false ∧ inPlaceFrom true tokens = true := by
      simpa [inPlaceFrom] using hplace
    rw [order_operator strict hleaving hclear] at h
    obtain ⟨back, hback, rfl⟩ := ok_of_emit h
    obtain ⟨hfront, hrest⟩ := waits_append.mp hstack
    have hcount : numbers.length = operators leaving + 1 + operators stack := by
      rw [hnumbers, operators_append, Bool.not_false, Bool.toNat_true]
      omega
    obtain ⟨left, hlength, hrun⟩ :=
      run_applied mode (hfront.isApplied fun t ht => isOpening_of_binds (hleaving t ht)) hcount back
    have hleft : left.length = operators (.operator op :: stack) + (!true).toNat := by
      rw [hlength, operators_operator, Nat.add_comm]
      rfl
    obtain ⟨v, hv⟩ := ih hback (hrest.cons (Or.inl rfl)) hplace hleft
    exact ⟨v, by rw [hrun, hv]⟩
  | unknown symbol stack tokens => contradiction

/-- **Tokens that stand in their places are reordered to the postorder of one tree.** -/
theorem exists_tree {strict : Bool} {tokens program : List Token} (hplace : inPlace tokens = true)
    (h : ofTokens strict tokens = .ok program) : ∃ t : Tree, t.postorder = program := by
  have hnumbers : ([] : List Float).length = operators [] + (!true).toNat := rfl
  obtain ⟨v, hrun⟩ := run_order .radian h (by simp [Waits]) hplace hnumbers
  obtain ⟨trees, hcompute, hpost⟩ := Tree.compute_run (Tree.compute_nil ..) hrun
  cases hcompute with
  | @cons t _ trees _ _ hnone =>
    cases hnone
    exact ⟨t, by simpa [Tree.postorders] using hpost⟩

end Postfix

namespace Expression

open Postfix in
/-- **What the strict mode accepts.** An evaluation has a value exactly if the text is read, its
parentheses are balanced and its tokens are reordered to the postorder of a tree with this value, or
to nothing. Whether these tokens are a sentence is a question of their places only, and every
sentence has a tree. All that is not accepted is refused with an error that has a code. -/
theorem evaluate_strict (modeName : Option String) (limit : Int) (text : String) :
    (∀ v, evaluate modeName true limit (some text) = .ok v ↔
      ∃ mode tokens program, AngleMode.read modeName = .ok mode ∧ text.length ≤ limit ∧
        Token.read true text = .ok tokens ∧ ofTokens true tokens = .ok program ∧
        (program = [] ∧ v = 0.0 ∨ ∃ t : Tree, t.postorder = program ∧ t.eval mode true = .ok v)) ∧
    (∀ tokens, Token.read true text = .ok tokens →
      ((∃ program, ofTokens true tokens = .ok program) ↔ balanced tokens = true) ∧
      (Sentence tokens ↔ balanced tokens = true ∧ inPlace tokens = true) ∧
      (Sentence tokens → ∃ t : Tree, ofTokens true tokens = .ok t.postorder)) ∧
    (∀ e, evaluate modeName true limit (some text) = .error e → e.HasCode) := by
  refine ⟨fun v => ?_, fun tokens hread => ?_, fun e he => hasCode_of_evaluate he⟩
  · simp only [evaluate_eq_ok_iff, Tree.value_eq_ok_iff]
  · have hbalanced := exists_ofTokens_iff (isKnown_of_read hread)
    refine ⟨hbalanced, sentence_iff tokens, ?_⟩
    intro hsentence
    obtain ⟨hb, hplace⟩ := (sentence_iff tokens).mp hsentence
    obtain ⟨program, hprogram⟩ := hbalanced.mpr hb
    obtain ⟨t, rfl⟩ := exists_tree hplace hprogram
    exact ⟨t, hprogram⟩

/-- Operands and operators need not alternate. -/
theorem evaluate_operator_last :
    evaluate (some "radian") true defaultMaxLength (some "2 3 +") = .ok 5.0 ∧
      Token.read true "2 3 +" = .ok [.number 2.0, .number 3.0, .operator .add] ∧
      ¬ Sentence [.number 2.0, .number 3.0, .operator .add] := by
  refine ⟨by decide +kernel, by decide +kernel, ?_⟩
  rw [sentence_iff]
  decide

end Expression

end Calculator

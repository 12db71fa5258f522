import Calculator.Proofs.Repair

/-! # Why parentheses do not match

A strict reordering refuses parentheses that do not match and says what is wrong with them: a `)`
closes nothing, or a `(` is not closed. It keeps no count of the groups that are open. They are the
`(` among the tokens that wait, whatever else waits there and whatever leaves, and this is the
invariant of a run (`order_eq_error_iff`).

So what is wrong can be told by counting (`ofTokens_eq_error_iff`): some of the first tokens have
more `)` than `(`, or none do and there are more `(` than `)` in all.
-/

namespace Calculator

namespace Token

/-! ### Counting -/

theorem unopenedFrom_closing_pos (tokens : List Token) :
    0 < unopenedFrom 0 (.closing :: tokens) := by
  rw [unopenedFrom, if_pos rfl]
  omega

theorem unopenedFrom_pos_iff (depth : Nat) (tokens : List Token) :
    0 < unopenedFrom depth tokens ↔
      ∃ front, front <+: tokens ∧ depth + front.count .opening < front.count .closing := by
  induction tokens generalizing depth with
  | nil => simp [unopenedFrom]
  | cons t tokens ih =>
    -- nothing is wrong in front of all tokens, so the place is behind the first one
    have hsplit :
        (∃ front, front <+: t :: tokens ∧ depth + front.count .opening < front.count .closing) ↔
        ∃ front, front <+: tokens ∧
          depth + (t :: front).count .opening < (t :: front).count .closing := by
      constructor
      · rintro ⟨front, hfront, hcount⟩
        rcases List.prefix_cons_iff.mp hfront with rfl | ⟨rest, rfl, hrest⟩
        · simp at hcount
        · exact ⟨rest, hrest, hcount⟩
      · rintro ⟨front, hfront, hcount⟩
        exact ⟨t :: front, List.cons_prefix_cons.mpr ⟨rfl, hfront⟩, hcount⟩
    rw [hsplit]
    cases t with
    | opening =>
      rw [unopenedFrom, ih]
      simp [Nat.add_assoc, Nat.add_comm 1]
    | closing =>
      cases depth with
      | zero => exact iff_of_true (unopenedFrom_closing_pos tokens) ⟨[], List.nil_prefix, by decide⟩
      | succ outer =>
        rw [unopenedFrom, if_neg (Nat.succ_ne_zero outer), Nat.zero_add, Nat.add_sub_cancel, ih]
        simp only [List.count_cons_self, List.count_cons_of_ne (show closing ≠ opening by decide)]
        refine exists_congr fun front => and_congr_right fun _ => ?_
        omega
    | number v | operator op | function f name | «foreign» symbol => simp [unopenedFrom, ih]

theorem unclosedFrom_add_count (depth : Nat) (tokens : List Token) :
    unclosedFrom depth tokens + tokens.count .closing =
      depth + tokens.count .opening + unopenedFrom depth tokens := by
  induction tokens generalizing depth with
  | nil => simp [unclosedFrom, unopenedFrom]
  | cons t tokens ih =>
    have hrest := ih depth
    cases t with
    | opening =>
      have hdeeper := ih (depth + 1)
      simp only [unclosedFrom, unopenedFrom, List.count_cons_self,
        List.count_cons_of_ne (show opening ≠ closing by decide)]
      omega
    | closing =>
      have houter := ih (depth - 1)
      simp only [unclosedFrom, unopenedFrom, List.count_cons_self,
        List.count_cons_of_ne (show closing ≠ opening by decide)]
      split <;> omega
    | number v | operator op | function f name | «foreign» symbol =>
      simpa [unclosedFrom, unopenedFrom] using hrest

end Token

open Token

namespace Postfix

theorem emit_eq_error_iff {front : List Token} {outcome : Except Error (List Token)} {e : Error} :
    emit front outcome = .error e ↔ outcome = .error e := by
  cases outcome <;> simp

/-- **What a strict reordering refuses.** As many groups are open as `(` are among the tokens that
wait, so a `)` closes nothing for the run exactly if it closes no open group, and what waits at the
end has a `(` exactly if a group is open. -/
theorem order_eq_error_iff {stack tokens : List Token} {e : Error}
    (hknown : ∀ t ∈ tokens, t.isKnown = true) :
    order true stack tokens = .error e ↔
      (e = .unmatchedClosing ∧ 0 < unopenedFrom (openings stack) tokens) ∨
      (e = .unmatchedOpening ∧ unopenedFrom (openings stack) tokens = 0 ∧
        0 < unclosedFrom (openings stack) tokens) := by
  induction stack, tokens using order_induct with
  | nil stack =>
    rcases exists_opening stack with ⟨waiting, below, rfl, hwaiting⟩ | hclosed
    · have hopen : 0 < openings (waiting ++ .opening :: below) := by
        rw [openings_append, openings_opening]
        omega
      simp [drain, unopenedFrom, unclosedFrom, isOpening, hopen, eq_comm]
    · simp [drain_of_closed true hclosed, unopenedFrom, unclosedFrom, openings_eq_zero hclosed]
  | number v stack tokens ih =>
    rw [order_number, emit_eq_error_iff, ih fun t ht => hknown t (List.mem_cons_of_mem _ ht),
      unopenedFrom, unclosedFrom]
  | function f name stack tokens ih =>
    rw [order_function, ih fun t ht => hknown t (List.mem_cons_of_mem _ ht), openings_cons rfl,
      unopenedFrom, unclosedFrom]
  | opening stack tokens ih =>
    rw [order_opening, ih fun t ht => hknown t (List.mem_cons_of_mem _ ht), openings_opening,
      unopenedFrom, unclosedFrom]
  | closing waiting below tokens hwaiting ih =>
    have hdepth : openings (waiting ++ .opening :: below) = openings (closeCall below).2 + 1 := by
      rw [openings_append, openings_eq_zero hwaiting, openings_opening, openings_closeCall,
        Nat.zero_add]
    rw [order_closing true hwaiting, emit_eq_error_iff,
      ih fun t ht => hknown t (List.mem_cons_of_mem _ ht), hdepth, unopenedFrom, unclosedFrom,
      if_neg (Nat.succ_ne_zero _), Nat.zero_add, Nat.add_sub_cancel]
  | stray stack tokens hclosed ih =>
    have hunopened := unopenedFrom_closing_pos tokens
    rw [order_closing_stray true hclosed, openings_eq_zero hclosed]
    simp [hunopened, hunopened.ne', eq_comm]
  | operator op leaving stack tokens hleaving hclear ih =>
    have hdepth : openings (leaving ++ stack) = openings stack := by
      rw [openings_append, openings_eq_zero fun t ht => isOpening_of_binds (hleaving t ht),
        Nat.zero_add]
    rw [order_operator true hleaving hclear, emit_eq_error_iff,
      ih fun t ht => hknown t (List.mem_cons_of_mem _ ht), openings_cons rfl, hdepth, unopenedFrom,
      unclosedFrom]
  | unknown symbol stack tokens => simp [isKnown] at hknown

/-- **Parentheses are refused exactly if they are not balanced**, for a `)` if some of the first
tokens have more `)` than `(`, and otherwise for a `(` if there are more `(` than `)`. -/
theorem ofTokens_eq_error_iff {tokens : List Token} (hknown : ∀ t ∈ tokens, t.isKnown = true) :
    ((∃ e, ofTokens true tokens = .error e) ↔ balanced tokens = false) ∧
    (ofTokens true tokens = .error .unmatchedClosing ↔
      ∃ front, front <+: tokens ∧ front.count .opening < front.count .closing) ∧
    (ofTokens true tokens = .error .unmatchedOpening ↔
      (∀ front, front <+: tokens → front.count .closing ≤ front.count .opening) ∧
        tokens.count .closing < tokens.count .opening) ∧
    (∀ e, ofTokens true tokens = .error e →
      e = .unmatchedClosing ∧ e.message = "Unmatched ')'" ∧
      e.code? = some "unbalanced_parentheses" ∨
      e = .unmatchedOpening ∧ e.message = "Unmatched '('" ∧
      e.code? = some "unbalanced_parentheses") := by
  have hrun : ∀ e, ofTokens true tokens = .error e ↔
      (e = .unmatchedClosing ∧ 0 < unopenedFrom 0 tokens) ∨
      (e = .unmatchedOpening ∧ unopenedFrom 0 tokens = 0 ∧ 0 < unclosedFrom 0 tokens) :=
    fun e => order_eq_error_iff hknown
  have hfront := unopenedFrom_pos_iff 0 tokens
  have hcount := unclosedFrom_add_count 0 tokens
  simp only [Nat.zero_add] at hfront hcount
  refine ⟨?_, ?_, ?_, ?_⟩
  · rw [← Bool.not_eq_true, ← exists_ofTokens_iff hknown]
    cases ofTokens true tokens <;> simp
  · rw [hrun, ← hfront]
    simp
  · have hnone : unopenedFrom 0 tokens = 0 ↔
        ∀ front, front <+: tokens → front.count .closing ≤ front.count .opening := by
      simpa using not_congr hfront
    rw [hrun, ← hnone]
    simp only [reduceCtorEq, false_and, false_or, true_and]
    refine and_congr_right fun h => ?_
    omega
  · intro e he
    rcases (hrun e).mp he with ⟨rfl, -⟩ | ⟨rfl, -⟩
    · exact Or.inl ⟨rfl, rfl, rfl⟩
    · exact Or.inr ⟨rfl, rfl, rfl⟩

/-- A group is closed before it is opened. There are as many `)` as `(`, and the `)` is to blame. -/
theorem ofTokens_eq_error_iff_reversed :
    ofTokens true [.number 2.0, .closing, .operator .add, .opening, .number 3.0] =
      .error .unmatchedClosing ∧
      balanced [.number 2.0, .closing, .operator .add, .opening, .number 3.0] = false := by
  have hknown : ∀ t ∈ [Token.number 2.0, .closing, .operator .add, .opening, .number 3.0],
      t.isKnown = true := by
    simp [isKnown]
  obtain ⟨hbalanced, hclosing, -, -⟩ := ofTokens_eq_error_iff hknown
  have hrefused := hclosing.mpr ⟨[.number 2.0, .closing], by simp, by decide⟩
  exact ⟨hrefused, hbalanced.mp ⟨_, hrefused⟩⟩

end Postfix

end Calculator

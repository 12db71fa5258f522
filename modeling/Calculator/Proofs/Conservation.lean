import Calculator.Proofs.Acceptance

/-! # What a reordering keeps

A token leaves the stack in one of five places: for an operator that binds no tighter, for a `)`, as
the function that is called on the group that closes, for a `)` that closes nothing, and at the end.
In none of them anything is lost or made up but the parentheses (`order_perm`).

Numbers never wait, so none of the five places moves one, and they stay in their order
(`order_numbers`).
-/

namespace Calculator

/-- A number. -/
def Token.isNumber : Token → Bool
  | number _ => true
  | _ => false

namespace Postfix

theorem isNumber_of_isApplied {t : Token} (h : isApplied t = true) : t.isNumber = false := by
  cases t with
  | number v => contradiction
  | operator | opening | closing | function | «foreign» => rfl

theorem Waits.filter_isNumber {stack : List Token} (h : Waits stack) :
    stack.filter Token.isNumber = [] := by
  refine List.filter_eq_nil_iff.mpr fun t ht => ?_
  rw [Bool.not_eq_true]
  rcases h t ht with happlied | rfl
  · exact isNumber_of_isApplied happlied
  · rfl

/-- What has waited and leaves adds no number to what comes behind it. -/
theorem Waits.filter_append {leaving : List Token} (h : Waits leaving) (back : List Token) :
    (leaving ++ back).filter Token.isNumber = back.filter Token.isNumber := by
  rw [List.filter_append, h.filter_isNumber, List.nil_append]

theorem Waits.closeCall {stack : List Token} (h : Waits stack) :
    Waits (closeCall stack).1 ∧ Waits (closeCall stack).2 := by
  rw [← closeCall_append stack] at h
  exact waits_append.mp h

/-- **The numbers come out as they come in**, whatever waits. -/
theorem order_numbers {strict : Bool} {stack tokens out : List Token} (hstack : Waits stack)
    (h : order strict stack tokens = .ok out) :
    out.filter Token.isNumber = tokens.filter Token.isNumber := by
  induction stack, tokens using order_induct generalizing out with
  | nil stack =>
    rw [order_nil, drain] at h
    split at h
    · contradiction
    · obtain rfl := Except.ok.inj h
      have hdrained : Waits (stack.filter fun t => !t.isOpening) := fun t ht =>
        Or.inl (hstack.filter t ht)
      exact hdrained.filter_isNumber
  | number v stack tokens ih =>
    rw [order_number] at h
    obtain ⟨back, hback, rfl⟩ := ok_of_emit h
    rw [List.singleton_append, List.filter_cons_of_pos rfl, List.filter_cons_of_pos rfl,
      ih hstack hback]
  | function f name stack tokens ih => exact ih (hstack.cons (Or.inl rfl)) h
  | opening stack tokens ih => exact ih (hstack.cons (Or.inr rfl)) h
  | closing waiting below tokens hwaiting ih =>
    rw [order_closing strict hwaiting] at h
    obtain ⟨back, hback, rfl⟩ := ok_of_emit h
    obtain ⟨hfront, hopening⟩ := waits_append.mp hstack
    have hbelow : Waits below := fun t ht => hopening t (List.mem_cons_of_mem _ ht)
    have hleaving : Waits (waiting ++ (Postfix.closeCall below).1) :=
      waits_append.mpr ⟨hfront, hbelow.closeCall.1⟩
    rw [hleaving.filter_append, ih hbelow.closeCall.2 hback]
    rfl
  | stray stack tokens hclosed ih =>
    rw [order_closing_stray strict hclosed] at h
    split at h
    · contradiction
    · obtain ⟨back, hback, rfl⟩ := ok_of_emit h
      rw [hstack.filter_append, ih (by simp [Waits]) hback]
      rfl
  | operator op leaving stack tokens hleaving hclear ih =>
    rw [order_operator strict hleaving hclear] at h
    obtain ⟨back, hback, rfl⟩ := ok_of_emit h
    obtain ⟨hfront, hrest⟩ := waits_append.mp hstack
    rw [hfront.filter_append, ih (hrest.cons (Or.inl rfl)) hback]
    rfl
  | unknown symbol stack tokens => contradiction

/-- **A reordering loses nothing and invents nothing.** It gives the tokens without the parentheses,
each of them as often as it was there, and the numbers among them in their order. -/
theorem ofTokens_conserves {strict : Bool} {tokens program : List Token}
    (h : ofTokens strict tokens = .ok program) :
    program.Perm (bare tokens) ∧ (∀ t ∈ program, t.isParenthesis = false) ∧
      program.filter Token.isNumber = tokens.filter Token.isNumber := by
  have hperm := ofTokens_perm strict h
  refine ⟨hperm, ?_, order_numbers (by simp [Waits]) h⟩
  intro t ht
  obtain ⟨-, hbare⟩ := List.mem_filter.mp (hperm.mem_iff.mp ht)
  simpa using hbare

/-- A `)` that closes nothing, a call, and a group that is never closed. -/
theorem ofTokens_conserves_unmatched :
    [Token.number 2.0, .operator .add, .number 3.0, .function .sin "sin", .number 5.0, .number 7.0,
        .operator .mul].Perm
        [.number 2.0, .operator .add, .function .sin "sin", .number 3.0, .number 5.0,
          .operator .mul, .number 7.0] ∧
      [Token.number 2.0, .operator .add, .number 3.0, .function .sin "sin", .number 5.0,
        .number 7.0, .operator .mul].filter Token.isNumber = [.number 2.0, .number 3.0, .number 5.0,
        .number 7.0] := by
  have hordered : ofTokens false [.number 2.0, .operator .add, .closing, .function .sin "sin",
      .opening, .number 3.0, .closing, .opening, .number 5.0, .operator .mul, .number 7.0] =
      .ok [.number 2.0, .operator .add, .number 3.0, .function .sin "sin", .number 5.0, .number 7.0,
        .operator .mul] := by
    decide
  obtain ⟨hperm, -, hnumbers⟩ := ofTokens_conserves hordered
  exact ⟨hperm, hnumbers⟩

end Postfix

end Calculator

import Calculator.Proofs.Sentence

/-! # Unmatched parentheses

A lenient reordering tolerates parentheses that do not match. What it makes of them is what a strict
one makes of the repaired tokens: a `(` in front for each `)` that closes nothing, and a `)` behind
for each `(` that is never closed (`ofTokens_lenient`).

The two runs differ in the bottoms of their stacks only. Where the strict run still has some of the
`(` that were put in front, the lenient one has nothing, and a `)` that closes nothing for the one
run takes one of them away in the other (`order_repaired`).
-/

namespace Calculator

namespace Token

/-- The number of `)` that find no open group before them, where so many groups are open at
first. -/
def unopenedFrom : Nat → List Token → Nat
  | _, [] => 0
  | depth, .opening :: tokens => unopenedFrom (depth + 1) tokens
  | depth, .closing :: tokens => (if depth = 0 then 1 else 0) + unopenedFrom (depth - 1) tokens
  | depth, .number _ :: tokens | depth, .operator _ :: tokens | depth, .function .. :: tokens
  | depth, .foreign _ :: tokens => unopenedFrom depth tokens

/-- The number of groups that are never closed, where so many groups are open at first. -/
def unclosedFrom : Nat → List Token → Nat
  | depth, [] => depth
  | depth, .opening :: tokens => unclosedFrom (depth + 1) tokens
  | depth, .closing :: tokens => unclosedFrom (depth - 1) tokens
  | depth, .number _ :: tokens | depth, .operator _ :: tokens | depth, .function .. :: tokens
  | depth, .foreign _ :: tokens => unclosedFrom depth tokens

/-- The tokens with a `(` in front for each `)` that closes nothing, and a `)` behind for each `(`
that is never closed. -/
def repaired (tokens : List Token) : List Token :=
  List.replicate (unopenedFrom 0 tokens) .opening ++ tokens ++
    List.replicate (unclosedFrom 0 tokens) .closing

end Token

open Token

namespace Postfix

/-! ### Openings at the bottom of the stack -/

theorem closeCall_append_openings (stack : List Token) (n : Nat) :
    closeCall (stack ++ List.replicate n .opening) =
      ((closeCall stack).1, (closeCall stack).2 ++ List.replicate n .opening) := by
  cases n with
  | zero => simp
  | succ n => exact closeCall_append_opening stack _

theorem clear_append_openings {precedence : Nat} {stack : List Token} (h : Clear precedence stack)
    (n : Nat) : Clear precedence (stack ++ List.replicate n .opening) := by
  cases n with
  | zero => simpa using h
  | succ n => exact clear_append_opening h _

theorem order_openings (strict : Bool) (n : Nat) (stack tokens : List Token) :
    order strict stack (List.replicate n .opening ++ tokens) =
      order strict (List.replicate n .opening ++ stack) tokens := by
  induction n generalizing stack with
  | zero => rfl
  | succ n ih =>
    rw [List.replicate_succ, List.cons_append, order_opening, ih, ← List.singleton_append,
      ← List.append_assoc, ← List.replicate_succ', List.replicate_succ]

/-! ### Closing at the end -/

/-- What leaves at the end leaves in the same order when every open group is closed first. -/
theorem order_closings (stack : List Token) :
    order true stack (List.replicate (openings stack) .closing) =
      .ok (stack.filter fun t => !t.isOpening) := by
  induction hn : openings stack generalizing stack with
  | zero =>
    have hclosed : ∀ t ∈ stack, t.isOpening = false := by
      intro t ht
      simpa using List.countP_eq_zero.mp hn t ht
    have hfilter : stack.filter (fun t => !t.isOpening) = stack :=
      List.filter_eq_self.mpr fun t ht => by simp [hclosed t ht]
    rw [List.replicate_zero, order_nil, drain_of_closed true hclosed, hfilter]
  | succ n ih =>
    rcases exists_opening stack with ⟨waiting, below, rfl, hwaiting⟩ | hclosed
    · have hbelow : openings (closeCall below).2 = n := by
        rw [openings_append, openings_eq_zero hwaiting, openings_opening] at hn
        rw [openings_closeCall]
        omega
      have hfilter : waiting.filter (fun t => !t.isOpening) = waiting :=
        List.filter_eq_self.mpr fun t ht => by simp [hwaiting t ht]
      have hcall : (closeCall below).1.filter (fun t => !t.isOpening) = (closeCall below).1 := by
        refine List.filter_eq_self.mpr fun t ht => ?_
        obtain ⟨f, name, rfl⟩ := eq_function_of_mem_closeCall ht
        rfl
      have hsplit : below.filter (fun t => !t.isOpening) =
          (closeCall below).1 ++ (closeCall below).2.filter fun t => !t.isOpening := by
        rw [← hcall, ← List.filter_append, closeCall_append]
      rw [List.replicate_succ, order_closing true hwaiting, ih _ hbelow, emit_ok,
        List.filter_append,
        hfilter, List.filter_cons_of_neg (by simp [isOpening]), hsplit, List.append_assoc]
    · rw [openings_eq_zero hclosed] at hn
      contradiction

/-! ### The two runs -/

/-- **A lenient run and the strict run on repaired tokens give the same**, where the strict one
starts with a `(` at the bottom of its stack for each `)` that will close nothing. -/
theorem order_repaired (stack : List Token) {tokens : List Token}
    (hknown : ∀ t ∈ tokens, t.isKnown = true) :
    ∃ out, order false stack tokens = .ok out ∧
      order true (stack ++ List.replicate (unopenedFrom (openings stack) tokens) .opening)
        (tokens ++ List.replicate (unclosedFrom (openings stack) tokens) .closing) = .ok out := by
  induction stack, tokens using order_induct with
  | nil stack =>
    refine ⟨stack.filter fun t => !t.isOpening, rfl, ?_⟩
    simpa [unopenedFrom, unclosedFrom] using order_closings stack
  | number v stack tokens ih =>
    obtain ⟨out, hlenient, hstrict⟩ := ih fun t ht => hknown t (List.mem_cons_of_mem _ ht)
    refine ⟨.number v :: out, by rw [order_number, hlenient]; rfl, ?_⟩
    rw [unopenedFrom, unclosedFrom, List.cons_append, order_number, hstrict]
    rfl
  | function f name stack tokens ih =>
    obtain ⟨out, hlenient, hstrict⟩ := ih fun t ht => hknown t (List.mem_cons_of_mem _ ht)
    rw [openings_cons rfl] at hstrict
    exact ⟨out, hlenient, hstrict⟩
  | opening stack tokens ih =>
    obtain ⟨out, hlenient, hstrict⟩ := ih fun t ht => hknown t (List.mem_cons_of_mem _ ht)
    rw [openings_opening] at hstrict
    exact ⟨out, hlenient, hstrict⟩
  | closing waiting below tokens hwaiting ih =>
    obtain ⟨out, hlenient, hstrict⟩ := ih fun t ht => hknown t (List.mem_cons_of_mem _ ht)
    have hdepth : openings (waiting ++ .opening :: below) = openings (closeCall below).2 + 1 := by
      rw [openings_append, openings_eq_zero hwaiting, openings_opening, openings_closeCall,
        Nat.zero_add]
    refine ⟨waiting ++ (closeCall below).1 ++ out, ?_, ?_⟩
    · rw [order_closing false hwaiting, hlenient, emit_ok]
    · rw [hdepth, unopenedFrom, unclosedFrom, if_neg (by omega), Nat.zero_add, Nat.add_sub_cancel,
        List.append_assoc, List.cons_append, List.cons_append, order_closing true hwaiting,
        closeCall_append_openings, hstrict, emit_ok]
  | stray stack tokens hclosed ih =>
    obtain ⟨out, hlenient, hstrict⟩ := ih fun t ht => hknown t (List.mem_cons_of_mem _ ht)
    refine ⟨stack ++ out, ?_, ?_⟩
    · rw [order_closing_stray false hclosed, hlenient]
      rfl
    · -- the `)` takes away one of the `(` at the bottom
      have hcall : ∀ n, closeCall (List.replicate n .opening) = ([], List.replicate n .opening) :=
        fun n => closeCall_append_openings [] n
      have hempty : openings [] = 0 := rfl
      rw [hempty, List.nil_append] at hstrict
      rw [openings_eq_zero hclosed, unopenedFrom, unclosedFrom, if_pos rfl, Nat.zero_sub,
        Nat.add_comm, List.replicate_succ, List.cons_append, order_closing true hclosed, hcall,
        hstrict, emit_ok,
        List.append_nil]
  | operator op leaving stack tokens hleaving hclear ih =>
    obtain ⟨out, hlenient, hstrict⟩ := ih fun t ht => hknown t (List.mem_cons_of_mem _ ht)
    have hdepth : openings (leaving ++ stack) = openings stack := by
      rw [openings_append, openings_eq_zero fun t ht => isOpening_of_binds (hleaving t ht),
        Nat.zero_add]
    rw [openings_cons rfl, List.cons_append] at hstrict
    refine ⟨leaving ++ out, ?_, ?_⟩
    · rw [order_operator false hleaving hclear, hlenient, emit_ok]
    · rw [hdepth, unopenedFrom, unclosedFrom, List.append_assoc, List.cons_append,
        order_operator true hleaving (clear_append_openings hclear _), hstrict, emit_ok]
  | unknown symbol stack tokens => simp [isKnown] at hknown

/-- **A lenient reordering always succeeds, and gives what a strict one gives for the repaired
tokens.** -/
theorem ofTokens_lenient {tokens : List Token} (hknown : ∀ t ∈ tokens, t.isKnown = true) :
    ∃ program, ofTokens false tokens = .ok program ∧
      ofTokens true (repaired tokens) = .ok program := by
  obtain ⟨program, hlenient, hstrict⟩ := order_repaired [] hknown
  refine ⟨program, hlenient, ?_⟩
  rw [ofTokens, repaired, List.append_assoc, order_openings, List.append_nil]
  exact hstrict

/-- A `)` that ends everything before it, and a function whose group is never closed. -/
theorem ofTokens_lenient_call :
    ∃ program,
      ofTokens false [.number 2.0, .operator .add, .closing, .function .sin "sin", .opening,
        .number 3.0, .operator .mul] = .ok program ∧
      ofTokens true [.opening, .number 2.0, .operator .add, .closing, .function .sin "sin",
        .opening, .number 3.0, .operator .mul, .closing] = .ok program := by
  have hknown : ∀ t ∈ [Token.number 2.0, .operator .add, .closing, .function .sin "sin", .opening,
      .number 3.0, .operator .mul], t.isKnown = true := by simp [isKnown]
  exact ofTokens_lenient hknown

end Postfix

end Calculator

import Calculator.Proofs.Evaluation

/-! # Sentences

A sentence is what the tokens of an infix expression look like, with functions that are called on a
group or written bare in front of the sentence they apply to:

sentence := number | '(' sentence ')' | function sentence | sentence operator sentence

This can be told token by token (`sentence_iff`). It takes two things: the parentheses are balanced,
and every token stands in its place, operands and what may stand in front of them where one is
expected, and operators and `)` behind an operand.

A strict reordering asks for the first of the two only (`exists_ofTokens_iff`).
-/

namespace Calculator

/-- The tokens of an infix expression. -/
inductive Sentence : List Token → Prop where
  | number (v : Float) : Sentence [.number v]
  | group {s : List Token} (hs : Sentence s) : Sentence (.opening :: (s ++ [.closing]))
  | function (f : MathFunction) (name : String) {s : List Token} (hs : Sentence s) :
    Sentence (.function f name :: s)
  | operator (op : BinaryOp) {s t : List Token} (hs : Sentence s) (ht : Sentence t) :
    Sentence (s ++ .operator op :: t)

namespace Token

/-- With this many groups open, every `)` closes one and none is left open. -/
def balancedFrom : Nat → List Token → Bool
  | depth, [] => depth == 0
  | depth, .opening :: tokens => balancedFrom (depth + 1) tokens
  | depth, .closing :: tokens => depth != 0 && balancedFrom (depth - 1) tokens
  | depth, .number _ :: tokens | depth, .operator _ :: tokens | depth, .function .. :: tokens
  | depth, .foreign _ :: tokens => balancedFrom depth tokens

/-- The parentheses match. -/
def balanced (tokens : List Token) : Bool :=
  balancedFrom 0 tokens

/-- Every token stands in its place, where an operand is expected first or has just ended. -/
def inPlaceFrom : Bool → List Token → Bool
  | expects, [] => !expects
  | expects, .number _ :: tokens => expects && inPlaceFrom false tokens
  | expects, .opening :: tokens => expects && inPlaceFrom true tokens
  | expects, .function .. :: tokens => expects && inPlaceFrom true tokens
  | expects, .operator _ :: tokens => !expects && inPlaceFrom true tokens
  | expects, .closing :: tokens => !expects && inPlaceFrom false tokens
  | _, .foreign _ :: _ => false

/-- Every token of an expression stands in its place. -/
def inPlace (tokens : List Token) : Bool :=
  inPlaceFrom true tokens

end Token

open Token

namespace Sentence

/-! ### A sentence is balanced and in place -/

theorem balancedFrom_append {s : List Token} (h : Sentence s) (depth : Nat) (rest : List Token) :
    balancedFrom depth (s ++ rest) = balancedFrom depth rest := by
  induction h generalizing depth rest with
  | number v => simp [balancedFrom]
  | @group s _ ih =>
    rw [List.cons_append, List.append_assoc, balancedFrom, ih, List.singleton_append, balancedFrom]
    simp
  | function f name _ ih => rw [List.cons_append, balancedFrom, ih]
  | operator op _ _ ihs iht => rw [List.append_assoc, ihs, List.cons_append, balancedFrom, iht]

theorem inPlaceFrom_append {s : List Token} (h : Sentence s) (rest : List Token) :
    inPlaceFrom true (s ++ rest) = inPlaceFrom false rest := by
  induction h generalizing rest with
  | number v => simp [inPlaceFrom]
  | group _ ih => simp [inPlaceFrom, ih]
  | function f name _ ih => simp [inPlaceFrom, ih]
  | operator op _ _ ihs iht => simp [inPlaceFrom, ihs, iht]

/-! ### What is balanced and in place is a sentence -/

/-- Where a sentence in front of these tokens may end: at the end, or at the `)` of one of the open
groups. -/
def Ends (depth : Nat) (rest : List Token) : Prop :=
  depth = 0 ∧ rest = [] ∨
    ∃ outer tokens, depth = outer + 1 ∧ rest = .closing :: tokens ∧
    balancedFrom outer tokens = true ∧ inPlaceFrom false tokens = true

/-- **Where an operand is expected, a sentence starts; behind an operand, the sentence goes on.** It
extends to the end or to the `)` of the surrounding group. -/
theorem exists_sentence {tokens : List Token} {depth : Nat}
    (hbalanced : balancedFrom depth tokens = true) :
    (inPlaceFrom true tokens = true →
      ∃ s rest, tokens = s ++ rest ∧ Sentence s ∧ Ends depth rest) ∧
    (inPlaceFrom false tokens = true → ∀ front, Sentence front →
      ∃ s rest, front ++ tokens = s ++ rest ∧ Sentence s ∧ Ends depth rest) := by
  -- the tokens behind a group are no tail of the group's tokens, so the induction is on the length
  induction hn : tokens.length using Nat.strongRecOn generalizing tokens depth with
  | ind n ih =>
    cases tokens with
    | nil =>
      refine ⟨by simp [inPlaceFrom], fun _ front hfront =>
        ⟨front, [], rfl, hfront, Or.inl ⟨?_, rfl⟩⟩⟩
      simpa [balancedFrom] using hbalanced
    | cons t tokens =>
      have hlength : tokens.length < n := by rw [← hn, List.length_cons]; omega
      cases t with
      | number v =>
        rw [balancedFrom] at hbalanced
        refine ⟨?_, by simp [inPlaceFrom]⟩
        intro hplace
        exact (ih _ hlength hbalanced rfl).2 (by simpa [inPlaceFrom] using hplace) _ (.number v)
      | function f name =>
        rw [balancedFrom] at hbalanced
        refine ⟨?_, by simp [inPlaceFrom]⟩
        intro hplace
        obtain ⟨s, rest, rfl, hs, hends⟩ :=
          (ih _ hlength hbalanced rfl).1 (by simpa [inPlaceFrom] using hplace)
        exact ⟨.function f name :: s, rest, rfl, .function f name hs, hends⟩
      | opening =>
        rw [balancedFrom] at hbalanced
        refine ⟨?_, by simp [inPlaceFrom]⟩
        intro hplace
        obtain ⟨s, rest, rfl, hs, hends⟩ :=
          (ih _ hlength hbalanced rfl).1 (by simpa [inPlaceFrom] using hplace)
        -- the group ends where the sentence in it does
        rcases hends with ⟨hdepth, -⟩ | ⟨outer, tokens, hdepth, rfl, hrest, hplace'⟩
        · omega
        · obtain rfl : depth = outer := by omega
          have hshorter : tokens.length < n := by
            rw [List.length_append, List.length_cons] at hlength
            omega
          obtain ⟨s', rest', heq, hs', hends'⟩ := (ih _ hshorter hrest rfl).2 hplace' _ hs.group
          exact ⟨s', rest', by rw [← heq]; simp, hs', hends'⟩
      | operator op =>
        rw [balancedFrom] at hbalanced
        refine ⟨by simp [inPlaceFrom], ?_⟩
        intro hplace front hfront
        obtain ⟨s, rest, rfl, hs, hends⟩ :=
          (ih _ hlength hbalanced rfl).1 (by simpa [inPlaceFrom] using hplace)
        exact ⟨front ++ .operator op :: s, rest, by simp, .operator op hfront hs, hends⟩
      | closing =>
        refine ⟨by simp [inPlaceFrom], ?_⟩
        intro hplace front hfront
        cases depth with
        | zero => simp [balancedFrom] at hbalanced
        | succ outer =>
          have hbalanced : balancedFrom outer tokens = true := by
            simpa [balancedFrom] using hbalanced
          exact ⟨front, .closing :: tokens, rfl, hfront,
            Or.inr ⟨outer, tokens, rfl, rfl, hbalanced, by simpa [inPlaceFrom] using hplace⟩⟩
      | «foreign» symbol => simp [inPlaceFrom]

end Sentence

/-- **A sentence is what is balanced and has every token in its place.** -/
theorem sentence_iff (tokens : List Token) :
    Sentence tokens ↔ balanced tokens = true ∧ inPlace tokens = true := by
  constructor
  · intro h
    have hbalanced := h.balancedFrom_append 0 []
    have hplace := h.inPlaceFrom_append []
    rw [List.append_nil] at hbalanced hplace
    exact ⟨hbalanced, hplace⟩
  · rintro ⟨hbalanced, hplace⟩
    obtain ⟨s, rest, rfl, hs, hends⟩ :=
      (Sentence.exists_sentence hbalanced).1 hplace
    rcases hends with ⟨-, rfl⟩ | ⟨outer, _, hdepth, -⟩
    · rwa [List.append_nil]
    · omega

/-! ### What is reordered -/

namespace Postfix

/-- The number of groups that are open. -/
def openings (stack : List Token) : Nat :=
  stack.countP isOpening

theorem openings_eq_zero {stack : List Token} (h : ∀ t ∈ stack, t.isOpening = false) :
    openings stack = 0 :=
  List.countP_eq_zero.mpr fun t ht => by simp [h t ht]

theorem openings_opening (stack : List Token) : openings (.opening :: stack) = openings stack + 1 :=
  List.countP_cons_of_pos rfl

theorem openings_cons {t : Token} (h : t.isOpening = false) (stack : List Token) :
    openings (t :: stack) = openings stack :=
  List.countP_cons_of_neg (by simp [h])

theorem openings_append (first second : List Token) :
    openings (first ++ second) = openings first + openings second :=
  List.countP_append ..

theorem openings_closeCall (stack : List Token) :
    openings (closeCall stack).2 = openings stack := by
  unfold closeCall
  split
  · rw [openings_cons rfl]
  · rfl

/-- **A strict reordering succeeds exactly if the groups that are open and those of the tokens are
closed** and no symbol is foreign. -/
theorem exists_order_iff (stack tokens : List Token) :
    (∃ out, order true stack tokens = .ok out) ↔
      balancedFrom (openings stack) tokens = true ∧ ∀ t ∈ tokens, t.isKnown = true := by
  induction stack, tokens using order_induct with
  | nil stack =>
    rcases exists_opening stack with ⟨waiting, below, rfl, hwaiting⟩ | hclosed
    · simp [drain, balancedFrom, isOpening, openings_append, openings_opening]
    · simp [drain_of_closed true hclosed, balancedFrom, openings_eq_zero hclosed]
  | number v stack tokens ih =>
    rw [order_number, exists_emit_iff, ih, balancedFrom]
    simp [isKnown]
  | function f name stack tokens ih =>
    rw [order_function, ih, openings_cons rfl, balancedFrom]
    simp [isKnown]
  | opening stack tokens ih =>
    rw [order_opening, ih, openings_opening, balancedFrom]
    simp [isKnown]
  | closing waiting below tokens hwaiting ih =>
    have hdepth : openings (waiting ++ .opening :: below) = openings (closeCall below).2 + 1 := by
      rw [openings_append, openings_eq_zero hwaiting, openings_opening, openings_closeCall,
        Nat.zero_add]
    rw [order_closing true hwaiting, exists_emit_iff, ih, hdepth, balancedFrom]
    simp [isKnown]
  | stray stack tokens hclosed ih =>
    rw [order_closing_stray true hclosed, openings_eq_zero hclosed, balancedFrom]
    simp
  | operator op leaving stack tokens hleaving hclear ih =>
    have hdepth : openings (leaving ++ stack) = openings stack := by
      rw [openings_append, openings_eq_zero fun t ht => isOpening_of_binds (hleaving t ht),
        Nat.zero_add]
    rw [order_operator true hleaving hclear, exists_emit_iff, ih, openings_cons rfl, hdepth,
      balancedFrom]
    simp [isKnown]
  | unknown symbol stack tokens => simp [order, isKnown]

theorem exists_ofTokens_iff {tokens : List Token} (h : ∀ t ∈ tokens, t.isKnown = true) :
    (∃ program, ofTokens true tokens = .ok program) ↔ balanced tokens = true := by
  rw [balanced, ofTokens, exists_order_iff]
  exact and_iff_left h

end Postfix

end Calculator

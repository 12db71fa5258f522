import Mathlib.Data.List.Forall2
import Calculator.Postfix.Value
import Calculator.Proofs.Outcome

/-! # Expression trees

A tree says what an expression computes and forgets how it was written. `postorder` lists its nodes,
each behind its operands, and this list is a program that computes the tree: `run_postorder` says so
in front of any further tokens and on top of any stack,

run stack (t.postorder ++ tokens) = run (v :: stack) tokens where v is the tree's value,

and `value_postorder` is the case of the empty stack. There are no other programs that run:
`compute_run` finds the trees of which a program is made, and `value_eq_ok_iff` says that a program
with a strict value is the postorder of one tree, or empty.

The value is found by walking the tree (`eval`). Strictly, the walk stops at the first factorial
that is not defined; leniently, such a factorial is NaN. `eval_strict` and `eval_lenient` say this
through the list of all factorials that fail (`faults`).
-/

namespace Calculator

/-- An expression without its parentheses. A function keeps the spelling it was written with. -/
inductive Tree where
  | number (v : Float)
  | binary (op : BinaryOp) (left right : Tree)
  | call (f : MathFunction) (name : String) (argument : Tree)

namespace Tree

/-- The nodes of a tree, each behind its operands. -/
def postorder : Tree → List Token
  | number v => [.number v]
  | binary op l r => l.postorder ++ r.postorder ++ [.operator op]
  | call f name x => x.postorder ++ [.function f name]

/-- The value of a tree: that of the left operand comes before that of the right one. -/
def eval (mode : AngleMode) (strict : Bool) : Tree → Except Error Float
  | number v => .ok v
  | binary op l r => do
    let a ← l.eval mode strict
    let b ← r.eval mode strict
    return op.apply a b
  | call f _ x => do
    let v ← x.eval mode strict
    match f.apply mode v with
    | .ok y => .ok y
    | .error e => if strict then .error e else .ok Number.notANumber

/-- The value of a tree in which a function is NaN where it is not defined. -/
def value (mode : AngleMode) : Tree → Float
  | number v => v
  | binary op l r => op.apply (l.value mode) (r.value mode)
  | call f _ x => (f.apply mode (x.value mode)).toOption.getD Number.notANumber

/-- The arguments of the factorials that are not defined, in postorder. -/
def faults (mode : AngleMode) : Tree → List Float
  | number _ => []
  | binary _ l r => l.faults mode ++ r.faults mode
  | call f _ x =>
    x.faults mode ++
      if f = .factorial ∧ Number.natural? (x.value mode) = none then [x.value mode] else []

/-! ### The walk and the faults -/

theorem apply_cases (mode : AngleMode) (f : MathFunction) (v : Float) :
    (∃ y, f.apply mode v = .ok y ∧ ¬ (f = .factorial ∧ Number.natural? v = none)) ∨
      (f = .factorial ∧ Number.natural? v = none ∧
        f.apply mode v = .error (.factorialUndefined v)) := by
  cases h : f.apply mode v with
  | error e =>
    obtain ⟨hf, hv, he⟩ := MathFunction.apply_error h
    exact Or.inr ⟨hf, hv, by rw [he]⟩
  | ok y =>
    refine Or.inl ⟨y, rfl, ?_⟩
    rintro ⟨rfl, hv⟩
    simp [MathFunction.apply, Number.factorial, hv] at h

theorem eval_lenient (mode : AngleMode) (t : Tree) : t.eval mode false = .ok (t.value mode) := by
  induction t with
  | number v => rfl
  | binary op l r ihl ihr => simp only [eval, ihl, ihr]; rfl
  | call f name x ih =>
    simp only [eval, value, ih, bind, Except.bind]
    cases f.apply mode (x.value mode) <;> rfl

/-- **A strict walk stops at the first fault in postorder.** -/
theorem eval_strict (mode : AngleMode) (t : Tree) :
    t.eval mode true =
      match (t.faults mode).head? with
      | none => .ok (t.value mode)
      | some v => .error (.factorialUndefined v) := by
  induction t with
  | number v => rfl
  | binary op l r ihl ihr =>
    simp only [eval, value, faults, List.head?_append, ihl, ihr]
    cases (l.faults mode).head? with
    | some v => rfl
    | none => cases (r.faults mode).head? <;> rfl
  | call f name x ih =>
    simp only [eval, value, faults, List.head?_append, ih]
    cases (x.faults mode).head? with
    | some v => rfl
    | none =>
      rcases apply_cases mode f (x.value mode) with ⟨y, hy, hn⟩ | ⟨rfl, hv, he⟩
      · simp [bind, Except.bind, hy, hn, Except.toOption]
      · simp [bind, Except.bind, he, hv]

theorem eval_of_strict {mode : AngleMode} {t : Tree} {v : Float} (h : t.eval mode true = .ok v)
    (strict : Bool) : t.eval mode strict = .ok v := by
  cases strict with
  | true => exact h
  | false =>
    rw [eval_strict] at h
    rw [eval_lenient]
    split at h
    · exact h
    · contradiction

/-! ### The program -/

open Postfix

theorem run_function (mode : AngleMode) (strict : Bool) (f : MathFunction) (name : String)
    (v : Float) (stack : List Float) (tokens : List Token) :
    run mode strict (v :: stack) (.function f name :: tokens) =
      (applyFunction mode strict f v).bind fun y => run mode strict (y :: stack) tokens := by
  rw [run_cons, step]
  cases applyFunction mode strict f v <;> rfl

/-- **The postorder of a tree computes its value**, on top of any stack and in front of any
tokens. -/
theorem run_postorder (mode : AngleMode) (strict : Bool) (t : Tree) (stack : List Float)
    (tokens : List Token) :
    run mode strict stack (t.postorder ++ tokens) =
      (t.eval mode strict).bind fun v => run mode strict (v :: stack) tokens := by
  induction t generalizing stack tokens with
  | number v => rfl
  | binary op l r ihl ihr =>
    simp only [postorder, List.append_assoc, ihl, ihr, eval]
    cases l.eval mode strict with
    | error e => rfl
    | ok a => cases r.eval mode strict <;> rfl
  | call f name x ih =>
    simp only [postorder, List.append_assoc, ih, eval]
    cases x.eval mode strict with
    | error e => rfl
    | ok v => exact run_function mode strict f name v stack tokens

theorem value_postorder (mode : AngleMode) (strict : Bool) (t : Tree) :
    Postfix.value mode strict t.postorder = t.eval mode strict := by
  have h := run_postorder mode strict t [] []
  rw [List.append_nil] at h
  rw [Postfix.value, h]
  cases t.eval mode strict with
  | error e => rfl
  | ok v => cases strict <;> rfl

/-! ### Every program that runs is made of trees -/

/-- The postorders of the trees of a stack, whose top is its head. -/
def postorders (trees : List Tree) : List Token :=
  trees.reverse.flatMap postorder

theorem postorders_cons (t : Tree) (trees : List Tree) :
    postorders (t :: trees) = postorders trees ++ t.postorder := by
  simp [postorders]

/-- The trees compute what lies on the stack. -/
def Compute (mode : AngleMode) (strict : Bool) (trees : List Tree) (stack : List Float) : Prop :=
  List.Forall₂ (fun t v => t.eval mode strict = .ok v) trees stack

theorem compute_nil (mode : AngleMode) (strict : Bool) : Compute mode strict [] [] :=
  List.Forall₂.nil

theorem compute_step {mode : AngleMode} {strict : Bool} {trees : List Tree}
    {stack stack' : List Float} {t : Token} (h : Compute mode strict trees stack)
    (hstep : step mode strict stack t = .ok stack') :
    ∃ trees', Compute mode strict trees' stack' ∧ postorders trees' = postorders trees ++ [t] := by
  cases t with
  | number v =>
    obtain rfl : v :: stack = stack' := by cases stack <;> exact Except.ok.inj hstep
    exact ⟨.number v :: trees, h.cons rfl, by rw [postorders_cons]; rfl⟩
  | function f name =>
    cases h with
    | nil => contradiction
    | @cons x v trees stack hx h =>
      obtain ⟨y, hy, hstep⟩ := ok_of_bind hstep
      obtain rfl : y :: stack = stack' := Except.ok.inj hstep
      refine ⟨.call f name x :: trees, h.cons ?_, ?_⟩
      · rw [eval, hx]
        exact hy
      · rw [postorders_cons, postorders_cons, postorder, List.append_assoc]
  | operator op =>
    cases h with
    | nil => contradiction
    | @cons r b trees stack hr h =>
      cases h with
      | nil => contradiction
      | @cons l a trees stack hl h =>
        obtain rfl : op.apply a b :: stack = stack' := Except.ok.inj hstep
        refine ⟨.binary op l r :: trees, h.cons ?_, ?_⟩
        · rw [eval, hl, hr]
          rfl
        · simp [postorders_cons, postorder]
  | opening | closing | «foreign» =>
    cases h with
    | nil => contradiction
    | cons _ h => cases h <;> contradiction

/-- **A program that runs is a sequence of postorders, of trees that compute what it leaves.** -/
theorem compute_run {mode : AngleMode} {strict : Bool} {trees : List Tree}
    {stack stack' : List Float} {program : List Token} (h : Compute mode strict trees stack)
    (hrun : run mode strict stack program = .ok stack') :
    ∃ trees', Compute mode strict trees' stack' ∧
      postorders trees' = postorders trees ++ program := by
  induction program generalizing trees stack with
  | nil =>
    obtain rfl : stack = stack' := Except.ok.inj hrun
    exact ⟨trees, h, (List.append_nil _).symm⟩
  | cons t program ih =>
    rw [run_cons] at hrun
    obtain ⟨next, hstep, hrun⟩ := ok_of_bind hrun
    obtain ⟨middle, hmiddle, hpost⟩ := compute_step h hstep
    obtain ⟨trees', htrees', hpost'⟩ := ih hmiddle hrun
    exact ⟨trees', htrees', by rw [hpost', hpost, List.append_assoc, List.singleton_append]⟩

/-- **Strictly, a program has a value exactly if it is the postorder of a tree with this value**, or
if it is empty and the value is zero. -/
theorem value_eq_ok_iff {mode : AngleMode} {program : List Token} {v : Float} :
    Postfix.value mode true program = .ok v ↔
      program = [] ∧ v = 0.0 ∨ ∃ t : Tree, t.postorder = program ∧ t.eval mode true = .ok v := by
  constructor
  · intro h
    obtain ⟨stack, hrun, h⟩ := ok_of_bind h
    obtain ⟨trees, hcompute, hpost⟩ := compute_run (compute_nil mode true) hrun
    rw [show postorders [] = [] from rfl, List.nil_append] at hpost
    cases hcompute with
    | nil => exact Or.inl ⟨hpost.symm, (Except.ok.inj h).symm⟩
    | @cons t a trees stack ht hrest =>
      cases hrest with
      | nil =>
        refine Or.inr ⟨t, ?_, by rw [ht, ← Except.ok.inj h]; rfl⟩
        rw [← hpost, postorders_cons]
        rfl
      | cons => contradiction
  · rintro (⟨rfl, rfl⟩ | ⟨t, rfl, ht⟩)
    · rfl
    · rw [value_postorder, ht]

end Tree

end Calculator

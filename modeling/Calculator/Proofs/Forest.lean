import Mathlib.Data.List.Induction
import Calculator.Proofs.Acceptance

/-! # Programs as forests

Any list of numbers, functions and operators is a program, whether it was made of an expression or
not. Read from the left, it is the postorders of some trees, one behind another, until a token comes
that has not the operands it needs.

* `Postfix.Supplied`: no such token comes. This is told by counting, and it is what makes a program
  a forest (`supplied_iff`). The forest is the only one (`Tree.forest_injective`), and has as many
  trees as there are numbers more than operators (`numbers_forest`).
* `Postfix.FirstLacking`: the token at which reading stops, if one comes (`exists_firstLacking`).
* `run_forest_lenient`, `run_forest_strict`, `step_of_lacking`: what a run makes of the one and of
  the other.

The last token of a program is the root of its last tree, with the trees in front of it as children.
So these are inductions from the end of the program.
-/

namespace Calculator

/-! ### Roots and children -/

/-- The number of values that a token is applied to. -/
def Token.operands : Token → Nat
  | .operator _ => 2
  | .function .. => 1
  | .number _ | .opening | .closing | .foreign _ => 0

namespace Tree

/-- The token of a tree's topmost node. -/
def root : Tree → Token
  | number v => .number v
  | binary op _ _ => .operator op
  | call f name _ => .function f name

/-- The trees below the topmost node, from left to right. -/
def children : Tree → List Tree
  | number _ => []
  | binary _ l r => [l, r]
  | call _ _ x => [x]

/-- The tokens of some trees, one tree behind another. -/
def forest (trees : List Tree) : List Token :=
  trees.flatMap postorder

@[simp] theorem forest_nil : forest [] = [] := rfl

theorem forest_cons (t : Tree) (trees : List Tree) :
    forest (t :: trees) = t.postorder ++ forest trees :=
  List.flatMap_cons

theorem forest_append (first second : List Tree) :
    forest (first ++ second) = forest first ++ forest second :=
  List.flatMap_append

theorem postorder_eq (t : Tree) : t.postorder = forest t.children ++ [t.root] := by
  cases t <;> simp [postorder, forest, children, root]

theorem length_children (t : Tree) : t.children.length = t.root.operands := by
  cases t <;> rfl

theorem ext_root_children {t u : Tree} (hroot : t.root = u.root)
    (hchildren : t.children = u.children) : t = u := by
  cases t <;> cases u <;> simp_all [root, children]

theorem exists_root_children {t : Token} (ht : t.IsStep) {trees : List Tree}
    (h : trees.length = t.operands) : ∃ u : Tree, u.root = t ∧ u.children = trees := by
  cases t with
  | number v =>
    obtain rfl := List.length_eq_zero_iff.mp h
    exact ⟨.number v, rfl, rfl⟩
  | function f name =>
    obtain ⟨x, rfl⟩ := List.length_eq_one_iff.mp h
    exact ⟨.call f name x, rfl, rfl⟩
  | operator op =>
    obtain ⟨l, r, rfl⟩ := List.length_eq_two.mp h
    exact ⟨.binary op l r, rfl, rfl⟩
  | opening | closing | «foreign» => simp [Token.IsStep, Token.isKnown, Token.isParenthesis] at ht

/-- The last token of a forest is the root of its last tree. -/
theorem forest_eq_concat {trees : List Tree} {tokens : List Token} {t : Token}
    (h : forest trees = tokens ++ [t]) :
    ∃ front u, trees = front ++ [u] ∧ u.root = t ∧ forest (front ++ u.children) = tokens := by
  rcases List.eq_nil_or_concat trees with rfl | ⟨front, u, rfl⟩
  · simp at h
  · rw [List.concat_eq_append, forest_append, forest_cons, forest_nil, List.append_nil,
      postorder_eq, ← List.append_assoc, ← forest_append] at h
    obtain ⟨hforest, hroot⟩ := List.append_inj' h rfl
    exact ⟨front, u, List.concat_eq_append, List.singleton_inj.mp hroot, hforest⟩

/-- **A program is the postorders of one list of trees at most.** -/
theorem forest_injective {trees others : List Tree} (h : forest trees = forest others) :
    trees = others := by
  induction hn : forest others using List.reverseRecOn generalizing trees others with
  | nil =>
    rw [hn] at h
    have hempty : ∀ ts : List Tree, forest ts = [] → ts = [] := by
      intro ts hts
      cases ts with
      | nil => rfl
      | cons t ts => simp [forest_cons, postorder_eq] at hts
    rw [hempty trees h, hempty others hn]
  | append_singleton tokens t ih =>
    obtain ⟨front, u, rfl, hroot, hfront⟩ := forest_eq_concat (h.trans hn)
    obtain ⟨front', u', rfl, hroot', hfront'⟩ := forest_eq_concat hn
    have hsame := ih (hfront.trans hfront'.symm) hfront'
    -- the roots are the same token, so the children are as many
    have hlength : u.children.length = u'.children.length := by
      rw [length_children, length_children, hroot, hroot']
    obtain ⟨rfl, hchildren⟩ := List.append_inj' hsame hlength
    rw [ext_root_children (hroot.trans hroot'.symm) hchildren]

end Tree

open Calculator.Tree

namespace Postfix

/-! ### Counting -/

/-- The number of numbers among some tokens. -/
def numbers (tokens : List Token) : Nat :=
  tokens.countP fun
    | .number _ => true
    | _ => false

theorem numbers_append (first second : List Token) :
    numbers (first ++ second) = numbers first + numbers second :=
  List.countP_append ..

theorem numbers_postorder (t : Tree) : numbers t.postorder = operators t.postorder + 1 := by
  induction t with
  | number v => rfl
  | binary op l r ihl ihr =>
    have hnumbers : numbers [.operator op] = 0 := rfl
    have hoperators : operators [.operator op] = 1 := rfl
    simp only [postorder, numbers_append, operators_append, ihl, ihr, hnumbers, hoperators]
    omega
  | call f name x ih =>
    have hnumbers : numbers [.function f name] = 0 := rfl
    have hoperators : operators [.function f name] = 0 := rfl
    simp only [postorder, numbers_append, operators_append, ih, hnumbers, hoperators]

theorem numbers_forest (trees : List Tree) :
    numbers (forest trees) = operators (forest trees) + trees.length := by
  induction trees with
  | nil => rfl
  | cons t trees ih =>
    rw [forest_cons, numbers_append, operators_append, ih, numbers_postorder, List.length_cons]
    omega

/-- Every token has its operands: in front of it there are as many values, a number making one and
an operator making one of two. -/
def Supplied (tokens : List Token) : Prop :=
  ∀ i, (h : i < tokens.length) →
    operators (tokens.take i) + tokens[i].operands ≤ numbers (tokens.take i)

instance (tokens : List Token) : Decidable (Supplied tokens) :=
  inferInstanceAs (Decidable (∀ i, (h : i < tokens.length) → _))

theorem supplied_nil : Supplied [] := by
  intro i h
  exact absurd h (Nat.not_lt_zero i)

theorem supplied_concat {tokens : List Token} {t : Token} :
    Supplied (tokens ++ [t]) ↔ Supplied tokens ∧
      operators tokens + t.operands ≤ numbers tokens := by
  have hlength : (tokens ++ [t]).length = tokens.length + 1 := by simp
  constructor
  · intro h
    refine ⟨fun i hi => ?_, ?_⟩
    · have hfront := h i (by omega)
      rwa [List.getElem_append_left hi, List.take_append_of_le_length (by omega)] at hfront
    · simpa using h tokens.length (by omega)
  · rintro ⟨hfront, hlast⟩ i hi
    by_cases hlt : i < tokens.length
    · rw [List.getElem_append_left hlt, List.take_append_of_le_length (by omega)]
      exact hfront i hlt
    · obtain rfl : i = tokens.length := by omega
      simpa using hlast

/-- **A program is a forest exactly if every token has its operands.** -/
theorem supplied_iff {tokens : List Token} (hsteps : ∀ t ∈ tokens, t.IsStep) :
    Supplied tokens ↔ ∃ trees, forest trees = tokens := by
  induction tokens using List.reverseRecOn with
  | nil => exact iff_of_true supplied_nil ⟨[], rfl⟩
  | append_singleton tokens t ih =>
    have ih := ih fun u hu => hsteps u (List.mem_append_left _ hu)
    rw [supplied_concat]
    constructor
    · rintro ⟨hsupplied, hoperands⟩
      obtain ⟨trees, rfl⟩ := ih.mp hsupplied
      rw [numbers_forest] at hoperands
      -- the last trees become the children of a new one
      obtain ⟨front, last, rfl, hlast⟩ : ∃ front last, trees = front ++ last ∧
          last.length = t.operands :=
        ⟨trees.take (trees.length - t.operands), trees.drop (trees.length - t.operands),
          (List.take_append_drop _ _).symm, by rw [List.length_drop]; omega⟩
      obtain ⟨u, hroot, hchildren⟩ := exists_root_children (hsteps t (by simp)) hlast
      refine ⟨front ++ [u], ?_⟩
      rw [forest_append, forest_cons, forest_nil, List.append_nil, postorder_eq, hroot, hchildren,
        forest_append, List.append_assoc]
    · rintro ⟨trees, htrees⟩
      obtain ⟨front, u, rfl, hroot, rfl⟩ := forest_eq_concat htrees
      refine ⟨ih.mpr ⟨_, rfl⟩, ?_⟩
      rw [numbers_forest, List.length_append, length_children, hroot]
      omega

/-- A token lacks operands, and it is the first one behind `front`, where every token has its
own. -/
structure FirstLacking (tokens front : List Token) (t : Token) : Prop where
  isPrefix : front ++ [t] <+: tokens
  supplied : Supplied front
  lacks : numbers front < operators front + t.operands

theorem FirstLacking.append {tokens front : List Token} {t : Token}
    (h : FirstLacking tokens front t) (more : List Token) : FirstLacking (tokens ++ more) front t :=
  ⟨h.isPrefix.trans (List.prefix_append _ _), h.supplied, h.lacks⟩

theorem Supplied.operands_le {tokens front : List Token} {t : Token} (h : Supplied tokens)
    (hbehind : front ++ [t] <+: tokens) : operators front + t.operands ≤ numbers front := by
  obtain ⟨more, rfl⟩ := hbehind
  have hi : front.length < (front ++ [t] ++ more).length := by
    simp only [List.length_append, List.length_singleton]
    omega
  simpa using h front.length hi

theorem FirstLacking.not_supplied {tokens front : List Token} {t : Token}
    (h : FirstLacking tokens front t) : ¬ Supplied tokens := by
  intro hsupplied
  have hoperands := hsupplied.operands_le h.isPrefix
  have hlacks := h.lacks
  omega

/-- Where the first token that lacks operands is behind one list, it is behind no longer one. -/
theorem FirstLacking.length_le {tokens front front' : List Token} {t t' : Token}
    (h : FirstLacking tokens front t) (h' : FirstLacking tokens front' t') :
    front'.length ≤ front.length := by
  by_contra hlonger
  have hinside : front ++ [t] <+: front' :=
    List.prefix_of_prefix_length_le h.isPrefix ((List.prefix_append _ _).trans h'.isPrefix) (by
      simp only [List.length_append, List.length_singleton]
      omega)
  exact FirstLacking.not_supplied ⟨hinside, h.supplied, h.lacks⟩ h'.supplied

theorem FirstLacking.unique {tokens front front' : List Token} {t t' : Token}
    (h : FirstLacking tokens front t) (h' : FirstLacking tokens front' t') :
    front = front' ∧ t = t' := by
  have hlength := Nat.le_antisymm (h'.length_le h) (h.length_le h')
  have hsame : front ++ [t] = front' ++ [t'] :=
    (List.prefix_of_prefix_length_le h.isPrefix h'.isPrefix (by simp [hlength])).eq_of_length
      (by simp [hlength])
  obtain ⟨hfront, ht⟩ := List.append_inj hsame hlength
  exact ⟨hfront, List.singleton_inj.mp ht⟩

theorem exists_firstLacking {tokens : List Token} (h : ¬ Supplied tokens) :
    ∃ front t, FirstLacking tokens front t := by
  induction tokens using List.reverseRecOn with
  | nil => exact absurd supplied_nil h
  | append_singleton tokens t ih =>
    by_cases hsupplied : Supplied tokens
    · refine ⟨tokens, t, List.prefix_rfl, hsupplied, ?_⟩
      by_contra hoperands
      exact h (supplied_concat.mpr ⟨hsupplied, by omega⟩)
    · obtain ⟨front, u, hlacking⟩ := ih hsupplied
      exact ⟨front, u, hlacking.append [t]⟩

/-! ### Running -/

variable (mode : AngleMode)

/-- The first factorial of some trees that is not defined. -/
def firstFault (trees : List Tree) : Option Float :=
  (trees.flatMap (faults mode)).head?

/-- The value that is shown of some trees: that of the first one, or zero if there is none. -/
def shown (trees : List Tree) : Float :=
  (trees.head?.map (Tree.value mode)).getD 0.0

theorem run_forest_lenient (trees : List Tree) (stack : List Float) (tokens : List Token) :
    run mode false stack (forest trees ++ tokens) =
      run mode false ((trees.map (Tree.value mode)).reverse ++ stack) tokens := by
  induction trees generalizing stack with
  | nil => rfl
  | cons t trees ih =>
    rw [forest_cons, List.append_assoc, run_postorder, eval_lenient]
    change run mode false (t.value mode :: stack) (forest trees ++ tokens) = _
    rw [ih, List.map_cons, List.reverse_cons, List.append_assoc, List.singleton_append]

theorem run_forest_strict (trees : List Tree) (stack : List Float) (tokens : List Token) :
    run mode true stack (forest trees ++ tokens) =
      match firstFault mode trees with
      | some v => .error (.factorialUndefined v)
      | none => run mode true ((trees.map (Tree.value mode)).reverse ++ stack) tokens := by
  induction trees generalizing stack with
  | nil => rfl
  | cons t trees ih =>
    rw [forest_cons, List.append_assoc, run_postorder, eval_strict, firstFault, List.flatMap_cons,
      List.head?_append]
    cases (t.faults mode).head? with
    | some v => rfl
    | none =>
      change run mode true (t.value mode :: stack) (forest trees ++ tokens) = _
      rw [ih, firstFault, List.map_cons, List.reverse_cons, List.append_assoc,
        List.singleton_append]
      rfl

variable {mode}

theorem step_of_lacking {strict : Bool} {stack : List Float} {t : Token} (ht : t.IsStep)
    (h : stack.length < t.operands) : step mode strict stack t = .error (.missingOperand t) := by
  cases t with
  | number v => exact absurd h (Nat.not_lt_zero _)
  | function f name =>
    obtain rfl := List.length_eq_zero_iff.mp (Nat.lt_one_iff.mp h)
    rfl
  | operator op =>
    rcases stack with _ | ⟨b, _ | ⟨a, stack⟩⟩
    · rfl
    · rfl
    · exact absurd h (by simp [Token.operands])
  | opening | closing | «foreign» => simp [Token.IsStep, Token.isKnown, Token.isParenthesis] at ht

/-! ### Values -/

theorem result_values (strict : Bool) (trees : List Tree) :
    result strict (trees.map (Tree.value mode)).reverse =
      if strict && 1 < trees.length then .error (.excessOperands trees.length) else
        .ok (shown mode trees) := by
  rw [result, List.length_reverse, List.length_map, List.getLast?_reverse, List.head?_map, shown]

theorem value_forest_lenient (trees : List Tree) :
    value mode false (forest trees) = .ok (shown mode trees) := by
  have hrun := run_forest_lenient mode trees [] []
  rw [List.append_nil, List.append_nil] at hrun
  rw [value, hrun]
  exact result_values false trees

theorem value_forest_strict (trees : List Tree) :
    value mode true (forest trees) =
      match firstFault mode trees with
      | some v => .error (.factorialUndefined v)
      | none =>
        if 1 < trees.length then .error (.excessOperands trees.length) else
          .ok (shown mode trees) := by
  have hrun := run_forest_strict mode trees [] []
  rw [List.append_nil, List.append_nil] at hrun
  rw [value, hrun]
  cases firstFault mode trees with
  | some v => rfl
  | none =>
    have hresult := @result_values mode true trees
    simp only [Bool.true_and, decide_eq_true_eq] at hresult
    exact hresult

section Lacking

variable {trees : List Tree} {t : Token} (ht : t.IsStep) (hlacks : trees.length < t.operands)
    (rest : List Token)

include ht hlacks

theorem value_lacking_lenient :
    value mode false (forest trees ++ t :: rest) = .error (.missingOperand t) := by
  have hstep : step mode false ((trees.map (Tree.value mode)).reverse ++ []) t =
      .error (.missingOperand t) :=
    step_of_lacking ht (by simpa using hlacks)
  rw [value, run_forest_lenient, run_cons, hstep]
  rfl

theorem value_lacking_strict :
    value mode true (forest trees ++ t :: rest) =
      match firstFault mode trees with
      | some v => .error (.factorialUndefined v)
      | none => .error (.missingOperand t) := by
  have hstep : step mode true ((trees.map (Tree.value mode)).reverse ++ []) t =
      .error (.missingOperand t) :=
    step_of_lacking ht (by simpa using hlacks)
  rw [value, run_forest_strict]
  cases firstFault mode trees with
  | some v => rfl
  | none =>
    change (run mode true _ (t :: rest)).bind _ = _
    rw [run_cons, hstep]
    rfl

end Lacking

/-- What a program of which a token lacks operands is made of. -/
theorem FirstLacking.exists_forest {tokens front : List Token} {t : Token}
    (h : FirstLacking tokens front t) (hsteps : ∀ u ∈ tokens, u.IsStep) :
    ∃ trees rest, forest trees = front ∧ tokens = forest trees ++ t :: rest ∧
      trees.length < t.operands ∧ t.IsStep := by
  obtain ⟨rest, rfl⟩ := h.isPrefix
  obtain ⟨trees, rfl⟩ := (supplied_iff fun u hu => hsteps u (by simp [hu])).mp h.supplied
  have hlacks := h.lacks
  rw [numbers_forest] at hlacks
  exact ⟨trees, rest, rfl, by simp, by omega, hsteps t (by simp)⟩

/-- **A program computes its forest.** Either every token has its operands, and the program is the
postorders of one list of trees, as many as it has more numbers than operators; or there is a first
token that lacks operands, behind such a list. Leniently, the value is that of the first tree, or
zero without trees, and the first token that lacks operands is told otherwise. Strictly, the first
factorial that is not defined comes before both, and several trees are told by their number. -/
theorem value_of_program (mode : AngleMode) {tokens : List Token}
    (hsteps : ∀ t ∈ tokens, t.IsStep) :
    ((Supplied tokens ∧ ∃! trees, forest trees = tokens) ∨
      (¬ Supplied tokens ∧ ∃! lacking : List Token × Token,
        FirstLacking tokens lacking.1 lacking.2)) ∧
    (∀ trees, forest trees = tokens →
      operators tokens + trees.length = numbers tokens ∧
      value mode false tokens = .ok (shown mode trees) ∧
      value mode true tokens =
        match firstFault mode trees with
        | some v => .error (.factorialUndefined v)
        | none =>
          if 1 < trees.length then .error (.excessOperands trees.length) else
            .ok (shown mode trees)) ∧
    (∀ front t, FirstLacking tokens front t →
      value mode false tokens = .error (.missingOperand t) ∧
      ∃! trees, forest trees = front ∧
        value mode true tokens =
          match firstFault mode trees with
          | some v => .error (.factorialUndefined v)
          | none => .error (.missingOperand t)) ∧
    (∀ t, (Error.missingOperand t).message = "Missing operand for '" ++ t.text ++ "'") ∧
    ∀ k, (Error.excessOperands k).message = "Expression leaves " ++ toString k ++
      " values; missing an operator?" := by
  refine ⟨?_, ?_, ?_, fun _ => rfl, fun _ => rfl⟩
  · by_cases hsupplied : Supplied tokens
    · obtain ⟨trees, htrees⟩ := (supplied_iff hsteps).mp hsupplied
      exact Or.inl ⟨hsupplied, trees, htrees, fun others hothers =>
        forest_injective (hothers.trans htrees.symm)⟩
    · obtain ⟨front, t, hlacking⟩ := exists_firstLacking hsupplied
      refine Or.inr ⟨hsupplied, (front, t), hlacking, ?_⟩
      rintro ⟨front', t'⟩ hlacking'
      obtain ⟨rfl, rfl⟩ := hlacking.unique hlacking'
      rfl
  · rintro trees rfl
    exact ⟨(numbers_forest trees).symm, value_forest_lenient trees, value_forest_strict trees⟩
  · intro front t hlacking
    obtain ⟨trees, rest, rfl, rfl, hlacks, ht⟩ := hlacking.exists_forest hsteps
    exact ⟨value_lacking_lenient ht hlacks rest, trees, ⟨rfl, value_lacking_strict ht hlacks rest⟩,
      fun others hothers => forest_injective hothers.1⟩

/-- A sum with a factorial that is not defined, and a product behind it that lacks an operand. -/
theorem value_of_program_sum :
    value .radian false [.number 5.0, .number (-1.0), .function .factorial "n!", .operator .add,
        .operator .mul, .number 7.0] = .error (.missingOperand (.operator .mul)) ∧
      value .radian true [.number 5.0, .number (-1.0), .function .factorial "n!", .operator .add,
        .operator .mul, .number 7.0] = .error (.factorialUndefined (-1.0)) := by
  have hsteps : ∀ t ∈ [Token.number 5.0, .number (-1.0), .function .factorial "n!", .operator .add,
      .operator .mul, .number 7.0], t.IsStep := by
    simp [Token.IsStep, Token.isKnown, Token.isParenthesis]
  obtain ⟨-, -, hlacking, -, -⟩ := value_of_program .radian hsteps
  have hfirst :
      FirstLacking [.number 5.0, .number (-1.0), .function .factorial "n!", .operator .add,
        .operator .mul, .number 7.0] [.number 5.0, .number (-1.0), .function .factorial "n!",
        .operator .add] (.operator .mul) :=
    ⟨by simp, by decide, by decide⟩
  obtain ⟨hlenient, trees, ⟨hforest, hstrict⟩, -⟩ := hlacking _ _ hfirst
  obtain rfl : trees = [.binary .add (.number 5.0) (.call .factorial "n!" (.number (-1.0)))] :=
    forest_injective hforest
  have hfault :
      firstFault .radian [.binary .add (.number 5.0) (.call .factorial "n!" (.number (-1.0)))] =
      some (-1.0) := by
    decide +kernel
  rw [hfault] at hstrict
  exact ⟨hlenient, hstrict⟩

end Postfix

end Calculator

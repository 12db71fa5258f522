import Calculator.Proofs.Number.Natural
import Calculator.Proofs.Number.Products

/-! # Factorials

The factorial of a natural number is multiplied out from left to right, and every product is rounded
(`leftProduct`). Whoever computes it stops at infinity, since no later factor changes that
(`productFrom_eq_timesAll`); so no more than 170 factors are ever looked at (`Rounds.le`), however
large the number is. All other numbers have no factorial (`HasNoFactorial`): what is no number, the
infinities, negative numbers and fractions (`factorial_eq_leftProduct`).
-/

namespace Calculator.Number

/-! ### Numbers without a factorial -/

/-- The number has no factorial: it is NaN, infinite, negative or no integer. -/
def HasNoFactorial (v : Float) : Prop :=
  v.isNaN = true ∨ v.isInf = true ∨ v < 0.0 ∨ ¬ ∃ z : ℤ, toRat v = z

theorem natural?_eq_none_iff {v : Float} : natural? v = none ↔ HasNoFactorial v := by
  rw [Option.eq_none_iff_forall_ne_some]
  constructor
  · intro hnone
    by_cases hfinite : v.isFinite = true
    · refine Or.inr (Or.inr ?_)
      rw [lt_zero_iff hfinite, or_iff_not_imp_right, not_not]
      rintro ⟨z, hz⟩
      by_contra hnonneg
      obtain ⟨n, rfl⟩ :=
        Int.eq_ofNat_of_zero_le (a := z) (by rw [hz] at hnonneg; exact_mod_cast not_lt.mp hnonneg)
      exact hnone n (natural?_eq_some_iff.mpr ⟨hfinite, hz⟩)
    · by_cases hnan : v.isNaN = true
      · exact Or.inl hnan
      · exact Or.inr (Or.inl (isInf_of_not_isFinite hfinite hnan))
  · intro h n hn
    obtain ⟨hfinite, hvalue⟩ := natural?_eq_some_iff.mp hn
    rcases h with hnan | hinf | hnegative | hfraction
    · rw [isNaN_of_isFinite hfinite] at hnan
      contradiction
    · rw [isInf_of_isFinite hfinite] at hinf
      contradiction
    · rw [lt_zero_iff hfinite, hvalue] at hnegative
      exact absurd hnegative (by simp)
    · exact hfraction ⟨n, hvalue⟩

/-! ### Products -/

/-- A product with some natural numbers more, from left to right. Every product is rounded. -/
def timesAll (product : Float) (factors : List ℕ) : Float :=
  factors.foldl (fun p k => p * Float.ofNat k) product

/-- The product `1.0 · 2 · 3 ⋯ n`, from left to right. -/
def leftProduct (n : ℕ) : Float :=
  timesAll 1.0 (List.range' 2 (n - 1))

theorem timesAll_cons (product : Float) (k : ℕ) (factors : List ℕ) :
    timesAll product (k :: factors) = timesAll (product * Float.ofNat k) factors := rfl

theorem timesAll_of_isInf {product : Float} (h : product.isInf = true) {factors : List ℕ}
    (hfactors : ∀ k ∈ factors, k ≠ 0) : timesAll product factors = product := by
  induction factors with
  | nil => rfl
  | cons k factors ih =>
    obtain ⟨hk, hrest⟩ := List.forall_mem_cons.mp hfactors
    rw [timesAll_cons, infinite_mul_ofNat h hk, ih hrest]

/-- **To stop at infinity does not change the product.** -/
theorem productFrom_eq_timesAll (product : Float) {i : ℕ} (hi : i ≠ 0) (n : ℕ) :
    productFrom product i n = timesAll product (List.range' i (n + 1 - i)) := by
  fun_induction productFrom product i n with
  | case1 product i hlt =>
    rw [Nat.sub_eq_zero_of_le (by omega)]
    rfl
  | case2 product i hle next hinf =>
    rw [show n + 1 - i = n - i + 1 by omega, List.range'_succ, timesAll_cons]
    refine (timesAll_of_isInf hinf fun k hk => ?_).symm
    have := (List.mem_range'_1.mp hk).1
    omega
  | case3 product i hle next hfinite ih =>
    rw [show n + 1 - i = n + 1 - (i + 1) + 1 by omega, List.range'_succ, timesAll_cons]
    exact ih (by omega)

theorem leftProduct_succ {n : ℕ} (hn : n ≠ 0) :
    leftProduct (n + 1) = leftProduct n * Float.ofNat (n + 1) := by
  obtain ⟨m, rfl⟩ := Nat.exists_eq_succ_of_ne_zero hn
  rw [leftProduct, Nat.add_sub_cancel, List.range'_concat, timesAll, List.foldl_append]
  rw [show 2 + 1 * m = m + 1 + 1 by omega]
  rfl

/-- The last product that is finite. -/
theorem leftProduct_170 : leftProduct 170 = 7.257415615307994e306 := by decide +kernel

theorem isInf_leftProduct : (leftProduct 171).isInf = true := by
  rw [leftProduct_succ (by decide), leftProduct_170]
  decide +kernel

/-! ### Rounds -/

/-- From a product and the next factor on, the factors up to `n` are multiplied one in each round;
the last round is the one with `n`, or the first one with an infinite product. -/
inductive Rounds (n : ℕ) : ℕ → Float → ℕ → Float → Prop
  | none {product : Float} {i : ℕ} (hlt : n < i) : Rounds n 0 product i product
  | last {product : Float} {i : ℕ} (hle : i ≤ n) (hinf : (product * Float.ofNat i).isInf = true) :
    Rounds n 1 product i (product * Float.ofNat i)
  | more {product result : Float} {i k : ℕ} (hle : i ≤ n)
    (hinf : ¬ (product * Float.ofNat i).isInf = true)
    (hrest : Rounds n k (product * Float.ofNat i) (i + 1) result) :
      Rounds n (k + 1) product i result

theorem exists_rounds (product : Float) (i n : ℕ) :
    ∃ k, Rounds n k product i (productFrom product i n) := by
  fun_induction productFrom product i n with
  | case1 product i hlt => exact ⟨0, .none hlt⟩
  | case2 product i hle next hinf => exact ⟨1, .last (by omega) hinf⟩
  | case3 product i hle next hfinite ih =>
    obtain ⟨k, hk⟩ := ih
    exact ⟨k + 1, .more (by omega) hfinite hk⟩

theorem Rounds.isInf_eq_false {n k i : ℕ} {product result : Float} (h : Rounds n k product i result)
    {j : ℕ} (hpos : 0 < j) (hj : j < k) : ¬ (timesAll product (List.range' i j)).isInf = true := by
  induction h generalizing j with
  | none => omega
  | last => omega
  | more hle hinf hrest ih =>
    obtain ⟨j, rfl⟩ := Nat.exists_eq_add_one.mpr hpos
    rw [List.range'_succ, timesAll_cons]
    rcases Nat.eq_zero_or_pos j with rfl | hpos'
    · exact hinf
    · exact ih hpos' (by omega)

/-- **A factorial takes no more than 170 rounds.** -/
theorem Rounds.le {n k : ℕ} {result : Float} (h : Rounds n k 1.0 2 result) : k ≤ 170 := by
  by_contra hlt
  exact h.isInf_eq_false (by decide) (by omega) isInf_leftProduct

/-! ### Factorials -/

/-- **A number has no factorial exactly if it is NaN, infinite, negative or no integer; the
factorial of any other number is the full product up to it**, from left to right, and is found after
170 rounds at most. -/
theorem factorial_eq_leftProduct (v : Float) :
    (HasNoFactorial v ∧ factorial v = .error (.factorialUndefined v)) ∨
      ∃ n : ℕ, ¬ HasNoFactorial v ∧ toRat v = n ∧ factorial v = .ok (leftProduct n) ∧
        ∃ k ≤ 170, Rounds n k 1.0 2 (leftProduct n) := by
  cases hnatural : natural? v with
  | none =>
    refine Or.inl ⟨natural?_eq_none_iff.mp hnatural, ?_⟩
    rw [factorial, hnatural]
  | some n =>
    have hdefined : ¬ HasNoFactorial v := by
      rw [← natural?_eq_none_iff, hnatural]
      exact Option.some_ne_none n
    have hproduct : productFrom 1.0 2 n = leftProduct n := productFrom_eq_timesAll 1.0 (by decide) n
    obtain ⟨k, hrounds⟩ := exists_rounds 1.0 2 n
    rw [hproduct] at hrounds
    refine Or.inr ⟨n, hdefined, (natural?_eq_some_iff.mp hnatural).2, ?_, k, hrounds.le, hrounds⟩
    rw [factorial, hnatural, ← hproduct]

end Calculator.Number

import Calculator.Memory
import Calculator.Number.Elementary
import Calculator.Proofs.Number.Sums

/-! # When the register is not a number

An operand that is not a number counts as zero, so none can spoil the register. But the register may
be infinite, and then an infinity may cancel it (`Step.Cancels`): what comes of that is not a
number, whatever is added to it later. A step makes a register that is a number into one that is not
only in this way (`isNaN_apply_iff`). So the register is not a number after some steps exactly if
two infinities cancelled since it was cleared (`isNaN_after_iff`).
-/

namespace Calculator.Memory

/-! ### Operands -/

theorem isNaN_usable (v : Float) : (usable v).isNaN = false := by
  unfold usable
  split
  · decide
  next h => exact Bool.not_eq_true _ ▸ h

theorem usable_of_isInf {v : Float} (h : v.isInf = true) : usable v = v := by
  rw [usable, if_neg]
  rw [Number.isNaN_of_isInf h]
  decide

theorem isInf_usable (v : Float) : (usable v).isInf = v.isInf := by
  unfold usable
  split
  next h =>
    have hinf : v.isInf = false := by
      rw [← Bool.not_eq_true]
      intro hinf
      rw [Number.isNaN_of_isInf hinf] at h
      contradiction
    rw [hinf]
    decide
  next => rfl

/-! ### Steps -/

/-- What can be done with the register. -/
inductive Step where
  | add (v : Float)
  | subtract (v : Float)
  | read
  | clear

namespace Step

/-- The register after a step. -/
def apply (memory : Memory) : Step → Memory
  | add v => memory.add v
  | subtract v => memory.subtract v
  | read => memory
  | clear => empty

/-- The register is infinite, and an infinity of the other sign is added to it or one of the same
sign is subtracted. -/
def Cancels (memory : Memory) : Step → Prop
  | add v => memory.value.isInf = true ∧ v.isInf = true ∧
    Number.isNegative memory.value ≠ Number.isNegative v
  | subtract v => memory.value.isInf = true ∧ v.isInf = true ∧
    Number.isNegative memory.value = Number.isNegative v
  | read | clear => False

/-- **A step makes a register into one that is not a number only if two infinities cancel.** -/
theorem isNaN_apply_iff (memory : Memory) (step : Step) :
    (step.apply memory).value.isNaN = true ↔
      step.Cancels memory ∨ (memory.value.isNaN = true ∧ step ≠ clear) := by
  cases step with
  | add v =>
    change (memory.value + usable v).isNaN = true ↔ _
    have hsign : (v.isInf = true ∧ Number.isNegative memory.value ≠ Number.isNegative (usable v)) ↔
        (v.isInf = true ∧ Number.isNegative memory.value ≠ Number.isNegative v) :=
      and_congr_right fun h => by rw [usable_of_isInf h]
    rw [Number.isNaN_add_iff, isNaN_usable, isInf_usable, hsign]
    simp [Cancels, or_comm]
  | subtract v =>
    change (memory.value - usable v).isNaN = true ↔ _
    have hsign : (v.isInf = true ∧ Number.isNegative memory.value = Number.isNegative (usable v)) ↔
        (v.isInf = true ∧ Number.isNegative memory.value = Number.isNegative v) :=
      and_congr_right fun h => by rw [usable_of_isInf h]
    rw [Number.isNaN_sub_iff, isNaN_usable, isInf_usable, hsign]
    simp [Cancels, or_comm]
  | read => simp [apply, Cancels]
  | clear =>
    refine iff_of_false ?_ (by simp [Cancels])
    change ¬ empty.value.isNaN = true
    decide

end Step

/-! ### Runs -/

/-- A new register after steps one after another. -/
def after (steps : List Step) : Memory :=
  steps.foldl Step.apply empty

theorem after_concat (steps : List Step) (step : Step) :
    after (steps ++ [step]) = step.apply (after steps) := by
  rw [after, List.foldl_append]
  rfl

/-- **The register is not a number after some steps exactly if two infinities cancelled since it was
cleared.** -/
theorem isNaN_after_iff (steps : List Step) :
    (after steps).value.isNaN = true ↔
      ∃ before step rest, steps = before ++ step :: rest ∧ step.Cancels (after before) ∧
      Step.clear ∉ rest := by
  induction steps using List.reverseRecOn with
  | nil =>
    refine iff_of_false (by decide) ?_
    rintro ⟨before, step, rest, h, -⟩
    simp at h
  | append_singleton steps step ih =>
    rw [after_concat, Step.isNaN_apply_iff, ih]
    constructor
    · rintro (hcancels | ⟨⟨before, early, rest, rfl, hcancels, hrest⟩, hstep⟩)
      · exact ⟨steps, step, [], rfl, hcancels, List.not_mem_nil⟩
      · refine ⟨before, early, rest ++ [step], by simp, hcancels, ?_⟩
        simp [hrest, hstep.symm]
    · rintro ⟨before, early, rest, heq, hcancels, hrest⟩
      rcases List.eq_nil_or_concat rest with rfl | ⟨rest, last, rfl⟩
      · obtain ⟨rfl, h⟩ := List.append_inj' heq rfl
        obtain rfl := (List.cons.inj h).1
        exact Or.inl hcancels
      · have heq' : steps ++ [step] = (before ++ early :: rest) ++ [last] := by simpa using heq
        obtain ⟨rfl, h⟩ := List.append_inj' heq' rfl
        obtain rfl := (List.cons.inj h).1
        simp only [List.concat_eq_append, List.mem_append, List.mem_singleton, not_or] at hrest
        exact Or.inr ⟨⟨before, early, rest, rfl, hcancels, hrest.1⟩, fun h => hrest.2 h.symm⟩

/-- Infinity is added to a new register and subtracted again. -/
theorem isNaN_after_infinity :
    (after [.add Number.infinity, .subtract Number.infinity]).value.isNaN = true := by
  decide +kernel

end Calculator.Memory

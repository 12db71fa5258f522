/-! # Cutting texts

A text is cut at the first or the last place of a character, or at every place of a character of
some kind. The characters at which it is cut are dropped.
-/

namespace Calculator.Text

/-- What stands in front of the first character `c`, and what stands behind it. Without one,
everything stands in front. -/
def cutAt (c : Char) (cs : List Char) : List Char × List Char :=
  (cs.takeWhile (· != c), (cs.dropWhile (· != c)).drop 1)

/-- What stands in front of the last character `c`, and what stands behind it. Without one,
everything stands behind. -/
def cutAtLast (c : Char) (cs : List Char) : List Char × List Char :=
  ((cutAt c cs.reverse).2.reverse, (cutAt c cs.reverse).1.reverse)

/-- The parts of a text between the characters of some kind. -/
def splitAt (p : Char → Bool) : List Char → List (List Char)
  | [] => [[]]
  | c :: cs =>
    if p c then [] :: splitAt p cs
    else match splitAt p cs with
    | [] => [[c]]
    | part :: parts => (c :: part) :: parts

/-- **A text is what stands in front of a character, the character, and what stands behind it.** -/
theorem append_cutAt {c : Char} {cs : List Char} (h : c ∈ cs) :
    (cutAt c cs).1 ++ c :: (cutAt c cs).2 = cs := by
  induction cs with
  | nil => simp at h
  | cons d cs ih =>
    by_cases hd : d = c
    · simp [cutAt, hd]
    · have : c ∈ cs := by
        rcases List.mem_cons.mp h with h | h
        · exact absurd h.symm hd
        · exact h
      have ih := ih this
      simp only [cutAt] at ih ⊢
      rw [List.takeWhile_cons_of_pos (by simp [hd]), List.dropWhile_cons_of_pos (by simp [hd]),
        List.cons_append, ih]

end Calculator.Text

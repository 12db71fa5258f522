import Calculator.Proofs.Lexing

/-! # The spelling that is called

A spelling is called at a position of a text if it stands there with a `(` behind it, blanks aside
(`CalledAt`). No two spellings are called at one position: of two that stand there one begins with
the other, and the shorter one would have the rest of the longer one behind it and no `(`. So
whoever tries the spellings one after another finds the same one in every order of the table
(`callIn?_perm`), and it is the one that is called there (`callIn?_of_calledAt`).
-/

namespace Calculator.Lexeme

open Text

variable {text spelling : List Char} {position : ℕ}

theorem opensCall_iff {cs : List Char} :
    opensCall cs = true ↔ ∃ blanks back, cs = blanks ++ '(' :: back ∧ ∀ c ∈ blanks,
      isBlank c = true := by
  constructor
  · intro h
    obtain ⟨back, hback⟩ := List.head?_eq_some_iff.mp (beq_iff_eq.mp h)
    refine ⟨cs.takeWhile isBlank, back, ?_, fun c hc => List.mem_takeWhile_imp hc⟩
    rw [← hback, List.takeWhile_append_dropWhile]
  · rintro ⟨blanks, back, rfl, hblanks⟩
    rw [opensCall_blanks hblanks, opensCall_cons (by decide)]
    rfl

/-- A spelling stands at a position of a text, and a `(` behind it, blanks aside. -/
def CalledAt (text : List Char) (position : ℕ) (spelling : List Char) : Prop :=
  ∃ front blanks back, text = front ++ spelling ++ blanks ++ '(' :: back ∧ front.length = position ∧
    ∀ c ∈ blanks, isBlank c = true

theorem calledAt_iff_drop :
    CalledAt text position spelling ↔ ∃ rest, text.drop position = spelling ++ rest ∧
      opensCall rest = true := by
  constructor
  · rintro ⟨front, blanks, back, rfl, rfl, hblanks⟩
    refine ⟨blanks ++ '(' :: back, ?_, opensCall_iff.mpr ⟨blanks, back, rfl, hblanks⟩⟩
    rw [List.append_assoc, List.append_assoc, List.drop_left]
  · rintro ⟨rest, hdrop, hopens⟩
    obtain ⟨blanks, back, rfl, hblanks⟩ := opensCall_iff.mp hopens
    have hlength : position ≤ text.length := by
      by_contra hlt
      rw [List.drop_eq_nil_of_le (by omega)] at hdrop
      simp at hdrop
    refine ⟨text.take position, blanks, back, ?_, List.length_take_of_le hlength, hblanks⟩
    rw [List.append_assoc, List.append_assoc, ← hdrop, List.take_append_drop]

theorem callIn?_perm {table : List (String × MathFunction)}
    (htable : table.Perm MathFunction.spellings) (cs : List Char) :
    callIn? table cs = callAt? cs := by
  apply Option.ext
  rintro ⟨spelling, f⟩
  rw [callIn?_eq_some_iff htable, callAt?_eq_some_iff]

theorem callAt?_drop_eq_some_iff {s : String × MathFunction} :
    callAt? (text.drop position) = some (s.1.toList, s.2) ↔
      s ∈ MathFunction.spellings ∧ CalledAt text position s.1.toList := by
  rw [callAt?_eq_some_iff, String.ofList_toList, calledAt_iff_drop]

/-- **At each position of a text at most one spelling is called, and in every order of the table it
is the one that is found there.** -/
theorem callIn?_of_calledAt (text : String) (position : ℕ) :
    (∀ s ∈ MathFunction.spellings, ∀ t ∈ MathFunction.spellings,
      CalledAt text.toList position s.1.toList → CalledAt text.toList position t.1.toList → s = t) ∧
    ∀ table : List (String × MathFunction), table.Perm MathFunction.spellings →
      callIn? table (text.toList.drop position) = callAt? (text.toList.drop position) ∧
      ∀ s, callIn? table (text.toList.drop position) = some (s.1.toList, s.2) ↔
        s ∈ MathFunction.spellings ∧ CalledAt text.toList position s.1.toList := by
  constructor
  · intro s hs t ht hcalled hcalled'
    obtain ⟨rest, hdrop, hopens⟩ := calledAt_iff_drop.mp hcalled
    obtain ⟨rest', hdrop', hopens'⟩ := calledAt_iff_drop.mp hcalled'
    exact spelling_unique hs ht (hdrop.symm.trans hdrop') hopens hopens'
  · intro table htable
    rw [callIn?_perm htable]
    exact ⟨rfl, fun s => callAt?_drop_eq_some_iff⟩

/-- A call behind a digit, which is looked for in the table from its end. One position on, its rest
is called. -/
theorem callIn?_of_calledAt_nested :
    CalledAt "2asin \t(1)".toList 1 "asin".toList ∧
      callIn? MathFunction.spellings.reverse ("2asin \t(1)".toList.drop 1) =
        some ("asin".toList, .asin) ∧
      CalledAt "2asin \t(1)".toList 2 "sin".toList ∧
      callIn? MathFunction.spellings.reverse ("2asin \t(1)".toList.drop 2) =
        some ("sin".toList, .sin) := by
  have hblanks : ∀ c ∈ [' ', '\t'], isBlank c = true := List.all_eq_true.mp rfl
  have hasin : CalledAt "2asin \t(1)".toList 1 "asin".toList :=
    ⟨['2'], [' ', '\t'], ['1', ')'], by decide, rfl, hblanks⟩
  have hsin : CalledAt "2asin \t(1)".toList 2 "sin".toList :=
    ⟨['2', 'a'], [' ', '\t'], ['1', ')'], by decide, rfl, hblanks⟩
  have hreverse := List.reverse_perm MathFunction.spellings
  refine ⟨hasin, ?_, hsin, ?_⟩
  · exact (((callIn?_of_calledAt "2asin \t(1)" 1).2 _ hreverse).2 ("asin", .asin)).mpr
      ⟨by decide +kernel, hasin⟩
  · exact (((callIn?_of_calledAt "2asin \t(1)" 2).2 _ hreverse).2 ("sin", .sin)).mpr
      ⟨by decide +kernel, hsin⟩

end Calculator.Lexeme

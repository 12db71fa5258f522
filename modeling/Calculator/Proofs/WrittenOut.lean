import Calculator.Proofs.Substitution

/-! # What becomes of a text when its constants are written out

A text and the text with its constants written out go side by side: character by character where
nothing is replaced, and a word beside its digits where something is (`WrittenOut`). No word is
replaced that has a digit or a point next to it (`Apart`). Constants are written out in two passes.
Both keep the texts side by side (`apart_replaceFrom`, `Apart.replaceFrom_euler`), since no digits
that the first one leaves have a word in them, and what the second one finds next to a word is what
stood there before, or such digits (`Beside`).

So writing out never makes a text shorter, and at most seventeen times as long
(`WrittenOut.length_le`, `WrittenOut.length_le_mul`). A character that is no digit and no point has
its place in both texts (`WrittenOut.exists_place`), but the place is not the same when something is
written out in front of it (`WrittenOut.eq_of_length_eq`).
-/

namespace Calculator

open Constant

/-- The second text is the first one with some of its constants written out. -/
inductive WrittenOut : List Char → List Char → Prop where
  | nil : WrittenOut [] []
  | keep (c : Char) {cs ds : List Char} (h : WrittenOut cs ds) : WrittenOut (c :: cs) (c :: ds)
  | replace {k : Constant} (hk : k ∈ all) {cs ds : List Char} (h : WrittenOut cs ds) :
      WrittenOut (k.word ++ cs) (k.digits ++ ds)

theorem cons_of_append_eq_append_cons {α : Type} {first second front back : List α} {c : α}
    (h : first ++ second = front ++ c :: back) :
    (∃ behind, first = front ++ c :: behind ∧ back = behind ++ second) ∨
      ∃ rest, front = first ++ rest ∧ second = rest ++ c :: back := by
  rcases List.append_eq_append_iff.mp h with ⟨rest, hfront, hsecond⟩ | ⟨tail, hfirst, htail⟩
  · exact Or.inr ⟨rest, hfront, hsecond⟩
  · cases tail with
    | nil => exact Or.inr ⟨[], by simpa using hfirst.symm, htail.symm⟩
    | cons d behind =>
      obtain ⟨rfl, rfl⟩ := List.cons.inj htail
      exact Or.inl ⟨behind, hfirst, rfl⟩

namespace Constant

variable {k : Constant}

theorem length_word (hk : k ∈ all) : 1 ≤ k.word.length ∧ k.word.length ≤ 2 := by
  revert k
  decide

theorem length_digits (hk : k ∈ all) : k.digits.length = 17 := by
  revert k
  decide

theorem isNumeric_of_mem_digits (hk : k ∈ all) {d : Char} (hd : d ∈ k.digits) :
    isNumeric d = true := by
  have hall : (all.all fun k => k.digits.all isNumeric) = true := by decide
  exact List.all_eq_true.mp (List.all_eq_true.mp hall k hk) d hd

theorem isNumeric_head_digits (hk : k ∈ all) : k.digits.head?.any isNumeric = true := by
  revert k
  decide

theorem isNumeric_getLast_digits (hk : k ∈ all) : k.digits.getLast?.any isNumeric = true := by
  revert k
  decide

theorem isNumeric_getLast_digits_or (hk : k ∈ all) (before : Option Char) :
    (k.digits.getLast?.or before).any isNumeric = true := by
  have hlast := isNumeric_getLast_digits hk
  cases hdigits : k.digits.getLast? with
  | none =>
    rw [hdigits] at hlast
    contradiction
  | some d => rwa [hdigits] at hlast

theorem touches_of_isNumeric (hk : k ∈ all) {c : Char} (h : isNumeric c = true) :
    k.touches c = true := by
  rcases List.mem_cons.mp hk with rfl | hk
  · exact h
  rcases List.mem_cons.mp hk with rfl | hk
  · simp [piName, isWordLike, h]
  · obtain rfl : k = euler := by simpa using hk
    simp [euler, isWordLike, h]

theorem any_isNumeric_of_touches (hk : k ∈ all) {next : Option Char}
    (h : next.any k.touches = false) : next.any isNumeric = false := by
  cases next with
  | none => rfl
  | some c =>
    rw [Option.any_some] at h ⊢
    rw [← Bool.not_eq_true]
    intro hnumeric
    rw [touches_of_isNumeric hk hnumeric] at h
    contradiction

theorem exists_tail_of_standsAt {before : Option Char} {cs : List Char}
    (h : standsAt before cs k = true) : ∃ tail, cs = k.word ++ tail := by
  simp only [standsAt, Bool.and_eq_true, List.isPrefixOf_iff_prefix] at h
  obtain ⟨tail, htail⟩ := h.1.1
  exact ⟨tail, htail.symm⟩

theorem standsAt_append_iff {before : Option Char} {cs : List Char} :
    standsAt before (k.word ++ cs) k = true ↔ before.any k.touches = false ∧
      cs.head?.any k.touches = false := by
  simp [standsAt]

end Constant

/-! ### Neighbours in both texts -/

/-- A neighbour in the written-out text: the one in the text itself, or a digit or a point. -/
def Beside (old new : Option Char) : Prop :=
  new = old ∨ new.any isNumeric = true

theorem Beside.eq_of_touches {old new : Option Char} (h : Beside old new) {k : Constant}
    (hk : k ∈ all) (htouches : new.any k.touches = false) : new = old := by
  rcases h with h | h
  · exact h
  · rw [any_isNumeric_of_touches hk htouches] at h
    contradiction

theorem WrittenOut.beside_head {cs ds : List Char} (h : WrittenOut cs ds) :
    Beside cs.head? ds.head? := by
  cases h with
  | nil => exact Or.inl rfl
  | keep c => exact Or.inl rfl
  | @replace k hk cs ds =>
    refine Or.inr ?_
    have hhead := isNumeric_head_digits hk
    cases hdigits : k.digits with
    | nil =>
      rw [hdigits] at hhead
      contradiction
    | cons d digits => rwa [hdigits] at hhead

/-! ### The two passes -/

/-- The second text is the first one with some of its constants written out, none of which has a
digit or a point next to it in the first text. The character in front of that text counts too. -/
inductive Apart : Option Char → List Char → List Char → Prop where
  | nil (before : Option Char) : Apart before [] []
  | keep (before : Option Char) (c : Char) {cs ds : List Char} (h : Apart (some c) cs ds) :
    Apart before (c :: cs) (c :: ds)
  | replace {before : Option Char} {k : Constant} (hk : k ∈ all) {cs ds : List Char}
    (hfront : before.any isNumeric = false) (hbehind : cs.head?.any isNumeric = false)
    (h : Apart k.word.getLast? cs ds) :
    Apart before (k.word ++ cs) (k.digits ++ ds)

theorem Apart.writtenOut {before : Option Char} {cs ds : List Char} (h : Apart before cs ds) :
    WrittenOut cs ds := by
  induction h with
  | nil => exact .nil
  | keep _ c _ ih => exact .keep c ih
  | replace hk _ _ _ ih => exact .replace hk ih

theorem apart_replaceFrom {ks : List Constant} (hks : ks ⊆ all) (before : Option Char)
    (cs : List Char) : Apart before cs (replaceFrom ks before cs) := by
  fun_induction replaceFrom ks before cs with
  | case1 before => exact .nil before
  | case2 before c rest k hfound ih =>
    have hk : k ∈ all := hks (List.mem_of_find?_eq_some hfound)
    have hstands := List.find?_some hfound
    obtain ⟨tail, htail⟩ := exists_tail_of_standsAt hstands
    obtain ⟨d, word, hword⟩ := List.exists_cons_of_ne_nil (word_ne_nil hk)
    rw [htail, standsAt_append_iff] at hstands
    have hrest : rest.drop (k.word.length - 1) = tail := by
      rw [hword, List.cons_append] at htail
      rw [(List.cons.inj htail).2, hword, List.length_cons, Nat.add_sub_cancel, List.drop_left]
    rw [hrest] at ih ⊢
    rw [htail]
    exact .replace hk (any_isNumeric_of_touches hk hstands.1)
      (any_isNumeric_of_touches hk hstands.2) ih
  | case3 before c rest hfound ih => exact .keep before c ih

theorem writtenOut_replaceFrom {ks : List Constant} (hks : ks ⊆ all) (before : Option Char)
    (cs : List Char) : WrittenOut cs (replaceFrom ks before cs) :=
  (apart_replaceFrom hks before cs).writtenOut

/-- The second pass finds its constant, which is one letter, only where the first one kept it. -/
theorem Apart.replaceFrom_euler {before before' : Option Char} {cs ds : List Char}
    (h : Apart before cs ds) (hbefore : Beside before before') :
    Apart before cs (replaceFrom [euler] before' ds) := by
  have heuler : euler ∈ all := by simp [all]
  induction h generalizing before' with
  | nil before =>
    rw [replaceFrom_nil]
    exact .nil before
  | @keep before c cs ds h ih =>
    rw [replaceFrom_cons]
    cases hfound : [euler].find? (standsAt before' (c :: ds)) with
    | none => exact .keep before c (ih (Or.inl rfl))
    | some k =>
      obtain rfl : k = euler := List.mem_singleton.mp (List.mem_of_find?_eq_some hfound)
      have hstands := List.find?_some hfound
      obtain ⟨tail, htail⟩ := exists_tail_of_standsAt hstands
      rw [htail, standsAt_append_iff] at hstands
      obtain ⟨rfl, rfl⟩ := List.cons.inj htail
      obtain ⟨hfront, hbehind⟩ := hstands
      rw [hbefore.eq_of_touches heuler hfront] at hfront
      rw [h.writtenOut.beside_head.eq_of_touches heuler hbehind] at hbehind
      exact .replace heuler (any_isNumeric_of_touches heuler hfront)
        (any_isNumeric_of_touches heuler hbehind) (ih (Or.inl rfl))
  | @replace before k hk cs ds hfront hbehind _ ih =>
    have hpasses : ∀ e ∈ [euler], e.passes before' k.digits = true := by
      intro e he
      obtain rfl := List.mem_singleton.mp he
      refine passes_of_notMem fun d hd hword => ?_
      obtain rfl := Option.some.inj hword
      exact absurd (isNumeric_of_mem_digits hk hd) (by decide)
    rw [replaceFrom_append (by simp [euler]) hpasses]
    exact .replace hk hfront hbehind (ih (Or.inr (isNumeric_getLast_digits_or hk before')))

/-- **Constants are written out where no digit and no point is next to them.** -/
theorem apart_substituteConstants (text : String) :
    Apart none text.toList (substituteConstants text).toList := by
  rw [substituteConstants, String.toList_ofList]
  exact (apart_replaceFrom (by simp [all]) none text.toList).replaceFrom_euler (Or.inl rfl)

/-- **Writing out constants** leaves a text and what becomes of it side by side. -/
theorem writtenOut_substituteConstants (text : String) :
    WrittenOut text.toList (substituteConstants text).toList :=
  (apart_substituteConstants text).writtenOut

/-! ### Lengths and places -/

namespace WrittenOut

variable {cs ds : List Char}

theorem refl (cs : List Char) : WrittenOut cs cs := by
  induction cs with
  | nil => exact .nil
  | cons c cs ih => exact .keep c ih

theorem length_le (h : WrittenOut cs ds) : cs.length ≤ ds.length := by
  induction h with
  | nil => exact Nat.le_refl _
  | keep c _ ih => exact Nat.succ_le_succ ih
  | replace hk _ ih =>
    have hword := length_word hk
    rw [List.length_append, List.length_append, length_digits hk]
    omega

theorem length_le_mul (h : WrittenOut cs ds) : ds.length ≤ 17 * cs.length := by
  induction h with
  | nil => exact Nat.le_refl _
  | keep c _ ih =>
    rw [List.length_cons, List.length_cons]
    omega
  | replace hk _ ih =>
    have hword := length_word hk
    rw [List.length_append, List.length_append, length_digits hk]
    omega

/-- Every constant that is written out makes the text longer. -/
theorem eq_of_length_eq (h : WrittenOut cs ds) (hlength : ds.length = cs.length) : ds = cs := by
  induction h with
  | nil => rfl
  | keep c _ ih => rw [ih (Nat.succ.inj hlength)]
  | replace hk h _ =>
    have hword := length_word hk
    have hle := h.length_le
    rw [List.length_append, List.length_append, length_digits hk] at hlength
    omega

/-- **A character of the written-out text was kept, or it belongs to the digits of a constant.**
What is in front of it or of the digits, and what is behind, goes side by side. -/
theorem kept_or_digits (h : WrittenOut cs ds) {front back : List Char} {c : Char}
    (hds : ds = front ++ c :: back) :
    (∃ front' back', cs = front' ++ c :: back' ∧ WrittenOut front' front ∧ WrittenOut back' back) ∨
      ∃ k ∈ all, ∃ front' back' left right before behind, cs = front' ++ (k.word ++ back') ∧
      WrittenOut front' left ∧
        WrittenOut back' right ∧ k.digits = before ++ c :: behind ∧ front = left ++ before ∧
        back = behind ++ right := by
  induction h generalizing front with
  | nil => simp at hds
  | keep d h ih =>
    cases front with
    | nil =>
      obtain ⟨rfl, rfl⟩ := List.cons.inj hds
      exact Or.inl ⟨[], _, rfl, .nil, h⟩
    | cons e front =>
      obtain ⟨rfl, hrest⟩ := List.cons.inj hds
      rcases ih hrest with ⟨front', back', rfl, hfront, hback⟩ |
        ⟨k, hk, front', back', left, right, before, behind, rfl, hleft, hright, hdigits, rfl, rfl⟩
      · exact Or.inl ⟨d :: front', back', rfl, .keep d hfront, hback⟩
      · exact Or.inr ⟨k, hk, d :: front', back', d :: left, right, before, behind, rfl,
          .keep d hleft, hright, hdigits, rfl, rfl⟩
  | @replace k hk cs ds h ih =>
    rcases cons_of_append_eq_append_cons hds with ⟨behind, hdigits, rfl⟩ | ⟨rest, rfl, hrest⟩
    · exact Or.inr ⟨k, hk, [], cs, [], ds, front, behind, rfl, .nil, h, hdigits, rfl, rfl⟩
    · rcases ih hrest with ⟨front', back', rfl, hfront, hback⟩ |
        ⟨k', hk', front', back', left, right, before, behind, rfl, hleft, hright, hdigits, rfl, rfl⟩
      · exact Or.inl ⟨k.word ++ front', back', by simp, .replace hk hfront, hback⟩
      · exact Or.inr ⟨k', hk', k.word ++ front', back', k.digits ++ left, right, before, behind,
          by simp, .replace hk hleft, hright, hdigits, by simp, rfl⟩

/-- **A character that belongs to no digits has its place in both texts**, and what is in front of
it and behind it goes side by side. -/
theorem exists_place (h : WrittenOut cs ds) {front back : List Char} {c : Char}
    (hds : ds = front ++ c :: back) (hc : isNumeric c = false) :
    ∃ front' back', cs = front' ++ c :: back' ∧ WrittenOut front' front ∧
      WrittenOut back' back := by
  rcases h.kept_or_digits hds with
    hkept | ⟨k, hk, -, -, -, -, before, behind, -, -, -, hdigits, -, -⟩
  · exact hkept
  · have hnumeric := isNumeric_of_mem_digits hk (d := c) (by simp [hdigits])
    rw [hc] at hnumeric
    contradiction

end WrittenOut

end Calculator

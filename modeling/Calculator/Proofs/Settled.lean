import Calculator.Proofs.WrittenOut

/-! # Nothing is left to write out

A text is settled if no word of the constants stands alone in it (`Settled`). Such a text is left as
it is (`Settled.replaceFrom_eq`), and every text is settled once its constants are written out.

A word that was left alone has a neighbour that touches it. In the new text this neighbour is the
same character, or the digits that stand for a word, and digits touch every word. So a word that
stands alone in the new text stood alone in the old one (`WrittenOut.standsAt_of_standsAt`): a pass
leaves nothing to itself (`settled_replaceFrom`), and the second pass leaves nothing to the first
(`Settled.of_writtenOut`).
-/

namespace Calculator

open Constant

namespace Constant

variable {ks : List Constant} {k : Constant} {before : Option Char}

theorem isNumeric_of_mem_word (hk : k ∈ all) {c : Char} (hc : c ∈ k.word) :
    isNumeric c = false := by
  have hall : (all.all fun k => k.word.all fun c => !isNumeric c) = true := by decide
  simpa using List.all_eq_true.mp (List.all_eq_true.mp hall k hk) c hc

/-! ### Texts in which no word stands alone -/

/-- No word of these constants stands alone in a text behind `before`. -/
def Settled (ks : List Constant) : Option Char → List Char → Prop
  | _, [] => True
  | before, c :: rest => (∀ k ∈ ks, standsAt before (c :: rest) k = false) ∧
    Settled ks (some c) rest

/-- The last character of a text, or what is in front of the text. -/
theorem or_getLast?_cons (c : Char) (cs : List Char) :
    (c :: cs).getLast?.or before = cs.getLast?.or (some c) := by
  rw [List.getLast?_cons]
  cases cs.getLast? <;> rfl

/-- **A settled text is left as it is.** -/
theorem Settled.replaceFrom_eq {cs : List Char} (h : Settled ks before cs) :
    replaceFrom ks before cs = cs := by
  induction cs generalizing before with
  | nil => exact replaceFrom_nil ks before
  | cons c rest ih =>
    obtain ⟨hfree, hrest⟩ := h
    have hnone : ks.find? (standsAt before (c :: rest)) = none := by
      rw [List.find?_eq_none]
      intro k hk
      rw [hfree k hk]
      exact Bool.false_ne_true
    rw [replaceFrom_cons, hnone]
    exact congrArg (c :: ·) (ih hrest)

theorem Settled.behind {front cs : List Char} (h : Settled ks before (front ++ cs)) :
    Settled ks (front.getLast?.or before) cs := by
  induction front generalizing before with
  | nil => exact h
  | cons c front ih =>
    rw [or_getLast?_cons]
    exact ih h.2

theorem Settled.digits_append (hks : ks ⊆ all) {digits cs : List Char}
    (hdigits : ∀ d ∈ digits, isNumeric d = true) (h : Settled ks (digits.getLast?.or before) cs) :
    Settled ks before (digits ++ cs) := by
  induction digits generalizing before with
  | nil => exact h
  | cons d digits ih =>
    obtain ⟨hd, hrest⟩ := List.forall_mem_cons.mp hdigits
    rw [or_getLast?_cons] at h
    refine ⟨fun k hk => ?_, ih hrest h⟩
    -- a word that stood here would begin with this digit
    rw [← Bool.not_eq_true]
    intro hstands
    obtain ⟨tail, htail⟩ := exists_tail_of_standsAt hstands
    obtain ⟨c, word, hword⟩ := List.exists_cons_of_ne_nil (word_ne_nil (hks hk))
    rw [hword, List.cons_append] at htail
    rw [(List.cons.inj htail).1, isNumeric_of_mem_word (hks hk) (by simp [hword])] at hd
    contradiction

end Constant

namespace WrittenOut

variable {ks : List Constant} {k : Constant} {before before' : Option Char} {cs ds : List Char}

theorem of_cons {c : Char} (h : WrittenOut cs (c :: ds)) (hc : isNumeric c = false) :
    ∃ cs', cs = c :: cs' ∧ WrittenOut cs' ds := by
  have hplace : c :: ds = [] ++ c :: ds := rfl
  obtain ⟨front, back, rfl, hfront, hback⟩ := h.exists_place hplace hc
  obtain rfl : front = [] := List.length_eq_zero_iff.mp (Nat.le_zero.mp hfront.length_le)
  exact ⟨back, rfl, hback⟩

theorem of_append {word : List Char} (hword : ∀ c ∈ word, isNumeric c = false)
    (h : WrittenOut cs (word ++ ds)) : ∃ cs', cs = word ++ cs' ∧ WrittenOut cs' ds := by
  induction word generalizing cs with
  | nil => exact ⟨cs, rfl, h⟩
  | cons c word ih =>
    obtain ⟨hc, hrest⟩ := List.forall_mem_cons.mp hword
    obtain ⟨rest, rfl, hback⟩ := h.of_cons hc
    obtain ⟨cs', rfl, htail⟩ := ih hrest hback
    exact ⟨cs', rfl, htail⟩

/-- **A word that stands alone in the written-out text stood alone before.** -/
theorem standsAt_of_standsAt (h : WrittenOut cs ds) (hk : k ∈ all) (hbefore : Beside before before')
    (hstands : Constant.standsAt before' ds k = true) : Constant.standsAt before cs k = true := by
  obtain ⟨tail, rfl⟩ := exists_tail_of_standsAt hstands
  obtain ⟨cs, rfl, htail⟩ := h.of_append fun c hc => isNumeric_of_mem_word hk hc
  obtain ⟨hfront, hbehind⟩ := standsAt_append_iff.mp hstands
  rw [hbefore.eq_of_touches hk hfront] at hfront
  rw [htail.beside_head.eq_of_touches hk hbehind] at hbehind
  exact standsAt_append_iff.mpr ⟨hfront, hbehind⟩

end WrittenOut

namespace Constant

variable {ks : List Constant} {before before' : Option Char} {cs ds : List Char}

/-- **Writing out some constants leaves a settled text settled.** -/
theorem Settled.of_writtenOut (hks : ks ⊆ all) (h : WrittenOut cs ds)
    (hbefore : Beside before before') (hsettled : Settled ks before cs) :
    Settled ks before' ds := by
  induction h generalizing before before' with
  | nil => trivial
  | keep c h ih =>
    refine ⟨fun k hk => ?_, ih (Or.inl rfl) hsettled.2⟩
    rw [← Bool.not_eq_true]
    intro hstands
    have hold := (WrittenOut.keep c h).standsAt_of_standsAt (hks hk) hbefore hstands
    rw [hsettled.1 k hk] at hold
    contradiction
  | @replace k hk cs ds h ih =>
    refine Settled.digits_append hks (fun d hd => isNumeric_of_mem_digits hk hd)
      (ih (Or.inr ?_) hsettled.behind)
    exact isNumeric_getLast_digits_or hk before'

/-- **A pass leaves no word of its constants alone.** -/
theorem settled_replaceFrom (hks : ks ⊆ all) (hbefore : Beside before before') :
    Settled ks before' (replaceFrom ks before cs) := by
  fun_induction replaceFrom ks before cs generalizing before' with
  | case1 => trivial
  | case2 before c rest k hfound ih =>
    have hk : k ∈ all := hks (List.mem_of_find?_eq_some hfound)
    refine Settled.digits_append hks (fun d hd => isNumeric_of_mem_digits hk hd) (ih (Or.inr ?_))
    exact isNumeric_getLast_digits_or hk before'
  | case3 before c rest hfound ih =>
    refine ⟨fun k hk => ?_, ih (Or.inl rfl)⟩
    rw [← Bool.not_eq_true]
    intro hstands
    have hwritten := (writtenOut_replaceFrom hks (some c) rest).keep c
    exact List.find?_eq_none.mp hfound k hk (hwritten.standsAt_of_standsAt (hks hk) hbefore hstands)

end Constant

/-- **Once its constants are written out, a text has none left**: writing them out again changes
nothing. -/
theorem substituteConstants_idem (text : String) :
    substituteConstants (substituteConstants text) = substituteConstants text := by
  have hpi : [piSymbol, piName] ⊆ all := by simp [all]
  have heuler : [euler] ⊆ all := by simp [all]
  have hsame : Beside none none := Or.inl rfl
  have hfirst : Settled [piSymbol, piName] none (replace [piSymbol, piName] text.toList) :=
    settled_replaceFrom hpi hsame
  have hsecond : Settled [euler] none (substituteConstants text).toList := by
    rw [substituteConstants, String.toList_ofList]
    exact settled_replaceFrom heuler hsame
  -- the second pass leaves alone what the first one did
  have hboth : Settled [piSymbol, piName] none (substituteConstants text).toList := by
    rw [substituteConstants, String.toList_ofList]
    exact hfirst.of_writtenOut hpi (writtenOut_replaceFrom heuler none _) hsame
  have hpisame : replace [piSymbol, piName] (substituteConstants text).toList =
      (substituteConstants text).toList :=
    hboth.replaceFrom_eq
  have heulersame : replace [euler] (substituteConstants text).toList =
      (substituteConstants text).toList :=
    hsecond.replaceFrom_eq
  calc substituteConstants (substituteConstants text)
      = String.ofList
        (replace [euler] (replace [piSymbol, piName] (substituteConstants text).toList)) := rfl
    _ = String.ofList (substituteConstants text).toList := by rw [hpisame, heulersame]
    _ = substituteConstants text := String.ofList_toList

end Calculator

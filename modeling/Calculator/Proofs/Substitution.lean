import Calculator.Constants
import Calculator.Proofs.Lexing
import Calculator.Proofs.Reading

/-! # Writing out constants

A text that is read strictly has no constant in it that could be written out
(`substituteConstants_of_read`): no lexeme has one, wherever it stands.

* `Constant.passes`: inside this text the constant's word stands nowhere alone, whatever surrounds
  the text. Then a replacement goes on behind it (`replaceFrom_append`).
* `Lexeme.passes_text`: the texts of all lexemes that have a token are such. A constant begins with
  one of three letters. Only spellings have any of them, and there each has a neighbour that makes
  it part of the spelling.
-/

namespace Calculator

open Text

namespace Constant

/-- A neighbour inside `cs` keeps the word from standing alone at its front, whatever follows
`cs`. -/
def heldAt (before : Option Char) (cs : List Char) (k : Constant) : Bool :=
  k.word.head? != cs.head? || before.any k.touches ||
    (k.word.isPrefixOf cs && (cs.drop k.word.length).head?.any k.touches)

/-- The word stands alone nowhere in a text behind `before`, whatever follows it. -/
def passes (k : Constant) (before : Option Char) : List Char → Bool
  | [] => true
  | c :: rest => heldAt before (c :: rest) k && passes k (some c) rest

variable {k : Constant} {before : Option Char}

theorem standsAt_of_heldAt {c : Char} {rest : List Char} (h : heldAt before (c :: rest) k = true)
    (hword : k.word ≠ []) (tail : List Char) : standsAt before (c :: rest ++ tail) k = false := by
  obtain ⟨d, word, hd⟩ := List.exists_cons_of_ne_nil hword
  simp only [heldAt, hd, Bool.or_eq_true] at h
  rcases h with (h | h) | h
  · have hne : d ≠ c := by simpa using h
    simp [standsAt, hd, hne]
  · simp [standsAt, h]
  · rw [Bool.and_eq_true, List.isPrefixOf_iff_prefix] at h
    obtain ⟨⟨back, hback⟩, htouch⟩ := h
    rw [← hback, List.drop_left] at htouch
    -- there is a neighbour behind the word, so `tail` does not get near it
    cases back with
    | nil => simp at htouch
    | cons e back =>
      have htouch : k.touches e = true := by simpa using htouch
      rw [standsAt, ← hback, hd, List.append_assoc, List.drop_left]
      simp [htouch]

theorem heldAt_of_none {cs : List Char} (h : heldAt none cs k = true) :
    heldAt before cs k = true := by
  simp only [heldAt, Option.any_none, Bool.or_false, Bool.or_eq_true] at h ⊢
  rcases h with h | h
  · exact Or.inl (Or.inl h)
  · exact Or.inr h

theorem passes_of_none {cs : List Char} (h : k.passes none cs = true) :
    k.passes before cs = true := by
  cases cs with
  | nil => rfl
  | cons c rest =>
    rw [passes, Bool.and_eq_true] at h ⊢
    exact ⟨heldAt_of_none h.1, h.2⟩

theorem passes_of_notMem {cs : List Char} (h : ∀ c ∈ cs, k.word.head? ≠ some c) :
    k.passes before cs = true := by
  induction cs generalizing before with
  | nil => rfl
  | cons c rest ih =>
    have hheld : heldAt before (c :: rest) k = true := by
      simp [heldAt, h c List.mem_cons_self]
    rw [passes, hheld, ih fun d hd => h d (List.mem_cons_of_mem _ hd)]
    rfl

variable {ks : List Constant}

/-- Nothing is replaced in a text that passes, and what follows it is treated as it stands there. -/
theorem replaceFrom_append {cs : List Char} (hwords : ∀ k ∈ ks, k.word ≠ [])
    (h : ∀ k ∈ ks, k.passes before cs = true) (tail : List Char) :
    replaceFrom ks before (cs ++ tail) = cs ++ replaceFrom ks (cs.getLast?.or before) tail := by
  induction cs generalizing before with
  | nil => rfl
  | cons c rest ih =>
    have hparts : ∀ k ∈ ks, heldAt before (c :: rest) k = true ∧ k.passes (some c) rest = true := by
      intro k hk
      simpa only [passes, Bool.and_eq_true] using h k hk
    have hnone : ks.find? (standsAt before (c :: (rest ++ tail))) = none := by
      rw [List.find?_eq_none]
      intro k hk
      rw [Bool.not_eq_true]
      exact standsAt_of_heldAt (hparts k hk).1 (hwords k hk) tail
    rw [List.cons_append, replaceFrom_cons, hnone]
    change c :: replaceFrom ks (some c) (rest ++ tail) = _
    rw [ih fun k hk => (hparts k hk).2, List.getLast?_cons]
    cases rest.getLast? <;> rfl

theorem replaceFrom_flatMap {α : Type} {f : α → List Char} {parts : List α}
    (hwords : ∀ k ∈ ks, k.word ≠ []) (h : ∀ a ∈ parts, ∀ k ∈ ks, k.passes none (f a) = true) :
    replaceFrom ks before (parts.flatMap f) = parts.flatMap f := by
  induction parts generalizing before with
  | nil => exact replaceFrom_nil ks before
  | cons a parts ih =>
    rw [List.flatMap_cons,
      replaceFrom_append hwords fun k hk => passes_of_none (h a List.mem_cons_self k hk),
      ih fun b hb => h b (List.mem_cons_of_mem _ hb)]

/-- The constants whose words are written out. -/
def all : List Constant := [piSymbol, piName, euler]

theorem word_ne_nil {k : Constant} (h : k ∈ all) : k.word ≠ [] := by
  revert k
  decide

theorem head_word {k : Constant} (h : k ∈ all) {c : Char} (hc : k.word.head? = some c) :
    c = 'π' ∨ c = 'p' ∨ c = 'e' := by
  rcases List.mem_cons.mp h with rfl | h
  · exact Or.inl (Option.some.inj hc).symm
  rcases List.mem_cons.mp h with rfl | h
  · exact Or.inr (Or.inl (Option.some.inj hc).symm)
  · obtain rfl : k = euler := by simpa using h
    exact Or.inr (Or.inr (Option.some.inj hc).symm)

theorem passes_spelling {k : Constant} (hk : k ∈ all) {s : String × MathFunction}
    (hs : s ∈ MathFunction.spellings) : k.passes none s.1.toList = true := by
  have hall : (MathFunction.spellings.all fun s => all.all fun k => k.passes none s.1.toList) =
      true := by
    decide +kernel
  exact List.all_eq_true.mp (List.all_eq_true.mp hall s hs) k hk

end Constant

open Constant

theorem Lexeme.passes_text {lexeme : Lexeme} (hformed : lexeme.WellFormed) {position : Nat}
    {token : Option Token} (h : Token.ofLexeme true position lexeme = .ok token) {k : Constant}
    (hk : k ∈ all) : k.passes none lexeme.text = true := by
  cases lexeme with
  | blank c =>
    refine passes_of_notMem fun d hd hword => ?_
    obtain rfl : d = c := by simpa [text] using hd
    have hblank : isBlank d = true := hformed
    rcases head_word hk hword with rfl | rfl | rfl <;> exact absurd hblank (by decide)
  | call spelling f => simpa [text] using passes_spelling hk hformed
  | literal l =>
    refine passes_of_notMem fun d hd hword => ?_
    rcases List.mem_append.mp hd with hd | hd
    · have hsign := hformed.1 d (by simpa using hd)
      rcases head_word hk hword with rfl | rfl | rfl <;> exact absurd hsign (by decide)
    · have hnumber := hformed.2 d hd
      rcases head_word hk hword with rfl | rfl | rfl <;> exact absurd hnumber (by decide)
  | symbol c t =>
    refine passes_of_notMem fun d hd hword => ?_
    obtain rfl : d = c := by simpa [text] using hd
    rcases head_word hk hword with rfl | rfl | rfl <;> contradiction
  | name word =>
    rw [Token.ofLexeme] at h
    split at h
    next f hf => simpa [text] using passes_spelling hk (MathFunction.ofSpelling?_eq_some_iff.mp hf)
    next => contradiction
  | stray c => contradiction

theorem Token.passes_of_readFrom {position : Nat} {lexemes : List Lexeme} {tokens : List Token}
    (h : readFrom true position lexemes = .ok tokens) (hformed : ∀ x ∈ lexemes, x.WellFormed) :
    ∀ x ∈ lexemes, ∀ k ∈ all, k.passes none x.text = true := by
  induction lexemes generalizing position tokens with
  | nil => simp
  | cons lexeme lexemes ih =>
    obtain ⟨token, rest, htoken, hrest, -⟩ := ok_of_readFrom_cons h
    intro x hx k hk
    rcases List.mem_cons.mp hx with rfl | hx
    · exact Lexeme.passes_text (hformed x List.mem_cons_self) htoken hk
    · exact ih hrest (fun y hy => hformed y (List.mem_cons_of_mem _ hy)) x hx k hk

/-- **Where a text is read strictly, it has no constant to write out.** -/
theorem substituteConstants_of_read {text : String} {tokens : List Token}
    (h : Token.read true text = .ok tokens) : substituteConstants text = text := by
  have hpasses := Token.passes_of_readFrom h fun _ hx => Lexeme.wellFormed_of_mem_cutFrom hx
  have hsame : ∀ ks : List Constant, ks ⊆ all → replace ks text.toList = text.toList := by
    intro ks hks
    have hreplaced : replaceFrom ks none ((Lexeme.cut text.toList).flatMap Lexeme.text) =
        (Lexeme.cut text.toList).flatMap Lexeme.text :=
      replaceFrom_flatMap (fun k hk => word_ne_nil (hks hk)) fun x hx k hk =>
        hpasses x hx k (hks hk)
    rwa [Lexeme.texts_cut] at hreplaced
  rw [substituteConstants, hsame _ (by simp [all]), hsame _ (by simp [all]), String.ofList_toList]

end Calculator

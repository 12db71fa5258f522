import Calculator.Proofs.Settled
import Calculator.Proofs.Trailing

/-! # A constant that is written out is one number

The digits of a constant stand in the written-out text in the place of its word (`Inserted`). No
digit and no point was next to the word, so next to its digits there can only be those of another
constant (`Inserted.neighbours`).

A run of digits with a point among them lies within one literal, if the text is read strictly
(`Lexeme.exists_literal_of_run`). So do the digits of a constant. If the literal had more digits,
then the digits of a second constant with a second point, and it would be refused. So it is the
digits of the one constant, maybe behind a sign (`read_inserted`).
-/

namespace Calculator

open Text Constant

/-! ### Runs of digits and points -/

namespace Lexeme

theorem exists_of_texts {lexemes : List Lexeme} {front back : List Char} {c : Char}
    (h : lexemes.flatMap text = front ++ c :: back) :
    ∃ lead lexeme more before behind, lexemes = lead ++ lexeme :: more ∧
      lexeme.text = before ++ c :: behind ∧
      front = lead.flatMap text ++ before ∧ back = behind ++ more.flatMap text := by
  induction lexemes generalizing front with
  | nil => simp at h
  | cons lexeme lexemes ih =>
    rw [List.flatMap_cons] at h
    rcases cons_of_append_eq_append_cons h with ⟨behind, htext, rfl⟩ | ⟨rest, rfl, hrest⟩
    · exact ⟨[], lexeme, lexemes, front, behind, rfl, htext, rfl, rfl⟩
    · obtain ⟨lead, x, more, before, behind, rfl, htext, rfl, hback⟩ := ih hrest
      exact ⟨lexeme :: lead, x, more, before, behind, rfl, htext,
        by rw [List.flatMap_cons, List.append_assoc], hback⟩

theorem exists_literal_of_point {lexeme : Lexeme} (hformed : lexeme.WellFormed) {position : Nat}
    {token : Option Token} (hread : Token.ofLexeme true position lexeme = .ok token)
    (hpoint : '.' ∈ lexeme.text) : ∃ l, lexeme = literal l := by
  cases lexeme with
  | literal l => exact ⟨l, rfl⟩
  | blank c =>
    obtain rfl := List.mem_singleton.mp hpoint
    have hblank : isBlank '.' = true := hformed
    exact absurd hblank (by decide)
  | call spelling f =>
    have hall : (MathFunction.spellings.all fun s => s.1.toList.all (· != '.')) = true := by
      decide +kernel
    have hne := List.all_eq_true.mp (List.all_eq_true.mp hall _ hformed) '.'
      (by simpa [text] using hpoint)
    simp at hne
  | symbol c t =>
    obtain rfl := List.mem_singleton.mp hpoint
    cases hformed
  | name word =>
    have hname := hformed '.' hpoint
    rw [isNameChar_of_isNumberChar (by decide)] at hname
    contradiction
  | stray c => contradiction

/-- Behind the last character of a run, the run ends where no digit and no point follows. -/
theorem exists_behind_of_run {run word rest back : List Char}
    (hrun : ∀ c ∈ run, isNumberChar c = true) (hrest : rest.head?.any isNumberChar = false)
    (h : word ++ rest = run ++ back) : ∃ behind, word = run ++ behind ∧ back = behind ++ rest := by
  rcases List.append_eq_append_iff.mp h with ⟨tail, hword, htail⟩ | ⟨behind, hword, hback⟩
  · cases tail with
    | nil => exact ⟨[], by simpa using hword.symm, by simpa using htail.symm⟩
    | cons c tail =>
      have hc := hrun c (by simp [hword])
      rw [htail, List.cons_append, List.head?_cons, Option.any_some, hc] at hrest
      contradiction
  · exact ⟨behind, hword, hback⟩

/-- In front of the first character of a run, the run begins where no digit and no point
precedes. -/
theorem exists_before_of_run {run word rest front : List Char}
    (hrun : ∀ c ∈ run, isNumberChar c = true) (hrest : rest.getLast?.any isNumberChar = false)
    (h : rest ++ word = front ++ run) :
    ∃ before, word = before ++ run ∧ front = rest ++ before := by
  have hreversed : word.reverse ++ rest.reverse = run.reverse ++ front.reverse := by
    rw [← List.reverse_append, h, List.reverse_append]
  obtain ⟨before, hword, hfront⟩ :=
    exists_behind_of_run (fun c hc => hrun c (List.mem_reverse.mp hc))
    (by rwa [List.head?_reverse]) hreversed
  refine ⟨before.reverse, ?_, ?_⟩
  · rw [← List.reverse_reverse word, hword, List.reverse_append, List.reverse_reverse]
  · rw [← List.reverse_reverse front, hfront, List.reverse_append, List.reverse_reverse]

/-- **A run of digits and points with a point in it lies within one literal**, if the text is read
strictly. -/
theorem exists_literal_of_run {cs front run back : List Char} {tokens : List Token} {position : Nat}
    (hread : Token.readFrom true position (cut cs) = .ok tokens) (hcs : cs = front ++ (run ++ back))
    (hrun : ∀ c ∈ run, isNumberChar c = true) (hpoint : '.' ∈ run) :
    ∃ lead l more before behind, cut cs = lead ++ literal l :: more ∧
      l.body = before ++ (run ++ behind) ∧
      front = lead.flatMap text ++ l.sign.toList ++ before ∧
      back = behind ++ more.flatMap text := by
  obtain ⟨start, rest, rfl⟩ := List.append_of_mem hpoint
  have htexts : (cut cs).flatMap text = (front ++ start) ++ '.' :: (rest ++ back) := by
    rw [texts_cut, hcs]
    simp
  obtain ⟨lead, lexeme, more, before, behind, hcut, htext, hfront, hback⟩ := exists_of_texts htexts
  have hmem : lexeme ∈ cut cs := by simp [hcut]
  have hformed := wellFormed_of_mem_cutFrom hmem
  rw [hcut] at hread
  obtain ⟨first, second, hlead, hsecond, -⟩ := Token.ok_of_readFrom_append hread
  obtain ⟨token, others, hlexeme, -, -⟩ := Token.ok_of_readFrom_cons hsecond
  obtain ⟨l, rfl⟩ := exists_literal_of_point hformed hlexeme (by simp [htext])
  -- the point is one of the body
  obtain ⟨word, rfl, hbody⟩ : ∃ word, before = l.sign.toList ++ word ∧
      l.body = word ++ '.' :: behind := by
    rw [text, Literal.text] at htext
    cases hsign : l.sign with
    | none => exact ⟨before, rfl, by simpa [hsign] using htext⟩
    | some c =>
      rw [hsign, Option.toList_some, List.singleton_append] at htext
      cases before with
      | nil =>
        have hc := hformed.1 c hsign
        rw [(List.cons.inj htext).1] at hc
        contradiction
      | cons d before =>
        obtain ⟨rfl, hbody⟩ := List.cons.inj htext
        exact ⟨before, rfl, hbody⟩
  have hends : (more.flatMap text).head?.any isNumberChar = false := by
    have hcut' : cut cs = (lead ++ [literal l]) ++ more := by rw [hcut, List.append_assoc]; rfl
    exact endsAt_concat.mp (endsAt_of_cutFrom hcut')
  have hbegins : (lead.flatMap text ++ l.sign.toList).getLast?.any isNumberChar = false := by
    cases hlast : (lead.flatMap text ++ l.sign.toList).getLast? with
    | none => rfl
    | some c => exact not_isNumberChar_of_cut hcut hlead c hlast
  obtain ⟨later, rfl, hlater⟩ :=
    exists_behind_of_run (fun c hc => hrun c (by simp [hc])) hends hback.symm
  rw [← List.append_assoc] at hfront
  obtain ⟨earlier, rfl, hearlier⟩ :=
    exists_before_of_run (fun c hc => hrun c (by simp [hc])) hbegins hfront.symm
  exact ⟨lead, l, more, earlier, later, hcut, by rw [hbody]; simp, hearlier, hlater⟩

end Lexeme

/-! ### What is written out -/

namespace Constant

/-- The number that a constant stands for. -/
def value (k : Constant) : Float :=
  if k.word = euler.word then 2.718281828459045 else 3.141592653589793

theorem eq_of_head_word {k k' : Constant} (hk : k ∈ all) (hk' : k' ∈ all)
    (h : k.word.head? = k'.word.head?) : k = k' := by
  simp only [all, List.mem_cons, List.not_mem_nil, or_false] at hk hk'
  rcases hk with rfl | rfl | rfl <;> rcases hk' with rfl | rfl | rfl <;>
    first | rfl | exact absurd h (by decide)

theorem exists_point_digits {k : Constant} (hk : k ∈ all) : '.' ∈ k.digits := by
  revert k
  decide

theorem not_cons_of_cons {k : Constant} (hk : k ∈ all) {c : Char} {cs ds old new : List Char}
    (hword : k.word ++ old = c :: cs) : k.digits ++ new ≠ c :: ds := by
  intro hdigits
  have hhead := isNumeric_head_digits hk
  obtain ⟨d, word, hd⟩ := List.exists_cons_of_ne_nil (word_ne_nil hk)
  have hletter := isNumeric_of_mem_word hk (c := d) (by simp [hd])
  rw [hd] at hword
  obtain rfl : d = c := (List.cons.inj hword).1
  cases hk' : k.digits with
  | nil =>
    rw [hk'] at hhead
    contradiction
  | cons e digits =>
    rw [hk'] at hhead hdigits
    obtain rfl : e = d := (List.cons.inj hdigits).1
    rw [List.head?_cons, Option.any_some, hletter] at hhead
    contradiction

end Constant

namespace Apart

variable {before : Option Char} {cs ds : List Char}

theorem of_cons {c : Char} (h : Apart before (c :: cs) (c :: ds)) : Apart (some c) cs ds := by
  generalize hcs : c :: cs = old at h
  generalize hds : c :: ds = new at h
  cases h with
  | nil => contradiction
  | keep _ _ h =>
    obtain ⟨rfl, rfl⟩ := List.cons.inj hcs
    obtain ⟨-, rfl⟩ := List.cons.inj hds
    exact h
  | replace hk => exact absurd hds.symm (not_cons_of_cons hk hcs.symm)

theorem of_replaced {k : Constant} (hk : k ∈ all)
    (h : Apart before (k.word ++ cs) (k.digits ++ ds)) :
    before.any isNumeric = false ∧ cs.head?.any isNumeric = false ∧
      Apart k.word.getLast? cs ds := by
  generalize hcs : k.word ++ cs = old at h
  generalize hds : k.digits ++ ds = new at h
  cases h with
  | nil => exact absurd (List.append_eq_nil_iff.mp hcs).1 (word_ne_nil hk)
  | keep => exact absurd hds (not_cons_of_cons hk hcs)
  | @replace _ k' hk' cs' ds' hfront hbehind h =>
    have hhead : k.word.head? = k'.word.head? := by
      have := congrArg List.head? hcs
      rwa [List.head?_append_of_ne_nil _ (word_ne_nil hk),
        List.head?_append_of_ne_nil _ (word_ne_nil hk')] at this
    obtain rfl := eq_of_head_word hk hk' hhead
    obtain rfl := List.append_cancel_left hcs
    obtain rfl := List.append_cancel_left hds
    exact ⟨hfront, hbehind, h⟩

theorem behind {front front' : List Char} (h : Apart before (front ++ cs) (front' ++ ds))
    (hfront : WrittenOut front front') : Apart (front.getLast?.or before) cs ds := by
  induction hfront generalizing before with
  | nil => exact h
  | keep c _ ih =>
    rw [or_getLast?_cons]
    exact ih h.of_cons
  | @replace k hk front front' _ ih =>
    rw [List.append_assoc, List.append_assoc] at h
    obtain ⟨d, word, hword⟩ := List.exists_cons_of_ne_nil (word_ne_nil hk)
    have hlast : k.word.getLast?.or before = k.word.getLast? := by
      rw [hword, List.getLast?_cons]
      rfl
    have hbehind := ih (h.of_replaced hk).2.2
    rwa [List.getLast?_append, Option.or_assoc, hlast]

end Apart

namespace WrittenOut

variable {cs ds : List Char}

theorem digits_or_head (h : WrittenOut cs ds) :
    (∃ k ∈ all, ∃ back, ds = k.digits ++ back) ∨ ds.head? = cs.head? := by
  cases h with
  | nil => exact Or.inr rfl
  | keep c => exact Or.inr rfl
  | replace hk => exact Or.inl ⟨_, hk, _, rfl⟩

theorem digits_or_getLast (h : WrittenOut cs ds) :
    (∃ k ∈ all, ∃ front, ds = front ++ k.digits) ∨ ds.getLast? = cs.getLast? := by
  induction h with
  | nil => exact Or.inr rfl
  | keep c h ih =>
    rcases ih with ⟨k, hk, front, rfl⟩ | hlast
    · exact Or.inl ⟨k, hk, c :: front, rfl⟩
    · rw [List.getLast?_cons, List.getLast?_cons, hlast]
      exact Or.inr rfl
  | @replace k hk cs ds h ih =>
    rcases ih with ⟨k', hk', front, rfl⟩ | hlast
    · exact Or.inl ⟨k', hk', k.digits ++ front, (List.append_assoc ..).symm⟩
    · cases hds : ds.getLast? with
      | none =>
        obtain rfl := List.getLast?_eq_none_iff.mp hds
        exact Or.inl ⟨k, hk, [], List.append_nil _⟩
      | some d =>
        rw [hds] at hlast
        rw [List.getLast?_append, List.getLast?_append, hds, ← hlast]
        exact Or.inr rfl

end WrittenOut

/-- The digits of a constant stand in the written-out text, in the place of its word: what is in
front of them and behind them is what became of the text in front of the word and behind it. -/
structure Inserted (text : String) (k : Constant) (front back : List Char) : Prop where
  mem : k ∈ all
  written : (substituteConstants text).toList = front ++ (k.digits ++ back)
  place : ∃ front' back', text.toList = front' ++ (k.word ++ back') ∧ WrittenOut front' front ∧
    WrittenOut back' back

/-- **Every character of the written-out text was kept, or it is among the digits of a constant**
that stand in the place of its word. -/
theorem kept_or_inserted {text : String} {front back : List Char} {c : Char}
    (h : (substituteConstants text).toList = front ++ c :: back) :
    (∃ front' back', text.toList = front' ++ c :: back' ∧ WrittenOut front' front ∧
      WrittenOut back' back) ∨
      ∃ k left right before behind, Inserted text k left right ∧ k.digits = before ++ c :: behind ∧
      front = left ++ before ∧ back = behind ++ right := by
  refine ((writtenOut_substituteConstants text).kept_or_digits h).imp_right ?_
  rintro ⟨k, hk, front', back', left, right, before, behind, htext, hleft, hright, hdigits, rfl,
    rfl⟩
  refine ⟨k, left, right, before, behind, ⟨hk, ?_, front', back', htext, hleft, hright⟩, hdigits,
    rfl, rfl⟩
  rw [h, hdigits]
  simp

namespace Inserted

variable {text : String} {k : Constant} {front back : List Char}

/-- **A digit or a point next to written-out digits belongs to another constant.** -/
theorem neighbours (h : Inserted text k front back) :
    ((∃ k' ∈ all, ∃ more, front = more ++ k'.digits) ∨ front.getLast?.any isNumeric = false) ∧
      ((∃ k' ∈ all, ∃ more, back = k'.digits ++ more) ∨ back.head?.any isNumeric = false) := by
  obtain ⟨hk, hwritten, front', back', htext, hfront, hback⟩ := h
  have hapart := apart_substituteConstants text
  rw [htext, hwritten] at hapart
  obtain ⟨hlast, hhead, -⟩ := (hapart.behind hfront).of_replaced hk
  rw [Option.or_none] at hlast
  refine ⟨hfront.digits_or_getLast.imp_right ?_, hback.digits_or_head.imp_right ?_⟩
  · intro hsame
    rwa [hsame]
  · intro hsame
    rwa [hsame]

end Inserted

/-! ### How it is read -/

namespace Literal

theorem not_wellFormed_of_points {l : Literal} {before first second behind : List Char}
    (hbody : l.body = before ++ (first ++ second ++ behind)) (hfirst : '.' ∈ first)
    (hsecond : '.' ∈ second) : l.wellFormed = false := by
  have hcount : ¬ l.body.count '.' ≤ 1 := by
    have := List.count_pos_iff.mpr hfirst
    have := List.count_pos_iff.mpr hsecond
    rw [hbody, List.count_append, List.count_append, List.count_append]
    omega
  simp [wellFormed, hcount]

theorem value_digits {k : Constant} (hk : k ∈ all) (sign : Option Char) :
    (Literal.mk sign k.digits).value = Number.withSign (sign == some '-') k.value := by
  have hunsigned : ∀ k ∈ all, (Literal.mk none k.digits).value = k.value := by
    simp only [all, List.forall_mem_cons, List.not_mem_nil, false_implies, implies_true, and_true]
    decide +kernel
  rw [← hunsigned k hk]
  rfl

end Literal

namespace Token

variable {text : String} {tokens : List Token} {k : Constant} {front back : List Char}

theorem exists_read_of_literal {position : Nat} {lead more : List Lexeme} {l : Literal}
    (h : readFrom true position (lead ++ .literal l :: more) = .ok tokens) :
    ∃ first second, l.wellFormed = true ∧ Reads true lead first ∧ Reads true more second ∧
      tokens = first ++ .number l.value :: second := by
  obtain ⟨first, rest, hlead, hrest, rfl⟩ := ok_of_readFrom_append h
  obtain ⟨token, second, hliteral, hmore, rfl⟩ := ok_of_readFrom_cons hrest
  obtain ⟨v, hv, rfl⟩ := ok_of_map hliteral
  obtain ⟨hformed, rfl⟩ := Literal.read_strict_iff.mp hv
  exact ⟨first, second, hformed, fun p => readFrom_of_ok _ p hlead,
    fun p => readFrom_of_ok _ p hmore, rfl⟩

/-- In a text that is read strictly no two constants are written out side by side. -/
theorem false_of_digits_digits (hread : read true text = .ok tokens) {k' : Constant} (hk : k ∈ all)
    (hk' : k' ∈ all) (htext : text.toList = front ++ (k.digits ++ k'.digits ++ back)) : False := by
  have hrun : ∀ c ∈ k.digits ++ k'.digits, isNumberChar c = true := by
    intro c hc
    rcases List.mem_append.mp hc with hc | hc
    · exact isNumeric_of_mem_digits hk hc
    · exact isNumeric_of_mem_digits hk' hc
  obtain ⟨lead, l, more, before, behind, hcut, hbody, -, -⟩ :=
    Lexeme.exists_literal_of_run hread htext hrun (List.mem_append_left _ (exists_point_digits hk))
  rw [read, hcut] at hread
  obtain ⟨first, second, hformed, -⟩ := exists_read_of_literal hread
  rw [Literal.not_wellFormed_of_points hbody (exists_point_digits hk) (exists_point_digits hk')]
    at hformed
  contradiction

/-- **The digits of a constant that is written out are one number**, maybe behind a sign that
belongs to it, wherever the written-out text is read strictly. -/
theorem read_inserted (hread : read true (substituteConstants text) = .ok tokens)
    (h : Inserted text k front back) :
    ∃ sign lead more first second, (∀ c ∈ sign, isSign c = true) ∧
      Lexeme.cut (substituteConstants text).toList = lead ++ .literal ⟨sign, k.digits⟩ :: more ∧
      lead.flatMap Lexeme.text ++ sign.toList = front ∧ more.flatMap Lexeme.text = back ∧
      Reads true lead first ∧ Reads true more second ∧
      tokens = first ++ .number (Number.withSign (sign == some '-') k.value) :: second := by
  have hk := h.mem
  obtain ⟨lead, l, more, before, behind, hcut, hbody, hfront, hback⟩ :=
    Lexeme.exists_literal_of_run hread h.written
    (fun c hc => isNumeric_of_mem_digits hk hc) (exists_point_digits hk)
  have hmem : .literal l ∈ Lexeme.cut (substituteConstants text).toList := by simp [hcut]
  obtain ⟨hsign, hnumber⟩ := Lexeme.wellFormed_of_mem_cutFrom hmem
  obtain ⟨hleft, hright⟩ := h.neighbours
  -- more digits of the literal would be those of a second constant
  have hbefore : before = [] := by
    rcases hleft with ⟨k', hk', rest, rfl⟩ | hlast
    · have htext : (substituteConstants text).toList = rest ++ (k'.digits ++ k.digits ++ back) := by
        rw [h.written, List.append_assoc, List.append_assoc]
      exact (false_of_digits_digits hread hk' hk htext).elim
    · rcases List.eq_nil_or_concat' before with rfl | ⟨start, c, rfl⟩
      · rfl
      · have hc : isNumeric c = true := hnumber c (by simp [hbody])
        rw [hfront, ← List.append_assoc, List.getLast?_concat, Option.any_some, hc] at hlast
        contradiction
  have hbehind : behind = [] := by
    rcases hright with ⟨k', hk', rest, rfl⟩ | hhead
    · have htext : (substituteConstants text).toList = front ++
          (k.digits ++ k'.digits ++ rest) := by
        rw [h.written, List.append_assoc]
      exact (false_of_digits_digits hread hk hk' htext).elim
    · cases behind with
      | nil => rfl
      | cons c rest =>
        have hc : isNumeric c = true := hnumber c (by simp [hbody])
        rw [hback, List.cons_append, List.head?_cons, Option.any_some, hc] at hhead
        contradiction
  subst hbefore hbehind
  obtain ⟨sign, body⟩ := l
  obtain rfl : body = k.digits := by simpa using hbody
  rw [read, hcut] at hread
  obtain ⟨first, second, -, hfirst, hsecond, rfl⟩ := exists_read_of_literal hread
  refine ⟨sign, lead, more, first, second, hsign, hcut, ?_, hback.symm, hfirst, hsecond, ?_⟩
  · rw [hfront, List.append_nil]
  · rw [Literal.value_digits hk]

/-- The second of two constants, behind a sign. -/
theorem read_inserted_signed :
    Inserted "e*-π" piSymbol (eulerDigits ++ ['*', '-']) [] ∧
      ∃ sign lead more first second, Lexeme.cut (substituteConstants "e*-π").toList = lead ++
        .literal ⟨sign, piDigits⟩ :: more ∧
        lead.flatMap Lexeme.text ++ sign.toList = eulerDigits ++ ['*', '-'] ∧
        more.flatMap Lexeme.text = [] ∧
        [number 2.718281828459045, .operator .mul, number (-3.141592653589793)] =
          first ++ .number (Number.withSign (sign == some '-') piSymbol.value) :: second := by
  have heuler : euler ∈ all := by simp [all]
  have hplace : Inserted "e*-π" piSymbol (eulerDigits ++ ['*', '-']) [] :=
    ⟨by simp [all], by decide +kernel, ['e', '*', '-'], [], rfl,
      .replace heuler (.keep '*' (.keep '-' .nil)), .nil⟩
  have hread : read true (substituteConstants "e*-π") =
      .ok [number 2.718281828459045, .operator .mul, number (-3.141592653589793)] := by
    decide +kernel
  obtain ⟨sign, lead, more, first, second, -, hcut, hfront, hback, -, -, htokens⟩ :=
    read_inserted hread hplace
  exact ⟨hplace, sign, lead, more, first, second, hcut, hfront, hback, htokens⟩

end Token

end Calculator

import Mathlib.Data.List.Basic
import Calculator.Proofs.Lexing

/-! # Changing the end of a text

A lexeme is cut off with a look at what follows it, but little of that matters: whether a `(`
follows what may be called, and whether the lexeme goes on with the next character (`goesOn`). So
the lexemes in front of some place of a text stay the same when the text behind the place is changed
(`cutFrom_of_sameCalls`), provided the same calls start in front of the place, and the lexeme that
ends there does not go on. It does not go on with the character that follows it in the text
(`endsAt_of_cutFrom`). There are two such changes:

* `cutFrom_exchange`: there is no `(` behind the place before and after the change.
* `cutFrom_front`: the text ends at the place, and no call was opened right behind it.

What is expected behind some lexemes is told by the last of them that is no blank (`expectsBehind`).
-/

namespace Calculator

open Text

namespace Lexeme

/-! ### What is expected -/

/-- An operand is expected behind these lexemes, if it is or is not in front of them. -/
def expectsBehind (expects : Bool) (lexemes : List Lexeme) : Bool :=
  lexemes.foldl expectsOperand expects

theorem expectsBehind_concat (expects : Bool) (lexemes : List Lexeme) (lexeme : Lexeme) :
    expectsBehind expects (lexemes ++ [lexeme]) =
      lexeme.expectsOperand (expectsBehind expects lexemes) := by
  rw [expectsBehind, List.foldl_append]
  rfl

/-! ### What follows a call -/

theorem opensCall_of_notMem {cs : List Char} (h : '(' ∉ cs) : opensCall cs = false := by
  rw [opensCall, beq_eq_false_iff_ne]
  intro hhead
  exact h ((List.dropWhile_sublist _).subset (List.mem_of_mem_head? hhead))

theorem callAt?_append_of_notMem (cs : List Char) {tail : List Char} (h : '(' ∉ tail) :
    callAt? (cs ++ tail) = callAt? cs := by
  refine callAt?_append cs (opensCall_of_notMem h) ?_
  intro s _ front back rest _ _ htail
  refine opensCall_of_notMem fun hmem => h ?_
  rw [htail]
  exact List.mem_append_right back hmem

/-! ### Where the first lexeme ends -/

/-- A lexeme goes on if this character follows it: a literal with a character of literals, a name
with one of names, and a sign, where an operand is expected, with the literal that it belongs to. -/
def goesOn (expects : Bool) (next : Option Char) : Lexeme → Bool
  | literal _ => next.any isNumberChar
  | name _ => next.any isNameChar
  | symbol c _ => isSign c && expects && next.any isNumberChar
  | blank _ | call .. | stray _ => false

theorem takeWhile_eq_left_iff {p : Char → Bool} {word rest : List Char} :
    (word ++ rest).takeWhile p = word ↔ (∀ c ∈ word, p c = true) ∧ rest.head?.any p = false := by
  induction word with
  | nil =>
    cases rest with
    | nil => simp
    | cons c rest => by_cases hc : p c = true <;> simp [hc]
  | cons c word ih =>
    by_cases hc : p c = true
    · rw [List.cons_append, List.takeWhile_cons_of_pos hc, List.cons.injEq, ih,
        List.forall_mem_cons]
      simp [hc]
    · rw [List.cons_append, List.takeWhile_cons_of_neg hc, List.forall_mem_cons]
      simp [hc]

theorem operator_of_isSign {c : Char} (h : isSign c = true) :
    ∃ op, Token.ofChar? c = some (.operator op) := by
  rcases eq_of_isSign h with rfl | rfl
  · exact ⟨.add, rfl⟩
  · exact ⟨.sub, rfl⟩

theorem startsSigned_of_ofChar? {c : Char} (h : Token.ofChar? c = none) (expects : Bool)
    (rest : List Char) : startsSigned expects c rest = false := by
  cases hs : isSign c with
  | false => rw [startsSigned, hs, Bool.false_and, Bool.false_and]
  | true =>
    obtain ⟨op, hop⟩ := operator_of_isSign hs
    rw [h] at hop
    contradiction

/-- **The first lexeme of a text does not go on with what follows it**, and it is the first lexeme
in front of everything with which it does not go on and that opens the same call. -/
theorem first_exchange {expects : Bool} {c : Char} {word rest : List Char} {lexeme : Lexeme}
    (h : first expects c (word ++ rest) = lexeme) (htext : lexeme.text = c :: word) :
    lexeme.goesOn expects rest.head? = false ∧
      ∀ rest', callAt? (c :: (word ++ rest')) = callAt? (c :: (word ++ rest)) →
        lexeme.goesOn expects rest'.head? = false → first expects c (word ++ rest') = lexeme := by
  unfold first at h
  split at h
  next hblank =>
    subst h
    exact ⟨rfl, fun rest' _ _ => by rw [first, if_pos hblank]⟩
  next hblank =>
  split at h
  next spelling f hcall =>
    subst h
    refine ⟨rfl, fun rest' hsame _ => ?_⟩
    rw [first, if_neg hblank, hsame, hcall]
  next hcall =>
  split at h
  next hnumber =>
    subst h
    have htake : (word ++ rest).takeWhile isNumberChar = word := (List.cons.inj htext).2
    obtain ⟨hword, hstop⟩ := takeWhile_eq_left_iff.mp htake
    refine ⟨hstop, fun rest' hsame hstop' => ?_⟩
    rw [first, if_neg hblank, hsame, hcall, takeWhile_eq_left_iff.mpr ⟨hword, hstop'⟩, htake]
    exact if_pos hnumber
  next hnumber =>
  split at h
  next hsigned =>
    subst h
    have htake : (word ++ rest).takeWhile isNumberChar = word := (List.cons.inj htext).2
    obtain ⟨hword, hstop⟩ := takeWhile_eq_left_iff.mp htake
    refine ⟨hstop, fun rest' hsame hstop' => ?_⟩
    have hsigned' : startsSigned expects c (word ++ rest') = true := by
      cases word with
      | nil =>
        rw [List.nil_append, startsSigned, hstop, Bool.and_false] at hsigned
        contradiction
      | cons d word => exact hsigned
    rw [first, if_neg hblank, hsame, hcall, takeWhile_eq_left_iff.mpr ⟨hword, hstop'⟩, htake,
      if_pos hsigned']
    exact if_neg hnumber
  next hsigned =>
  split at h
  next t ht =>
    subst h
    obtain rfl : [] = word := (List.cons.inj htext).2
    refine ⟨Bool.eq_false_iff.mpr hsigned, fun rest' hsame hstop' => ?_⟩
    have hsigned' : startsSigned expects c ([] ++ rest') = false := hstop'
    rw [first, if_neg hblank, hsame, hcall, hsigned', ht]
    exact if_neg hnumber
  next ht =>
  split at h
  next hletter =>
    subst h
    have htake : (word ++ rest).takeWhile isNameChar = word := (List.cons.inj htext).2
    obtain ⟨hword, hstop⟩ := takeWhile_eq_left_iff.mp htake
    refine ⟨hstop, fun rest' hsame hstop' => ?_⟩
    rw [first, if_neg hblank, hsame, hcall, startsSigned_of_ofChar? ht, ht,
      takeWhile_eq_left_iff.mpr ⟨hword, hstop'⟩, htake, if_pos hletter]
    exact if_neg hnumber
  next hletter =>
    subst h
    refine ⟨rfl, fun rest' hsame _ => ?_⟩
    rw [first, if_neg hblank, hsame, hcall, startsSigned_of_ofChar? ht, ht, if_neg hletter]
    exact if_neg hnumber

/-! ### Where a lexeme ends -/

theorem cutFrom_eq_cons {expects : Bool} {cs : List Char} {lexeme : Lexeme} {more : List Lexeme}
    (h : cutFrom expects cs = lexeme :: more) :
    ∃ c word, lexeme.text = c :: word ∧ cs = c :: (word ++ more.flatMap text) ∧
      first expects c (word ++ more.flatMap text) = lexeme ∧
      cutFrom (lexeme.expectsOperand expects) (more.flatMap text) = more := by
  cases cs with
  | nil =>
    rw [cutFrom_nil] at h
    contradiction
  | cons c rest =>
    obtain ⟨word, htext, tail, rfl⟩ := text_first expects c rest
    rw [cutFrom_of_first word rfl htext] at h
    obtain ⟨hfirst, hmore⟩ := List.cons.inj h
    have htail : more.flatMap text = tail := by
      rw [← hmore, texts_cutFrom]
    rw [hfirst] at htext hmore
    exact ⟨c, word, htext, by rw [htail], by rw [htail, hfirst], by rw [htail, hmore]⟩

/-- The last of these lexemes does not go on with this character. -/
def EndsAt (expects : Bool) (lexemes : List Lexeme) (next : Option Char) : Prop :=
  ∀ front lexeme, lexemes = front ++ [lexeme] →
    lexeme.goesOn (expectsBehind expects front) next = false

theorem endsAt_nil (expects : Bool) (next : Option Char) : EndsAt expects [] next := by
  intro front lexeme h
  simp at h

theorem endsAt_singleton {expects : Bool} {lexeme : Lexeme} {next : Option Char} :
    EndsAt expects [lexeme] next ↔ lexeme.goesOn expects next = false := by
  constructor
  · intro h
    exact h [] lexeme rfl
  · intro h front lexeme' heq
    obtain ⟨rfl, rfl⟩ : [] = front ∧ lexeme = lexeme' := by
      cases front with
      | nil => simpa using heq
      | cons => simp at heq
    exact h

theorem endsAt_cons_cons {expects : Bool} {lexeme lexeme' : Lexeme} {lexemes : List Lexeme}
    {next : Option Char} :
    EndsAt expects (lexeme :: lexeme' :: lexemes) next ↔
      EndsAt (lexeme.expectsOperand expects) (lexeme' :: lexemes) next := by
  constructor
  · intro h front last heq
    exact h (lexeme :: front) last (by rw [heq, List.cons_append])
  · intro h front last heq
    cases front with
    | nil => simp at heq
    | cons first front =>
      obtain ⟨rfl, htail⟩ := List.cons.inj heq
      exact h front last htail

theorem endsAt_concat {expects : Bool} {front : List Lexeme} {lexeme : Lexeme}
    {next : Option Char} :
    EndsAt expects (front ++ [lexeme]) next ↔
      lexeme.goesOn (expectsBehind expects front) next = false := by
  constructor
  · intro h
    exact h front lexeme rfl
  · intro h front' lexeme' heq
    obtain ⟨rfl, rfl⟩ := List.append_singleton_inj.mp heq
    exact h

theorem endsAt_of_stop {next : Option Char} (hnumber : next.any isNumberChar = false)
    (hname : next.any isNameChar = false) (expects : Bool) (lexemes : List Lexeme) :
    EndsAt expects lexemes next := by
  intro front lexeme _
  cases lexeme with
  | literal => exact hnumber
  | name => exact hname
  | symbol c t => rw [goesOn, hnumber, Bool.and_false]
  | blank | call | stray => rfl

/-- **No lexeme goes on with what follows it.** -/
theorem endsAt_of_cutFrom {expects : Bool} {cs : List Char} {lead more : List Lexeme}
    (h : cutFrom expects cs = lead ++ more) : EndsAt expects lead (more.flatMap text).head? := by
  induction lead generalizing expects cs with
  | nil => exact endsAt_nil _ _
  | cons lexeme lead ih =>
    obtain ⟨c, word, htext, -, hfirst, hrest⟩ := cutFrom_eq_cons h
    cases lead with
    | nil => exact endsAt_singleton.mpr (first_exchange hfirst htext).1
    | cons lexeme' lead => exact endsAt_cons_cons.mpr (ih hrest)

theorem cutFrom_behind {expects : Bool} {cs : List Char} {lead more : List Lexeme}
    (h : cutFrom expects cs = lead ++ more) :
    cutFrom (expectsBehind expects lead) (more.flatMap text) = more := by
  induction lead generalizing expects cs with
  | nil =>
    have htexts := texts_cutFrom expects cs
    rw [h, List.nil_append] at htexts
    rw [htexts]
    exact h
  | cons lexeme lead ih =>
    rw [List.cons_append] at h
    obtain ⟨c, word, -, -, -, hrest⟩ := cutFrom_eq_cons h
    exact ih hrest

theorem opensCall_of_cutFrom {expects : Bool} {cs spelling : List Char} {f : MathFunction}
    {lead more : List Lexeme} (h : cutFrom expects cs = lead ++ call spelling f :: more) :
    opensCall (more.flatMap text) = true := by
  obtain ⟨c, word, htext, -, hfirst, -⟩ := cutFrom_eq_cons (cutFrom_behind h)
  have hspelling : spelling = c :: word := htext
  unfold first at hfirst
  split at hfirst
  · contradiction
  split at hfirst
  next spelling' f' hcall =>
    obtain ⟨rfl, rfl⟩ := call.inj hfirst
    obtain ⟨-, rest, heq, hopens⟩ := callAt?_eq_some_iff.mp hcall
    rw [hspelling, List.cons_append] at heq
    rwa [List.append_cancel_left (List.cons.inj heq).2]
  · repeat (split at hfirst; contradiction)
    contradiction

/-- **A literal has its sign where an operand is expected**, and nowhere else. -/
theorem expectsBehind_of_sign {expects : Bool} {cs : List Char} {l : Literal}
    {lead more : List Lexeme} (h : cutFrom expects cs = lead ++ literal l :: more)
    (hsign : l.sign ≠ none) : expectsBehind expects lead = true := by
  obtain ⟨c, word, htext, -, hfirst, -⟩ := cutFrom_eq_cons (cutFrom_behind h)
  unfold first at hfirst
  split at hfirst
  · contradiction
  split at hfirst
  · contradiction
  split at hfirst
  · obtain rfl := literal.inj hfirst
    contradiction
  split at hfirst
  next hsigned =>
    simp only [startsSigned, Bool.and_eq_true] at hsigned
    exact hsigned.1.2
  split at hfirst
  · contradiction
  split at hfirst <;> contradiction

theorem text_ne_nil_of_mem_cutFrom {expects : Bool} {cs : List Char} {lexeme : Lexeme}
    (h : lexeme ∈ cutFrom expects cs) : lexeme.text ≠ [] := by
  obtain ⟨before, c, rest, rfl⟩ := exists_first_of_mem_cutFrom h
  obtain ⟨word, htext, -⟩ := text_first before c rest
  rw [htext]
  exact List.cons_ne_nil _ _

theorem texts_of_cutFrom_concat {expects : Bool} {cs : List Char} {lead : List Lexeme}
    {lexeme : Lexeme} (h : cutFrom expects cs = lead ++ [lexeme]) :
    cs = lead.flatMap text ++ lexeme.text := by
  have htexts := texts_cutFrom expects cs
  rwa [h, List.flatMap_append, List.flatMap_singleton, eq_comm] at htexts

theorem any_head_of_unsigned {expects : Bool} {cs : List Char} {l : Literal}
    (h : literal l ∈ cutFrom expects cs) (hunsigned : l.sign = none) (rest : List Char) :
    ((literal l).text ++ rest).head?.any isNumberChar = true := by
  have hne := body_ne_nil_of_mem_cutFrom h
  have hbody := (wellFormed_of_mem_cutFrom h).2
  rw [text, Literal.text, hunsigned]
  cases hl : l.body with
  | nil => exact absurd hl hne
  | cons c body => exact hbody c (by simp [hl])

/-- **The lexemes in front of a place do not depend on what stands behind it**, as long as the same
calls start in front of it and the last of them does not go on. -/
theorem cutFrom_of_sameCalls {expects : Bool} {cs tail : List Char} {lead more : List Lexeme}
    (h : cutFrom expects cs = lead ++ more)
    (hcalls : ∀ lexeme back, lexeme :: back <:+ lead →
      callAt? ((lexeme :: back).flatMap text ++ tail) =
        callAt? ((lexeme :: back).flatMap text ++ more.flatMap text))
    (hends : EndsAt expects lead tail.head?) :
    cutFrom expects (lead.flatMap text ++ tail) = lead ++
      cutFrom (expectsBehind expects lead) tail := by
  induction lead generalizing expects cs with
  | nil => rfl
  | cons lexeme lead ih =>
    rw [List.cons_append] at h
    obtain ⟨c, word, htext, -, hfirst, hrest⟩ := cutFrom_eq_cons h
    obtain ⟨hstops, hexchange⟩ := first_exchange hfirst htext
    have htexts : ∀ behind, (lexeme :: lead).flatMap text ++ behind = c ::
        (word ++ (lead.flatMap text ++ behind)) := by
      intro behind
      rw [List.flatMap_cons, htext, List.append_assoc, List.cons_append]
    have hcall : callAt? (c :: (word ++ (lead.flatMap text ++ tail))) =
        callAt? (c :: (word ++ (lead ++ more).flatMap text)) := by
      have hsame := hcalls lexeme lead (List.suffix_refl _)
      rwa [htexts, htexts, ← List.flatMap_append] at hsame
    have hrestCalls : ∀ lexeme' back, lexeme' :: back <:+ lead →
        callAt? ((lexeme' :: back).flatMap text ++ tail) =
          callAt? ((lexeme' :: back).flatMap text ++ more.flatMap text) :=
      fun lexeme' back hback => hcalls lexeme' back (hback.trans (List.suffix_cons lexeme lead))
    -- behind the lexeme stands what stood there, or at the end the tail
    have hnext : lexeme.goesOn expects (lead.flatMap text ++ tail).head? = false ∧
        cutFrom (lexeme.expectsOperand expects) (lead.flatMap text ++ tail) =
          lead ++ cutFrom (expectsBehind (lexeme.expectsOperand expects) lead) tail := by
      cases lead with
      | nil => exact ⟨endsAt_singleton.mp hends, rfl⟩
      | cons lexeme' lead =>
        have hmem : lexeme' ∈ cutFrom (lexeme.expectsOperand expects)
            ((lexeme' :: lead ++ more).flatMap text) := by
          rw [hrest]
          exact List.mem_cons_self
        have hne : (lexeme' :: lead).flatMap text ≠ [] := by
          simp [text_ne_nil_of_mem_cutFrom hmem]
        rw [List.flatMap_append, List.head?_append_of_ne_nil _ hne] at hstops
        refine ⟨?_, ih hrest hrestCalls (endsAt_cons_cons.mp hends)⟩
        rwa [List.head?_append_of_ne_nil _ hne]
    rw [htexts, cutFrom_of_first word (hexchange _ hcall hnext.1) htext, hnext.2]
    rfl

/-- The lexemes in front of a place stay the same, whatever is put behind it, as long as no `(` is
and the last of them does not go on. -/
theorem cutFrom_exchange {expects : Bool} {cs tail : List Char} {lead more : List Lexeme}
    (h : cutFrom expects cs = lead ++ more) (hmore : '(' ∉ more.flatMap text) (htail : '(' ∉ tail)
    (hends : EndsAt expects lead tail.head?) :
    cutFrom expects (lead.flatMap text ++ tail) = lead ++
      cutFrom (expectsBehind expects lead) tail := by
  refine cutFrom_of_sameCalls h ?_ hends
  intro lexeme back _
  rw [callAt?_append_of_notMem _ htail, callAt?_append_of_notMem _ hmore]

theorem eq_call_of_callAt? {expects : Bool} {cs spelling : List Char} {f : MathFunction}
    {lexeme : Lexeme} {more : List Lexeme} (h : cutFrom expects cs = lexeme :: more)
    (hcall : callAt? cs = some (spelling, f)) : lexeme = call spelling f := by
  obtain ⟨hmem, rest, rfl, hopens⟩ := callAt?_eq_some_iff.mp hcall
  have hcut := cutFrom_call hmem expects hopens
  rw [String.toList_ofList, h] at hcut
  exact (List.cons.inj hcut).1

/-- The same call starts at the front of a text and of its first lexemes, if no call is opened right
behind them. -/
theorem callAt?_of_cutFrom {expects : Bool} {cs : List Char} {lexeme : Lexeme}
    {back more : List Lexeme} (h : cutFrom expects cs = lexeme :: (back ++ more))
    (hmore : opensCall (more.flatMap text) = false) :
    callAt? ((lexeme :: back).flatMap text) =
      callAt? ((lexeme :: back).flatMap text ++ more.flatMap text) := by
  have htexts := texts_cutFrom expects cs
  rw [h, ← List.cons_append, List.flatMap_append] at htexts
  apply Option.ext
  rintro ⟨spelling, f⟩
  constructor
  · intro hcall
    obtain ⟨hmem, rest, heq, hopens⟩ := callAt?_eq_some_iff.mp hcall
    refine callAt?_eq_some_iff.mpr ⟨hmem, rest ++ more.flatMap text, ?_, ?_⟩
    · rw [heq, List.append_assoc]
    · rwa [opensCall_append rest hmore]
  · intro hcall
    -- the call is the first lexeme, so it does not reach behind the others
    obtain ⟨hmem, rest, heq, hopens⟩ := callAt?_eq_some_iff.mp hcall
    rw [htexts] at hcall
    obtain rfl := eq_call_of_callAt? h hcall
    rw [List.flatMap_cons, text, List.append_assoc] at heq
    obtain rfl := List.append_cancel_left heq
    rw [opensCall_append _ hmore] at hopens
    exact callAt?_eq_some_iff.mpr ⟨hmem, back.flatMap text, rfl, hopens⟩

/-- **A text that is cut off behind some of its lexemes has just these lexemes**, if no call is
opened right behind them. -/
theorem cutFrom_front {expects : Bool} {cs : List Char} {lead more : List Lexeme}
    (h : cutFrom expects cs = lead ++ more) (hmore : opensCall (more.flatMap text) = false) :
    cutFrom expects (lead.flatMap text) = lead := by
  have hcalls : ∀ lexeme back, lexeme :: back <:+ lead →
      callAt? ((lexeme :: back).flatMap text ++ []) =
        callAt? ((lexeme :: back).flatMap text ++ more.flatMap text) := by
    rintro lexeme back ⟨front, rfl⟩
    rw [List.append_assoc] at h
    rw [List.append_nil]
    exact callAt?_of_cutFrom (cutFrom_behind h) hmore
  have hcut := cutFrom_of_sameCalls h hcalls (endsAt_of_stop rfl rfl expects lead)
  rwa [List.append_nil, cutFrom_nil, List.append_nil] at hcut

end Lexeme

end Calculator

import Mathlib.Data.List.TakeWhile
import Calculator.Token.Read

/-! # Where lexemes end

`Lexeme.cutFrom` decides at each place what stands there by looking ahead: for the `(` behind a
spelling, for the end of a literal, for the digit behind a sign. This module says when a lexeme that
was written down is found again in front of a given rest.

* `callAt?_eq_some_iff`: a spelling is called at a place exactly when it stands there with a `(`
  behind it. No two spellings do so at one place (`spelling_unique`), so the order of the table does
  not matter.
* `Stops rest`: a literal in front of `rest` ends there, and makes no spelling with it. The only
  spellings that begin like a literal are `10^x` and `1/x`.
* `WellFormed`: what a lexeme is made of, true of whatever a text is cut into.
* `cutFrom_blanks`, `cutFrom_call`, `cutFrom_literal`, `cutFrom_symbol`, `cutFrom_name`: one cut for
  each kind.
* `cutFrom_append_closing`: whatever stands in front of a `)` is cut as if nothing followed.
-/

namespace Calculator

open Text

/-! ### Characters -/

theorem Text.toNat_of_isBlank {c : Char} (h : isBlank c = true) :
    c.toNat ≤ 0x20 ∨ 0x85 ≤ c.toNat := by
  simp only [isBlank, isWhiteSpace, whiteSpaceRanges, List.any_cons, List.any_nil, Bool.or_eq_true,
    Bool.and_eq_true, decide_eq_true_eq, Bool.or_false] at h
  omega

theorem Text.isBlank_eq_false {c : Char} (h : 0x20 < c.toNat) (h' : c.toNat < 0x85) :
    isBlank c = false := by
  cases hb : isBlank c with
  | false => rfl
  | true => have := toNat_of_isBlank hb; omega

theorem toNat_of_isNumberChar {c : Char} (h : isNumberChar c = true) :
    c.toNat = 0x2E ∨ (0x30 ≤ c.toNat ∧ c.toNat ≤ 0x39) := by
  simp only [isNumberChar, isAsciiDigit, Bool.or_eq_true, Bool.and_eq_true, decide_eq_true_eq,
    beq_iff_eq] at h
  rcases h with h | rfl
  · exact Or.inr h
  · exact Or.inl rfl

theorem isBlank_of_isNumberChar {c : Char} (h : isNumberChar c = true) : isBlank c = false := by
  have := toNat_of_isNumberChar h
  exact isBlank_eq_false (by omega) (by omega)

theorem isNumberChar_of_isBlank {c : Char} (h : isBlank c = true) : isNumberChar c = false := by
  cases hn : isNumberChar c with
  | false => rfl
  | true => rw [isBlank_of_isNumberChar hn] at h; contradiction

theorem eq_of_isSign {c : Char} (h : isSign c = true) : c = '+' ∨ c = '-' := by
  simpa [isSign] using h

theorem Text.toNat_of_isAsciiLetter {c : Char} (h : isAsciiLetter c = true) :
    0x41 ≤ c.toNat ∧ c.toNat ≤ 0x7A := by
  simp only [isAsciiLetter, Bool.or_eq_true, Bool.and_eq_true, decide_eq_true_eq] at h
  have hletters : (0x61 ≤ c.toNat ∧ c.toNat ≤ 0x7A) ∨ (0x41 ≤ c.toNat ∧ c.toNat ≤ 0x5A) := h
  omega

theorem isNameChar_of_isNumberChar {c : Char} (h : isNumberChar c = true) :
    isNameChar c = false := by
  have hrange := toNat_of_isNumberChar h
  have hletter : isLetter c = false := by
    rw [isLetter_eq_of_lt (by omega), ← Bool.not_eq_true]
    intro hascii
    have := toNat_of_isAsciiLetter hascii
    omega
  have hcaret : c ≠ '^' := by
    rintro rfl
    exact absurd h (by decide)
  simp [isNameChar, hletter, hcaret]

/-- No letter is blank: the ranges of letters have nothing in common with those of blanks. -/
theorem Text.isBlank_of_isLetter {c : Char} (h : isLetter c = true) : isBlank c = false := by
  have hapart :
      (whiteSpaceRanges.all fun r => letterRanges.all fun s => decide (r.2 < s.1 ∨ s.2 < r.1)) =
        true := by
    decide +kernel
  rw [← Bool.not_eq_true]
  intro hblank
  have hrange := toNat_of_isBlank hblank
  rw [isLetter, Bool.or_eq_true, Bool.and_eq_true, List.any_eq_true] at h
  rcases h with hascii | ⟨hhigh, s, hs, hletter⟩
  · have := toNat_of_isAsciiLetter hascii
    omega
  · simp only [decide_eq_true_eq, Bool.and_eq_true] at hhigh hletter
    rw [isBlank, Bool.or_eq_true, isWhiteSpace, List.any_eq_true] at hblank
    simp only [decide_eq_true_eq, Bool.and_eq_true] at hblank
    rcases hblank with hseparator | ⟨r, hr, hwhite⟩
    · omega
    · have hranges := List.all_eq_true.mp (List.all_eq_true.mp hapart r hr) s hs
      rw [decide_eq_true_eq] at hranges
      omega

theorem isBlank_of_isNameChar {c : Char} (h : isNameChar c = true) : isBlank c = false := by
  simp only [isNameChar, Bool.or_eq_true, beq_iff_eq] at h
  rcases h with h | rfl
  · exact isBlank_of_isLetter h
  · decide

theorem eq_of_ofChar? {c : Char} {t : Token} (h : Token.ofChar? c = some t) :
    c = '+' ∨ c = '-' ∨ c = '*' ∨ c = '/' ∨ c = '(' ∨ c = ')' := by
  unfold Token.ofChar? at h
  split at h <;> first | contradiction | simp

theorem MathFunction.ofSpelling?_eq_some_iff {text : String} {f : MathFunction} :
    ofSpelling? text = some f ↔ (text, f) ∈ spellings := by
  constructor
  · intro h
    obtain ⟨front, back, heq, -⟩ := List.lookup_eq_some_iff.mp h
    simp [heq]
  · intro h
    have hall : ∀ s ∈ spellings, ofSpelling? s.1 = some s.2 := by decide +kernel
    exact hall _ h

theorem BinaryOp.ofChar?_symbol (op : BinaryOp) :
    Token.ofChar? op.symbol = some (.operator op) := by
  cases op <;> rfl

namespace Lexeme

/-! ### Calls -/

theorem spelling_chars {s : String × MathFunction} (hs : s ∈ MathFunction.spellings) {c : Char}
    (hc : c ∈ s.1.toList) : isBlank c = false ∧ c ≠ '(' ∧ c ≠ ')' := by
  have hall : (MathFunction.spellings.all fun s => s.1.toList.all fun c =>
      !isBlank c && (c != '(' && c != ')')) = true := by decide +kernel
  have h := List.all_eq_true.mp (List.all_eq_true.mp hall s hs) c hc
  simpa using h

theorem spelling_nodup {s t : String × MathFunction} (hs : s ∈ MathFunction.spellings)
    (ht : t ∈ MathFunction.spellings) (h : s.1.toList = t.1.toList) : s = t := by
  have hall : (MathFunction.spellings.all fun s => MathFunction.spellings.all fun t =>
      s.1.toList != t.1.toList || s == t) = true := by decide +kernel
  have hst := List.all_eq_true.mp (List.all_eq_true.mp hall s hs) t ht
  simpa [h] using hst

theorem spelling_ne_nil {s : String × MathFunction} (hs : s ∈ MathFunction.spellings) :
    s.1.toList ≠ [] := by
  have hall : (MathFunction.spellings.all fun s => !s.1.toList.isEmpty) = true := by decide +kernel
  simpa using List.all_eq_true.mp hall s hs

theorem isLetter_of_spelling {s : String × MathFunction} (hs : s ∈ MathFunction.spellings)
    {c : Char} {word : List Char} (h : s.1.toList = c :: word) (hname : isNameChar c = true) :
    isLetter c = true := by
  have hcaret : ∀ s ∈ MathFunction.spellings, s.1.toList.head? ≠ some '^' := by decide +kernel
  simp only [isNameChar, Bool.or_eq_true, beq_iff_eq] at hname
  rcases hname with hletter | rfl
  · exact hletter
  · exact absurd (congrArg List.head? h) (hcaret s hs)

theorem spelling_ne_x {s : String × MathFunction} (hs : s ∈ MathFunction.spellings) :
    s.1.toList ≠ ['x'] := by
  have hall : (MathFunction.spellings.all fun s => s.1.toList != ['x']) = true := by decide +kernel
  simpa using List.all_eq_true.mp hall s hs

theorem opensCall_cons {c : Char} (h : isBlank c = false) (cs : List Char) :
    opensCall (c :: cs) = (c == '(') := by
  simp [opensCall, h]

theorem opensCall_blanks {blanks : List Char} (h : ∀ c ∈ blanks, isBlank c = true)
    (cs : List Char) : opensCall (blanks ++ cs) = opensCall cs := by
  rw [opensCall, List.dropWhile_append_of_pos h, ← opensCall]

theorem head_of_opensCall {cs : List Char} (h : opensCall cs = true) :
    ∀ c ∈ cs.head?, isBlank c = true ∨ c = '(' := by
  intro c hc
  obtain ⟨rest, rfl⟩ := List.head?_eq_some_iff.mp hc
  cases hblank : isBlank c with
  | true => exact Or.inl rfl
  | false =>
    rw [opensCall_cons hblank] at h
    exact Or.inr (by simpa using h)

theorem not_opensCall_of_spelling {s : String × MathFunction} (hs : s ∈ MathFunction.spellings)
    {front back : List Char} (hsplit : s.1.toList = front ++ back) (hback : back ≠ [])
    (cs : List Char) : opensCall (back ++ cs) = false := by
  cases back with
  | nil => exact absurd rfl hback
  | cons c back =>
    have hc := spelling_chars hs (by simp [hsplit] : c ∈ s.1.toList)
    rw [List.cons_append, opensCall_cons hc.1]
    simpa using hc.2.1

/-- **At one place at most one spelling is called.** A longer one would have to go on where the
shorter one is followed by blanks and a `(`. -/
theorem spelling_unique {s t : String × MathFunction} (hs : s ∈ MathFunction.spellings)
    (ht : t ∈ MathFunction.spellings) {rest rest' : List Char}
    (heq : s.1.toList ++ rest = t.1.toList ++ rest') (hrest : opensCall rest = true)
    (hrest' : opensCall rest' = true) : s = t := by
  rcases List.append_eq_append_iff.mp heq with ⟨back, hback, hr⟩ | ⟨back, hback, hr⟩
  · by_cases hb : back = []
    · exact spelling_nodup hs ht (by rw [hback, hb, List.append_nil])
    · rw [hr, not_opensCall_of_spelling ht hback hb] at hrest
      contradiction
  · by_cases hb : back = []
    · exact spelling_nodup hs ht (by rw [hback, hb, List.append_nil])
    · rw [hr, not_opensCall_of_spelling hs hback hb] at hrest'
      contradiction

theorem calledAt_iff (s : String × MathFunction) (cs : List Char) :
    (s.1.toList.isPrefixOf cs && opensCall (cs.drop s.1.toList.length)) = true ↔
      ∃ rest, cs = s.1.toList ++ rest ∧ opensCall rest = true := by
  rw [Bool.and_eq_true, List.isPrefixOf_iff_prefix]
  constructor
  · rintro ⟨⟨rest, rfl⟩, h⟩
    exact ⟨rest, rfl, by rwa [List.drop_left] at h⟩
  · rintro ⟨rest, rfl, h⟩
    exact ⟨List.prefix_append _ _, by rwa [List.drop_left]⟩

/-- The spelling of a table that is called at the front of a text, with its function; the first one
of the table, if there were several. -/
def callIn? (table : List (String × MathFunction)) (cs : List Char) :
    Option (List Char × MathFunction) :=
  (table.find? fun s => s.1.toList.isPrefixOf cs && opensCall (cs.drop s.1.toList.length)).map
    fun s => (s.1.toList, s.2)

theorem callIn?_spellings (cs : List Char) : callIn? MathFunction.spellings cs = callAt? cs := rfl

theorem callIn?_eq_some_iff {table : List (String × MathFunction)}
    (htable : table.Perm MathFunction.spellings) {cs spelling : List Char} {f : MathFunction} :
    callIn? table cs = some (spelling, f) ↔
      (String.ofList spelling, f) ∈ MathFunction.spellings ∧
        ∃ rest, cs = spelling ++ rest ∧ opensCall rest = true := by
  constructor
  · intro h
    simp only [callIn?, Option.map_eq_some_iff, Prod.exists, Prod.mk.injEq] at h
    obtain ⟨s, g, hs, rfl, rfl⟩ := h
    have hcalled := List.find?_some hs
    have hmem := htable.mem_iff.mp (List.mem_of_find?_eq_some hs)
    exact ⟨by simpa using hmem, (calledAt_iff _ _).mp hcalled⟩
  · rintro ⟨hmem, rest, rfl, hopens⟩
    have hcalled := (calledAt_iff (String.ofList spelling, f) (spelling ++ rest)).mpr
      ⟨rest, by simp, hopens⟩
    cases hfind : table.find? fun s =>
        s.1.toList.isPrefixOf (spelling ++ rest) &&
          opensCall ((spelling ++ rest).drop s.1.toList.length) with
    | none => exact absurd hcalled (List.find?_eq_none.mp hfind _ (htable.mem_iff.mpr hmem))
    | some s =>
      have hfound := List.find?_some hfind
      have hmem' := htable.mem_iff.mp (List.mem_of_find?_eq_some hfind)
      obtain ⟨rest', heq, hopens'⟩ := (calledAt_iff _ _).mp hfound
      have : (String.ofList spelling, f) = s :=
        spelling_unique hmem hmem' (by simpa using heq) hopens hopens'
      rw [callIn?, hfind, ← this]
      simp

theorem callAt?_eq_some_iff {cs spelling : List Char} {f : MathFunction} :
    callAt? cs = some (spelling, f) ↔
      (String.ofList spelling, f) ∈ MathFunction.spellings ∧
        ∃ rest, cs = spelling ++ rest ∧ opensCall rest = true := by
  rw [← callIn?_spellings]
  exact callIn?_eq_some_iff (List.Perm.refl _)

theorem callAt?_cons_eq_none {c : Char}
    (h : (MathFunction.spellings.all fun s => s.1.toList.head? != some c) = true)
    (rest : List Char) : callAt? (c :: rest) = none := by
  cases hcall : callAt? (c :: rest) with
  | none => rfl
  | some p =>
    obtain ⟨spelling, f⟩ := p
    obtain ⟨hmem, rest', heq, -⟩ := callAt?_eq_some_iff.mp hcall
    have hne := spelling_ne_nil hmem
    rw [String.toList_ofList] at hne
    cases spelling with
    | nil => exact absurd rfl hne
    | cons d spelling =>
      obtain ⟨rfl, -⟩ := List.cons.inj heq
      simpa using List.all_eq_true.mp h _ hmem

/-- A call of a word of letters takes up all of it, in front of a character that stands in no
spelling. -/
theorem callAt?_word {word rest spelling : List Char} {f : MathFunction}
    (hword : ∀ c ∈ word, isNameChar c = true)
    (hrest : ∀ c ∈ rest.head?, isBlank c = true ∨ c = '(')
    (h : callAt? (word ++ rest) = some (spelling, f)) :
    spelling = word ∧ opensCall rest = true := by
  obtain ⟨hmem, behind, heq, hopens⟩ := callAt?_eq_some_iff.mp h
  rcases List.append_eq_append_iff.mp heq with ⟨back, rfl, rfl⟩ | ⟨back, rfl, rfl⟩
  · cases back with
    | nil => exact ⟨List.append_nil _, by rwa [List.nil_append]⟩
    | cons c back =>
      obtain ⟨hblank, hopening, -⟩ := spelling_chars hmem (c := c) (by simp)
      rcases hrest c rfl with hc | hc
      · rw [hblank] at hc
        contradiction
      · exact absurd hc hopening
  · cases back with
    | nil => exact ⟨(List.append_nil _).symm, by rwa [List.nil_append] at hopens⟩
    | cons c back =>
      have hname := hword c (by simp)
      rw [List.cons_append, opensCall_cons (isBlank_of_isNameChar hname), beq_iff_eq] at hopens
      rw [hopens] at hname
      exact absurd hname (by decide +kernel)

/-! ### Literals -/

/-- A literal in front of this text ends where the text starts, and is not the beginning of a
spelling that goes on in the text. -/
structure Stops (rest : List Char) : Prop where
  head : ∀ c ∈ rest.head?, isNumberChar c = false
  noCall : ∀ c tail, rest = c :: 'x' :: tail → c = '/' ∨ c = '^' → opensCall tail = false

theorem stops_nil : Stops [] := ⟨by simp, by simp⟩

theorem stops_cons {c : Char} (h : isNumberChar c = false) (h' : c ≠ '/' ∧ c ≠ '^')
    (rest : List Char) : Stops (c :: rest) := by
  refine ⟨by simpa using h, ?_⟩
  rintro d tail heq (rfl | rfl) <;> simp_all

theorem stops_blanks {blanks rest : List Char} (h : ∀ c ∈ blanks, isBlank c = true)
    (hrest : Stops rest) : Stops (blanks ++ rest) := by
  cases blanks with
  | nil => exact hrest
  | cons c blanks =>
    have hc := h c (by simp)
    refine stops_cons (isNumberChar_of_isBlank hc) ⟨?_, ?_⟩ _
    · rintro rfl; exact absurd hc (by decide)
    · rintro rfl; exact absurd hc (by decide)

theorem takeWhile_word {p : Char → Bool} {word rest : List Char} (hword : ∀ c ∈ word, p c = true)
    (hrest : ∀ c ∈ rest.head?, p c = false) : (word ++ rest).takeWhile p = word := by
  rw [List.takeWhile_append_of_pos hword]
  cases rest with
  | nil => simp
  | cons c rest => rw [List.takeWhile_cons_of_neg (by simp [hrest c rfl]), List.append_nil]

/-- A spelling that begins like a literal is one of two. -/
theorem spelling_numeric {s : String × MathFunction} (hs : s ∈ MathFunction.spellings)
    (h : s.1.toList.head?.any isNumberChar = true) :
    s.1.toList = ['1', '0', '^', 'x'] ∨ s.1.toList = ['1', '/', 'x'] := by
  have hall : (MathFunction.spellings.all fun s => !s.1.toList.head?.any isNumberChar ||
      s.1.toList == ['1', '0', '^', 'x'] || s.1.toList == ['1', '/', 'x']) = true := by
    decide +kernel
  simpa [h] using List.all_eq_true.mp hall s hs

/-- A call that starts with the digits of a literal takes up all of them, and goes on behind
them. -/
theorem numeral_of_callAt? {body rest : List Char} {p : List Char × MathFunction}
    (hbody : ∀ c ∈ body, isNumberChar c = true) (hne : body ≠ [])
    (hrest : ∀ c ∈ rest.head?, isNumberChar c = false) (hcall : callAt? (body ++ rest) = some p) :
    ∃ c tail, rest = c :: 'x' :: tail ∧ opensCall tail = true ∧
      (body = ['1', '0'] ∧ c = '^' ∨ body = ['1'] ∧ c = '/') := by
  obtain ⟨spelling, f⟩ := p
  obtain ⟨hmem, tail, heq, hopens⟩ := callAt?_eq_some_iff.mp hcall
  have hspelling := spelling_ne_nil hmem
  have hnumeric := spelling_numeric hmem
  rw [String.toList_ofList] at hspelling hnumeric
  -- the digits at the front of the spelling are all of the literal
  have htake := takeWhile_word hbody hrest
  have hhead : spelling.head?.any isNumberChar = true := by
    cases body with
    | nil => exact absurd rfl hne
    | cons c body =>
      cases spelling with
      | nil => exact absurd rfl hspelling
      | cons d spelling =>
        obtain ⟨rfl, -⟩ := List.cons.inj heq
        simpa using hbody c (by simp)
  rcases hnumeric hhead with rfl | rfl
  · have hdigits : body = ['1', '0'] := by
      rw [← htake, heq]; rfl
    subst hdigits
    exact ⟨'^', tail, by simpa using heq, hopens, Or.inl ⟨rfl, rfl⟩⟩
  · have hdigits : body = ['1'] := by
      rw [← htake, heq]; rfl
    subst hdigits
    exact ⟨'/', tail, by simpa using heq, hopens, Or.inr ⟨rfl, rfl⟩⟩

theorem callAt?_sign {c : Char} (h : isSign c = true) (rest : List Char) :
    callAt? (c :: rest) = none := by
  rcases eq_of_isSign h with rfl | rfl
  · exact callAt?_cons_eq_none (by decide +kernel) _
  · exact callAt?_cons_eq_none (by decide +kernel) _

theorem callAt?_literal {l : Literal} (hsign : ∀ c ∈ l.sign, isSign c = true)
    (hbody : ∀ c ∈ l.body, isNumberChar c = true) (hne : l.body ≠ []) {rest : List Char}
    (hrest : Stops rest) : callAt? (l.text ++ rest) = none := by
  obtain ⟨sign, body⟩ := l
  cases sign with
  | some c => exact callAt?_sign (hsign c rfl) _
  | none =>
    cases hcall : callAt? (body ++ rest) with
    | none => exact hcall
    | some p =>
      obtain ⟨c, tail, rfl, hopens, hdigits⟩ := numeral_of_callAt? hbody hne hrest.head hcall
      rw [hrest.noCall c tail rfl (hdigits.symm.imp And.right And.right)] at hopens
      contradiction

/-! ### What lexemes are made of -/

/-- The characters of a lexeme are of its kind, and a call or a symbol means what it says. -/
def WellFormed : Lexeme → Prop
  | blank c => isBlank c = true
  | call spelling f => (String.ofList spelling, f) ∈ MathFunction.spellings
  | literal l => (∀ c ∈ l.sign, isSign c = true) ∧ ∀ c ∈ l.body, isNumberChar c = true
  | symbol c t => Token.ofChar? c = some t
  | name word => ∀ c ∈ word, isNameChar c = true
  | stray c => isLetter c = false

theorem wellFormed_first (expects : Bool) (c : Char) (rest : List Char) :
    (first expects c rest).WellFormed := by
  have htaken : ∀ d ∈ rest.takeWhile isNumberChar, isNumberChar d = true :=
    fun d hd => List.mem_takeWhile_imp hd
  unfold first
  split
  next hblank => exact hblank
  split
  next spelling f hcall => exact (callAt?_eq_some_iff.mp hcall).1
  split
  next hnumber =>
    refine ⟨by simp, fun d hd => ?_⟩
    rcases List.mem_cons.mp hd with rfl | hd
    · exact hnumber
    · exact htaken d hd
  split
  next hsigned =>
    simp only [startsSigned, Bool.and_eq_true] at hsigned
    exact ⟨by simpa using hsigned.1.1, htaken⟩
  split
  next t ht => exact ht
  split
  next hletter =>
    intro d hd
    rcases List.mem_cons.mp hd with rfl | hd
    · simp [isNameChar, hletter]
    · exact List.mem_takeWhile_imp hd
  next hletter => exact Bool.eq_false_iff.mpr hletter

theorem exists_first_of_mem_cutFrom {expects : Bool} {cs : List Char} {lexeme : Lexeme}
    (h : lexeme ∈ cutFrom expects cs) : ∃ before c rest, lexeme = first before c rest := by
  induction hn : cs.length using Nat.strongRecOn generalizing expects cs with
  | ind n ih =>
    cases cs with
    | nil => simp at h
    | cons c rest =>
      rw [cutFrom_cons] at h
      rcases List.mem_cons.mp h with rfl | h
      · exact ⟨expects, c, rest, rfl⟩
      · refine ih _ ?_ h rfl
        rw [← hn, List.length_drop, List.length_cons]
        omega

theorem wellFormed_of_mem_cutFrom {expects : Bool} {cs : List Char} {lexeme : Lexeme}
    (h : lexeme ∈ cutFrom expects cs) : lexeme.WellFormed := by
  obtain ⟨before, c, rest, rfl⟩ := exists_first_of_mem_cutFrom h
  exact wellFormed_first before c rest

theorem body_ne_nil_of_mem_cutFrom {expects : Bool} {cs : List Char} {l : Literal}
    (h : literal l ∈ cutFrom expects cs) : l.body ≠ [] := by
  obtain ⟨before, c, rest, heq⟩ := exists_first_of_mem_cutFrom h
  unfold first at heq
  split at heq
  · contradiction
  split at heq
  · contradiction
  split at heq
  next hnumber =>
    obtain rfl := literal.inj heq
    exact List.cons_ne_nil _ _
  split at heq
  next hsigned =>
    obtain rfl := literal.inj heq
    simp only [startsSigned, Bool.and_eq_true] at hsigned
    cases rest with
    | nil => simp at hsigned
    | cons d tail =>
      have hd : isNumberChar d = true := hsigned.2
      simp [hd]
  split at heq
  · contradiction
  split at heq <;> contradiction

/-! ### One cut -/

/-- The first lexeme of a text is cut off, and what follows is read with what is expected behind
it. -/
theorem cutFrom_of_first {expects : Bool} {c : Char} (word : List Char) {rest : List Char}
    {lexeme : Lexeme} (hfirst : first expects c (word ++ rest) = lexeme)
    (htext : lexeme.text = c :: word) :
    cutFrom expects (c :: (word ++ rest)) =
      lexeme :: cutFrom (lexeme.expectsOperand expects) rest := by
  rw [cutFrom_cons, hfirst, htext]
  simp

theorem cutFrom_blank {c : Char} (h : isBlank c = true) (expects : Bool) (rest : List Char) :
    cutFrom expects (c :: rest) = blank c :: cutFrom expects rest :=
  cutFrom_of_first [] (by simp [first, h]) rfl

theorem cutFrom_blanks {blanks : List Char} (h : ∀ c ∈ blanks, isBlank c = true) (expects : Bool)
    (rest : List Char) :
    cutFrom expects (blanks ++ rest) = blanks.map blank ++ cutFrom expects rest := by
  induction blanks with
  | nil => rfl
  | cons c blanks ih =>
    rw [List.cons_append, cutFrom_blank (h c (by simp)), ih fun d hd => h d (by simp [hd])]
    rfl

theorem cutFrom_call {name : String} {f : MathFunction} (hmem : (name, f) ∈ MathFunction.spellings)
    (expects : Bool) {rest : List Char} (hrest : opensCall rest = true) :
    cutFrom expects (name.toList ++ rest) = call name.toList f :: cutFrom false rest := by
  have hcall : callAt? (name.toList ++ rest) = some (name.toList, f) :=
    callAt?_eq_some_iff.mpr ⟨by simpa using hmem, rest, rfl, hrest⟩
  cases hname : name.toList with
  | nil => exact absurd hname (spelling_ne_nil hmem)
  | cons c word =>
    rw [hname] at hcall
    refine cutFrom_of_first word ?_ rfl
    rw [first, (spelling_chars hmem (by simp [hname] : c ∈ name.toList)).1, ← List.cons_append,
      hcall]
    simp

/-- A sign and a run of digits and points are cut off as a literal, where a sign is expected to
belong to one and no call starts. -/
theorem cutFrom_literal_of_callAt? {l : Literal} {expects : Bool}
    (hsign : ∀ c ∈ l.sign, isSign c = true) (hexpects : l.sign ≠ none → expects = true)
    (hbody : ∀ c ∈ l.body, isNumberChar c = true) (hne : l.body ≠ []) {rest : List Char}
    (hrest : ∀ c ∈ rest.head?, isNumberChar c = false) (hcall : callAt? (l.text ++ rest) = none) :
    cutFrom expects (l.text ++ rest) = literal l :: cutFrom false rest := by
  obtain ⟨sign, body⟩ := l
  cases body with
  | nil => exact absurd rfl hne
  | cons d body =>
    have htake : (body ++ rest).takeWhile isNumberChar = body :=
      takeWhile_word (fun c hc => hbody c (by simp [hc])) hrest
    have hd : isNumberChar d = true := hbody d (by simp)
    cases sign with
    | none =>
      refine cutFrom_of_first body ?_ rfl
      have hcall' : callAt? (d :: (body ++ rest)) = none := hcall
      simp [first, isBlank_of_isNumberChar hd, hcall', hd, htake]
    | some c =>
      have hc : isSign c = true := hsign c rfl
      have hexp : expects = true := hexpects (by simp)
      have hcall' : callAt? (c :: ((d :: body) ++ rest)) = none := hcall
      have hblank : isBlank c = false := by
        rcases eq_of_isSign hc with rfl | rfl <;> decide
      have hnumber : isNumberChar c = false := by
        rcases eq_of_isSign hc with rfl | rfl <;> decide
      refine cutFrom_of_first (d :: body) ?_ rfl
      have htake' : ((d :: body) ++ rest).takeWhile isNumberChar = d :: body := by
        rw [List.cons_append, List.takeWhile_cons_of_pos hd, htake]
      simp only [first, hblank, hcall', hnumber, htake', startsSigned, hc, hexp]
      simp [hd]

theorem cutFrom_literal {l : Literal} {expects : Bool} (hsign : ∀ c ∈ l.sign, isSign c = true)
    (hexpects : l.sign ≠ none → expects = true) (hbody : ∀ c ∈ l.body, isNumberChar c = true)
    (hne : l.body ≠ []) {rest : List Char} (hrest : Stops rest) :
    cutFrom expects (l.text ++ rest) = literal l :: cutFrom false rest :=
  cutFrom_literal_of_callAt? hsign hexpects hbody hne hrest.head
    (callAt?_literal hsign hbody hne hrest)

theorem cutFrom_symbol {c : Char} {t : Token} (ht : Token.ofChar? c = some t) (expects : Bool)
    (rest : List Char) (hsign : startsSigned expects c rest = false) :
    cutFrom expects (c :: rest) = symbol c t :: cutFrom t.expectsOperand rest := by
  have hcases := eq_of_ofChar? ht
  have hblank : isBlank c = false := by
    rcases hcases with rfl | rfl | rfl | rfl | rfl | rfl <;> decide
  have hnumber : isNumberChar c = false := by
    rcases hcases with rfl | rfl | rfl | rfl | rfl | rfl <;> decide
  have hcall : callAt? (c :: rest) = none := by
    refine callAt?_cons_eq_none ?_ rest
    rcases hcases with rfl | rfl | rfl | rfl | rfl | rfl <;> decide +kernel
  exact cutFrom_of_first [] (by simp [first, hblank, hcall, hnumber, hsign, ht]) rfl

/-- A word of letters is cut off as a name, in front of a character that stands in no spelling,
unless it is a spelling and called there. -/
theorem cutFrom_name {c : Char} {word rest : List Char} (hletter : isLetter c = true)
    (hword : ∀ d ∈ word, isNameChar d = true) (hrest : ∀ d ∈ rest.head?, isBlank d = true ∨ d = '(')
    (hcall : opensCall rest = true → MathFunction.ofSpelling? (String.ofList (c :: word)) = none)
    (expects : Bool) :
    cutFrom expects (c :: (word ++ rest)) = name (c :: word) :: cutFrom false rest := by
  have hname : isNameChar c = true := by simp [isNameChar, hletter]
  have hnone : callAt? (c :: (word ++ rest)) = none := by
    cases hcalled : callAt? (c :: (word ++ rest)) with
    | none => rfl
    | some p =>
      obtain ⟨spelling, f⟩ := p
      obtain ⟨rfl, hopens⟩ := callAt?_word (List.forall_mem_cons.mpr ⟨hname, hword⟩) hrest hcalled
      have hspelling := MathFunction.ofSpelling?_eq_some_iff.mpr (callAt?_eq_some_iff.mp hcalled).1
      rw [hcall hopens] at hspelling
      contradiction
  have hnumber : isNumberChar c = false := by
    rw [← Bool.not_eq_true]
    intro h
    rw [isNameChar_of_isNumberChar h] at hname
    contradiction
  have hsymbol : Token.ofChar? c = none := by
    cases ht : Token.ofChar? c with
    | none => rfl
    | some t => rcases eq_of_ofChar? ht with rfl | rfl | rfl | rfl | rfl | rfl <;>
      exact absurd hletter (by decide)
  have hsign : isSign c = false := by
    rw [← Bool.not_eq_true]
    intro h
    rcases eq_of_isSign h with rfl | rfl <;> exact absurd hletter (by decide)
  have hstop : ∀ d ∈ rest.head?, isNameChar d = false := by
    intro d hd
    rw [← Bool.not_eq_true]
    intro h
    rcases hrest d hd with hblank | rfl
    · rw [isBlank_of_isNameChar h] at hblank
      contradiction
    · exact absurd h (by decide +kernel)
  have htake := takeWhile_word hword hstop
  refine cutFrom_of_first word ?_ rfl
  simp [first, isBlank_of_isLetter hletter, hnone, hnumber, startsSigned, hsign, hsymbol, hletter,
    htake]

/-! ### What follows a call -/

theorem opensCall_append (cs : List Char) {tail : List Char} (h : opensCall tail = false) :
    opensCall (cs ++ tail) = opensCall cs := by
  induction cs with
  | nil =>
    rw [List.nil_append, h]
    rfl
  | cons c cs ih =>
    by_cases hc : isBlank c = true
    · have hblank : ∀ d ∈ [c], isBlank d = true := by simpa using hc
      have hlong := opensCall_blanks hblank (cs ++ tail)
      have hshort := opensCall_blanks hblank cs
      rw [List.singleton_append] at hlong hshort
      rw [List.cons_append, hlong, hshort, ih]
    · rw [List.cons_append, opensCall_cons (by simpa using hc), opensCall_cons (by simpa using hc)]

/-- A call is told without the tail of a text, if the tail opens none and no spelling that reaches
into it has a `(` behind it. -/
theorem callAt?_append (cs : List Char) {tail : List Char} (h : opensCall tail = false)
    (hreach : ∀ s ∈ MathFunction.spellings, ∀ front back rest, s.1.toList = front ++ back →
      back ≠ [] → tail = back ++ rest → opensCall rest = false) :
    callAt? (cs ++ tail) = callAt? cs := by
  apply Option.ext
  rintro ⟨spelling, f⟩
  rw [callAt?_eq_some_iff, callAt?_eq_some_iff]
  refine and_congr_right fun hmem => ⟨?_, ?_⟩
  · rintro ⟨rest, heq, hopens⟩
    rcases List.append_eq_append_iff.mp heq with ⟨back, hback, hrest⟩ | ⟨back, hback, hrest⟩
    · cases back with
      | nil =>
        rw [List.nil_append] at hrest
        rw [← hrest, h] at hopens
        contradiction
      | cons d back =>
        have hsplit : (String.ofList spelling).toList = cs ++ d :: back := by
          rw [String.toList_ofList, hback]
        rw [hreach _ hmem cs (d :: back) rest hsplit (by simp) hrest] at hopens
        contradiction
    · rw [hrest, opensCall_append back h] at hopens
      exact ⟨back, hback, hopens⟩
  · rintro ⟨rest, rfl, hopens⟩
    exact ⟨rest ++ tail, by rw [List.append_assoc], by rwa [opensCall_append rest h]⟩

/-! ### In front of a `)` -/

theorem callAt?_append_closing (cs rest : List Char) :
    callAt? (cs ++ ')' :: rest) = callAt? cs := by
  have hclosing : opensCall (')' :: rest) = false := opensCall_cons (by decide) rest
  refine callAt?_append cs hclosing ?_
  intro s hs front back behind hsplit hback htail
  cases back with
  | nil => exact absurd rfl hback
  | cons d back =>
    obtain ⟨rfl, -⟩ := List.cons.inj htail
    have hmem : ')' ∈ s.1.toList := by simp [hsplit]
    exact absurd rfl (spelling_chars hs hmem).2.2

theorem takeWhile_append_stop {p : Char → Bool} {c : Char} (h : p c = false) (cs rest : List Char) :
    (cs ++ c :: rest).takeWhile p = cs.takeWhile p := by
  induction cs with
  | nil => rw [List.nil_append, List.takeWhile_cons_of_neg (by simp [h]), List.takeWhile_nil]
  | cons d cs ih => rw [List.cons_append, List.takeWhile_cons, List.takeWhile_cons, ih]

theorem startsSigned_append_closing (expects : Bool) (c : Char) (cs rest : List Char) :
    startsSigned expects c (cs ++ ')' :: rest) = startsSigned expects c cs := by
  cases cs with
  | nil =>
    have hclosing : isNumberChar ')' = false := by decide
    simp [startsSigned, hclosing]
  | cons d cs => rfl

theorem first_append_closing (expects : Bool) (c : Char) (cs rest : List Char) :
    first expects c (cs ++ ')' :: rest) = first expects c cs := by
  have hname : isNameChar ')' = false := by decide +kernel
  have hcall := callAt?_append_closing (c :: cs) rest
  rw [List.cons_append] at hcall
  simp only [first, hcall, startsSigned_append_closing, takeWhile_append_stop hname,
    takeWhile_append_stop (by decide : isNumberChar ')' = false)]

/-- **A text is cut in front of a `)` as it is cut alone.** -/
theorem cutFrom_append_closing (expects : Bool) (cs rest : List Char) :
    cutFrom expects (cs ++ ')' :: rest) =
      cutFrom expects cs ++ symbol ')' .closing :: cutFrom false rest := by
  induction h : cs.length using Nat.strongRecOn generalizing expects cs with
  | ind n ih =>
    cases cs with
    | nil =>
      have hsign : startsSigned expects ')' rest = false := by simp [startsSigned, isSign]
      rw [List.nil_append, cutFrom_symbol (t := .closing) rfl expects _ hsign, cutFrom_nil]
      rfl
    | cons c cs =>
      obtain ⟨word, htext, tail, rfl⟩ := text_first expects c cs
      have hlt : tail.length < n := by
        rw [← h, List.length_cons, List.length_append]
        omega
      have hlong := first_append_closing expects c (word ++ tail) rest
      rw [List.append_assoc] at hlong
      rw [List.cons_append, List.append_assoc, cutFrom_of_first word hlong htext,
        cutFrom_of_first word rfl htext, ih tail.length hlt _ tail rfl]
      rfl

end Lexeme

end Calculator

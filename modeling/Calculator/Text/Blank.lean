/-! # Blank characters

Two sets of blanks are in use. Unicode's property White_Space has 25 members (`isWhiteSpace`); what
surrounds a field of a request, or a written integer, is trimmed by it. An expression is spaced by
the larger set `isBlank`, which adds the four ASCII separators U+001C to U+001F.

* `isBlank_of_isWhiteSpace`: the second set holds the first.
* `isWhiteSpace_of_isWhitespace`: both hold the blanks of `Char.isWhitespace`.
* `trimmed_trim`, `trim_of_trimmed`: trimming leaves no blank at either end, and does nothing where
  there is none.
-/

namespace Calculator.Text

/-- The members of White_Space, as ranges with both ends included. -/
def whiteSpaceRanges : List (Nat × Nat) := [
  (0x9, 0xD), (0x20, 0x20), (0x85, 0x85), (0xA0, 0xA0), (0x1680, 0x1680), (0x2000, 0x200A),
  (0x2028, 0x2029), (0x202F, 0x202F), (0x205F, 0x205F), (0x3000, 0x3000)]

/-- A character with the property White_Space. -/
def isWhiteSpace (c : Char) : Bool :=
  whiteSpaceRanges.any fun r => r.1 ≤ c.toNat && c.toNat ≤ r.2

/-- A character that separates the parts of an expression and means nothing itself. -/
def isBlank (c : Char) : Bool :=
  (0x1C ≤ c.toNat && c.toNat ≤ 0x1F) || isWhiteSpace c

theorem isBlank_of_isWhiteSpace {c : Char} (h : isWhiteSpace c = true) : isBlank c = true := by
  simp [isBlank, h]

theorem isWhiteSpace_of_isWhitespace {c : Char} (h : c.isWhitespace = true) :
    isWhiteSpace c = true := by
  simp only [Char.isWhitespace, Bool.or_eq_true, decide_eq_true_eq] at h
  rcases h with ((rfl | rfl) | rfl) | rfl <;> decide

/-- The text without its trailing characters of a set. -/
def trimEnd (p : Char → Bool) (cs : List Char) : List Char :=
  (cs.reverse.dropWhile p).reverse

/-- The text without its leading and trailing characters of a set. -/
def trim (p : Char → Bool) (cs : List Char) : List Char :=
  trimEnd p (cs.dropWhile p)

/-- No character of a set stands at either end. -/
def Trimmed (p : Char → Bool) (cs : List Char) : Prop :=
  (∀ c ∈ cs.head?, p c = false) ∧ ∀ c ∈ cs.getLast?, p c = false

variable {p : Char → Bool} {cs : List Char}

theorem dropWhile_of_head (h : ∀ c ∈ cs.head?, p c = false) : cs.dropWhile p = cs := by
  cases cs with
  | nil => rfl
  | cons c cs => rw [List.dropWhile_cons_of_neg (by simp [h c rfl])]

theorem head_dropWhile (p : Char → Bool) (cs : List Char) :
    ∀ c ∈ (cs.dropWhile p).head?, p c = false := by
  intro c hc
  have := List.head?_dropWhile_not p cs
  rwa [Option.mem_def.mp hc] at this

theorem trim_of_trimmed (h : Trimmed p cs) : trim p cs = cs := by
  rw [trim, dropWhile_of_head h.1, trimEnd,
    dropWhile_of_head (by rw [List.head?_reverse]; exact h.2), List.reverse_reverse]

theorem trimmed_trimEnd (h : ∀ c ∈ cs.head?, p c = false) : Trimmed p (trimEnd p cs) := by
  constructor
  · intro c hc
    rw [trimEnd, List.head?_reverse] at hc
    obtain ⟨front, hfront⟩ := List.dropWhile_suffix (l := cs.reverse) p
    refine h c ?_
    rw [← List.getLast?_reverse, ← hfront, List.getLast?_append, Option.mem_def.mp hc]
    rfl
  · rw [trimEnd, List.getLast?_reverse]
    exact head_dropWhile p cs.reverse

theorem trimmed_trim (p : Char → Bool) (cs : List Char) : Trimmed p (trim p cs) :=
  trimmed_trimEnd (head_dropWhile p cs)

theorem trimmed_of_forall (h : ∀ c ∈ cs, p c = false) : Trimmed p cs :=
  ⟨fun c hc => h c (List.mem_of_mem_head? hc), fun c hc => h c (List.mem_of_getLast? hc)⟩

/-- Only the ends count. -/
theorem Trimmed.append {front back : List Char} (hfront : Trimmed p front) (hne : front ≠ [])
    (hback : Trimmed p back) (hne' : back ≠ []) (middle : List Char) :
    Trimmed p (front ++ middle ++ back) := by
  obtain ⟨c, front, rfl⟩ := List.exists_cons_of_ne_nil hne
  refine ⟨hfront.1, ?_⟩
  rw [List.getLast?_append]
  cases h : back.getLast? with
  | none => exact absurd (List.getLast?_eq_none_iff.mp h) hne'
  | some d =>
    have hd := hback.2
    rwa [h] at hd

theorem trim_append_of_forall (h : Trimmed p cs) (hne : cs ≠ []) {back : List Char}
    (hback : ∀ c ∈ back, p c = true) : trim p (cs ++ back) = cs := by
  obtain ⟨c, cs, rfl⟩ := List.exists_cons_of_ne_nil hne
  have hfront : (c :: cs ++ back).dropWhile p = c :: cs ++ back := dropWhile_of_head h.1
  rw [trim, hfront, trimEnd, List.reverse_append,
    List.dropWhile_append_of_pos (fun d hd => hback d (List.mem_reverse.mp hd)), ← trimEnd]
  have := trim_of_trimmed h
  rwa [trim, dropWhile_of_head h.1] at this

end Calculator.Text

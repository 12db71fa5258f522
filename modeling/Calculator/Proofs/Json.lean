import Calculator.Json.Encoding
import Calculator.Json.Reader
import Calculator.Json.Writer

/-! # What is written is read back

A text, a truth value and an object of such fields are read back from what is written of them on one
line.

* `quoted?_flatMap`: a quoted text is read up to its closing quote, and its escapes are undone.
* `Legible v`: in front of whatever follows, `v` is read back from its text. Texts and truth values
  are (`legible_string`, `legible_bool`), and so is an object whose fields are, if they are sorted
  by name and no name stands twice (`legible_object`).
* `read_write`: a legible value is read back.
-/

namespace Calculator.Json

open Text

/-! ### Escapes -/

theorem hexValue?_digitChar {d : Nat} (h : d < 16) : hexValue? (Nat.digitChar d) = some d := by
  revert d
  decide

theorem hexCode_eq {n : Nat} (h : n < 0x10000) :
    hexCode n = '\\' :: 'u' :: Nat.digitChar (n / 0x1000) :: Nat.digitChar (n / 0x100 % 16) ::
      Nat.digitChar (n / 0x10 % 16) :: [Nat.digitChar (n % 16)] := by
  have hlast : ∀ m, 16 ≤ m →
      Nat.toDigits 16 m = Nat.toDigits 16 (m / 16) ++ [Nat.digitChar (m % 16)] :=
    fun m hm => Nat.toDigits_of_base_le (by decide) hm
  have hone : ∀ m, m < 16 → Nat.toDigits 16 m = [Nat.digitChar m] :=
    fun m hm => Nat.toDigits_of_lt_base hm
  have hzero : Nat.digitChar 0 = '0' := rfl
  unfold hexCode
  by_cases h1 : n < 0x10
  · rw [hone n h1, show n / 0x1000 = 0 by omega, show n / 0x100 = 0 by omega, show n / 0x10 = 0 by
      omega, Nat.mod_eq_of_lt h1]
    rfl
  rw [hlast n (by omega)]
  by_cases h2 : n < 0x100
  · rw [hone (n / 16) (by omega), show n / 0x1000 = 0 by omega, show n / 0x100 = 0 by omega,
      Nat.mod_eq_of_lt (show n / 0x10 < 16 by omega)]
    rfl
  rw [hlast (n / 16) (by omega), Nat.div_div_eq_div_mul]
  by_cases h3 : n < 0x1000
  · rw [hone (n / (16 * 16)) (by omega), show n / 0x1000 = 0 by omega,
      Nat.mod_eq_of_lt (show n / 0x100 < 16 by omega)]
    rfl
  rw [hlast (n / (16 * 16)) (by omega), Nat.div_div_eq_div_mul,
    hone (n / (16 * 16 * 16)) (by omega)]
  rfl

theorem hexCode?_hexCode {n : Nat} (h : n < 0x10000) :
    ∃ digits, hexCode n = '\\' :: 'u' :: digits ∧ ∀ rest,
      hexCode? (digits ++ rest) = some (n, rest) := by
  refine ⟨_, hexCode_eq h, fun rest => ?_⟩
  have h3 := hexValue?_digitChar (show n / 0x1000 < 16 by omega)
  have h2 := hexValue?_digitChar (show n / 0x100 % 16 < 16 by omega)
  have h1 := hexValue?_digitChar (show n / 0x10 % 16 < 16 by omega)
  have h0 := hexValue?_digitChar (show n % 16 < 16 by omega)
  have hsum : ((n / 0x1000 * 16 + n / 0x100 % 16) * 16 + n / 0x10 % 16) * 16 + n % 16 = n := by
    omega
  simp only [List.cons_append, List.nil_append, hexCode?, h3, h2, h1, h0]
  simp [hsum]

theorem isSurrogate_toNat (c : Char) : isSurrogate c.toNat = false := by
  have hrange : c.toNat < 0xD800 ∨ 0xDFFF < c.toNat ∧ c.toNat < 0x110000 := c.valid
  simp only [isSurrogate, isHighSurrogate, isLowSurrogate, Bool.or_eq_false_iff,
    Bool.and_eq_false_iff, decide_eq_false_iff_not]
  omega

theorem escapedUnit?_of_single {cs rest : List Char} {n : Nat} (h : hexCode? cs = some (n, rest))
    (hsingle : isHighSurrogate n = false) : escapedUnit? cs = some (n, rest) := by
  simp [escapedUnit?, h, hsingle]

theorem escapedUnit?_of_pair {cs more rest : List Char} {high low : Nat}
    (h : hexCode? cs = some (high, '\\' :: 'u' :: more)) (hmore : hexCode? more = some (low, rest))
    (hhigh : isHighSurrogate high = true) (hlow : isLowSurrogate low = true) :
    escapedUnit? cs = some (0x10000 + (high - 0xD800) * 0x400 + (low - 0xDC00), rest) := by
  simp [escapedUnit?, h, hmore, hhigh, hlow]

/-- The escape of a character is read back; beyond the basic plane it has two halves. -/
theorem escaped?_escapeCode (c : Char) :
    ∃ mark, escapeCode c.toNat = '\\' :: mark ∧
      ∀ rest, escaped? (mark ++ rest) = some (c.toNat, rest) := by
  have hrange : c.toNat < 0xD800 ∨ 0xDFFF < c.toNat ∧ c.toNat < 0x110000 := c.valid
  have hsingle : isHighSurrogate c.toNat = false :=
    (Bool.or_eq_false_iff.mp (isSurrogate_toNat c)).1
  generalize c.toNat = n at hrange hsingle ⊢
  by_cases hplane : n < 0x10000
  · obtain ⟨digits, hcode, hread⟩ := hexCode?_hexCode hplane
    refine ⟨'u' :: digits, by rw [escapeCode, if_pos hplane, hcode], fun rest => ?_⟩
    exact escapedUnit?_of_single (hread rest) hsingle
  · have hhigh : isHighSurrogate (0xD800 + (n - 0x10000) / 0x400) = true := by
      simp only [isHighSurrogate, Bool.and_eq_true, decide_eq_true_eq]
      omega
    have hlow : isLowSurrogate (0xDC00 + (n - 0x10000) % 0x400) = true := by
      simp only [isLowSurrogate, Bool.and_eq_true, decide_eq_true_eq]
      omega
    obtain ⟨front, hfront, hreadFront⟩ :=
      hexCode?_hexCode (show 0xD800 + (n - 0x10000) / 0x400 < 0x10000 by omega)
    obtain ⟨back, hback, hreadBack⟩ :=
      hexCode?_hexCode (show 0xDC00 + (n - 0x10000) % 0x400 < 0x10000 by omega)
    refine ⟨'u' :: front ++ '\\' :: 'u' :: back, ?_, fun rest => ?_⟩
    · rw [escapeCode, if_neg hplane, hfront, hback]
      rfl
    · have hpair := escapedUnit?_of_pair (hreadFront ('\\' :: 'u' :: back ++ rest)) (hreadBack rest)
        hhigh hlow
      rw [List.append_assoc, List.cons_append, escaped?]
      rw [show 0x10000 + (0xD800 + (n - 0x10000) / 0x400 - 0xD800) * 0x400 +
        (0xDC00 + (n - 0x10000) % 0x400 - 0xDC00) = n by omega] at hpair
      exact hpair

/-! ### Quoted texts -/

theorem quoteChar_cases (ascii : Bool) (c : Char) :
    (∃ mark, quoteChar ascii c = '\\' :: mark ∧
      ∀ rest, escaped? (mark ++ rest) = some (c.toNat, rest)) ∨
    (quoteChar ascii c = [c] ∧ c ≠ '"' ∧ c ≠ '\\' ∧ 32 ≤ c.toNat) := by
  unfold quoteChar
  split
  next h => exact Or.inl ⟨['"'], rfl, fun rest => by rw [h]; rfl⟩
  split
  next h => exact Or.inl ⟨['\\'], rfl, fun rest => by rw [h]; rfl⟩
  split
  next h => exact Or.inl ⟨['n'], rfl, fun rest => by rw [h]; rfl⟩
  split
  next h => exact Or.inl ⟨['r'], rfl, fun rest => by rw [h]; rfl⟩
  split
  next h => exact Or.inl ⟨['t'], rfl, fun rest => by rw [h]; rfl⟩
  split
  next h => exact Or.inl ⟨['b'], rfl, fun rest => by rw [h]; rfl⟩
  split
  next h => exact Or.inl ⟨['f'], rfl, fun rest => by rw [h]; rfl⟩
  split
  next => exact Or.inl (escaped?_escapeCode c)
  next hquote hslash _ _ _ _ _ hplain =>
    refine Or.inr ⟨rfl, hquote, hslash, Nat.le_of_not_lt fun hcontrol => hplain ?_⟩
    simp [hcontrol]

theorem quoted?_plain {c : Char} (hquote : c ≠ '"') (hslash : c ≠ '\\') (hcontrol : 32 ≤ c.toNat)
    (fuel : Nat) (cs : List Char) :
    quoted? (fuel + 1) (c :: cs) = (quoted? fuel cs).map fun r => (c.toNat :: r.1, r.2) := by
  rw [quoted?, if_neg hquote, if_neg hslash, if_neg (by omega)]
  cases quoted? fuel cs <;> rfl

theorem quoted?_escape {n : Nat} {cs rest : List Char} (h : escaped? cs = some (n, rest))
    (fuel : Nat) :
    quoted? (fuel + 1) ('\\' :: cs) = (quoted? fuel rest).map fun r => (n :: r.1, r.2) := by
  rw [quoted?, if_neg (by decide), if_pos rfl, h]
  change (quoted? fuel rest).bind _ = _
  cases quoted? fuel rest <;> rfl

theorem quoted?_quoteChar (ascii : Bool) (c : Char) (fuel : Nat) (rest : List Char) :
    quoted? (fuel + 1) (quoteChar ascii c ++ rest) =
      (quoted? fuel rest).map fun r => (c.toNat :: r.1, r.2) := by
  rcases quoteChar_cases ascii c with ⟨mark, hquoted, hread⟩ | ⟨hquoted, hquote, hslash, hcontrol⟩
  · rw [hquoted, List.cons_append, quoted?_escape (hread rest)]
  · rw [hquoted, List.singleton_append, quoted?_plain hquote hslash hcontrol]

theorem length_quoteChar_pos (ascii : Bool) (c : Char) : 0 < (quoteChar ascii c).length := by
  rcases quoteChar_cases ascii c with ⟨mark, hquoted, -⟩ | ⟨hquoted, -⟩ <;> simp [hquoted]

theorem length_le_flatMap_quoteChar (ascii : Bool) (cs : List Char) :
    cs.length ≤ (cs.flatMap (quoteChar ascii)).length := by
  induction cs with
  | nil => exact Nat.le_refl 0
  | cons c cs ih =>
    have := length_quoteChar_pos ascii c
    rw [List.flatMap_cons, List.length_append, List.length_cons]
    omega

theorem quoted?_flatMap (ascii : Bool) {fuel : Nat} {cs : List Char} (h : cs.length < fuel)
    (rest : List Char) :
    quoted? fuel (cs.flatMap (quoteChar ascii) ++ '"' :: rest) =
      some (cs.map Char.toNat, rest) := by
  induction cs generalizing fuel with
  | nil =>
    obtain ⟨fuel, rfl⟩ := Nat.exists_eq_add_one_of_ne_zero (Nat.ne_of_gt h)
    rfl
  | cons c cs ih =>
    obtain ⟨fuel, rfl⟩ := Nat.exists_eq_add_one_of_ne_zero (Nat.ne_of_gt (Nat.zero_lt_of_lt h))
    rw [List.flatMap_cons, List.append_assoc, quoted?_quoteChar, ih (by simpa using h)]
    rfl

theorem ofPoints_toNat (s : String) : ofPoints (s.toList.map Char.toNat) = string s := by
  have hwhole : (s.toList.map Char.toNat).any isSurrogate = false := by
    rw [List.any_map, List.any_eq_false]
    intro c _
    simp [isSurrogate_toNat]
  have hsame : Char.ofNat ∘ Char.toNat = id := funext Char.ofNat_toNat
  rw [ofPoints, hwhole, if_neg (by decide), List.map_map, hsame, List.map_id, String.ofList_toList]

theorem nameOf_toNat (s : String) : nameOf (s.toList.map Char.toNat) = s := by
  have hsame : (fun n => if isSurrogate n then '\uFFFD' else Char.ofNat n) ∘ Char.toNat = id := by
    funext c
    simp [isSurrogate_toNat, Char.ofNat_toNat]
  rw [nameOf, List.map_map, hsame, List.map_id, String.ofList_toList]

theorem toList_quote (ascii : Bool) (s : String) :
    (quote ascii s).toList = '"' :: (s.toList.flatMap (quoteChar ascii) ++ ['"']) := by
  rw [quote, String.toList_ofList]
  rfl

/-! ### Values -/

theorem skipGaps_cons {c : Char} (h : isGap c = false) (cs : List Char) :
    skipGaps (c :: cs) = c :: cs := by
  rw [skipGaps, List.dropWhile_cons_of_neg (by simp [h])]

/-- What is written of the value on one line does not begin with a blank and is read as the value,
in front of anything. The value may have as many arrays and objects in one another as `depth`
says. -/
structure Legible (depth : Nat) (v : Json) : Prop where
  skipGaps_eq : ∀ indent rest, skipGaps ((v.render Layout.wire indent).toList ++ rest) =
    (v.render Layout.wire indent).toList ++ rest
  value_eq : ∀ indent fuel rest, (v.render Layout.wire indent).toList.length ≤ fuel →
    value fuel depth ((v.render Layout.wire indent).toList ++ rest) = .ok (v, rest)

theorem value_quote (fuel depth : Nat) (cs : List Char) :
    value (fuel + 1) depth ('"' :: cs) = (found (quoted? fuel cs)).map fun r =>
      (ofPoints r.1, r.2) := by
  unfold value
  rw [if_pos rfl]

theorem legible_string (depth : Nat) (s : String) : Legible depth (string s) where
  skipGaps_eq indent rest := by
    rw [render, toList_quote]
    exact skipGaps_cons (by decide) _
  value_eq indent fuel rest hfuel := by
    have hlength := length_le_flatMap_quoteChar Layout.wire.ascii s.toList
    rw [render, toList_quote] at hfuel ⊢
    rw [List.length_cons, List.length_append, List.length_singleton] at hfuel
    obtain ⟨fuel, rfl⟩ := Nat.exists_eq_add_one_of_ne_zero (show fuel ≠ 0 by omega)
    rw [List.cons_append, List.append_assoc, List.singleton_append, value_quote,
      quoted?_flatMap Layout.wire.ascii (by omega) rest, found, Except.map, ofPoints_toNat]

theorem toList_render_bool (layout : Layout) (indent : Nat) (b : Bool) :
    ((bool b).render layout indent).toList =
      if b then ['t', 'r', 'u', 'e'] else ['f', 'a', 'l', 's', 'e'] := by
  rw [render]
  cases b <;> rfl

theorem value_word {c : Char} (fuel depth : Nat) {cs : List Char} {r : Json × List Char}
    (h : word? (c :: cs) = some r) (hmark : c ≠ '"' ∧ c ≠ '[' ∧ c ≠ '\x7b') :
    value (fuel + 1) depth (c :: cs) = .ok r := by
  unfold value
  rw [if_neg hmark.1, if_neg hmark.2.1, if_neg hmark.2.2, h]

theorem legible_bool (depth : Nat) (b : Bool) : Legible depth (bool b) where
  skipGaps_eq indent rest := by
    rw [toList_render_bool]
    cases b <;> exact skipGaps_cons (by decide) _
  value_eq indent fuel rest hfuel := by
    rw [toList_render_bool] at hfuel ⊢
    obtain ⟨fuel, rfl⟩ := Nat.exists_eq_add_one_of_ne_zero (show fuel ≠ 0 by
      intro h
      cases b <;> simp [h] at hfuel)
    cases b
    · exact value_word fuel depth rfl (by decide)
    · exact value_word fuel depth rfl (by decide)

theorem value_brace {fuel depth : Nat} {cs rest : List Char} {fs : List (String × Json)}
    (hskip : skipGaps cs = cs) (h : fields fuel depth cs = .ok (fs, rest))
    (hopen : cs.head? ≠ some '\x7d') :
    value (fuel + 1) (depth + 1) ('\x7b' :: cs) = .ok (ofFields fs, rest) := by
  unfold value
  rw [if_neg (by decide), if_neg (by decide), if_pos rfl]
  simp only [hskip, if_neg hopen, h]
  rfl

theorem value_braces (fuel depth : Nat) (rest : List Char) :
    value (fuel + 1) (depth + 1) ('\x7b' :: '\x7d' :: rest) = .ok (object [], rest) := by
  have hskip := skipGaps_cons (c := '\x7d') (by decide) rest
  unfold value
  rw [if_neg (by decide), if_neg (by decide), if_pos rfl]
  simp only [hskip]
  rfl

/-! ### Fields -/

/-- What is written of a field. -/
def fieldChars (indent : Nat) (f : String × Json) : List Char :=
  (Layout.wire.fieldText (f.1, f.2.render Layout.wire indent)).toList

theorem fieldChars_eq (indent : Nat) (f : String × Json) :
    fieldChars indent f = '"' :: (f.1.toList.flatMap (quoteChar true) ++
      '"' :: ':' :: (f.2.render Layout.wire indent).toList) := by
  simp [fieldChars, Layout.fieldText, toList_quote, Layout.wire]

variable {depth indent : Nat}

/-- Fields with commas between them. -/
def fieldsChars (indent : Nat) (fs : List (String × Json)) : List Char :=
  [','].intercalate (fs.map (fieldChars indent))

theorem fieldsChars_cons (indent : Nat) (f g : String × Json) (fs : List (String × Json)) :
    fieldsChars indent (f :: g :: fs) = fieldChars indent f ++ ',' ::
      fieldsChars indent (g :: fs) := by
  rw [fieldsChars, List.map_cons, List.map_cons, List.intercalate_cons_cons, List.append_assoc]
  rfl

theorem head_fieldsChars (indent : Nat) (f : String × Json) (fs : List (String × Json)) :
    ∃ cs, fieldsChars indent (f :: fs) = '"' :: cs := by
  cases fs with
  | nil =>
    rw [fieldsChars, List.map_singleton, List.intercalate_singleton, fieldChars_eq]
    exact ⟨_, rfl⟩
  | cons g fs =>
    rw [fieldsChars_cons, fieldChars_eq]
    exact ⟨_, rfl⟩

theorem skipGaps_fieldsChars (indent : Nat) (f : String × Json) (fs : List (String × Json))
    (tail : List Char) :
    skipGaps (fieldsChars indent (f :: fs) ++ tail) = fieldsChars indent (f :: fs) ++ tail := by
  obtain ⟨cs, hcs⟩ := head_fieldsChars indent f fs
  rw [hcs]
  exact skipGaps_cons (by decide) _

/-- A field with what is read behind it: more fields behind a comma, or the closing brace. -/
def fieldsFrom (fuel depth : Nat) (f : String × Json) (tail : List Char) :
    Except ReadError (List (String × Json) × List Char) :=
  match skipGaps tail with
  | ',' :: more => do
    let (others, after) ← fields fuel depth (skipGaps more)
    return (f :: others, after)
  | '\x7d' :: after => return ([f], after)
  | _ => .error .malformed

theorem fields_fieldChars {f : String × Json} (hf : Legible depth f.2) {fuel : Nat}
    (hfuel : (fieldChars indent f).length ≤ fuel) (tail : List Char) :
    fields (fuel + 1) depth (fieldChars indent f ++ tail) = fieldsFrom fuel depth f tail := by
  have hlength := length_le_flatMap_quoteChar true f.1.toList
  rw [fieldChars_eq] at hfuel ⊢
  simp only [List.length_cons, List.length_append] at hfuel
  have hname := quoted?_flatMap true (show f.1.toList.length < fuel by omega)
    (':' :: ((f.2.render Layout.wire indent).toList ++ tail))
  have hvalue := hf.value_eq indent fuel tail (by omega)
  have hcolon :=
    skipGaps_cons (c := ':') (by decide) ((f.2.render Layout.wire indent).toList ++ tail)
  simp only [List.cons_append, List.append_assoc, fields, hname, found, hcolon, hf.skipGaps_eq,
    hvalue, nameOf_toNat, bind, Except.bind]
  rfl

theorem fields_fieldsChars {f : String × Json} {fs : List (String × Json)}
    (h : ∀ g ∈ f :: fs, Legible depth g.2) {fuel : Nat}
    (hfuel : (fieldsChars indent (f :: fs)).length < fuel) (rest : List Char) :
    fields fuel depth (fieldsChars indent (f :: fs) ++ '\x7d' :: rest) = .ok (f :: fs, rest) := by
  obtain ⟨fuel, rfl⟩ := Nat.exists_eq_add_one_of_ne_zero (show fuel ≠ 0 by omega)
  have hf := h f List.mem_cons_self
  induction fs generalizing f fuel with
  | nil =>
    rw [fieldsChars, List.map_singleton, List.intercalate_singleton] at hfuel ⊢
    rw [fields_fieldChars hf (by omega), fieldsFrom, skipGaps_cons (by decide)]
    rfl
  | cons g fs ih =>
    rw [fieldsChars_cons] at hfuel ⊢
    rw [List.length_append, List.length_cons] at hfuel
    obtain ⟨fuel, rfl⟩ := Nat.exists_eq_add_one_of_ne_zero (show fuel ≠ 0 by omega)
    have hothers := ih (fun k hk => h k (List.mem_cons_of_mem _ hk)) fuel (by omega)
      (h g (List.mem_cons_of_mem _ List.mem_cons_self))
    rw [List.append_assoc, List.cons_append, fields_fieldChars hf (by omega), fieldsFrom,
      skipGaps_cons (by decide)]
    simp only [skipGaps_fieldsChars, hothers]
    rfl

/-! ### Objects -/

theorem put_of_notMem {known : List (String × Json)} {name : String} (h : name ∉ known.map Prod.fst)
    (v : Json) : put known name v = known ++ [(name, v)] := by
  have hnone : (known.any fun f => f.1 == name) = false := by
    rw [List.any_eq_false]
    intro f hf hname
    exact h (List.mem_map.mpr ⟨f, hf, by simpa using hname⟩)
  rw [put, hnone, if_neg (by decide)]

theorem foldl_put {known fs : List (String × Json)} (h : ((known ++ fs).map Prod.fst).Nodup) :
    fs.foldl (fun known f => put known f.1 f.2) known = known ++ fs := by
  induction fs generalizing known with
  | nil => simp
  | cons f fs ih =>
    have hnew : f.1 ∉ known.map Prod.fst := by
      rw [List.map_append, List.nodup_append] at h
      intro hmem
      exact h.2.2 _ hmem f.1 (by simp) rfl
    rw [List.foldl_cons, put_of_notMem hnew, ih (by simpa using h)]
    simp

theorem ofFields_of_nodup {fs : List (String × Json)} (h : (fs.map Prod.fst).Nodup) :
    ofFields fs = object fs := by
  rw [ofFields, foldl_put (by simpa using h), List.nil_append]

theorem renderFields_eq (layout : Layout) (indent : Nat) (fs : List (String × Json)) :
    renderFields layout indent fs = fs.map fun f => (f.1, f.2.render layout indent) := by
  induction fs with
  | nil => rw [renderFields]; rfl
  | cons f fs ih => rw [renderFields, ih]; rfl

theorem sortFields_renderFields {fs : List (String × Json)} (h : (fs.map Prod.fst).Pairwise (· < ·))
    (layout : Layout) (indent : Nat) :
    sortFields (renderFields layout indent fs) = renderFields layout indent fs := by
  refine List.mergeSort_of_pairwise ?_
  rw [renderFields_eq, List.pairwise_map]
  refine (List.pairwise_map.mp h).imp fun hlt => ?_
  exact decide_eq_true (String.not_lt.mp (String.lt_asymm hlt))

theorem toList_render_object {fs : List (String × Json)} (h : (fs.map Prod.fst).Pairwise (· < ·))
    (indent : Nat) :
    ((object fs).render Layout.wire indent).toList =
      '\x7b' :: (fieldsChars (indent + 1) fs ++ ['\x7d']) := by
  rw [render, sortFields_renderFields h, renderFields_eq, List.map_map, Layout.enclose]
  cases fs with
  | nil =>
    rw [List.map_nil, if_pos List.isEmpty_nil, String.toList_append]
    rfl
  | cons f fs =>
    rw [if_neg (by simp), if_neg (by decide), String.toList_append, String.toList_append,
      String.toList_intercalate, List.map_map]
    rfl

/-- **An object is read back if its fields are**, sorted by name and no name twice. -/
theorem legible_object {fs : List (String × Json)} (hnames : (fs.map Prod.fst).Pairwise (· < ·))
    (h : ∀ f ∈ fs, Legible depth f.2) : Legible (depth + 1) (object fs) where
  skipGaps_eq indent rest := by
    rw [toList_render_object hnames]
    exact skipGaps_cons (by decide) _
  value_eq indent fuel rest hfuel := by
    rw [toList_render_object hnames] at hfuel ⊢
    rw [List.length_cons, List.length_append, List.length_singleton] at hfuel
    obtain ⟨fuel, rfl⟩ := Nat.exists_eq_add_one_of_ne_zero (show fuel ≠ 0 by omega)
    rw [List.cons_append, List.append_assoc, List.singleton_append]
    cases fs with
    | nil => exact value_braces fuel depth rest
    | cons f fs =>
      have hnodup : ((f :: fs).map Prod.fst).Nodup := by
        refine hnames.imp fun hlt heq => ?_
        rw [heq] at hlt
        exact String.lt_irrefl _ hlt
      rw [value_brace (skipGaps_fieldsChars (indent + 1) f fs _)
        (fields_fieldsChars h (by omega) rest) ?_, ofFields_of_nodup hnodup]
      obtain ⟨cs, hcs⟩ := head_fieldsChars (indent + 1) f fs
      rw [hcs]
      simp

/-! ### Whole texts -/

/-- **What is written of a legible value is read as that value.** -/
theorem read_write {v : Json} (h : Legible maxDepth v) :
    read (v.write Layout.wire).toList = .ok v := by
  have hskip := h.skipGaps_eq 0 ['\n']
  have hvalue := h.value_eq 0
    (2 * ((v.render Layout.wire 0).toList ++ ['\n']).length + 2) ['\n'] (by
      rw [List.length_append]
      omega)
  have htext : (v.write Layout.wire).toList = (v.render Layout.wire 0).toList ++ ['\n'] := by
    rw [write, String.toList_append]
    rfl
  rw [read, htext]
  simp only [hskip, hvalue]
  rfl

theorem Encoding.ofBytes_of_ne_zero {a b : Nat} (ha : a ≠ 0) (hb : b ≠ 0) (bs : List Nat) :
    ofBytes (a :: b :: bs) = bytes := by
  rcases bs with _ | ⟨c, _ | ⟨d, bs⟩⟩ <;> simp [ofBytes, ha, hb]

theorem Encoding.characters?_of_ascii {c d : Char} (hc : 0 < c.toNat ∧ c.toNat < 0x80)
    (hd : 0 < d.toNat ∧ d.toNat < 0x80) (rest : List Char) :
    characters? (c :: d :: rest) = some (c :: d :: rest) := by
  have hbytes : utf8 (c :: d :: rest) = c.toNat :: d.toNat :: utf8 rest := by
    simp [utf8, utf8Char, hc.2, hd.2]
  have hmark : withoutMark (c :: d :: rest) = c :: d :: rest := by
    unfold withoutMark
    split
    next cs heq =>
      obtain ⟨rfl, -⟩ := List.cons.inj heq
      exact absurd hc.2 (by decide)
    next => rfl
  rw [characters?, hbytes, ofBytes_of_ne_zero (by omega) (by omega)]
  exact congrArg some hmark

end Calculator.Json

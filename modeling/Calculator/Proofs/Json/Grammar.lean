import Mathlib
import Calculator.Json.Reader
import Calculator.Json.Writer

/-! # The grammar of JSON

What the standard takes for a JSON text (`Standard`): null, a truth value, a number, a quoted text,
an array or an object, with blanks around it. A number is made of digits, so there is none that is
infinite.

The words that the reader and the writer know beyond that begin with letters of their own. Outside
quoted texts no JSON text has one of these (`Standard.regular`), and that is how a text is seen to
be none. For quoted texts are closed in a JSON text, and so what stands outside of them can be
looked at part by part (`Closed`, `ordinary_append`).
-/

namespace Calculator.Json

open Text

/-! ### Numbers -/

/-- Digits, of which there is one. -/
def Digits (cs : List Char) : Prop :=
  cs ≠ [] ∧ ∀ c ∈ cs, isAsciiDigit c = true

/-- The digits before the point. The first is a zero only if it is alone. -/
inductive Whole : List Char → Prop
  | zero : Whole ['0']
  | digits {c : Char} {cs : List Char} (hc : isAsciiDigit c = true) (hzero : c ≠ '0')
      (hcs : ∀ d ∈ cs, isAsciiDigit d = true) : Whole (c :: cs)

/-- A point with digits behind it, or nothing. -/
inductive Fraction : List Char → Prop
  | none : Fraction []
  | digits {ds : List Char} (h : Digits ds) : Fraction ('.' :: ds)

/-- An exponent with its mark, or nothing. -/
inductive Exponent : List Char → Prop
  | none : Exponent []
  | digits {mark : Char} {sign ds : List Char} (hmark : mark ∈ ['e', 'E'])
      (hsign : sign ∈ [[], ['+'], ['-']]) (h : Digits ds) : Exponent (mark :: (sign ++ ds))

/-- A number. -/
inductive Numeric : List Char → Prop
  | parts {sign whole fraction exponent : List Char} (hsign : sign ∈ [[], ['-']])
      (hwhole : Whole whole) (hfraction : Fraction fraction) (hexponent : Exponent exponent) :
      Numeric (sign ++ whole ++ fraction ++ exponent)

/-! ### Texts -/

/-- What may stand between quotes. -/
inductive Quotable : List Char → Prop
  | nil : Quotable []
  | plain {c : Char} {cs : List Char} (hcontrol : 32 ≤ c.toNat) (hquote : c ≠ '"')
      (hslash : c ≠ '\\') (h : Quotable cs) : Quotable (c :: cs)
  | escape {c : Char} {cs : List Char} (hc : c ∈ ['"', '\\', '/', 'b', 'f', 'n', 'r', 't'])
      (h : Quotable cs) :
      Quotable ('\\' :: c :: cs)
  | code {ds cs : List Char} (hlength : ds.length = 4) (hds : ∀ d ∈ ds, (hexValue? d).isSome = true)
      (h : Quotable cs) : Quotable ('\\' :: 'u' :: (ds ++ cs))

/-- A quoted text. -/
inductive Quotation : List Char → Prop
  | quotes {cs : List Char} (h : Quotable cs) : Quotation ('"' :: (cs ++ ['"']))

/-! ### Values -/

/-- Blanks that may stand between the parts of a value. -/
def Blanks (cs : List Char) : Prop :=
  ∀ c ∈ cs, isGap c = true

/-- The name of a field: a quoted text with blanks around it. -/
inductive Name : List Char → Prop
  | blanks {before cs after : List Char} (hbefore : Blanks before) (h : Quotation cs)
      (hafter : Blanks after) :
      Name (before ++ cs ++ after)

/-- A JSON text: a value with blanks around it. What is in an array or in an object is one in
turn. -/
inductive Standard : List Char → Prop
  | blanks {before cs after : List Char} (hbefore : Blanks before) (h : Standard cs)
      (hafter : Blanks after) :
      Standard (before ++ cs ++ after)
  | null : Standard ['n', 'u', 'l', 'l']
  | true : Standard ['t', 'r', 'u', 'e']
  | false : Standard ['f', 'a', 'l', 's', 'e']
  | number {cs : List Char} (h : Numeric cs) : Standard cs
  | text {cs : List Char} (h : Quotation cs) : Standard cs
  | array {items : List (List Char)} {gap : List Char} (h : ∀ item ∈ items, Standard item)
      (hgap : Blanks gap) :
      Standard ('[' :: ([','].intercalate items ++ gap ++ [']']))
  | object {fields : List (List Char × List Char)} {gap : List Char}
      (hnames : ∀ f ∈ fields, Name f.1) (h : ∀ f ∈ fields, Standard f.2) (hgap : Blanks gap) :
      Standard ('\x7b' :: ([','].intercalate (fields.map fun f => f.1 ++ ':' :: f.2) ++ gap ++
        ['\x7d']))

/-! ### Outside quoted texts -/

/-- Where a character of a text stands. -/
inductive Place where
  | outside
  | quoted
  /-- Behind a backslash in a quoted text. -/
  | escaped
deriving DecidableEq

namespace Place

/-- The place behind a character. -/
def next : Place → Char → Place
  | outside, c => if c = '"' then quoted else outside
  | quoted, c => if c = '"' then outside else if c = '\\' then escaped else quoted
  | escaped, _ => quoted

/-- The place behind some characters. -/
def after (place : Place) (cs : List Char) : Place :=
  cs.foldl next place

/-- The characters that stand outside quoted texts. -/
def bare : Place → List Char → List Char
  | _, [] => []
  | outside, c :: cs => c :: bare (outside.next c) cs
  | quoted, c :: cs => bare (quoted.next c) cs
  | escaped, c :: cs => bare (escaped.next c) cs

theorem after_append (place : Place) (as bs : List Char) :
    place.after (as ++ bs) = (place.after as).after bs :=
  List.foldl_append

theorem bare_append (place : Place) (as bs : List Char) :
    place.bare (as ++ bs) = place.bare as ++ (place.after as).bare bs := by
  induction as generalizing place with
  | nil => cases place <;> rfl
  | cons a as ih =>
    cases place with
    | outside => exact congrArg (a :: ·) (ih _)
    | quoted => exact ih _
    | escaped => exact ih _

theorem after_of_notMem {cs : List Char} (h : '"' ∉ cs) : outside.after cs = outside := by
  induction cs with
  | nil => rfl
  | cons c cs ih =>
    simp only [List.mem_cons, not_or] at h
    have hnext : outside.next c = outside := if_neg (Ne.symm h.1)
    rw [after, List.foldl_cons, hnext]
    exact ih h.2

theorem bare_of_notMem {cs : List Char} (h : '"' ∉ cs) : outside.bare cs = cs := by
  induction cs with
  | nil => rfl
  | cons c cs ih =>
    simp only [List.mem_cons, not_or] at h
    have hnext : outside.next c = outside := if_neg (Ne.symm h.1)
    rw [bare, hnext, ih h.2]

end Place

/-- The quoted texts among some characters are closed. -/
def Closed (cs : List Char) : Prop :=
  Place.outside.after cs = .outside

/-- A word for an infinity or for NaN begins with this letter, a minus sign aside. -/
def isForeign (c : Char) : Bool :=
  c == 'N' || c == 'I'

/-- No word for an infinity or for NaN begins outside quoted texts. -/
def Ordinary (cs : List Char) : Prop :=
  ∀ c ∈ Place.outside.bare cs, isForeign c = false

instance (cs : List Char) : Decidable (Closed cs) :=
  inferInstanceAs (Decidable (Place.outside.after cs = .outside))

instance (cs : List Char) : Decidable (Ordinary cs) :=
  List.decidableBAll (fun c => isForeign c = false) (Place.outside.bare cs)

/-- A character that neither begins a quoted text nor a word for an infinity or for NaN. -/
def isPlain (c : Char) : Bool :=
  c != '"' && !isForeign c

section Plain

variable {cs : List Char}

theorem quote_notMem_of_isPlain (h : cs.all isPlain = true) : '"' ∉ cs := by
  intro hmem
  exact absurd (List.all_eq_true.mp h _ hmem) (by decide)

theorem closed_of_isPlain (h : cs.all isPlain = true) : Closed cs :=
  Place.after_of_notMem (quote_notMem_of_isPlain h)

theorem ordinary_of_isPlain (h : cs.all isPlain = true) : Ordinary cs := by
  rw [Ordinary, Place.bare_of_notMem (quote_notMem_of_isPlain h)]
  intro c hc
  have hplain := List.all_eq_true.mp h c hc
  simp only [isPlain, Bool.and_eq_true, Bool.not_eq_true'] at hplain
  exact hplain.2

theorem isPlain_of_isGap {c : Char} (h : isGap c = true) : isPlain c = true := by
  simp only [isGap, Bool.or_eq_true, beq_iff_eq] at h
  rcases h with ((rfl | rfl) | rfl) | rfl <;> decide

theorem isPlain_of_isAsciiDigit {c : Char} (h : isAsciiDigit c = true) : isPlain c = true := by
  have hquote : c ≠ '"' := by rintro rfl; exact absurd h (by decide)
  have hnan : c ≠ 'N' := by rintro rfl; exact absurd h (by decide)
  have hinfinity : c ≠ 'I' := by rintro rfl; exact absurd h (by decide)
  simp [isPlain, isForeign, hquote, hnan, hinfinity]

theorem all_isPlain_of_digits (h : ∀ c ∈ cs, isAsciiDigit c = true) : cs.all isPlain = true := by
  rw [List.all_eq_true]
  intro c hc
  exact isPlain_of_isAsciiDigit (h c hc)

theorem Whole.isPlain (h : Whole cs) : cs.all isPlain = true := by
  cases h with
  | zero => decide
  | digits hc _ hcs => exact all_isPlain_of_digits (List.forall_mem_cons.mpr ⟨hc, hcs⟩)

theorem Fraction.isPlain (h : Fraction cs) : cs.all isPlain = true := by
  cases h with
  | none => rfl
  | digits h =>
    rw [List.all_cons, all_isPlain_of_digits h.2]
    decide

theorem isPlain_of_sign {sign : List Char} (h : sign ∈ [[], ['+'], ['-']]) :
    sign.all isPlain = true := by
  simp only [List.mem_cons, List.not_mem_nil, or_false] at h
  rcases h with rfl | rfl | rfl <;> decide

theorem Exponent.isPlain (h : Exponent cs) : cs.all isPlain = true := by
  cases h with
  | none => rfl
  | @digits mark sign ds hmark hsign h =>
    rw [List.all_cons, List.all_append, isPlain_of_sign hsign, all_isPlain_of_digits h.2]
    simp only [List.mem_cons, List.not_mem_nil, or_false] at hmark
    rcases hmark with rfl | rfl <;> decide

theorem Numeric.isPlain (h : Numeric cs) : cs.all isPlain = true := by
  cases h with
  | @parts sign whole fraction exponent hsign hwhole hfraction hexponent =>
    have hsign' : sign ∈ [[], ['+'], ['-']] := by
      simp only [List.mem_cons, List.not_mem_nil, or_false] at hsign ⊢
      exact hsign.imp_right Or.inr
    rw [List.all_append, List.all_append, List.all_append, isPlain_of_sign hsign', hwhole.isPlain,
      hfraction.isPlain, hexponent.isPlain]
    rfl

end Plain

theorem Closed.append {as bs : List Char} (ha : Closed as) (hb : Closed bs) :
    Closed (as ++ bs) := by
  rw [Closed, Place.after_append, ha, hb]

theorem ordinary_append {as bs : List Char} (ha : Closed as) :
    Ordinary (as ++ bs) ↔ Ordinary as ∧ Ordinary bs := by
  simp only [Ordinary, Place.bare_append, show Place.outside.after as = .outside from ha,
    List.forall_mem_append]

theorem closed_intercalate {parts : List (List Char)} (h : ∀ part ∈ parts, Closed part) :
    Closed ([','].intercalate parts) := by
  have hcomma : Closed [','] := rfl
  induction parts with
  | nil => rfl
  | cons part parts ih =>
    obtain ⟨hpart, hparts⟩ := List.forall_mem_cons.mp h
    cases parts with
    | nil => rwa [List.intercalate_singleton]
    | cons other parts =>
      rw [List.intercalate_cons_cons]
      exact (hpart.append hcomma).append (ih hparts)

theorem ordinary_intercalate {parts : List (List Char)} (h : ∀ part ∈ parts, Closed part) :
    Ordinary ([','].intercalate parts) ↔ ∀ part ∈ parts, Ordinary part := by
  have hclosed : Closed [','] := rfl
  have hcomma : Ordinary [','] := ordinary_of_isPlain (by decide)
  induction parts with
  | nil => simp [Ordinary, Place.bare]
  | cons part parts ih =>
    obtain ⟨hpart, hparts⟩ := List.forall_mem_cons.mp h
    cases parts with
    | nil => simp
    | cons other parts =>
      rw [List.intercalate_cons_cons, ordinary_append (hpart.append hclosed), ordinary_append hpart,
        and_iff_left hcomma, List.forall_mem_cons]
      exact and_congr_right fun _ => ih hparts

/-! ### What is seen outside of a JSON text's quotes -/

/-- The characters stay between the quotes where they begin. -/
structure Inside (cs : List Char) : Prop where
  after_eq : Place.quoted.after cs = .quoted
  bare_eq : Place.quoted.bare cs = []

theorem Inside.append {as bs : List Char} (ha : Inside as) (hb : Inside bs) :
    Inside (as ++ bs) where
  after_eq := by rw [Place.after_append, ha.after_eq, hb.after_eq]
  bare_eq := by rw [Place.bare_append, ha.after_eq, ha.bare_eq, hb.bare_eq, List.append_nil]

theorem inside_singleton {c : Char} (hquote : c ≠ '"') (hslash : c ≠ '\\') : Inside [c] where
  after_eq := by simp [Place.after, Place.next, hquote, hslash]
  bare_eq := rfl

theorem inside_escape (c : Char) : Inside ['\\', c] :=
  ⟨rfl, rfl⟩

theorem ne_quote_of_hexValue? {c : Char} (h : (hexValue? c).isSome = true) : c ≠ '"' := by
  rintro rfl
  exact absurd h (by decide)

theorem ne_backslash_of_hexValue? {c : Char} (h : (hexValue? c).isSome = true) : c ≠ '\\' := by
  rintro rfl
  exact absurd h (by decide)

theorem inside_of_hexValue? {ds : List Char} (h : ∀ d ∈ ds, (hexValue? d).isSome = true) :
    Inside ds := by
  induction ds with
  | nil => exact ⟨rfl, rfl⟩
  | cons d ds ih =>
    obtain ⟨hd, hds⟩ := List.forall_mem_cons.mp h
    exact (inside_singleton (ne_quote_of_hexValue? hd) (ne_backslash_of_hexValue? hd)).append
      (ih hds)

variable {cs : List Char}

theorem Quotable.inside (h : Quotable cs) : Inside cs := by
  induction h with
  | nil => exact ⟨rfl, rfl⟩
  | plain _ hquote hslash _ ih => exact (inside_singleton hquote hslash).append ih
  | escape _ _ ih => exact (inside_escape _).append ih
  | code _ hds _ ih => exact (inside_escape 'u').append ((inside_of_hexValue? hds).append ih)

/-- Quoted texts are closed, and outside of them no word for an infinity or for NaN begins. -/
structure Regular (cs : List Char) : Prop where
  closed : Closed cs
  ordinary : Ordinary cs

theorem Regular.append {as bs : List Char} (ha : Regular as) (hb : Regular bs) :
    Regular (as ++ bs) where
  closed := ha.closed.append hb.closed
  ordinary := (ordinary_append ha.closed).mpr ⟨ha.ordinary, hb.ordinary⟩

theorem regular_of_isPlain (h : cs.all isPlain = true) : Regular cs :=
  ⟨closed_of_isPlain h, ordinary_of_isPlain h⟩

theorem regular_intercalate {parts : List (List Char)} (h : ∀ part ∈ parts, Regular part) :
    Regular ([','].intercalate parts) := by
  have hclosed : ∀ part ∈ parts, Closed part := by
    intro part hpart
    exact (h part hpart).closed
  refine ⟨closed_intercalate hclosed, (ordinary_intercalate hclosed).mpr ?_⟩
  intro part hpart
  exact (h part hpart).ordinary

theorem Blanks.regular (h : Blanks cs) : Regular cs := by
  apply regular_of_isPlain
  rw [List.all_eq_true]
  intro c hc
  exact isPlain_of_isGap (h c hc)

theorem Quotation.regular (h : Quotation cs) : Regular cs := by
  cases h with
  | @quotes cs h =>
    constructor
    · change Place.quoted.after (cs ++ ['"']) = .outside
      rw [Place.after_append, h.inside.after_eq]
      rfl
    · have hbare : Place.outside.bare ('"' :: (cs ++ ['"'])) = ['"'] := by
        change '"' :: Place.quoted.bare (cs ++ ['"']) = ['"']
        rw [Place.bare_append, h.inside.after_eq, h.inside.bare_eq]
        rfl
      rw [Ordinary, hbare]
      exact List.forall_mem_singleton.mpr (by decide)

theorem Name.regular (h : Name cs) : Regular cs := by
  cases h with
  | blanks hbefore h hafter => exact (hbefore.regular.append h.regular).append hafter.regular

/-- **No word for an infinity or for NaN begins outside the quoted texts of a JSON text.** -/
theorem Standard.regular (h : Standard cs) : Regular cs := by
  induction h with
  | blanks hbefore _ hafter ih => exact (hbefore.regular.append ih).append hafter.regular
  | null | true | false => exact regular_of_isPlain (by decide)
  | number h => exact regular_of_isPlain h.isPlain
  | text h => exact h.regular
  | @array items gap _ hgap ih =>
    have hopening : Regular ['['] := regular_of_isPlain (by decide)
    have hclosing : Regular [']'] := regular_of_isPlain (by decide)
    exact hopening.append (((regular_intercalate ih).append hgap.regular).append hclosing)
  | @object fields gap hnames _ hgap ih =>
    have hopening : Regular ['\x7b'] := regular_of_isPlain (by decide)
    have hclosing : Regular ['\x7d'] := regular_of_isPlain (by decide)
    have hcolon : Regular [':'] := regular_of_isPlain (by decide)
    have hfields : ∀ part ∈ fields.map fun f => f.1 ++ ':' :: f.2, Regular part := by
      intro part hpart
      obtain ⟨f, hf, rfl⟩ := List.mem_map.mp hpart
      exact (hnames f hf).regular.append (hcolon.append (ih f hf))
    exact hopening.append (((regular_intercalate hfields).append hgap.regular).append hclosing)

end Calculator.Json

import Calculator.Proofs.Json
import Calculator.Proofs.Outcome
import Calculator.Service.Form
import Calculator.Service.Request
import Calculator.Text.Blank

/-! # What a form says of its fields

A form is read if each of its fields passes its own check and there is no other field
(`EvaluateForm.read_eq_valid_iff`, `ChainForm.read_eq_valid_iff`). An expression comes without
blanks around it (`trimmed_of_required`). An object that is posted is read from the body
(`Request.value_posting`).
-/

namespace Calculator.Service

open Text

/-! ### Checks -/

section Checks

variable {α β : Type} {a : α} {b : β} {name : String} {fields : List (String × Json)}
  {read : Json → Except Fault α}

theorem Checked.both_eq_valid_iff {c : Checked α} {d : Checked β} :
    both c d = .valid (a, b) ↔ c = .valid a ∧ d = .valid b := by
  cases c <;> cases d <;> simp [both]

theorem Checked.map_eq_valid_iff {f : α → β} {c : Checked α} :
    c.map f = .valid b ↔ ∃ a, c = .valid a ∧ f a = b := by
  cases c <;> simp [map]

theorem Checked.ofField_eq_valid_iff {v : Json} {outcome : Except Fault α} :
    ofField name v outcome = .valid a ↔ outcome = .ok a := by
  cases outcome <;> simp [ofField]

theorem required_eq_valid_iff :
    required fields name read = .valid a ↔ ∃ v, fields.lookup name = some v ∧ read v = .ok a := by
  unfold required
  cases fields.lookup name with
  | none => simp
  | some v => simp [Checked.ofField_eq_valid_iff]

theorem optional_eq_valid_iff {default : α} :
    optional fields name default read = .valid a ↔
      (∃ v, fields.lookup name = some v ∧ read v = .ok a) ∨
      (fields.lookup name = none ∧ default = a) := by
  unfold optional
  cases fields.lookup name with
  | none => simp
  | some v => simp [Checked.ofField_eq_valid_iff]

theorem noOthers_eq_valid_iff {known : List String} :
    noOthers fields known = .valid () ↔ ∀ f ∈ fields, f.1 ∈ known := by
  have hnone : (fields.filter fun f => !known.contains f.1) = [] ↔ ∀ f ∈ fields, f.1 ∈ known := by
    simp [List.filter_eq_nil_iff]
  rw [← hnone, noOthers]
  cases fields.filter fun f => !known.contains f.1 <;> simp

end Checks

/-! ### Values -/

/-- A text without the blanks around it, as a field is read. -/
def trimmed (text : String) : String :=
  String.ofList (trim isWhiteSpace text.toList)

theorem trimmed_of_trimmed {text : String} (h : Trimmed isWhiteSpace text.toList) :
    trimmed text = text := by
  rw [trimmed, trim_of_trimmed h, String.ofList_toList]

theorem Field.text_eq_ok_iff {v : Json} {t : String} :
    text v = .ok t ↔ ∃ s : String, v = .string s ∧ trimmed s = t := by
  cases v <;> simp [text, trimmed]

theorem trimmed_of_required {fields : List (String × Json)} {name t : String}
    (h : required fields name Field.text = .valid t) : Trimmed isWhiteSpace t.toList := by
  obtain ⟨v, -, hv⟩ := required_eq_valid_iff.mp h
  obtain ⟨s, -, rfl⟩ := Field.text_eq_ok_iff.mp hv
  rw [trimmed, String.toList_ofList]
  exact trimmed_trim isWhiteSpace s.toList

theorem Field.mode_name (m : AngleMode) : Field.mode (.string m.name) = .ok m := by
  cases m <;> rfl

/-! ### Forms -/

variable {fields : List (String × Json)}

theorem EvaluateForm.read_eq_valid_iff {form : EvaluateForm} :
    read fields = .valid form ↔
      required fields "expression" Field.text = .valid form.expression ∧
      optional fields "angle_mode" none (Field.orNull Field.mode) = .valid form.mode ∧
      optional fields "strict" none (Field.orNull Field.bool) = .valid form.strict ∧
      optional fields "substitute_constants" true Field.bool = .valid form.substitute ∧
      optional fields "record" true Field.bool = .valid form.record ∧
      noOthers fields ["expression", "angle_mode", "strict", "substitute_constants", "record"] =
        .valid () := by
  rw [read, Checked.map_eq_valid_iff]
  constructor
  · rintro ⟨⟨expression, mode, strict, substitute, record, ⟨⟩⟩, h, rfl⟩
    simpa only [Checked.both_eq_valid_iff] using h
  · intro h
    refine ⟨(form.expression, form.mode, form.strict, form.substitute, form.record, ()), ?_, rfl⟩
    simpa only [Checked.both_eq_valid_iff] using h

theorem ChainForm.read_eq_valid_iff {form : ChainForm} :
    read fields = .valid form ↔
      required fields "previous" Field.number = .valid form.previous ∧
      required fields "expression" Field.text = .valid form.expression ∧
      optional fields "angle_mode" none (Field.orNull Field.mode) = .valid form.mode ∧
      optional fields "strict" none (Field.orNull Field.bool) = .valid form.strict ∧
      optional fields "record" true Field.bool = .valid form.record ∧
      noOthers fields ["previous", "expression", "angle_mode", "strict", "record"] = .valid () := by
  rw [read, Checked.map_eq_valid_iff]
  constructor
  · rintro ⟨⟨previous, expression, mode, strict, record, ⟨⟩⟩, h, rfl⟩
    simpa only [Checked.both_eq_valid_iff] using h
  · intro h
    refine ⟨(form.previous, form.expression, form.mode, form.strict, form.record, ()), ?_, rfl⟩
    simpa only [Checked.both_eq_valid_iff] using h

theorem TokenizeForm.read_eq_valid_iff {form : TokenizeForm} :
    read fields = .valid form ↔
      required fields "expression" Field.text = .valid form.expression ∧
      optional fields "strict" none (Field.orNull Field.bool) = .valid form.strict ∧
      noOthers fields ["expression", "strict"] = .valid () := by
  rw [read, Checked.map_eq_valid_iff]
  constructor
  · rintro ⟨⟨expression, strict, ⟨⟩⟩, h, rfl⟩
    simpa only [Checked.both_eq_valid_iff] using h
  · intro h
    refine ⟨(form.expression, form.strict, ()), ?_, rfl⟩
    simpa only [Checked.both_eq_valid_iff] using h

theorem readForm_eq_ok_iff {α : Type} {read : List (String × Json) → Checked α} {body : Json}
    {form : α} :
    readForm read body = .ok form ↔ ∃ fields, body = .object fields ∧
      read fields = .valid form := by
  cases body with
  | object fields =>
    rw [readForm]
    cases h : read fields <;> simp [h]
  | _ => simp [readForm]

/-! ### Bodies -/

namespace Request

theorem valueOf_write {f : String × Json} {fs : List (String × Json)}
    (hnames : ((f :: fs).map Prod.fst).Pairwise (· < ·))
    (h : ∀ g ∈ f :: fs, Json.Legible (Json.maxDepth - 1) g.2) :
    valueOf ((Json.object (f :: fs)).write Json.Layout.wire) = .ok (.object (f :: fs)) := by
  have hread : Json.read ((Json.object (f :: fs)).write Json.Layout.wire).toList =
      .ok (.object (f :: fs)) :=
    Json.read_write (Json.legible_object hnames h)
  have hchars : Json.Encoding.characters? ((Json.object (f :: fs)).write Json.Layout.wire).toList =
      some ((Json.object (f :: fs)).write Json.Layout.wire).toList := by
    obtain ⟨cs, hcs⟩ := Json.head_fieldsChars (0 + 1) f fs
    rw [Json.write, String.toList_append, Json.toList_render_object hnames, hcs]
    exact Json.Encoding.characters?_of_ascii (by decide) (by decide) _
  rw [valueOf, hchars]
  simp only [hread, Json.isTrivial]
  rfl

/-- A request that posts an object as JSON. -/
def posting (address : String) (fields : List (String × Json)) : Request where
  method := "POST"
  address := address
  body := some ((Json.object fields).write Json.Layout.wire)
  contentType := some "application/json"
  headers := []
  drawnId := 0

theorem received_posting (address : String) (fields : List (String × Json)) :
    (posting address fields).received = (Json.object fields).write Json.Layout.wire := by
  have hchunked : (posting address fields).isChunked = false := rfl
  rw [received, hchunked]
  rfl

theorem value_posting {address : String} {f : String × Json} {fs : List (String × Json)}
    {maxBody : Int} (hlength : ((posting address (f :: fs)).received.utf8ByteSize : Int) ≤ maxBody)
    (hnames : ((f :: fs).map Prod.fst).Pairwise (· < ·))
    (h : ∀ g ∈ f :: fs, Json.Legible (Json.maxDepth - 1) g.2) :
    (posting address (f :: fs)).value maxBody = .ok (.object (f :: fs)) := by
  have hname : isJson "application/json" = true := by decide +kernel
  have hjson : (posting address (f :: fs)).contentType?.any isJson = true := hname
  have hfits : ¬ maxBody < ((posting address (f :: fs)).received.utf8ByteSize : Int) := by omega
  unfold value
  rw [if_pos hjson]
  simp only [hfits, decide_false, Bool.false_and]
  rw [received_posting]
  exact valueOf_write hnames h

end Request

end Calculator.Service

import Calculator.Proofs.Service.Replay

/-! # Requests that leave nothing open

A form is posted by a request whose body has a field for everything that the form says. Such a
request asks for the resource and holds the form (`holds_evaluating`, `holds_tokenizing`), unless
the body is too long or the expression has blanks around it, which would be trimmed. How long the
body is can be seen from its text (`received_evaluating`, `received_tokenizing`).
-/

namespace Calculator.Service

open Text

namespace Request

variable {settings : Settings}

theorem holds_posting {α : Type} {read : List (String × Json) → Checked α} {form : α}
    {address : String} {f : String × Json} {fs : List (String × Json)}
    (hlength : ((posting address (f :: fs)).received.utf8ByteSize : Int) ≤ settings.maxBody)
    (hnames : ((f :: fs).map Prod.fst).Pairwise (· < ·))
    (hlegible : ∀ g ∈ f :: fs, Json.Legible (Json.maxDepth - 1) g.2)
    (hread : read (f :: fs) = .valid form) : (posting address (f :: fs)).Holds settings read form :=
  ⟨_, value_posting hlength hnames hlegible, readForm_eq_ok_iff.mpr ⟨_, rfl, hread⟩⟩

theorem required_expression {fields : List (String × Json)} {expression : String}
    (hfield : fields.lookup "expression" = some (.string expression))
    (htrimmed : Trimmed isWhiteSpace expression.toList) :
    required fields "expression" Field.text = .valid expression :=
  required_eq_valid_iff.mpr
    ⟨_, hfield, Field.text_eq_ok_iff.mpr ⟨expression, rfl, trimmed_of_trimmed htrimmed⟩⟩

theorem optional_bool {fields : List (String × Json)} {name : String} {b : Bool}
    (hfield : fields.lookup name = some (.bool b)) :
    optional fields name none (Field.orNull Field.bool) = .valid (some b) :=
  optional_eq_valid_iff.mpr (Or.inl ⟨_, hfield, rfl⟩)

/-! ### Evaluating -/

/-- The fields of a request for an evaluation. -/
def evaluatingFields (expression : String) (mode : AngleMode) (strict substitute : Bool) :
    List (String × Json) := [
  ("angle_mode", .string mode.name), ("expression", .string expression), ("strict", .bool strict),
  ("substitute_constants", .bool substitute)]

/-- The request for an evaluation. -/
def evaluating (expression : String) (mode : AngleMode) (strict substitute : Bool) : Request :=
  posting "/api/scientific_calculator/evaluate" (evaluatingFields expression mode strict substitute)

variable (expression : String) (mode : AngleMode) (strict substitute : Bool)

theorem asks_evaluating : (evaluating expression mode strict substitute).Asks .evaluate .post :=
  asks_posting ⟨by decide +kernel, ok_of_toOption (by decide +kernel)⟩
    (evaluatingFields expression mode strict substitute)

theorem read_evaluatingFields (htrimmed : Trimmed isWhiteSpace expression.toList) :
    EvaluateForm.read (evaluatingFields expression mode strict substitute) =
      .valid ⟨expression, some mode, some strict, substitute, true⟩ := by
  refine EvaluateForm.read_eq_valid_iff.mpr ⟨required_expression rfl htrimmed,
    optional_eq_valid_iff.mpr (Or.inl ⟨_, rfl, ?_⟩), optional_bool rfl,
    optional_eq_valid_iff.mpr (Or.inl ⟨_, rfl, rfl⟩), optional_eq_valid_iff.mpr (Or.inr ⟨rfl, rfl⟩),
    noOthers_eq_valid_iff.mpr ?_⟩
  · rw [Field.orNull, Field.mode_name]
    · rfl
    · simp
  · simp [evaluatingFields]

theorem evaluatingFields_sorted :
    ((evaluatingFields expression mode strict substitute).map Prod.fst).Pairwise (· < ·) := by
  change ["angle_mode", "expression", "strict", "substitute_constants"].Pairwise (· < ·)
  decide

variable {expression}

theorem holds_evaluating (htrimmed : Trimmed isWhiteSpace expression.toList)
    (hlength : ((evaluating expression mode strict substitute).received.utf8ByteSize : Int) ≤
      settings.maxBody) :
    (evaluating expression mode strict substitute).Holds settings EvaluateForm.read
      ⟨expression, some mode, some strict, substitute, true⟩ := by
  refine holds_posting hlength (evaluatingFields_sorted expression mode strict substitute) ?_
    (read_evaluatingFields expression mode strict substitute htrimmed)
  simp only [List.forall_mem_cons, Json.legible_string, Json.legible_bool, List.not_mem_nil,
    false_implies, implies_true, and_self]

theorem received_evaluating (expression : String) (mode : AngleMode) (strict substitute : Bool) :
    (evaluating expression mode strict substitute).received =
      "\x7b\"angle_mode\":\"" ++ mode.name ++ "\",\"expression\":" ++ Json.quote true expression ++
        ",\"strict\":" ++
        toString strict ++ ",\"substitute_constants\":" ++ toString substitute ++ "\x7d\n" := by
  apply String.toList_injective
  rw [evaluating, received_posting, Json.write, String.toList_append,
    Json.toList_render_object (evaluatingFields_sorted expression mode strict substitute)]
  have hnames : ∀ name ∈ ["angle_mode", "expression", "strict", "substitute_constants"],
      name.toList.flatMap (Json.quoteChar true) = name.toList := by
    decide +kernel
  have hmode : (Json.quote true mode.name).toList = '"' :: (mode.name.toList ++ ['"']) := by
    cases mode <;> decide +kernel
  simp only [evaluatingFields, Json.fieldsChars, List.map, Json.fieldChars_eq,
    List.intercalate_cons_cons, List.intercalate_singleton, Json.render, Json.Layout.wire, hmode,
    hnames _ (List.mem_cons_self ..),
    hnames "expression" (by decide), hnames "strict" (by decide),
    hnames "substitute_constants" (by decide)]
  cases strict <;> cases substitute <;> simp [toString]

/-! ### Tokenizing -/

/-- The fields of a request for tokens. -/
def tokenizingFields (expression : String) (strict : Bool) : List (String × Json) :=
  [("expression", .string expression), ("strict", .bool strict)]

/-- The request for tokens. -/
def tokenizing (expression : String) (strict : Bool) : Request :=
  posting "/api/scientific_calculator/tokenize" (tokenizingFields expression strict)

theorem tokenizingFields_sorted :
    ((tokenizingFields expression strict).map Prod.fst).Pairwise (· < ·) := by
  change ["expression", "strict"].Pairwise (· < ·)
  decide

theorem asks_tokenizing : (tokenizing expression strict).Asks .tokenize .post :=
  asks_posting ⟨by decide +kernel, ok_of_toOption (by decide +kernel)⟩
    (tokenizingFields expression strict)

theorem holds_tokenizing (htrimmed : Trimmed isWhiteSpace expression.toList)
    (hlength : ((tokenizing expression strict).received.utf8ByteSize : Int) ≤ settings.maxBody) :
    (tokenizing expression strict).Holds settings TokenizeForm.read ⟨expression, some strict⟩ := by
  refine holds_posting hlength (tokenizingFields_sorted strict) ?_
    (TokenizeForm.read_eq_valid_iff.mpr
    ⟨required_expression rfl htrimmed, optional_bool rfl, noOthers_eq_valid_iff.mpr ?_⟩)
  · simp only [List.forall_mem_cons, Json.legible_string, Json.legible_bool, List.not_mem_nil,
      false_implies, implies_true, and_self]
  · simp

theorem received_tokenizing (expression : String) (strict : Bool) :
    (tokenizing expression strict).received =
      "\x7b\"expression\":" ++ Json.quote true expression ++ ",\"strict\":" ++ toString strict ++
        "\x7d\n" := by
  apply String.toList_injective
  rw [tokenizing, received_posting, Json.write, String.toList_append,
    Json.toList_render_object (tokenizingFields_sorted strict)]
  have hnames : ∀ name ∈ ["expression", "strict"],
      name.toList.flatMap (Json.quoteChar true) = name.toList := by
    decide +kernel
  simp only [tokenizingFields, Json.fieldsChars, List.map, Json.fieldChars_eq,
    List.intercalate_cons_cons,
    List.intercalate_singleton, Json.render, Json.Layout.wire, hnames "expression" (by decide),
    hnames "strict" (by decide)]
  cases strict <;> simp [toString]

end Request

end Calculator.Service

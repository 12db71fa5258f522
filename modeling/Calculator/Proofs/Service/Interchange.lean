import Calculator.Proofs.Groups
import Calculator.Proofs.Json.Standard
import Calculator.Proofs.Leniency
import Calculator.Proofs.Service.Recorded

/-! # Answers as JSON

Every answer that tells of a value leaves it out if it is not finite: an evaluated expression, a
calculation that goes on and the memory register. An expression that is tokenized is told token by
token, and there a number is told whatever it is. So an answer is JSON by the grammar unless it
tells of a token that is a number and not finite (`standard_iff_of_ok`). Such a number comes of a
literal that is too large, or of a malformed one that is read leniently.
-/

namespace Calculator

/-! ### What is told -/

namespace Json

@[simp]
theorem finite_array_iff {items : List Json} :
    (array items).Finite ↔ ∀ item ∈ items, item.Finite := by
  refine ⟨?_, .array⟩
  intro h
  cases h with
  | array h => exact h

@[simp]
theorem finite_object_iff {fields : List (String × Json)} :
    (object fields).Finite ↔ ∀ f ∈ fields, f.2.Finite := by
  refine ⟨?_, .object⟩
  intro h
  cases h with
  | object h => exact h

@[simp]
theorem finite_float_iff {v : Float} : (float v).Finite ↔ v.isFinite = true := by
  refine ⟨?_, .float⟩
  intro h
  cases h with
  | float h => exact h

attribute [simp] Finite.null Finite.bool Finite.int Finite.string Finite.torn

@[simp]
theorem finite_ofTexts (texts : List String) : (ofTexts texts).Finite := by
  simp [ofTexts]

@[simp]
theorem finite_ofFloat?_finite? (v : Float) : (ofFloat? (Expression.finite? v)).Finite := by
  rw [Expression.finite?]
  split
  next h => exact .float h
  next => exact .null

end Json

theorem Expression.Report.finite_describe {modeName : Option String} {strict : Bool}
    {maxLength : Int} {text : String} {r : Expression.Report}
    (h : Expression.report modeName strict maxLength (some text) = .ok r) : r.describe.Finite := by
  obtain ⟨mode, program, v, -, -, -, rfl⟩ := Expression.report_eq_ok_iff.mp h
  simp [Expression.Report.describe]

theorem MathFunction.finite_describeAll : MathFunction.describeAll.Finite := by
  simp [MathFunction.describeAll, MathFunction.describe]

theorem Token.finite_describe_iff (t : Token) :
    t.describe.Finite ↔ ∀ v, t = .number v → v.isFinite = true := by
  cases t <;> simp [Token.describe]

/-- No number is told of a program that is not among the tokens. -/
theorem Token.finite_describeBoth_iff {strict : Bool} {tokens program : List Token}
    (horder : Postfix.ofTokens strict tokens = .ok program) :
    (Token.describeBoth tokens program).Finite ↔ ∀ v, .number v ∈ tokens → v.isFinite = true := by
  have hprogram : ∀ t ∈ program, t ∈ tokens := by
    intro t ht
    have hbare : t ∈ Postfix.bare tokens := (Postfix.ofTokens_perm strict horder).mem_iff.mp ht
    exact (List.mem_filter.mp hbare).1
  simp only [Token.describeBoth, Json.finite_object_iff, Json.finite_array_iff,
    List.forall_mem_cons, List.forall_mem_map, Token.finite_describe_iff, List.not_mem_nil,
    false_implies, implies_true, and_true]
  constructor
  · rintro ⟨h, -⟩ v hv
    exact h _ hv v rfl
  · intro h
    constructor
    · rintro t ht v rfl
      exact h v ht
    · rintro t ht v rfl
      exact h v (hprogram _ ht)

namespace Service

theorem finite_describeHistory (history : History) : (describeHistory history).Finite := by
  simp [describeHistory, describeEntry]

theorem finite_describeMemory (memory : Memory) : (describeMemory memory).Finite := by
  simp [describeMemory]

@[simp]
theorem finite_success_iff {data : Json} : (success data).Finite ↔ data.Finite := by
  simp [success]

/-! ### Answers -/

variable {settings : Settings} {state next : State} {request : Request} {resource : Resource}
    {method : Method}

/-- The tokens of the expression that a request has tokenized. -/
def Request.tokens? (settings : Settings) (request : Request) : Option (List Token) :=
  if request.asked? = some (.tokenize, .post) then
    (request.form? settings TokenizeForm.read).bind fun form =>
      (Token.read (settings.strictFor form.strict) form.expression).toOption
  else none

theorem Request.tokens?_of_ne (hasks : request.Asks resource method) (h : resource ≠ .tokenize) :
    request.tokens? settings = none := by
  rw [tokens?, if_neg]
  rw [asks_iff.mp hasks]
  simp [h]

theorem Request.tokens?_of_holds {form : TokenizeForm} {tokens : List Token}
    (hasks : request.Asks .tokenize .post) (hform : request.Holds settings TokenizeForm.read form)
    (hread : Token.read (settings.strictFor form.strict) form.expression = .ok tokens) :
    request.tokens? settings = some tokens := by
  rw [tokens?, if_pos (asks_iff.mp hasks), form?_eq_some_iff.mpr hform, Option.bind_some, hread]
  rfl

/-- **What the service answers with has only finite numbers**, but for the numbers of an expression
that is tokenized. -/
theorem Acted.finite_iff {data : Json} (hasks : request.Asks resource method)
    (h : Acted settings state request resource method next data) (hhome : resource ≠ .home) :
    data.Finite ↔ ∀ tokens ∈ request.tokens? settings, ∀ v, .number v ∈ tokens →
      v.isFinite = true := by
  by_cases htokenize : resource = .tokenize
  · subst htokenize
    cases h with
    | @tokenize form tokens program hform hread horder =>
      rw [Token.finite_describeBoth_iff horder, Request.tokens?_of_holds hasks hform hread]
      simp
  · rw [Request.tokens?_of_ne hasks htokenize]
    refine iff_of_true ?_ (by simp)
    cases h with
    | home => exact absurd rfl hhome
    | tokenize => exact absurd rfl htokenize
    | evaluate _ _ _ hreport => exact Expression.Report.finite_describe hreport
    | functions => exact MathFunction.finite_describeAll
    | historyShown => exact finite_describeHistory _
    | memoryShown | memoryUpdated | memoryCleared => exact finite_describeMemory _
    | chain | toggleSign | historyCleared => simp

theorem exists_finite_iff (state : State) (hasks : request.Asks resource method)
    (hhome : resource ≠ .home) (hok : (respond settings state request).2.status = 200) :
    ∃ data, (respond settings state request).2 = .ok data ∧
      ((success data).Finite ↔
        ∀ tokens ∈ request.tokens? settings, ∀ v, .number v ∈ tokens → v.isFinite = true) := by
  obtain ⟨next, data, hacted, hreply⟩ := exists_acted hasks hok
  rw [hreply]
  exact ⟨data, rfl, by rw [finite_success_iff, hacted.finite_iff hasks hhome]⟩

/-- **An answer of success is JSON by the grammar exactly if its numbers are finite**, and they are,
whatever the state and whatever is asked for, unless the tokens of an expression are told and one of
these is a number that is not finite. -/
theorem standard_iff_of_ok (settings : Settings) (state : State)
    (hasks : request.Asks resource method) (hhome : resource ≠ .home)
    (hok : (respond settings state request).2.status = 200) :
    ∃ data, (respond settings state request).2 = .ok data ∧
      (Json.Standard (respond settings state request).2.content.text.toList ↔
        (success data).Finite) ∧
      ((success data).Finite ↔
        ∀ tokens ∈ request.tokens? settings, ∀ v, .number v ∈ tokens → v.isFinite = true) := by
  obtain ⟨data, hreply, hfinite⟩ := exists_finite_iff state hasks hhome hok
  rw [hreply]
  exact ⟨data, rfl, Json.standard_write_iff Json.Layout.wire (success data), hfinite⟩

/-- A request for the value of an expression that is infinite. -/
def Request.infinite : Request :=
  plain "POST" "evaluate" (some "\x7b\"expression\":\"1/0\"\x7d")

/-- What is infinite is left out, and so the answer is JSON. -/
theorem standard_of_infinite :
    Request.infinite.Asks .evaluate .post ∧
      Json.Standard
        (respond Settings.oneEntry (State.fresh Settings.oneEntry)
          Request.infinite).2.content.text.toList := by
  have hasks : Request.infinite.Asks .evaluate .post :=
    ⟨by decide +kernel, ok_of_toOption (by decide +kernel)⟩
  have htokens : Request.infinite.tokens? Settings.oneEntry = none :=
    Request.tokens?_of_ne hasks nofun
  obtain ⟨data, -, hstandard, hfinite⟩ :=
    standard_iff_of_ok Settings.oneEntry (State.fresh Settings.oneEntry) hasks nofun
      (by decide +kernel)
  refine ⟨hasks, hstandard.mpr (hfinite.mpr ?_)⟩
  rw [htokens]
  intro tokens h
  exact absurd h (Option.not_mem_none tokens)

/-- A request for the tokens of a lone point, which is to be read leniently. -/
def Request.point : Request :=
  plain "POST" "tokenize" (some "\x7b\"expression\":\".\",\"strict\":false\x7d")

/-- A lone point is read leniently as NaN, and the answer that tells of it is not JSON. -/
theorem not_standard_of_point :
    Request.point.Asks .tokenize .post ∧
      (respond Settings.oneEntry (State.fresh Settings.oneEntry) Request.point).2.status = 200 ∧
      Request.point.tokens? Settings.oneEntry = some [.number (0.0 / 0.0)] ∧
      ¬ Json.Standard
        (respond Settings.oneEntry (State.fresh Settings.oneEntry)
          Request.point).2.content.text.toList := by
  have hasks : Request.point.Asks .tokenize .post :=
    ⟨by decide +kernel, ok_of_toOption (by decide +kernel)⟩
  have hok : (respond Settings.oneEntry (State.fresh Settings.oneEntry) Request.point).2.status =
      200 := by
    decide +kernel
  have htokens : Request.point.tokens? Settings.oneEntry = some [.number (0.0 / 0.0)] := by
    decide +kernel
  obtain ⟨data, hreply, hfinite⟩ :=
    exists_finite_iff (State.fresh Settings.oneEntry) hasks nofun hok
  refine ⟨hasks, hok, htokens, ?_⟩
  rw [hreply]
  intro h
  have hnan :=
    hfinite.mp ((Json.standard_write_iff Json.Layout.wire (success data)).mp h) _ htokens
      (0.0 / 0.0)
    List.mem_cons_self
  exact absurd hnan (by decide +kernel)

end Service

end Calculator

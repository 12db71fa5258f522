import Calculator.Proofs.Evaluation
import Calculator.Proofs.Number.Display
import Calculator.Proofs.Service.History
import Calculator.Proofs.Substitution

/-! # Replaying the history

A calculation that was made strictly can be made again from its entry in the history
(`history_replays`): a request that asks for the expression of the entry, in the mode of the entry
and strictly, gets the display of the entry.

The expression is not always what was evaluated. Of three differences none matters:

* Constants are written out in the second evaluation, whatever was asked for in the first. A text
  that was read strictly has none (`Expression.substituteConstants_of_report`).
* A calculation that goes on is evaluated without writing out constants, and its display is followed
  by a blank, which is trimmed if nothing else follows (`Token.read_display_blank`).
* The expression is trimmed twice (`Text.trim_of_trimmed`).
-/

namespace Calculator

open Text

/-! ### What is read and reported -/

theorem Token.read_display_blank {v : Float} (hfinite : v.isFinite = true) (strict : Bool) :
    read strict (Number.display v ++ " ") = read strict (Number.display v) := by
  obtain ⟨l, -, hcut⟩ := Number.cutFrom_display hfinite
  have hstops : Lexeme.Stops [' '] := Lexeme.stops_cons (by decide) (by decide) []
  have hbare := hcut true (fun _ => rfl) Lexeme.stops_nil
  have hblank := hcut true (fun _ => rfl) hstops
  rw [List.append_nil, Lexeme.cutFrom_nil] at hbare
  rw [Lexeme.cutFrom_blank (by decide), Lexeme.cutFrom_nil] at hblank
  rw [read, read, String.toList_append, Lexeme.cut, Lexeme.cut, hbare]
  change readFrom strict 0 (Lexeme.cutFrom true ((Number.display v).toList ++ [' '])) = _
  rw [hblank, readFrom_cons, readFrom_cons]
  rfl

namespace Expression

variable {modeName : Option String} {limit : Int} {text : String}

theorem substituteConstants_of_report {r : Report}
    (h : report modeName true limit (some text) = .ok r) : substituteConstants text = text := by
  obtain ⟨mode, program, v, -, hcompile, -, -⟩ := report_eq_ok_iff.mp h
  obtain ⟨tokens, -, hread, -⟩ := compile_eq_ok_iff.mp hcompile
  exact substituteConstants_of_read hread

theorem evaluate_display_blank {previous v : Float} {strict : Bool}
    (hfinite : previous.isFinite = true)
    (h : evaluate modeName strict limit (some (Number.display previous ++ " ")) = .ok v) :
    evaluate modeName strict limit (some (Number.display previous)) = .ok v := by
  obtain ⟨mode, tokens, program, hmode, hlength, hread, horder, hvalue⟩ := evaluate_eq_ok_iff.mp h
  rw [Token.read_display_blank hfinite] at hread
  rw [String.length_append] at hlength
  exact evaluate_eq_ok_iff.mpr ⟨mode, tokens, program, hmode, by omega, hread, horder, hvalue⟩

end Expression

namespace Service

/-- Trimming the text of a calculation that goes on takes a blank from it at most. -/
theorem ChainForm.trimmed_text {form : ChainForm} (hfinite : form.previous.isFinite = true)
    (htrimmed : Trimmed isWhiteSpace form.expression.toList) :
    trimmed form.text = form.text ∨
      (form.text = Number.display form.previous ++ " " ∧
        trimmed form.text = Number.display form.previous) := by
  have hdisplay : Trimmed isWhiteSpace (Number.display form.previous).toList :=
    trimmed_of_forall fun c hc => Number.not_isWhiteSpace_display hfinite hc
  have hne := Number.display_ne_nil hfinite
  by_cases hempty : form.expression = ""
  · have htext : form.text = Number.display form.previous ++ " " := by
      rw [ChainForm.text, hempty, String.append_empty]
    have hblank : ∀ c ∈ " ".toList, isWhiteSpace c = true := by
      intro c hc
      obtain rfl : c = ' ' := by simpa using hc
      decide
    refine Or.inr ⟨htext, ?_⟩
    rw [htext, trimmed, String.toList_append, trim_append_of_forall hdisplay hne hblank,
      String.ofList_toList]
  · refine Or.inl (trimmed_of_trimmed ?_)
    rw [ChainForm.text, String.toList_append, String.toList_append]
    exact hdisplay.append hne htrimmed (by simpa using hempty) " ".toList

theorem ChainForm.report_text {form : ChainForm} {modeName : Option String} {strict : Bool}
    {limit : Int} {value : Float} (htrimmed : Trimmed isWhiteSpace form.expression.toList)
    (h : Expression.chain form.previous (" " ++ form.expression) modeName strict limit =
      .ok value) :
    ∃ r, Expression.report modeName strict limit (some (trimmed form.text)) = .ok r ∧
      r.display = Number.display value := by
  unfold Expression.chain at h
  split at h
  next hfinite =>
    rw [← String.append_assoc] at h
    rcases ChainForm.trimmed_text hfinite htrimmed with heq | ⟨htext, heq⟩
    · rw [heq]
      exact Expression.report_of_evaluate h
    · change Expression.evaluate modeName strict limit (some form.text) = .ok value at h
      rw [htext] at h
      rw [heq]
      exact Expression.report_of_evaluate (Expression.evaluate_display_blank hfinite h)
  next => contradiction

/-! ### The second evaluation -/

variable {settings : Settings} {request : Request} {entry : HistoryEntry}

theorem Request.Holds.trimmed {α : Type} {read : List (String × Json) → Checked α} {form : α}
    {expression : String} (h : request.Holds settings read form)
    (hread : ∀ fields, read fields = .valid form →
      required fields "expression" Field.text = .valid expression) :
    Trimmed isWhiteSpace expression.toList := by
  obtain ⟨body, -, hform⟩ := h
  obtain ⟨fields, -, hvalid⟩ := readForm_eq_ok_iff.mp hform
  exact trimmed_of_required (hread fields hvalid)

theorem Request.Enters.report {strict : Bool} (h : request.Enters settings strict entry)
    (hstrict : strict = true) :
    ∃ mode limit r, entry.mode = AngleMode.name mode ∧ settings.lengthFor = .ok limit ∧
      Expression.report (some mode.name) true limit
        (some (substituteConstants (Service.trimmed entry.expression))) =
        .ok r ∧ r.display = entry.display := by
  cases h with
  | @evaluate form mode limit r hasks hform hrecord hmode hlimit hreport =>
    have htrimmed := hform.trimmed fun fields h => (EvaluateForm.read_eq_valid_iff.mp h).1
    rw [hstrict] at hreport
    have hmode' : r.mode = mode := by
      obtain ⟨mode', program, v, hread, -, -, rfl⟩ := Expression.report_eq_ok_iff.mp hreport
      rw [AngleMode.read_name] at hread
      exact (Except.ok.inj hread).symm
    refine ⟨mode, limit, r, by rw [hmode'], hlimit, ?_, rfl⟩
    rw [trimmed_of_trimmed htrimmed]
    unfold EvaluateForm.text at hreport
    split at hreport
    · exact hreport
    · rw [Expression.substituteConstants_of_report hreport]
      exact hreport
  | @chain form mode limit value hasks hform hrecord hmode hlimit hvalue =>
    have htrimmed := hform.trimmed fun fields h => (ChainForm.read_eq_valid_iff.mp h).2.1
    rw [hstrict] at hvalue
    obtain ⟨r, hreport, hdisplay⟩ := ChainForm.report_text htrimmed hvalue
    refine ⟨mode, limit, r, rfl, hlimit, ?_, hdisplay⟩
    rw [Expression.substituteConstants_of_report hreport]
    exact hreport

/-! ### Asking again -/

namespace Request

/-- The request asks for the calculation of an entry and for nothing else: for the expression, in
the mode of the entry and strictly. -/
structure Repeats (settings : Settings) (entry : HistoryEntry) (request : Request) : Prop where
  asks : request.Asks .evaluate .post
  body : ∃ fields, request.value settings.maxBody = .ok (.object fields) ∧
    fields.lookup "expression" = some (.string entry.expression) ∧
    fields.lookup "angle_mode" = some (.string entry.mode) ∧
    fields.lookup "strict" = some (.bool true) ∧
    ∀ f ∈ fields, f.1 ∈ ["expression", "angle_mode", "strict"]

/-- What such a request is read as: constants are written out and the calculation is recorded. -/
theorem Repeats.holds (h : request.Repeats settings entry) {mode : AngleMode}
    (hmode : entry.mode = mode.name) :
    request.Holds settings EvaluateForm.read ⟨trimmed entry.expression, some mode, some true, true,
      true⟩ := by
  obtain ⟨fields, hvalue, hexpression, hangle, hstrict, honly⟩ := h.body
  have habsent : ∀ name, name ∉ ["expression", "angle_mode", "strict"] →
      fields.lookup name = none := by
    intro name hname
    rw [List.lookup_eq_none_iff]
    intro f hf
    simp only [bne_iff_ne]
    rintro rfl
    exact hname (honly f hf)
  refine ⟨_, hvalue, readForm_eq_ok_iff.mpr ⟨fields, rfl, EvaluateForm.read_eq_valid_iff.mpr ?_⟩⟩
  refine ⟨required_eq_valid_iff.mpr ⟨_, hexpression, rfl⟩,
    optional_eq_valid_iff.mpr (Or.inl ⟨_, hangle, ?_⟩),
    optional_eq_valid_iff.mpr (Or.inl ⟨_, hstrict, rfl⟩),
    optional_eq_valid_iff.mpr (Or.inr ⟨habsent _ (by decide), rfl⟩),
    optional_eq_valid_iff.mpr (Or.inr ⟨habsent _ (by decide), rfl⟩), noOthers_eq_valid_iff.mpr ?_⟩
  · rw [hmode, Field.orNull, Field.mode_name]
    · rfl
    · simp
  · intro f hf
    have := honly f hf
    simp only [List.mem_cons, List.not_mem_nil, or_false] at this ⊢
    rcases this with h | h | h <;> simp [h]

/-- What a request is for does not depend on what is posted. -/
theorem asks_posting {address : String} {resource : Resource} {method : Method}
    (h : (posting address []).Asks resource method) (fields : List (String × Json)) :
    (posting address fields).Asks resource method :=
  h

/-- The fields that repeat an entry. -/
def repeatingFields (entry : HistoryEntry) : List (String × Json) :=
  [("angle_mode", .string entry.mode), ("expression", .string entry.expression),
    ("strict", .bool true)]

theorem repeatingFields_sorted (entry : HistoryEntry) :
    ((repeatingFields entry).map Prod.fst).Pairwise (· < ·) := by
  change ["angle_mode", "expression", "strict"].Pairwise (· < ·)
  decide

/-- The request that repeats an entry. -/
def repeating (entry : HistoryEntry) : Request :=
  posting "/api/scientific_calculator/evaluate" (repeatingFields entry)

theorem repeats_repeating (h : ((repeating entry).received.utf8ByteSize : Int) ≤ settings.maxBody) :
    (repeating entry).Repeats settings entry where
  asks := asks_posting ⟨by decide +kernel, ok_of_toOption (by decide +kernel)⟩
    (repeatingFields entry)
  body := by
    have hlegible : ∀ f ∈ repeatingFields entry, Json.Legible (Json.maxDepth - 1) f.2 := by
      intro f hf
      simp only [repeatingFields, List.mem_cons, List.not_mem_nil, or_false] at hf
      rcases hf with rfl | rfl | rfl
      · exact Json.legible_string _ _
      · exact Json.legible_string _ _
      · exact Json.legible_bool _ _
    refine ⟨repeatingFields entry, value_posting h (repeatingFields_sorted entry) hlegible, rfl,
      rfl, rfl, ?_⟩
    intro f hf
    simp only [repeatingFields, List.mem_cons, List.not_mem_nil, or_false] at hf
    rcases hf with rfl | rfl | rfl <;> simp

end Request

theorem respond_of_repeats {again : Request} (hagain : again.Repeats settings entry)
    (henters : request.Enters settings true entry) {state : State} {history : History}
    (hhistory : state.history = some history) :
    ∃ data, (respond settings state again).2 = .ok data ∧
      data.field? "display" = some (.string entry.display) := by
  obtain ⟨mode, limit, r, hmode, hlimit, hreport, hdisplay⟩ := henters.report rfl
  obtain ⟨next, hnext, -⟩ := State.recorded_of_history hhistory rfl
    ⟨trimmed entry.expression, r.display, r.mode.name⟩
  refine ⟨r.describe, ?_, ?_⟩
  · rw [respond_of_acted hagain.asks (.evaluate (hagain.holds hmode) rfl hlimit hreport hnext)]
  · rw [← hdisplay]
    rfl

/-- **A strict calculation can be replayed from the history.** Whatever stands in the history was
entered by a request. If one that entered it was strict, then every request that repeats the entry
succeeds, and the display is the same. There is such a request, unless the body is too long. -/
theorem history_replays (settings : Settings) (requests : List Request) {history : History}
    {entry : HistoryEntry}
    (hhistory : (State.after settings (State.fresh settings) requests).history = some history)
    (hentry : entry ∈ history.entries) :
    (∃ request ∈ requests, ∃ strict, request.Enters settings strict entry) ∧
      ((∃ request ∈ requests, request.Enters settings true entry) →
        (∀ again : Request, again.Repeats settings entry →
          ∃ data, (respond settings (State.after settings (State.fresh settings) requests)
            again).2 = .ok data ∧ data.field? "display" = some (.string entry.display)) ∧
        (((Request.repeating entry).received.utf8ByteSize : Int) ≤ settings.maxBody →
          (Request.repeating entry).Repeats settings entry)) := by
  refine ⟨enters_of_mem_entries hhistory hentry, ?_⟩
  rintro ⟨request, -, henters⟩
  refine ⟨fun again hagain => respond_of_repeats hagain henters hhistory, ?_⟩
  intro hlength
  exact Request.repeats_repeating hlength

/-- The settings that are in force if no others are given. -/
def Settings.standard : Settings :=
  ofConfig standardConfig (some standardProfile)

/-- A calculation that goes on from two with nothing. Its entry ends in a blank. -/
def Request.twoAlone : Request where
  method := "POST"
  address := "/api/scientific_calculator/chain"
  body := some "\x7b\"previous\":2,\"expression\":\"\"\x7d"
  contentType := some "application/json"
  headers := []
  drawnId := 0

/-- The entry of a calculation that goes on from two with nothing is replayed. -/
theorem history_replays_two :
    ∃ history, (State.after Settings.standard (State.fresh Settings.standard)
        [Request.twoAlone]).history = some history ∧
      ⟨"2 ", "2", "degree"⟩ ∈ history.entries ∧
      ∃ data, (respond Settings.standard
          (State.after Settings.standard (State.fresh Settings.standard) [Request.twoAlone])
          (Request.repeating ⟨"2 ", "2", "degree"⟩)).2 = .ok data ∧
        data.field? "display" = some (.string "2") := by
  have hentries : (State.after Settings.standard (State.fresh Settings.standard)
      [Request.twoAlone]).history.map History.entries = some [⟨"2 ", "2", "degree"⟩] := by
    decide +kernel
  obtain ⟨history, hhistory, hlist⟩ := Option.map_eq_some_iff.mp hentries
  have hmem : ⟨"2 ", "2", "degree"⟩ ∈ history.entries := by
    rw [hlist]
    exact List.mem_singleton_self _
  obtain ⟨⟨request, hrequest, strict, henters⟩, hreplay⟩ :=
    history_replays Settings.standard [Request.twoAlone] hhistory hmem
  obtain rfl := List.mem_singleton.mp hrequest
  -- the request does not say how strictly it is to be read
  have hroute : (Route.find Request.twoAlone.wantsUpgrade Request.twoAlone.methodName
      Request.twoAlone.target.path).toOption = some (.found .chain .post) := by decide +kernel
  have hform : ((Request.twoAlone.value Settings.standard.maxBody).bind
      (readForm ChainForm.read)).toOption.map ChainForm.strict = some none := by decide +kernel
  have hstrict : strict = true := by
    generalize (⟨"2 ", "2", "degree"⟩ : HistoryEntry) = entry at henters
    cases henters with
    | evaluate hasks =>
      rw [hasks.2] at hroute
      contradiction
    | chain hasks hholds =>
      obtain ⟨body, hbody, hread⟩ := hholds
      rw [hbody] at hform
      change (readForm ChainForm.read body).toOption.map ChainForm.strict = some none at hform
      rw [hread] at hform
      rw [Option.some.inj hform]
      rfl
  rw [hstrict] at henters
  obtain ⟨hagain, hrepeats⟩ := hreplay ⟨Request.twoAlone, List.mem_singleton_self _, henters⟩
  have hbody : (Request.repeating ⟨"2 ", "2", "degree"⟩).received =
      "\x7b\"angle_mode\":\"degree\",\"expression\":\"2 \",\"strict\":true\x7d\n" := by
    apply String.toList_injective
    rw [Request.repeating, Request.received_posting, Json.write, String.toList_append,
      Json.toList_render_object (Request.repeatingFields_sorted _)]
    simp only [Request.repeatingFields, Json.fieldsChars, List.map, Json.fieldChars_eq, Json.render,
      Json.toList_quote]
    decide +kernel
  have hlength : ((Request.repeating ⟨"2 ", "2", "degree"⟩).received.utf8ByteSize : Int) ≤
      Settings.standard.maxBody := by
    rw [hbody]
    decide +kernel
  exact ⟨history, hhistory, hmem, hagain _ (hrepeats hlength)⟩

end Service

end Calculator

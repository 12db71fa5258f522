import Calculator.Proofs.Service.Action

/-! # How entries come into the history

A request enters a calculation into the history (`Request.Enters`) if it is for one of the two
resources that calculate, its form asks for it, and the calculation succeeds. Whether it succeeds
does not depend on the state, and if it does, the entry is recorded wherever there is a history
(`history_of_enters`).

One request keeps the history, clears it, or enters one calculation (`respond_history`). So whatever
stands in the history after a run was entered by a request of the run (`enters_of_mem_entries`).
-/

namespace Calculator.Service

/-! ### One request -/

namespace Request

/-- The request enters a calculation into the history, made strictly or not. -/
inductive Enters (settings : Settings) (request : Request) : Bool → HistoryEntry → Prop
  | evaluate {form : EvaluateForm} {mode : AngleMode} {limit : Int} {report : Expression.Report}
      (hasks : request.Asks .evaluate .post) (hform : request.Holds settings EvaluateForm.read form)
      (hrecord : form.record = true) (hmode : settings.modeFor form.mode = .ok mode)
      (hlimit : settings.lengthFor = .ok limit)
      (hreport : Expression.report (some mode.name) (settings.strictFor form.strict) limit
        (some form.text) = .ok report) :
      Enters settings request (settings.strictFor form.strict)
        ⟨form.expression, report.display, report.mode.name⟩
  | chain {form : ChainForm} {mode : AngleMode} {limit : Int} {value : Float}
      (hasks : request.Asks .chain .post) (hform : request.Holds settings ChainForm.read form)
      (hrecord : form.record = true) (hmode : settings.modeFor form.mode = .ok mode)
      (hlimit : settings.lengthFor = .ok limit)
      (hvalue : Expression.chain form.previous (" " ++ form.expression) (some mode.name)
        (settings.strictFor form.strict) limit = .ok value) :
      Enters settings request (settings.strictFor form.strict)
        ⟨form.text, Number.display value, mode.name⟩

end Request

/-- What one request does to the history. -/
inductive HistoryStep (settings : Settings) (request : Request) : Option History → Option History →
    Prop
  | kept (history : Option History) : HistoryStep settings request history history
  | cleared (history : History) (hasks : request.Asks .history .delete) :
      HistoryStep settings request (some history) (some history.clear)
  | entered (history : History) {strict : Bool} {entry : HistoryEntry}
      (henters : request.Enters settings strict entry) :
      HistoryStep settings request (some history) (some (history.record entry))

variable {settings : Settings} {state : State} {request : Request}

theorem history_of_enters {strict : Bool} {entry : HistoryEntry}
    (h : request.Enters settings strict entry) {history : History}
    (hhistory : state.history = some history) :
    (respond settings state request).1.history = some (history.record entry) := by
  cases h with
  | @evaluate form mode limit report hasks hform hrecord hmode hlimit hreport =>
    obtain ⟨next, hnext, hentered⟩ := State.recorded_of_history hhistory hrecord
      ⟨form.expression, report.display, report.mode.name⟩
    rw [respond_of_acted hasks (.evaluate hform hmode hlimit hreport hnext)]
    exact hentered
  | @chain form mode limit value hasks hform hrecord hmode hlimit hvalue =>
    obtain ⟨next, hnext, hentered⟩ := State.recorded_of_history hhistory hrecord
      ⟨form.text, Number.display value, mode.name⟩
    rw [respond_of_acted hasks (.chain hform hmode hlimit hvalue hnext)]
    exact hentered

theorem Acted.history {resource : Resource} {method : Method} {next : State} {data : Json}
    (h : Acted settings state request resource method next data)
    (hasks : request.Asks resource method) :
    HistoryStep settings request state.history next.history := by
  cases h with
  | evaluate hform hmode hlimit hreport hnext =>
    rcases State.recorded_eq_ok_iff.mp hnext with ⟨-, rfl⟩ | ⟨hrecord, history, hhistory, rfl⟩
    · exact .kept _
    · rw [hhistory]
      exact .entered history (.evaluate hasks hform hrecord hmode hlimit hreport)
  | chain hform hmode hlimit hvalue hnext =>
    rcases State.recorded_eq_ok_iff.mp hnext with ⟨-, rfl⟩ | ⟨hrecord, history, hhistory, rfl⟩
    · exact .kept _
    · rw [hhistory]
      exact .entered history (.chain hasks hform hrecord hmode hlimit hvalue)
  | historyCleared hhistory =>
    rw [hhistory]
    exact .cleared _ hasks
  | home | tokenize | toggleSign | functions | historyShown | memoryShown | memoryUpdated
      | memoryCleared =>
    exact .kept _

/-- **One request keeps the history, clears it or enters one calculation.** -/
theorem respond_history (settings : Settings) (state : State) (request : Request) :
    HistoryStep settings request state.history (respond settings state request).1.history := by
  rcases respond_cases settings state request with
    ⟨f, -, h⟩ | ⟨-, h⟩ | ⟨resource, method, next, data, hasks, hacted, h⟩
  · rw [h]
    exact .kept _
  · rw [h]
    exact .kept _
  · rw [h]
    exact hacted.history hasks

/-! ### Runs -/

namespace State

/-- The state after requests one after another. -/
def after (settings : Settings) (state : State) (requests : List Request) : State :=
  requests.foldl (fun state request => (respond settings state request).1) state

theorem after_cons (settings : Settings) (state : State) (request : Request)
    (requests : List Request) :
    after settings state (request :: requests) =
      after settings (respond settings state request).1 requests := by
  rw [after, List.foldl_cons, after]

end State

theorem serve_append (settings : Settings) (state : State) (first second : List Request) :
    serve settings state (first ++ second) =
      serve settings state first ++ serve settings (State.after settings state first) second := by
  induction first generalizing state with
  | nil => rfl
  | cons request first ih =>
    rw [List.cons_append, serve, serve, State.after_cons]
    rcases respond settings state request with ⟨next, reply⟩
    exact congrArg (reply :: ·) (ih next)

theorem History.mem_record {history : History} {entry e : HistoryEntry}
    (h : e ∈ (history.record entry).entries) : e = entry ∨ e ∈ history.entries := by
  have := List.mem_of_mem_drop h
  rcases List.mem_append.mp this with h | h
  · exact Or.inr h
  · exact Or.inl (List.mem_singleton.mp h)

theorem State.entries_fresh {history : History}
    (h : (State.fresh settings).history = some history) : history.entries = [] := by
  obtain ⟨limit, -, h⟩ := Option.bind_eq_some_iff.mp h
  unfold History.empty at h
  split at h
  · contradiction
  split at h
  · contradiction
  · obtain rfl := Option.some.inj h
    rfl

theorem mem_entries_after {requests : List Request} {history : History} {entry : HistoryEntry}
    (h : (State.after settings state requests).history = some history)
    (hentry : entry ∈ history.entries) :
    (∃ old, state.history = some old ∧ entry ∈ old.entries) ∨
      ∃ request ∈ requests, ∃ strict, request.Enters settings strict entry := by
  induction requests generalizing state with
  | nil => exact Or.inl ⟨history, h, hentry⟩
  | cons request requests ih =>
    rw [State.after_cons] at h
    rcases ih h with ⟨old, hold, hmem⟩ | ⟨later, hlater, henters⟩
    · have hstep := respond_history settings state request
      rw [hold] at hstep
      generalize hbefore : state.history = before at hstep
      cases hstep with
      | kept => exact Or.inl ⟨old, rfl, hmem⟩
      | cleared old' hasks => simp [History.clear] at hmem
      | entered old' henters =>
        rcases History.mem_record hmem with rfl | hmem
        · exact Or.inr ⟨request, List.mem_cons_self, _, henters⟩
        · exact Or.inl ⟨old', rfl, hmem⟩
    · exact Or.inr ⟨later, List.mem_cons_of_mem _ hlater, henters⟩

/-- **Whatever stands in the history was entered by a request.** -/
theorem enters_of_mem_entries {requests : List Request} {history : History} {entry : HistoryEntry}
    (h : (State.after settings (State.fresh settings) requests).history = some history)
    (hentry : entry ∈ history.entries) :
    ∃ request ∈ requests, ∃ strict, request.Enters settings strict entry := by
  rcases mem_entries_after h hentry with ⟨old, hold, hmem⟩ | henters
  · rw [State.entries_fresh hold] at hmem
    contradiction
  · exact henters

end Calculator.Service

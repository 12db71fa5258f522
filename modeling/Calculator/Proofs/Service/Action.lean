import Calculator.Proofs.Service.Forms
import Calculator.Service

/-! # What a request does

A request that is for a resource, by one of its methods (`Request.Asks`), is acted on. What an
action can be is said here once (`Acted`, `act_eq_ok_iff`), with one case for each thing that the
service does. Whatever fails is told with the status of an error (`failsAsError_handle`).

So there are three ways in which a request is answered (`respond_cases`): it fails, it asks for no
resource, or it is acted on. Only the last can change the state.
-/

namespace Calculator.Service

/-! ### Outcomes of the parts -/

theorem accepted_eq_ok_iff {α : Type} {x : Except Error α} {a : α} :
    accepted x = .ok a ↔ x = .ok a := by
  cases x <;> simp [accepted]

theorem State.recorded_eq_ok_iff {state next : State} {record : Bool} {entry : HistoryEntry} :
    state.recorded record entry = .ok next ↔
      (record = false ∧ next = state) ∨
      (record = true ∧ ∃ history, state.history = some history ∧
        next = { state with history := some (history.record entry) }) := by
  cases record with
  | false => simp [recorded, eq_comm]
  | true => cases h : state.history <;> simp [recorded, historyFor, h, Except.map, eq_comm]

theorem State.recorded_of_history {state : State} {history : History}
    (h : state.history = some history) {record : Bool} (hrecord : record = true)
    (entry : HistoryEntry) :
    ∃ next, state.recorded record entry = .ok next ∧ next.history = some (history.record entry) :=
  ⟨_, recorded_eq_ok_iff.mpr (Or.inr ⟨hrecord, history, h, rfl⟩), rfl⟩

/-- The text that is evaluated for a form. -/
def EvaluateForm.text (form : EvaluateForm) : String :=
  if form.substitute then substituteConstants form.expression else form.expression

/-- The text that is evaluated for a calculation that goes on. -/
def ChainForm.text (form : ChainForm) : String :=
  Number.display form.previous ++ " " ++ form.expression

theorem evaluate_eq_ok_iff {settings : Settings} {state next : State} {form : EvaluateForm}
    {data : Json} :
    evaluate settings state form = .ok (next, data) ↔
      ∃ mode limit report, settings.modeFor form.mode = .ok mode ∧ settings.lengthFor = .ok limit ∧
        Expression.report (some mode.name) (settings.strictFor form.strict) limit (some form.text) =
          .ok report ∧
        state.recorded form.record ⟨form.expression, report.display, report.mode.name⟩ = .ok next ∧
        data = report.describe := by
  constructor
  · intro h
    obtain ⟨mode, hmode, h⟩ := ok_of_bind h
    obtain ⟨limit, hlimit, h⟩ := ok_of_bind h
    obtain ⟨report, hreport, h⟩ := ok_of_bind h
    obtain ⟨next', hnext, h⟩ := ok_of_bind h
    obtain ⟨rfl, rfl⟩ := Prod.mk.inj (Except.ok.inj h)
    exact ⟨mode, limit, report, hmode, hlimit, accepted_eq_ok_iff.mp hreport, hnext, rfl⟩
  · rintro ⟨mode, limit, report, hmode, hlimit, hreport, hnext, rfl⟩
    rw [EvaluateForm.text] at hreport
    simp only [evaluate, hmode, hlimit, hreport, hnext, accepted, bind, Except.bind, pure,
      Except.pure]

theorem evaluate_of_report {settings : Settings} {state : State} {form : EvaluateForm}
    {mode : AngleMode} {limit : Int} {e : Error} (hmode : settings.modeFor form.mode = .ok mode)
    (hlimit : settings.lengthFor = .ok limit)
    (hreport : Expression.report (some mode.name) (settings.strictFor form.strict) limit
      (some form.text) = .error e) :
    evaluate settings state form = .error (rejected e) := by
  rw [EvaluateForm.text] at hreport
  simp only [evaluate, hmode, hlimit, hreport, accepted, bind, Except.bind]

theorem chain_eq_ok_iff {settings : Settings} {state next : State} {form : ChainForm}
    {data : Json} :
    chain settings state form = .ok (next, data) ↔
      ∃ mode limit value, settings.modeFor form.mode = .ok mode ∧ settings.lengthFor = .ok limit ∧
        Expression.chain form.previous (" " ++ form.expression) (some mode.name)
          (settings.strictFor form.strict) limit = .ok value ∧
        state.recorded form.record ⟨form.text, Number.display value, mode.name⟩ = .ok next ∧
        data = .object [
          ("expression", .string form.text), ("result", .ofFloat? (Expression.finite? value)),
          ("display", .string (Number.display value)), ("angle_mode", .string mode.name)] := by
  constructor
  · intro h
    obtain ⟨mode, hmode, h⟩ := ok_of_bind h
    obtain ⟨limit, hlimit, h⟩ := ok_of_bind h
    obtain ⟨value, hvalue, h⟩ := ok_of_bind h
    obtain ⟨next', hnext, h⟩ := ok_of_bind h
    obtain ⟨rfl, rfl⟩ := Prod.mk.inj (Except.ok.inj h)
    exact ⟨mode, limit, value, hmode, hlimit, accepted_eq_ok_iff.mp hvalue, hnext, rfl⟩
  · rintro ⟨mode, limit, value, hmode, hlimit, hvalue, hnext, rfl⟩
    rw [ChainForm.text] at hnext
    simp only [chain, hmode, hlimit, hvalue, hnext, accepted, bind, Except.bind, pure, Except.pure]
    rfl

theorem State.historyFor_eq_ok_iff {state : State} {history : History} :
    state.historyFor = .ok history ↔ state.history = some history := by
  cases h : state.history <;> simp [historyFor, h]

/-! ### Requests for a resource -/

theorem Route.mem_methods_of_find {upgrade : Bool} {name : String} {path : List Char}
    {resource : Resource} {method : Method}
    (h : find upgrade name path = .ok (found resource method)) : method ∈ resource.methods := by
  unfold find at h
  simp only at h
  split at h
  next route _ hroute =>
    obtain rfl := Except.ok.inj h
    split at hroute
    · contradiction
    obtain ⟨r, -, hr⟩ := Option.bind_eq_some_iff.mp hroute
    unfold ofResource? at hr
    split at hr
    · cases Option.some.inj hr
    · obtain ⟨m, hm, heq⟩ := Option.map_eq_some_iff.mp hr
      obtain ⟨rfl, rfl⟩ := found.inj heq
      exact List.mem_of_find?_eq_some hm
  next => cases Except.ok.inj h
  next => contradiction

namespace Request

/-- The request is for a resource, by one of its methods. -/
def Asks (request : Request) (resource : Resource) (method : Method) : Prop :=
  request.serverName?.isSome = true ∧
    Route.find request.wantsUpgrade request.methodName request.target.path =
      .ok (.found resource method)

/-- The body of the request holds a form. -/
def Holds {α : Type} (settings : Settings) (read : List (String × Json) → Checked α)
    (request : Request) (form : α) : Prop :=
  ∃ body, request.value settings.maxBody = .ok body ∧ readForm read body = .ok form

/-- The form that the body of the request holds, if it holds one. -/
def form? {α : Type} (settings : Settings) (read : List (String × Json) → Checked α)
    (request : Request) : Option α :=
  ((request.value settings.maxBody).bind (readForm read)).toOption

theorem form?_eq_some_iff {α : Type} {settings : Settings} {read : List (String × Json) → Checked α}
    {request : Request} {form : α} :
    request.form? settings read = some form ↔ request.Holds settings read form := by
  unfold form?
  constructor
  · intro h
    obtain ⟨body, hbody, hform⟩ := ok_of_bind (ok_of_toOption h)
    exact ⟨body, hbody, hform⟩
  · rintro ⟨body, hbody, hform⟩
    rw [hbody]
    change (readForm read body).toOption = some form
    rw [hform]
    rfl

end Request

/-! ### Actions -/

variable {settings : Settings} {state next : State} {request : Request}

/-- What the service does for a request: the state that it leaves, and the data of the answer. -/
inductive Acted (settings : Settings) (state : State) (request : Request) :
    Resource → Method → State → Json → Prop
  | home {page : Json} (hpage : Service.home settings = .ok page) :
      Acted settings state request .home .get state page
  | evaluate {form : EvaluateForm} {mode : AngleMode} {limit : Int} {report : Expression.Report}
      {next : State}
      (hform : request.Holds settings EvaluateForm.read form)
      (hmode : settings.modeFor form.mode = .ok mode)
      (hlimit : settings.lengthFor = .ok limit)
      (hreport : Expression.report (some mode.name) (settings.strictFor form.strict) limit
        (some form.text) = .ok report)
      (hnext : state.recorded form.record ⟨form.expression, report.display, report.mode.name⟩ =
        .ok next) :
      Acted settings state request .evaluate .post next report.describe
  | chain {form : ChainForm} {mode : AngleMode} {limit : Int} {value : Float} {next : State}
      (hform : request.Holds settings ChainForm.read form)
      (hmode : settings.modeFor form.mode = .ok mode)
      (hlimit : settings.lengthFor = .ok limit)
      (hvalue : Expression.chain form.previous (" " ++ form.expression) (some mode.name)
        (settings.strictFor form.strict) limit = .ok value)
      (hnext : state.recorded form.record ⟨form.text, Number.display value, mode.name⟩ = .ok next) :
      Acted settings state request .chain .post next (.object [
        ("expression", .string form.text), ("result", .ofFloat? (Expression.finite? value)),
        ("display", .string (Number.display value)), ("angle_mode", .string mode.name)])
  | tokenize {form : TokenizeForm} {tokens program : List Token}
      (hform : request.Holds settings TokenizeForm.read form)
      (hread : Token.read (settings.strictFor form.strict) form.expression = .ok tokens)
      (horder : Postfix.ofTokens (settings.strictFor form.strict) tokens = .ok program) :
      Acted settings state request .tokenize .post state (Token.describeBoth tokens program)
  | toggleSign {form : SignForm} (hform : request.Holds settings SignForm.read form) :
      Acted settings state request .toggleSign .post state
        (.object [("expression", .string (SignKey.press form.expression))])
  | functions : Acted settings state request .functions .get state MathFunction.describeAll
  | historyShown {history : History} (hhistory : state.history = some history) :
      Acted settings state request .history .get state (describeHistory history)
  | historyCleared {history : History} (hhistory : state.history = some history) :
      Acted settings state request .history .delete { state with history := some history.clear }
        (.object [("entries", .array [])])
  | memoryShown : Acted settings state request .memory .get state (describeMemory state.memory)
  | memoryUpdated {form : MemoryForm} (hform : request.Holds settings MemoryForm.read form) :
      Acted settings state request .memory .post
        { state with memory := updateMemory state.memory form }
        (describeMemory (updateMemory state.memory form))
  | memoryCleared :
      Acted settings state request .memory .delete { state with memory := Memory.empty }
        (describeMemory Memory.empty)

theorem act_evaluate {form : EvaluateForm} (hform : request.Holds settings EvaluateForm.read form) :
    act settings state request .evaluate .post = evaluate settings state form := by
  obtain ⟨body, hbody, hheld⟩ := hform
  simp only [act, hbody, hheld, bind, Except.bind]

theorem tokenize_eq_ok_iff {form : TokenizeForm} {data : Json} :
    tokenize settings form = .ok data ↔
      ∃ tokens program, Token.read (settings.strictFor form.strict) form.expression = .ok tokens ∧
        Postfix.ofTokens (settings.strictFor form.strict) tokens = .ok program ∧
        data = Token.describeBoth tokens program := by
  constructor
  · intro h
    obtain ⟨tokens, hread, h⟩ := ok_of_bind h
    obtain ⟨program, horder, h⟩ := ok_of_bind h
    exact ⟨tokens, program, accepted_eq_ok_iff.mp hread, accepted_eq_ok_iff.mp horder,
      (Except.ok.inj h).symm⟩
  · rintro ⟨tokens, program, hread, horder, rfl⟩
    simp only [tokenize, hread, horder, accepted, bind, Except.bind, pure, Except.pure]

/-- **What the service does for a request.** -/
theorem act_eq_ok_iff {resource : Resource} {method : Method} {data : Json}
    (hmethod : method ∈ resource.methods) :
    act settings state request resource method = .ok (next, data) ↔
      Acted settings state request resource method next data := by
  constructor
  · intro h
    cases resource <;> simp only [Resource.methods, List.mem_cons, List.not_mem_nil, or_false]
      at hmethod
    case home =>
      subst hmethod
      obtain ⟨page, hpage, heq⟩ := ok_of_map h
      obtain ⟨rfl, rfl⟩ := Prod.mk.inj heq
      exact .home hpage
    case evaluate =>
      subst hmethod
      obtain ⟨body, hbody, h⟩ := ok_of_bind h
      obtain ⟨form, hform, h⟩ := ok_of_bind h
      obtain ⟨mode, limit, report, hmode, hlimit, hreport, hnext, rfl⟩ := evaluate_eq_ok_iff.mp h
      exact .evaluate ⟨body, hbody, hform⟩ hmode hlimit hreport hnext
    case chain =>
      subst hmethod
      obtain ⟨body, hbody, h⟩ := ok_of_bind h
      obtain ⟨form, hform, h⟩ := ok_of_bind h
      obtain ⟨mode, limit, value, hmode, hlimit, hvalue, hnext, rfl⟩ := chain_eq_ok_iff.mp h
      exact .chain ⟨body, hbody, hform⟩ hmode hlimit hvalue hnext
    case tokenize =>
      subst hmethod
      obtain ⟨body, hbody, h⟩ := ok_of_bind h
      obtain ⟨form, hform, h⟩ := ok_of_bind h
      obtain ⟨answer, htokenize, h⟩ := ok_of_bind h
      obtain ⟨rfl, rfl⟩ := Prod.mk.inj (Except.ok.inj h)
      obtain ⟨tokens, program, hread, horder, rfl⟩ := tokenize_eq_ok_iff.mp htokenize
      exact .tokenize ⟨body, hbody, hform⟩ hread horder
    case toggleSign =>
      subst hmethod
      obtain ⟨body, hbody, h⟩ := ok_of_bind h
      obtain ⟨form, hform, h⟩ := ok_of_bind h
      obtain ⟨rfl, rfl⟩ := Prod.mk.inj (Except.ok.inj h)
      exact .toggleSign ⟨body, hbody, hform⟩
    case functions =>
      subst hmethod
      obtain ⟨rfl, rfl⟩ := Prod.mk.inj (Except.ok.inj h)
      exact .functions
    case history =>
      rcases hmethod with rfl | rfl
      · obtain ⟨history, hhistory, h⟩ := ok_of_bind h
        obtain ⟨rfl, rfl⟩ := Prod.mk.inj (Except.ok.inj h)
        exact .historyShown (State.historyFor_eq_ok_iff.mp hhistory)
      · obtain ⟨history, hhistory, h⟩ := ok_of_bind h
        obtain ⟨rfl, rfl⟩ := Prod.mk.inj (Except.ok.inj h)
        exact .historyCleared (State.historyFor_eq_ok_iff.mp hhistory)
    case memory =>
      rcases hmethod with rfl | rfl | rfl
      · obtain ⟨rfl, rfl⟩ := Prod.mk.inj (Except.ok.inj h)
        exact .memoryShown
      · obtain ⟨body, hbody, h⟩ := ok_of_bind h
        obtain ⟨form, hform, h⟩ := ok_of_bind h
        obtain ⟨rfl, rfl⟩ := Prod.mk.inj (Except.ok.inj h)
        exact .memoryUpdated ⟨body, hbody, hform⟩
      · obtain ⟨rfl, rfl⟩ := Prod.mk.inj (Except.ok.inj h)
        exact .memoryCleared
    case file => contradiction
  · intro h
    cases h with
    | home hpage => simp only [act, hpage, Except.map]
    | evaluate hform hmode hlimit hreport hnext =>
      obtain ⟨body, hbody, hread⟩ := hform
      have hevaluate := evaluate_eq_ok_iff.mpr ⟨_, _, _, hmode, hlimit, hreport, hnext, rfl⟩
      simp only [act, hbody, hread, hevaluate, bind, Except.bind]
    | chain hform hmode hlimit hvalue hnext =>
      obtain ⟨body, hbody, hread⟩ := hform
      have hchain := chain_eq_ok_iff.mpr ⟨_, _, _, hmode, hlimit, hvalue, hnext, rfl⟩
      simp only [act, hbody, hread, hchain, bind, Except.bind]
    | tokenize hform hread horder =>
      obtain ⟨body, hbody, hheld⟩ := hform
      have htokenize := tokenize_eq_ok_iff.mpr ⟨_, _, hread, horder, rfl⟩
      simp only [act, hbody, hheld, htokenize, bind, Except.bind, pure, Except.pure]
    | toggleSign hform =>
      obtain ⟨body, hbody, hheld⟩ := hform
      simp only [act, hbody, hheld, bind, Except.bind, pure, Except.pure]
    | functions => rfl
    | historyShown hhistory =>
      simp only [act, State.historyFor, hhistory, bind, Except.bind, pure, Except.pure]
    | historyCleared hhistory =>
      simp only [act, State.historyFor, hhistory, bind, Except.bind, pure, Except.pure]
    | memoryShown => rfl
    | memoryUpdated hform =>
      obtain ⟨body, hbody, hheld⟩ := hform
      simp only [act, hbody, hheld, bind, Except.bind, pure, Except.pure]
    | memoryCleared => rfl

/-! ### Failures -/

/-- Where the computation fails, it does so with the status of an error. -/
def FailsAsError {α : Type} (x : Except Failure α) : Prop :=
  ∀ f, x = .error f → 400 ≤ f.status

section Failures

variable {α β : Type}

theorem failsAsError_ok (a : α) : FailsAsError (.ok a) := by
  intro f h
  contradiction

theorem failsAsError_error {f : Failure} (h : 400 ≤ f.status) :
    FailsAsError (.error f : Except Failure α) := by
  intro g hg
  rwa [← Except.error.inj hg]

theorem FailsAsError.bind {x : Except Failure α} {k : α → Except Failure β} (hx : FailsAsError x)
    (hk : ∀ a, FailsAsError (k a)) : FailsAsError (x.bind k) := by
  intro f h
  rcases error_of_bind h with h | ⟨a, -, h⟩
  · exact hx f h
  · exact hk a f h

theorem FailsAsError.map {x : Except Failure α} (hx : FailsAsError x) (g : α → β) :
    FailsAsError (x.map g) := by
  intro f h
  exact hx f (error_of_map h)

theorem failsAsError_accepted (x : Except Error α) : FailsAsError (accepted x) := by
  cases x with
  | ok a => exact failsAsError_ok a
  | error e =>
    refine failsAsError_error ?_
    unfold rejected
    split
    · exact Int.le_refl 400
    · decide

theorem failsAsError_modeFor (settings : Settings) (given : Option AngleMode) :
    FailsAsError (settings.modeFor given) := by
  cases given with
  | none => exact failsAsError_accepted _
  | some mode => exact failsAsError_ok mode

theorem failsAsError_lengthFor (settings : Settings) : FailsAsError settings.lengthFor := by
  unfold Settings.lengthFor
  cases settings.maxLength with
  | none => exact failsAsError_error (by decide)
  | some n => exact failsAsError_ok n

theorem failsAsError_historyFor (state : State) : FailsAsError state.historyFor := by
  unfold State.historyFor
  cases state.history with
  | none => exact failsAsError_error (by decide)
  | some history => exact failsAsError_ok history

theorem failsAsError_recorded (state : State) (record : Bool) (entry : HistoryEntry) :
    FailsAsError (state.recorded record entry) := by
  cases record with
  | false => exact failsAsError_ok state
  | true => exact (failsAsError_historyFor state).map _

theorem failsAsError_readForm (read : List (String × Json) → Checked α) (body : Json) :
    FailsAsError (readForm read body) := by
  unfold readForm
  split
  · split
    · exact failsAsError_ok _
    · exact failsAsError_error (Int.le_refl 400)
  · exact failsAsError_error (Int.le_refl 400)

theorem failsAsError_value (maxBody : Int) (request : Request) :
    FailsAsError (request.value maxBody) := by
  unfold Request.value
  split
  · simp only
    split
    · exact failsAsError_error (by decide)
    · unfold Request.valueOf
      split
      · exact failsAsError_ok _
      · split
        · exact failsAsError_ok _
        · exact failsAsError_ok _
        · exact failsAsError_error (by decide)
  · exact failsAsError_ok _

theorem failsAsError_home (settings : Settings) : FailsAsError (home settings) := by
  unfold home
  cases settings.siteName with
  | none => exact failsAsError_error (by decide)
  | some name => exact failsAsError_ok _

theorem failsAsError_evaluate (settings : Settings) (state : State) (form : EvaluateForm) :
    FailsAsError (evaluate settings state form) :=
  (failsAsError_modeFor _ _).bind fun _ => (failsAsError_lengthFor _).bind fun _ =>
    (failsAsError_accepted _).bind fun _ => (failsAsError_recorded _ _ _).bind fun _ =>
      failsAsError_ok _

theorem failsAsError_chain (settings : Settings) (state : State) (form : ChainForm) :
    FailsAsError (chain settings state form) :=
  (failsAsError_modeFor _ _).bind fun _ => (failsAsError_lengthFor _).bind fun _ =>
    (failsAsError_accepted _).bind fun _ => (failsAsError_recorded _ _ _).bind fun _ =>
      failsAsError_ok _

theorem failsAsError_tokenize (settings : Settings) (form : TokenizeForm) :
    FailsAsError (tokenize settings form) :=
  (failsAsError_accepted _).bind fun _ => (failsAsError_accepted _).bind fun _ => failsAsError_ok _

theorem failsAsError_withForm (settings : Settings) (request : Request)
    (read : List (String × Json) → Checked α) {k : α → Except Failure β}
    (hk : ∀ form, FailsAsError (k form)) :
    FailsAsError ((request.value settings.maxBody).bind fun body => (readForm read body).bind k) :=
  (failsAsError_value _ _).bind fun _ => (failsAsError_readForm _ _).bind hk

theorem failsAsError_act (settings : Settings) (state : State) (request : Request)
    (resource : Resource) (method : Method) :
    FailsAsError (act settings state request resource method) := by
  cases resource with
  | home => exact (failsAsError_home settings).map _
  | evaluate =>
    exact failsAsError_withForm settings request _ (failsAsError_evaluate settings state)
  | chain => exact failsAsError_withForm settings request _ (failsAsError_chain settings state)
  | tokenize =>
    exact failsAsError_withForm settings request _ fun form =>
      (failsAsError_tokenize settings form).bind fun _ => failsAsError_ok _
  | toggleSign => exact failsAsError_withForm settings request _ fun _ => failsAsError_ok _
  | functions => exact failsAsError_ok _
  | history =>
    cases method <;> exact (failsAsError_historyFor state).bind fun _ => failsAsError_ok _
  | memory =>
    cases method with
    | post => exact failsAsError_withForm settings request _ fun _ => failsAsError_ok _
    | get => exact failsAsError_ok _
    | delete => exact failsAsError_ok _
  | file => exact failsAsError_error (by decide)

theorem Route.status_refusal (resources : List Resource) (name : String) :
    400 ≤ (refusal resources name).status := by
  unfold refusal
  simp only
  split
  · decide
  · split <;> decide

theorem failsAsError_find (upgrade : Bool) (name : String) (path : List Char) :
    FailsAsError (Route.find upgrade name path) := by
  unfold Route.find
  simp only
  split
  · exact failsAsError_ok _
  · exact failsAsError_ok _
  · exact failsAsError_error (Route.status_refusal _ name)

/-- **Whatever fails is told with the status of an error.** -/
theorem failsAsError_handle (settings : Settings) (state : State) (request : Request) :
    FailsAsError (handle settings state request) := by
  unfold handle
  split
  · exact failsAsError_error (by decide)
  · refine (failsAsError_find _ _ _).bind ?_
    intro route
    cases route with
    | found resource method => exact (failsAsError_act settings state request resource method).map _
    | present => exact failsAsError_ok _
    | moved path => exact failsAsError_ok _

end Failures

/-! ### Answers -/

theorem handle_of_asks {resource : Resource} {method : Method} (h : request.Asks resource method)
    (settings : Settings) (state : State) :
    handle settings state request =
      (act settings state request resource method).map fun r => (r.1, .ok r.2) := by
  obtain ⟨server, hserver⟩ := Option.isSome_iff_exists.mp h.1
  unfold handle
  simp only [hserver, h.2]
  rfl

namespace Request

/-- What a request is for, and by which method, if it is for a resource. -/
def asked? (request : Request) : Option (Resource × Method) :=
  match request.serverName?,
    Route.find request.wantsUpgrade request.methodName request.target.path with
  | some _, .ok (.found resource method) => some (resource, method)
  | _, _ => none

theorem asks_iff {resource : Resource} {method : Method} :
    request.Asks resource method ↔ request.asked? = some (resource, method) := by
  unfold Asks asked?
  constructor
  · rintro ⟨hserver, hroute⟩
    obtain ⟨server, hserver⟩ := Option.isSome_iff_exists.mp hserver
    rw [hserver, hroute]
  · intro h
    split at h
    next server r m hserver hroute =>
      obtain ⟨rfl, rfl⟩ := Prod.mk.inj (Option.some.inj h)
      exact ⟨by rw [hserver]; rfl, hroute⟩
    next => contradiction

theorem asked?_of_route {route : Route}
    (hroute : Route.find request.wantsUpgrade request.methodName request.target.path = .ok route)
    (h : ∀ resource method, route ≠ .found resource method) : request.asked? = none := by
  rw [Option.eq_none_iff_forall_not_mem]
  rintro ⟨resource, method⟩ hasked
  have hfound := (asks_iff.mpr hasked).2
  rw [hroute] at hfound
  exact h resource method (Except.ok.inj hfound)

theorem Asks.mem_methods {resource : Resource} {method : Method}
    (h : request.Asks resource method) : method ∈ resource.methods :=
  Route.mem_methods_of_find h.2

end Request

/-- A request that is answered without a failure asks for no resource and leaves the state as it is,
or it is acted on. -/
theorem handle_cases {reply : Reply} (h : handle settings state request = .ok (next, reply)) :
    (request.asked? = none ∧ next = state) ∨
    ∃ resource method data, request.Asks resource method ∧
      Acted settings state request resource method next data ∧ reply = .ok data := by
  unfold handle at h
  cases hserver : request.serverName? with
  | none =>
    rw [hserver] at h
    contradiction
  | some server =>
    rw [hserver] at h
    obtain ⟨route, hroute, h⟩ := ok_of_bind h
    cases route with
    | found resource method =>
      obtain ⟨⟨next', data⟩, hact, heq⟩ := ok_of_map h
      obtain ⟨rfl, rfl⟩ := Prod.mk.inj heq
      have hasks : request.Asks resource method := ⟨by rw [hserver]; rfl, hroute⟩
      exact Or.inr ⟨resource, method, data, hasks, (act_eq_ok_iff hasks.mem_methods).mp hact, rfl⟩
    | present =>
      have hstate : next = state := (Prod.mk.inj (Except.ok.inj h)).1.symm
      exact Or.inl ⟨Request.asked?_of_route hroute nofun, hstate⟩
    | moved path =>
      have hstate : next = state := (Prod.mk.inj (Except.ok.inj h)).1.symm
      exact Or.inl ⟨Request.asked?_of_route hroute nofun, hstate⟩

/-- **What comes of a request.** It fails, it asks for no resource, or it is acted on. -/
theorem respond_cases (settings : Settings) (state : State) (request : Request) :
    (∃ f, 400 ≤ f.status ∧ respond settings state request = (state, .fail request f)) ∨
    (request.asked? = none ∧ (respond settings state request).1 = state) ∨
    ∃ resource method next data, request.Asks resource method ∧
      Acted settings state request resource method next data ∧
      respond settings state request = (next, .ok data) := by
  unfold respond
  cases hhandle : handle settings state request with
  | error f => exact Or.inl ⟨f, failsAsError_handle settings state request f hhandle, rfl⟩
  | ok r =>
    obtain ⟨next, reply⟩ := r
    rcases handle_cases hhandle with ⟨hasked, rfl⟩ | ⟨resource, method, data, hasks, hacted, rfl⟩
    · exact Or.inr (Or.inl ⟨hasked, rfl⟩)
    · exact Or.inr (Or.inr ⟨resource, method, next, data, hasks, hacted, rfl⟩)

theorem exists_acted {resource : Resource} {method : Method} (hasks : request.Asks resource method)
    (hok : (respond settings state request).2.status = 200) :
    ∃ next data, Acted settings state request resource method next data ∧
      respond settings state request = (next, .ok data) := by
  rcases respond_cases settings state request with
    ⟨f, herror, hr⟩ | ⟨hasked, -⟩ | ⟨resource', method', next, data, hasks', hacted, hr⟩
  · rw [hr] at hok
    change f.status = 200 at hok
    omega
  · exact absurd ((Request.asks_iff.mp hasks).symm.trans hasked) (Option.some_ne_none _)
  · obtain ⟨hresource, hmethod⟩ := Prod.mk.inj (Option.some.inj
      ((Request.asks_iff.mp hasks').symm.trans (Request.asks_iff.mp hasks)))
    subst hresource hmethod
    exact ⟨next, data, hacted, hr⟩

theorem respond_of_acted {resource : Resource} {method : Method} {data : Json}
    (hasks : request.Asks resource method)
    (h : Acted settings state request resource method next data) :
    respond settings state request = (next, .ok data) := by
  unfold respond
  rw [handle_of_asks hasks, (act_eq_ok_iff hasks.mem_methods).mpr h]
  rfl

end Calculator.Service

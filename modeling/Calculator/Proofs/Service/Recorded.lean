import Mathlib.Data.List.DropRight
import Calculator.Proofs.Service.History

/-! # What the history shows

An exchange is a request with the answer to it. Whether an exchange is a calculation that has to be
recorded, and which one, can be told from the exchange alone: from what was asked for, from the
body, and from what was answered (`Exchange.IsRecorded`, `Exchange.calculation`).

One request adds the calculation of its exchange to the history, or clears it, or leaves it as it is
(`history_respond`). So after a run the history holds the last of the calculations that were
recorded since it was cleared (`history_after`), and that is what it shows (`history_shows_last`).
-/

namespace Calculator.Service

/-! ### Exchanges -/

/-- A request and the answer to it. -/
structure Exchange where
  request : Request
  reply : Reply

/-- The answer to a request that follows others. -/
def answer (settings : Settings) (requests : List Request) (request : Request) : Reply :=
  (respond settings (State.after settings (State.fresh settings) requests) request).2

/-- The exchanges of a run. -/
def exchanges (settings : Settings) (state : State) (requests : List Request) : List Exchange :=
  List.zipWith Exchange.mk requests (serve settings state requests)

theorem State.after_concat (settings : Settings) (state : State) (requests : List Request)
    (request : Request) :
    after settings state (requests ++ [request]) =
      (respond settings (after settings state requests) request).1 := by
  rw [after, List.foldl_append]
  rfl

theorem length_serve (settings : Settings) (state : State) (requests : List Request) :
    (serve settings state requests).length = requests.length := by
  induction requests generalizing state with
  | nil => rfl
  | cons request requests ih =>
    rw [serve, List.length_cons, List.length_cons, ih]

theorem exchanges_concat (settings : Settings) (state : State) (requests : List Request)
    (request : Request) :
    exchanges settings state (requests ++ [request]) =
      exchanges settings state requests ++
        [⟨request, (respond settings (State.after settings state requests) request).2⟩] := by
  rw [exchanges, serve_append, List.zipWith_append (length_serve settings state requests).symm,
    serve]
  rcases respond settings (State.after settings state requests) request with ⟨next, reply⟩
  rfl

/-- A field of the body, if the body can be read and has it. -/
def Request.field? (settings : Settings) (request : Request) (name : String) : Option Json :=
  (request.value settings.maxBody).toOption.bind (Json.field? name)

namespace Exchange

/-- A text among the data that is answered. -/
def told (exchange : Exchange) (name : String) : String :=
  match exchange.reply.content with
  | .value json => (((json.field? "data").bind (Json.field? name)).bind Json.text?).getD ""
  | _ => ""

/-- The field `record` of the body is not false. -/
def WantsRecord (settings : Settings) (exchange : Exchange) : Prop :=
  (exchange.request.field? settings "record").bind (fun v => (Field.bool v).toOption) ≠ some false
deriving Decidable

/-- The exchange is a calculation that was answered and had to be recorded. -/
def IsRecorded (settings : Settings) (exchange : Exchange) : Prop :=
  exchange.request.asked? ∈ [some (.evaluate, .post), some (.chain, .post)] ∧
    exchange.reply.status = 200 ∧ exchange.WantsRecord settings
deriving Decidable

/-- The calculation of an exchange: the expression that was evaluated, without the blanks around it,
or the one that is told of a calculation that goes on. -/
def calculation (settings : Settings) (exchange : Exchange) : HistoryEntry where
  expression :=
    if exchange.request.asked? = some (.evaluate, .post) then
      (((exchange.request.field? settings "expression").bind Json.text?).map trimmed).getD ""
    else exchange.told "expression"
  display := exchange.told "display"
  mode := exchange.told "angle_mode"

/-- The exchange clears the history. -/
def Clears (exchange : Exchange) : Prop :=
  exchange.request.asked? = some (.history, .delete)
deriving Decidable

end Exchange

/-- The calculations recorded in a run since the history was cleared, the oldest first. -/
def recordedSinceCleared (settings : Settings) (run : List Exchange) : List HistoryEntry :=
  ((run.rtakeWhile fun exchange => ¬ exchange.Clears).filter fun exchange =>
    exchange.IsRecorded settings).map (Exchange.calculation settings)

/-- The settings ask for a history of at most `n` entries, and there can be one. -/
def Settings.Keeps (settings : Settings) (n : Nat) : Prop :=
  ∃ limit, settings.historyLimit = some limit ∧ (n : Int) = max limit 1 ∧
    (n : Int) ≤ History.maxLimit

/-! ### One exchange -/

section Body

variable {α : Type} {settings : Settings} {request : Request}
    {read : List (String × Json) → Checked α} {form : α}

/-- A request that holds a form has a body with fields, from which the form is read. -/
theorem Request.Holds.fields (h : request.Holds settings read form) :
    ∃ fields, read fields = .valid form ∧ ∀ name,
      request.field? settings name = fields.lookup name := by
  obtain ⟨body, hbody, hform⟩ := h
  obtain ⟨fields, rfl, hvalid⟩ := readForm_eq_ok_iff.mp hform
  refine ⟨fields, hvalid, ?_⟩
  intro name
  rw [Request.field?, hbody]
  rfl

theorem Exchange.wantsRecord_iff {reply : Reply} {record : Bool}
    (h : request.Holds settings read form)
    (hread : ∀ fields, read fields = .valid form →
      optional fields "record" true Field.bool = .valid record) :
    Exchange.WantsRecord settings ⟨request, reply⟩ ↔ record = true := by
  obtain ⟨fields, hvalid, hfield⟩ := h.fields
  rw [Exchange.WantsRecord, hfield]
  rcases optional_eq_valid_iff.mp (hread fields hvalid) with ⟨v, hlookup, hbool⟩ | ⟨hlookup, rfl⟩
  · rw [hlookup, Option.bind_some, hbool]
    simp [Except.toOption]
  · rw [hlookup]
    simp

theorem trimmed_of_holds {expression : String} (h : request.Holds settings read form)
    (hread : ∀ fields, read fields = .valid form →
      required fields "expression" Field.text = .valid expression) :
    ((request.field? settings "expression").bind Json.text?).map trimmed = some expression := by
  obtain ⟨fields, hvalid, hfield⟩ := h.fields
  obtain ⟨v, hlookup, htext⟩ := required_eq_valid_iff.mp (hread fields hvalid)
  obtain ⟨s, rfl, rfl⟩ := Field.text_eq_ok_iff.mp htext
  rw [hfield, hlookup]
  rfl

end Body

variable {settings : Settings} {state : State} {request : Request}

theorem History.entries_record (history : History) (entry : HistoryEntry) :
    (history.record entry).entries = (history.entries ++ [entry]).rtake history.limit := by
  rw [List.rtake, List.length_append, List.length_singleton]
  rfl

theorem Exchange.calculation_evaluate {form : EvaluateForm} {report : Expression.Report}
    (hasks : request.Asks .evaluate .post) (hform : request.Holds settings EvaluateForm.read form) :
    Exchange.calculation settings ⟨request, .ok report.describe⟩ =
      ⟨form.expression, report.display, report.mode.name⟩ := by
  have hexpression := trimmed_of_holds hform fun fields h => (EvaluateForm.read_eq_valid_iff.mp h).1
  rw [Exchange.calculation, if_pos (Request.asks_iff.mp hasks), hexpression]
  rfl

theorem Exchange.calculation_chain {expression display mode : String} {result : Json}
    (hasks : request.Asks .chain .post) :
    Exchange.calculation settings ⟨request, .ok (.object [
      ("expression", .string expression), ("result", result), ("display", .string display),
      ("angle_mode", .string mode)])⟩ = ⟨expression, display, mode⟩ := by
  rw [Exchange.calculation, if_neg (by rw [Request.asks_iff.mp hasks]; decide)]
  rfl

theorem Exchange.isRecorded_iff {α : Type} {read : List (String × Json) → Checked α} {form : α}
    {record : Bool} {data : Json}
    (hasked : request.asked? ∈ [some (.evaluate, .post), some (.chain, .post)])
    (hform : request.Holds settings read form)
    (hread : ∀ fields, read fields = .valid form →
      optional fields "record" true Field.bool = .valid record) :
    Exchange.IsRecorded settings ⟨request, .ok data⟩ ↔ record = true := by
  rw [Exchange.IsRecorded, Exchange.wantsRecord_iff hform hread]
  exact ⟨fun h => h.2.2, fun h => ⟨hasked, rfl, h⟩⟩

theorem State.history_recorded {next : State} {history : History} {record : Bool}
    {entry : HistoryEntry} {exchange : Exchange} (h : state.history = some history)
    (hnext : state.recorded record entry = .ok next)
    (hrecorded : exchange.IsRecorded settings ↔ record = true)
    (hentry : exchange.calculation settings = entry) :
    next.history = some (
      if exchange.IsRecorded settings then history.record (exchange.calculation settings)
      else history) := by
  rcases State.recorded_eq_ok_iff.mp hnext with ⟨hrecord, rfl⟩ | ⟨hrecord, history', hhistory, rfl⟩
  · rw [if_neg (by rw [hrecorded, hrecord]; decide)]
    exact h
  · obtain rfl : history = history' := Option.some.inj (h.symm.trans hhistory)
    rw [if_pos (hrecorded.mpr hrecord), hentry]

theorem Acted.history_recorded {resource : Resource} {method : Method} {next : State} {data : Json}
    {history : History} (hacted : Acted settings state request resource method next data)
    (hasks : request.Asks resource method) (h : state.history = some history)
    (hclears : ¬ Exchange.Clears ⟨request, .ok data⟩) :
    next.history = some (
      if Exchange.IsRecorded settings ⟨request, .ok data⟩ then
        history.record (Exchange.calculation settings ⟨request, .ok data⟩)
      else history) := by
  have hasked := Request.asks_iff.mp hasks
  cases hacted with
  | evaluate hform hmode hlimit hreport hnext =>
    exact State.history_recorded h hnext
      (Exchange.isRecorded_iff (by simp [hasked]) hform fun fields h =>
        (EvaluateForm.read_eq_valid_iff.mp h).2.2.2.2.1)
      (Exchange.calculation_evaluate hasks hform)
  | chain hform hmode hlimit hvalue hnext =>
    exact State.history_recorded h hnext
      (Exchange.isRecorded_iff (by simp [hasked]) hform fun fields h =>
        (ChainForm.read_eq_valid_iff.mp h).2.2.2.2.1)
      (Exchange.calculation_chain hasks)
  | historyCleared => exact absurd hasked hclears
  | home | tokenize | toggleSign | functions | historyShown | memoryShown | memoryUpdated
      | memoryCleared =>
    rw [if_neg (by simp [Exchange.IsRecorded, hasked])]
    exact h

/-- **One request clears the history, adds the calculation of its exchange, or leaves the history as
it is.** -/
theorem history_respond {history : History} (h : state.history = some history) {exchange : Exchange}
    (hexchange : exchange = ⟨request, (respond settings state request).2⟩) :
    (respond settings state request).1.history = some (
      if exchange.Clears then history.clear
      else if exchange.IsRecorded settings then history.record (exchange.calculation settings)
      else history) := by
  by_cases hclears : exchange.Clears
  · have hasks : request.Asks .history .delete := by
      rw [hexchange] at hclears
      exact Request.asks_iff.mpr hclears
    rw [if_pos hclears, respond_of_acted hasks (.historyCleared h)]
  · rw [if_neg hclears]
    rcases respond_cases settings state request with
      ⟨f, hstatus, hr⟩ | ⟨hasked, hr⟩ | ⟨resource, method, next, data, hasks, hacted, hr⟩
    · have hrejected : ¬ exchange.IsRecorded settings := by
        rintro ⟨-, hok, -⟩
        rw [hexchange, hr] at hok
        change f.status = 200 at hok
        omega
      rw [if_neg hrejected, hr]
      exact h
    · have hother : ¬ exchange.IsRecorded settings := by
        rintro ⟨hcalculates, -⟩
        rw [hexchange] at hcalculates
        simp [hasked] at hcalculates
      rw [if_neg hother, hr]
      exact h
    · rw [hr] at hexchange ⊢
      rw [hexchange] at hclears ⊢
      exact hacted.history_recorded hasks h hclears

/-! ### Runs -/

theorem rtake_concat_rtake {α : Type} (l : List α) (x : α) (n : ℕ) :
    (l.rtake n ++ [x]).rtake n = (l ++ [x]).rtake n := by
  cases n with
  | zero => rw [List.rtake_zero, List.rtake_zero]
  | succ n =>
    rw [List.rtake_concat_succ, List.rtake_concat_succ, List.rtake_eq_reverse_take_reverse,
      List.rtake_eq_reverse_take_reverse, List.rtake_eq_reverse_take_reverse, List.reverse_reverse,
      List.take_take, Nat.min_eq_left (Nat.le_succ n)]

theorem recordedSinceCleared_concat (settings : Settings) (run : List Exchange)
    (exchange : Exchange) :
    recordedSinceCleared settings (run ++ [exchange]) =
      if exchange.Clears then []
      else if exchange.IsRecorded settings then
        recordedSinceCleared settings run ++ [exchange.calculation settings]
      else recordedSinceCleared settings run := by
  unfold recordedSinceCleared
  rw [List.rtakeWhile_concat]
  by_cases hclears : exchange.Clears
  · simp [hclears]
  · by_cases hrecorded : exchange.IsRecorded settings <;>
      simp [hclears, hrecorded, List.filter_append]

theorem State.history_fresh {n : ℕ} (hn : settings.Keeps n) :
    ∃ history, (State.fresh settings).history = some history ∧ history.limit = n ∧
      history.entries = [] := by
  obtain ⟨limit, hlimit, hmax, hle⟩ := hn
  rw [hmax] at hle
  have hempty : History.empty (max limit 1) = .ok ⟨(max limit 1).toNat, [], by omega, by simp⟩ := by
    rw [History.empty, dif_neg (by omega), if_neg (by omega)]
  refine ⟨⟨(max limit 1).toNat, [], by omega, by simp⟩, ?_, by simp only; omega, rfl⟩
  rw [State.fresh, hlimit, Option.bind_some, hempty]
  rfl

/-- **After a run the history holds the last calculations that were recorded since it was
cleared.** -/
theorem history_after {n : ℕ} (hn : settings.Keeps n) (requests : List Request) :
    ∃ history, (State.after settings (State.fresh settings) requests).history = some history ∧
      history.limit = n ∧
      history.entries = (recordedSinceCleared settings
        (exchanges settings (State.fresh settings) requests)).rtake n := by
  induction requests using List.reverseRecOn with
  | nil =>
    obtain ⟨history, hhistory, hlimit, hentries⟩ := State.history_fresh hn
    exact ⟨history, hhistory, hlimit, hentries.trans (List.rtake_nil n).symm⟩
  | append_singleton requests request ih =>
    obtain ⟨history, hhistory, hlimit, hentries⟩ := ih
    rw [State.after_concat, history_respond hhistory rfl, exchanges_concat,
      recordedSinceCleared_concat]
    refine ⟨_, rfl, ?_⟩
    split
    · exact ⟨hlimit, by simp [History.clear]⟩
    · split
      · refine ⟨hlimit, ?_⟩
        rw [History.entries_record, hentries, hlimit, rtake_concat_rtake]
      · exact ⟨hlimit, hentries⟩

theorem respond_of_rejected (h : (respond settings state request).2.status ≠ 200) :
    (respond settings state request).1 = state := by
  rcases respond_cases settings state request with
    ⟨f, -, hr⟩ | ⟨-, hr⟩ | ⟨resource, method, next, data, -, -, hr⟩
  · rw [hr]
  · exact hr
  · rw [hr] at h
    exact absurd rfl h

/-- **The history shows the last calculations that were recorded since it was cleared**, as many as
it keeps, the oldest first, each with its expression, what was shown for it and its angle mode. A
request that is rejected leaves the history as it is, and so does one that is neither for a
calculation nor clears it. -/
theorem history_shows_last {n : ℕ} (hn : settings.Keeps n) (requests : List Request) :
    (∀ request : Request, request.Asks .history .get →
      answer settings requests request = .ok (.object [
        ("limit", .int n),
        ("entries", .array (((recordedSinceCleared settings
          (exchanges settings (State.fresh settings) requests)).rtake n).map fun entry =>
            .object [
              ("expression", .string entry.expression), ("display", .string entry.display),
              ("angle_mode", .string entry.mode)]))])) ∧
    ∀ (state : State) (request : Request),
      (respond settings state request).2.status ≠ 200 ∨
        request.asked? ∉ [some (.evaluate, .post), some (.chain, .post), some (.history, .delete)] →
      (respond settings state request).1.history = state.history := by
  constructor
  · intro request hasks
    obtain ⟨history, hhistory, hlimit, hentries⟩ := history_after hn requests
    rw [answer, respond_of_acted hasks (.historyShown hhistory), describeHistory, hlimit, hentries]
    rfl
  · rintro state request (hstatus | hasked)
    · rw [respond_of_rejected hstatus]
    · have hstep := respond_history settings state request
      generalize (respond settings state request).1.history = after at hstep ⊢
      generalize state.history = before at hstep ⊢
      cases hstep with
      | kept => rfl
      | cleared history hasks => simp [Request.asks_iff.mp hasks] at hasked
      | entered history henters =>
        cases henters with
        | evaluate hasks | chain hasks => simp [Request.asks_iff.mp hasks] at hasked

/-- Settings for a history of one entry. -/
def Settings.oneEntry : Settings :=
  ofConfig (.object
    [("plugins", .object [("scientific_calculator", .object [("history_size", .int 1)])])])
    (some "TestingConfig")

/-- A request to a resource of the calculator. -/
def Request.plain (method resource : String) (body : Option String) : Request where
  method := method
  address := "/api/scientific_calculator/" ++ resource
  body := body
  contentType := some "application/json"
  headers := []
  drawnId := 0

/-- Three calculations, the last of which does not have to be recorded. -/
def Request.threeCalculations : List Request := [
  plain "POST" "evaluate" (some "\x7b\"expression\":\" 1 + 1 \"\x7d"),
  plain "POST" "chain" (some "\x7b\"previous\":2,\"expression\":\"* 2\"\x7d"),
  plain "POST" "evaluate" (some "\x7b\"expression\":\"9\",\"record\":\"off\"\x7d")]

/-- Where one entry is kept, it is the last that was recorded. -/
theorem history_shows_last_one :
    Settings.oneEntry.Keeps 1 ∧ (Request.plain "GET" "history" none).Asks .history .get ∧
      answer Settings.oneEntry Request.threeCalculations (Request.plain "GET" "history" none) =
        .ok (.object [
          ("limit", .int 1),
          ("entries", .array [.object [
            ("expression", .string "2 * 2"), ("display", .string "4"),
            ("angle_mode", .string "degree")]])]) := by
  have hkeeps : Settings.oneEntry.Keeps 1 := ⟨1, by decide +kernel, by decide, by decide⟩
  have hasks : (Request.plain "GET" "history" none).Asks .history .get :=
    ⟨by decide +kernel, ok_of_toOption (by decide +kernel)⟩
  have hrecorded : (recordedSinceCleared Settings.oneEntry
      (exchanges Settings.oneEntry (State.fresh Settings.oneEntry)
        Request.threeCalculations)).rtake 1 = [⟨"2 * 2", "4", "degree"⟩] := by
    decide +kernel
  refine ⟨hkeeps, hasks, ?_⟩
  rw [(history_shows_last hkeeps Request.threeCalculations).1 _ hasks, hrecorded]
  rfl

end Calculator.Service

import Calculator.Answer
import Calculator.Constants
import Calculator.Memory
import Calculator.Service.Form
import Calculator.Service.Reply
import Calculator.Service.Settings
import Calculator.SignKey

/-! # The service

The calculator as a service. Its state is the history and the memory register; a request is answered
with a reply and leaves a new state (`respond`). A request that fails leaves the state as it was,
whatever it asked for.
-/

namespace Calculator.Service

/-- What the service remembers. There is no history if its limit cannot be used. -/
structure State where
  history : Option History
  memory : Memory

/-- Nothing is remembered at first. -/
def State.fresh (settings : Settings) : State where
  history := settings.historyLimit.bind fun limit => (History.empty (max limit 1)).toOption
  memory := Memory.empty

/-- More about an error, by name. -/
def errorDetails : Error → List (String × Json)
  | .unrecognizedCharacter c position =>
    [("character", .string (String.singleton c)), ("position", .int position)]
  | .unknownFunction name => [("name", .string name)]
  | _ => []

/-- The failure for an expression that was refused. -/
def rejected (e : Error) : Failure :=
  match e.code? with
  | some code => .ofKind .validation e.message (some ("sci_calc." ++ code)) none (errorDetails e)
  | none => .unforeseen

/-- What an expression came to, or the failure for it. -/
def accepted {α : Type} : Except Error α → Except Failure α
  | .ok a => .ok a
  | .error e => .error (rejected e)

namespace Settings

/-- The angle mode for a request that may name one. -/
def modeFor (settings : Settings) : Option AngleMode → Except Failure AngleMode
  | some mode => .ok mode
  | none => accepted (AngleMode.read settings.mode)

/-- How strictly a request that may ask for it is read. -/
def strictFor (settings : Settings) (asked : Option Bool) : Bool :=
  asked.getD settings.strict

/-- The most characters of an expression. -/
def lengthFor (settings : Settings) : Except Failure Int :=
  match settings.maxLength with
  | some n => .ok n
  | none => .error .unforeseen

end Settings

namespace State

/-- The history, which may be out of use. -/
def historyFor (state : State) : Except Failure History :=
  match state.history with
  | some history => .ok history
  | none => .error .unforeseen

/-- The state after a calculation that may have to be recorded. -/
def recorded (state : State) (record : Bool) (entry : HistoryEntry) : Except Failure State :=
  if record then (state.historyFor).map fun history =>
    { state with history := some (history.record entry) }
  else .ok state

end State

/-! ### The resources -/

/-- The page that says what there is. It needs to know the site. -/
def home (settings : Settings) : Except Failure Json := do
  let some name := settings.siteName | .error .unforeseen
  return .object [
    ("name", name),
    ("plugins", .array [.object [
      ("title", .string "Scientific Calculator"), ("summary", settings.summary),
      ("category", .string "General Utilities"), ("blueprint", .string "scientific_calculator")]])]

/-- An expression is evaluated. The history gets it as it was given, before constants were written
out. -/
def evaluate (settings : Settings) (state : State) (form : EvaluateForm) :
    Except Failure (State × Json) := do
  let expression := if form.substitute then substituteConstants form.expression else form.expression
  let mode ← settings.modeFor form.mode
  let maxLength ← settings.lengthFor
  let report ← accepted <|
    Expression.report (some mode.name) (settings.strictFor form.strict) maxLength (some expression)
  let next ← state.recorded form.record ⟨form.expression, report.display, report.mode.name⟩
  return (next, report.describe)

/-- A calculation goes on from a previous result. -/
def chain (settings : Settings) (state : State) (form : ChainForm) :
    Except Failure (State × Json) := do
  let mode ← settings.modeFor form.mode
  let maxLength ← settings.lengthFor
  let value ← accepted <|
    Expression.chain form.previous (" " ++ form.expression) (some mode.name)
      (settings.strictFor form.strict) maxLength
  let expression := Number.display form.previous ++ " " ++ form.expression
  let display := Number.display value
  let next ← state.recorded form.record ⟨expression, display, mode.name⟩
  return (next, .object [
    ("expression", .string expression), ("result", .ofFloat? (Expression.finite? value)),
    ("display", .string display), ("angle_mode", .string mode.name)])

/-- The tokens of an expression of any length. -/
def tokenize (settings : Settings) (form : TokenizeForm) : Except Failure Json := do
  let strict := settings.strictFor form.strict
  let tokens ← accepted (Token.read strict form.expression)
  let program ← accepted (Postfix.ofTokens strict tokens)
  return Token.describeBoth tokens program

/-- An entry of the history. -/
def describeEntry (entry : HistoryEntry) : Json :=
  .object [
    ("expression", .string entry.expression), ("display", .string entry.display),
    ("angle_mode", .string entry.mode)]

/-- The history with its limit. -/
def describeHistory (history : History) : Json :=
  .object [("limit", .int history.limit), ("entries", .array (history.entries.map describeEntry))]

/-- The memory register. -/
def describeMemory (memory : Memory) : Json :=
  .object [
    ("value", .ofFloat? (Expression.finite? memory.value)),
    ("display", .string (Number.display memory.value)),
    ("active", .bool memory.active)]

/-- The register after an action. -/
def updateMemory (memory : Memory) (form : MemoryForm) : Memory :=
  match form.action with
  | .add => memory.add form.value
  | .subtract => memory.subtract form.value

/-! ### Requests -/

/-- What a method does with a resource that has it: the new state and the data. -/
def act (settings : Settings) (state : State) (request : Request) :
    Resource → Method → Except Failure (State × Json)
  | .home, _ => (home settings).map fun data => (state, data)
  | .evaluate, _ => do
    evaluate settings state (← readForm EvaluateForm.read (← request.value settings.maxBody))
  | .chain, _ => do
    chain settings state (← readForm ChainForm.read (← request.value settings.maxBody))
  | .tokenize, _ => do
    let data ← tokenize settings (← readForm TokenizeForm.read (← request.value settings.maxBody))
    return (state, data)
  | .toggleSign, _ => do
    let form ← readForm SignForm.read (← request.value settings.maxBody)
    return (state, .object [("expression", .string (SignKey.press form.expression))])
  | .functions, _ => .ok (state, MathFunction.describeAll)
  | .history, .delete => do
    let history ← state.historyFor
    return ({ state with history := some history.clear }, .object [("entries", .array [])])
  | .history, _ => do
    let history ← state.historyFor
    return (state, describeHistory history)
  | .memory, .post => do
    let form ← readForm MemoryForm.read (← request.value settings.maxBody)
    let memory := updateMemory state.memory form
    return ({ state with memory := memory }, describeMemory memory)
  | .memory, .delete => .ok ({ state with memory := Memory.empty }, describeMemory Memory.empty)
  | .memory, .get => .ok (state, describeMemory state.memory)
  | .file, _ => .error .notFound

/-- What is done with a request, if the server is named properly and a resource is found. -/
def handle (settings : Settings) (state : State) (request : Request) :
    Except Failure (State × Reply) :=
  match request.serverName? with
  | none => .error Route.badRequest
  | some server => do
    match ← Route.find request.wantsUpgrade request.methodName request.target.path with
    | .found resource method => (act settings state request resource method).map fun r =>
      (r.1, .ok r.2)
    | .present => return (state, .empty)
    | .moved path => return (state, .moved (request.target.addressOf server path))

/-- The reply to a request, and the state after it. -/
def respond (settings : Settings) (state : State) (request : Request) : State × Reply :=
  match handle settings state request with
  | .ok r => r
  | .error f => (state, .fail request f)

/-- The replies to requests one after another. -/
def serve (settings : Settings) : State → List Request → List Reply
  | _, [] => []
  | state, request :: requests =>
    let (next, reply) := respond settings state request
    reply :: serve settings next requests

end Calculator.Service

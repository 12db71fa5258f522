import Calculator.Service.Envelope
import Calculator.Service.Field

/-! # Forms

The bodies of requests, one form for each resource that takes one. A form is read from the fields of
an object; a body that is no object has no form, and one that is missing or counts as nothing is
read as the empty object.
-/

namespace Calculator.Service

/-- An expression to be evaluated. -/
structure EvaluateForm where
  expression : String
  mode : Option AngleMode
  strict : Option Bool
  /-- Constants are written out first. -/
  substitute : Bool
  /-- The calculation is entered into the history. -/
  record : Bool

/-- A calculation that goes on from a previous result. -/
structure ChainForm where
  previous : Float
  expression : String
  mode : Option AngleMode
  strict : Option Bool
  record : Bool

/-- An expression whose tokens are asked for. -/
structure TokenizeForm where
  expression : String
  strict : Option Bool

/-- An expression whose last number's sign is to be flipped. -/
structure SignForm where
  expression : String

/-- What can be done with the memory register. -/
inductive MemoryAction where
  | add
  | subtract
deriving DecidableEq, Repr

/-- A number to add to the memory register or to subtract from it. -/
structure MemoryForm where
  action : MemoryAction
  value : Float

def EvaluateForm.read (fields : List (String × Json)) : Checked EvaluateForm :=
  ((required fields "expression" Field.text).both <|
    (optional fields "angle_mode" none (Field.orNull Field.mode)).both <|
    (optional fields "strict" none (Field.orNull Field.bool)).both <|
    (optional fields "substitute_constants" true Field.bool).both <|
    (optional fields "record" true Field.bool).both <|
    noOthers fields ["expression", "angle_mode", "strict", "substitute_constants", "record"]).map
  fun (expression, mode, strict, substitute, record, _) =>
    ⟨expression, mode, strict, substitute, record⟩

def ChainForm.read (fields : List (String × Json)) : Checked ChainForm :=
  ((required fields "previous" Field.number).both <|
    (required fields "expression" Field.text).both <|
    (optional fields "angle_mode" none (Field.orNull Field.mode)).both <|
    (optional fields "strict" none (Field.orNull Field.bool)).both <|
    (optional fields "record" true Field.bool).both <|
    noOthers fields ["previous", "expression", "angle_mode", "strict", "record"]).map
  fun (previous, expression, mode, strict, record, _) =>
    ⟨previous, expression, mode, strict, record⟩

def TokenizeForm.read (fields : List (String × Json)) : Checked TokenizeForm :=
  ((required fields "expression" Field.text).both <|
    (optional fields "strict" none (Field.orNull Field.bool)).both <|
    noOthers fields ["expression", "strict"]).map
  fun (expression, strict, _) => ⟨expression, strict⟩

def SignForm.read (fields : List (String × Json)) : Checked SignForm :=
  ((required fields "expression" Field.text).both <| noOthers fields ["expression"]).map
  fun (expression, _) => ⟨expression⟩

def MemoryForm.read (fields : List (String × Json)) : Checked MemoryForm :=
  ((required fields "action" (Field.oneOf ("add", .add) ("subtract", .subtract))).both <|
    (required fields "value" Field.number).both <|
    noOthers fields ["action", "value"]).map
  fun (action, value, _) => ⟨action, value⟩

/-- A request whose body is not as it should be. -/
def invalidRequest (message : String) (complaints : List Complaint) : Failure :=
  .ofKind .validation message (some "sci_calc.invalid_request") none
    [("errors", .array (complaints.map Complaint.describe))]

/-- The form that a body holds, or what is wrong with it. -/
def readForm {α : Type} (read : List (String × Json) → Checked α) (body : Json) :
    Except Failure α :=
  match body with
  | .object fields =>
    match read fields with
    | .valid form => .ok form
    | .invalid complaints => .error (invalidRequest "Invalid request payload" complaints)
  | _ => .error (invalidRequest "Request body must be a JSON object" [])

end Calculator.Service

import Calculator.Error
import Calculator.Json
import Calculator.Service.Status

/-! # Envelopes

Every answer of the service has one of two forms: a success carries data, a failure carries an error
with its code, its message, details, and the id of the request it answers. A failure also knows the
status it is sent with.
-/

namespace Calculator.Service

/-- The kinds of failures, each with a code and a status of its own. -/
inductive FailureKind where
  | general
  | validation
  | notFound
  | internal
deriving DecidableEq, Repr

namespace FailureKind

def code : FailureKind → String
  | general => "error"
  | validation => "validation_error"
  | notFound => "not_found"
  | internal => "internal_error"

def status : FailureKind → Int
  | general | validation => 400
  | notFound => 404
  | internal => 500

end FailureKind

/-- What went wrong with a request. -/
structure Failure where
  message : String
  code : String
  status : Int
  /-- More about the error, by name. -/
  details : List (String × Json)

namespace Failure

/-- A failure of a kind. What is not given is the kind's. -/
def ofKind (kind : FailureKind) (message : String) (code : Option String) (status : Option Int)
    (details : List (String × Json)) : Failure :=
  ⟨message, code.getD kind.code, status.getD kind.status, details⟩

/-- Something that nobody foresaw. What it was is not told. -/
def unexpected (code : String) : Failure :=
  ofKind .internal "Internal server error" (some code) none []

/-- What nobody foresaw while a request was answered. -/
def unforeseen : Failure :=
  unexpected "internal_error"

/-- There is no such resource. -/
def notFound : Failure :=
  ofKind .notFound "Resource not found" none none []

/-- A failure that is known by its status. Its code is the status's reason phrase in lower case,
with underscores; the phrase is also the message if none is given. -/
def ofStatus (status : Option Int) (description : Option String) : Failure :=
  let sent := match status with
    | none | some 0 => 500
    | some n => n
  if sent = 404 then notFound
  else
    let phrase := reasonPhrase status
    let code := String.ofList (phrase.toList.map fun c => if c = ' ' then '_' else c.toLower)
    let message := match description with
      | none | some "" => phrase
      | some text => text
    ofKind .general message (some code) (some sent) []

/-- What a failure says, by name. -/
def fields (f : Failure) : List (String × Json) :=
  [("code", .string f.code), ("message", .string f.message), ("details", .object f.details)]

end Failure

/-- The envelope of a success. -/
def success (data : Json) : Json :=
  .object [("success", .bool true), ("data", data)]

/-- The envelope of an error that is known by its fields. -/
def failure (requestId : Option String) (error : List (String × Json)) : Json :=
  let error := match requestId with
    | none | some "" => error
    | some id => Json.put error "request_id" (.string id)
  .object [("success", .bool false), ("error", .object error)]

/-- The status to send: the one that is asked for, unless it is missing or zero. -/
def statusOr (given : Option Int) (default : Int) : Int :=
  match given with
  | none | some 0 => default
  | some n => n

end Calculator.Service

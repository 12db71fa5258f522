import Calculator.Number.Read

/-! # Where the service listens

The host and the port are taken from the environment. An empty variable for the port counts as one
that is not set, and the more specific variable goes before the general one.
-/

namespace Calculator

/-- The variables of the environment that matter. -/
structure Surroundings where
  serverPort : Option String
  port : Option String
  serverHost : Option String
deriving DecidableEq, Repr

/-- Where the service listens. -/
structure Address where
  host : String
  port : Int
deriving DecidableEq, Repr

namespace Address

/-- A port that is no number. -/
structure InvalidPort where
  text : String
deriving DecidableEq, Repr

/-- The wording of the fault. -/
def InvalidPort.message (fault : InvalidPort) : String :=
  "Invalid port '" ++ fault.text ++ "'. Set CALC_SERVER_PORT to a number."

/-- A variable that is set to something. -/
def nonempty (given : Option String) : Option String :=
  given.filter fun text => !text.isEmpty

/-- The text of the port. -/
def portText (surroundings : Surroundings) : String :=
  ((nonempty surroundings.serverPort).or (nonempty surroundings.port)).getD "5001"

/-- The address that the environment asks for. -/
def resolve (surroundings : Surroundings) : Except InvalidPort Address :=
  match Integer.ofText? (portText surroundings).toList with
  | some port => .ok ⟨surroundings.serverHost.getD "127.0.0.1", port⟩
  | none => .error ⟨portText surroundings⟩

end Address

end Calculator

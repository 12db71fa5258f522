import Calculator.Number.Text

/-! # JSON values

The values that requests, answers and settings are made of. Integers and floating point numbers are
told apart, as their texts are. The fields of an object keep the order in which they were first
given. A text with half of a surrogate pair is a value too, but no text that anything can be read
from.
-/

namespace Calculator

/-- A JSON value. -/
inductive Json where
  | null
  | bool (value : Bool)
  | int (value : Int)
  | float (value : Float)
  | string (value : String)
  /-- A text with half of a surrogate pair in it, by its code points. -/
  | torn (points : List Nat)
  | array (items : List Json)
  | object (fields : List (String × Json))
deriving Inhabited

namespace Json

/-- The value that counts as nothing: null, false, a zero, and what is empty. -/
def isTrivial : Json → Bool
  | null => true
  | bool b => !b
  | int n => n == 0
  | float v => v == 0.0
  | string s => s.isEmpty
  | torn points => points.isEmpty
  | array items => items.isEmpty
  | object fields => fields.isEmpty

/-- A value's field of some name. -/
def field? (name : String) : Json → Option Json
  | object fields => fields.lookup name
  | _ => none

/-- The text of a value that is one. -/
def text? : Json → Option String
  | string s => some s
  | _ => none

/-- A field gets a value: an old one in its place, a new one at the end. -/
def put (fields : List (String × Json)) (name : String) (value : Json) : List (String × Json) :=
  if fields.any fun f => f.1 == name then fields.map fun f =>
    if f.1 == name then (name, value) else f
  else fields ++ [(name, value)]

/-- The object with these fields; of several with one name the last counts. -/
def ofFields (fields : List (String × Json)) : Json :=
  object (fields.foldl (fun known f => put known f.1 f.2) [])

/-- A number, or null if it is missing. -/
def ofFloat? : Option Float → Json
  | some v => float v
  | none => null

/-- An array of texts. -/
def ofTexts (texts : List String) : Json :=
  array (texts.map string)

end Json

end Calculator

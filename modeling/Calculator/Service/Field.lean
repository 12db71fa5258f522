import Calculator.AngleMode
import Calculator.Json
import Calculator.Number.Read

/-! # Fields of a request

A request's body is an object, and each kind of request knows the fields it needs. A field is read
from its JSON value generously: a truth value may be a word, a number may be a text. What cannot be
read is complained about, and the complaints of all fields are collected in the order of the fields,
so that a caller sees them at once.
-/

namespace Calculator.Service

/-- What is wrong with a field. -/
inductive Fault where
  | missing
  | notText
  | tornText
  | notBool
  | unreadableBool
  | notNumber
  | unreadableNumber
  /-- It is none of two words. -/
  | notOneOf (first second : String)
  | unexpected
deriving DecidableEq, Repr

namespace Fault

/-- The name of a fault in answers. -/
def name : Fault → String
  | missing => "missing"
  | notText => "string_type"
  | tornText => "string_unicode"
  | notBool => "bool_type"
  | unreadableBool => "bool_parsing"
  | notNumber => "float_type"
  | unreadableNumber => "float_parsing"
  | notOneOf .. => "literal_error"
  | unexpected => "extra_forbidden"

/-- The wording of a fault. -/
def message : Fault → String
  | missing => "Field required"
  | notText => "Input should be a valid string"
  | tornText => "Input should be a valid string, unable to parse raw data as a unicode string"
  | notBool => "Input should be a valid boolean"
  | unreadableBool => "Input should be a valid boolean, unable to interpret input"
  | notNumber => "Input should be a valid number"
  | unreadableNumber => "Input should be a valid number, unable to parse string as a number"
  | notOneOf first second => "Input should be '" ++ first ++ "' or '" ++ second ++ "'"
  | unexpected => "Extra inputs are not permitted"

end Fault

/-- A fault of a field, with the value that is at fault. If the field is missing that is the whole
object. -/
structure Complaint where
  field : String
  fault : Fault
  input : Json

/-- A complaint as it is told. -/
def Complaint.describe (c : Complaint) : Json :=
  .object [
    ("type", .string c.fault.name), ("loc", .ofTexts [c.field]), ("msg", .string c.fault.message),
    ("input", c.input)]

/-! ### Reading one value -/

namespace Field

/-- A text, without the blanks around it. -/
def text : Json → Except Fault String
  | .string s => .ok (String.ofList (Text.trim Text.isWhiteSpace s.toList))
  | .torn _ => .error .tornText
  | _ => .error .notText

/-- The words for a truth value, in any case. -/
def boolWords : List (String × Bool) := [
  ("0", false), ("off", false), ("f", false), ("false", false), ("n", false), ("no", false),
  ("1", true), ("on", true), ("t", true), ("true", true), ("y", true), ("yes", true)]

/-- A truth value as an integer. Only integers of 64 bits are considered. -/
def boolOfInt (n : Int) : Except Fault Bool :=
  if n = 0 then .ok false
  else if n = 1 then .ok true
  else if -9223372036854775808 ≤ n ∧ n ≤ 9223372036854775807 then .error .unreadableBool
  else .error .notBool

/-- The integer that a number is, if it lies strictly between the bounds of 64 bits. -/
def wordOf? (v : Float) : Option Int :=
  if v.isFinite && (Number.magnitude v).den == 1 && Number.magnitude v < 9223372036854775808 then
    some (if Number.isNegative v then -(Number.magnitude v).num else (Number.magnitude v).num)
  else none

/-- A truth value: one itself, a word for it, or one of the numbers 0 and 1. -/
def bool : Json → Except Fault Bool
  | .bool b => .ok b
  | .string s => match boolWords.lookup (String.ofList (s.toList.map Char.toLower)) with
    | some b => .ok b
    | none => .error .unreadableBool
  | .torn _ => .error .tornText
  | .int n => boolOfInt n
  | .float v => match wordOf? v with
    | some n => boolOfInt n
    | none => .error .notBool
  | _ => .error .notBool

/-- Underscores stand only singly, and neither first nor last. -/
def singleUnderscores (cs : List Char) : Bool :=
  cs.head? != some '_' && cs.getLast? != some '_' && !(cs.zip (cs.drop 1)).contains ('_', '_')

/-- The number that a text denotes, with blanks around it; if it denotes none, that of the text
without its underscores but with its blanks. -/
def numberOfText? (cs : List Char) : Option Float :=
  match Number.ofText? (Text.trim Text.isWhiteSpace cs) with
  | some v => some v
  | none =>
    if cs.contains '_' && singleUnderscores cs then Number.ofText? (cs.filter fun c => c != '_')
      else none

/-- A number: one itself, a truth value, or the text of a number. An integer that is too large is
none. -/
def number : Json → Except Fault Float
  | .float v => .ok v
  | .int n => if (Number.ofInt n).isFinite then .ok (Number.ofInt n) else .error .notNumber
  | .bool b => .ok (if b then 1.0 else 0.0)
  | .string s => match numberOfText? s.toList with
    | some v => .ok v
    | none => .error .unreadableNumber
  | .torn _ => .error .tornText
  | _ => .error .notNumber

/-- One of two words, written exactly so. -/
def oneOf {α : Type} (first second : String × α) : Json → Except Fault α
  | .string s =>
    if s = first.1 then .ok first.2
    else if s = second.1 then .ok second.2
    else .error (.notOneOf first.1 second.1)
  | .torn _ => .error .tornText
  | _ => .error (.notOneOf first.1 second.1)

/-- The name of an angle mode. -/
def mode : Json → Except Fault AngleMode :=
  oneOf (AngleMode.degree.name, .degree) (AngleMode.radian.name, .radian)

/-- A value, or null for none. -/
def orNull {α : Type} (read : Json → Except Fault α) : Json → Except Fault (Option α)
  | .null => .ok none
  | value => (read value).map some

end Field

/-! ### Reading all fields of an object -/

/-- What was read from an object, or the complaints about it. -/
inductive Checked (α : Type) where
  | valid (value : α)
  | invalid (complaints : List Complaint)

namespace Checked

def complaints {α : Type} : Checked α → List Complaint
  | valid _ => []
  | invalid cs => cs

/-- What is read from a value that is there. -/
def ofField {α : Type} (name : String) (value : Json) : Except Fault α → Checked α
  | .ok a => valid a
  | .error fault => invalid [⟨name, fault, value⟩]

/-- Two checks, the complaints of the first before those of the second. -/
def both {α β : Type} : Checked α → Checked β → Checked (α × β)
  | valid a, valid b => valid (a, b)
  | c, d => invalid (c.complaints ++ d.complaints)

def map {α β : Type} (f : α → β) : Checked α → Checked β
  | valid a => valid (f a)
  | invalid cs => invalid cs

/-- **The complaints about two checks are those about each.** -/
theorem complaints_both {α β : Type} (c : Checked α) (d : Checked β) :
    (both c d).complaints = c.complaints ++ d.complaints := by
  cases c <;> cases d <;> rfl

end Checked

/-- A field that has to be there. -/
def required {α : Type} (fields : List (String × Json)) (name : String)
    (read : Json → Except Fault α) : Checked α :=
  match fields.lookup name with
  | some value => .ofField name value (read value)
  | none => .invalid [⟨name, .missing, .object fields⟩]

/-- A field that may be missing. -/
def optional {α : Type} (fields : List (String × Json)) (name : String) (default : α)
    (read : Json → Except Fault α) : Checked α :=
  match fields.lookup name with
  | some value => .ofField name value (read value)
  | none => .valid default

/-- There are no fields but the known ones. -/
def noOthers (fields : List (String × Json)) (known : List String) : Checked Unit :=
  match fields.filter fun f => !known.contains f.1 with
  | [] => .valid ()
  | others => .invalid (others.map fun f => ⟨f.1, .unexpected, f.2⟩)

end Calculator.Service

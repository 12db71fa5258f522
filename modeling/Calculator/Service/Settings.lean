import Calculator.Expression
import Calculator.History
import Calculator.Json

/-! # Settings

What the service is set up with. The settings come as a JSON value in which anything may be missing
or of the wrong type. A number that is set in an unusable way falls back to its default; one that is
too large to be used at all stays unset (`none`), and whoever needs it fails.
-/

namespace Calculator.Service

/-- What a setting says that should be an integer. -/
inductive WholeSetting where
  | value (n : Int)
  /-- It is no number. -/
  | unusable
  /-- It is infinite. -/
  | unbounded
deriving DecidableEq, Repr

/-- A finite number without its fraction. -/
def truncate (v : Float) : Int :=
  let n := (Number.magnitude v).floor
  if Number.isNegative v then -n else n

namespace WholeSetting

/-- The integer that a setting stands for. A fraction is cut off, and a text is read. -/
def ofJson : Json → WholeSetting
  | .int n => value n
  | .bool b => value (if b then 1 else 0)
  | .float v => if v.isNaN then unusable else if v.isInf then unbounded else value (truncate v)
  | .string s => match Integer.ofText? s.toList with
    | some n => value n
    | none => unusable
  | _ => unusable

/-- The integer of a setting that may be missing. -/
def orDefault (default : Int) (given : Option Json) : Option Int :=
  match given.map ofJson with
  | none | some unusable => some default
  | some (value n) => some n
  | some unbounded => none

end WholeSetting

/-- The number that a text denotes when underscores between digits and digits of any script are
allowed. -/
def looseNumber? (text : String) : Option Float :=
  let cs := Text.trim Text.isWhiteSpace text.toList
  (joinDigits cs).bind Number.ofText?
where
  /-- ASCII digits in place of all others, without the underscores between digits. -/
  joinDigits : List Char → Option (List Char)
    | [] => some []
    | c :: '_' :: d :: cs =>
      if Text.isDigit c && Text.isDigit d then (joinDigits (d :: cs)).map (plain c :: ·) else none
    | c :: cs => if c = '_' then none else (joinDigits cs).map (plain c :: ·)
  /-- The ASCII digit of the same value. -/
  plain (c : Char) : Char :=
    match Text.digitValue? c with
    | some n => Char.ofNat ('0'.toNat + n)
    | none => c

/-- The number that a setting stands for. -/
def numberSetting? : Json → Option Float
  | .int n => some (Number.ofInt n)
  | .bool b => some (if b then 1.0 else 0.0)
  | .float v => some v
  | .string s => looseNumber? s
  | _ => none

/-- The settings of the service. -/
structure Settings where
  /-- What the home page calls the site. If the settings of the site are no group, nothing is known
  of it. -/
  siteName : Option Json
  /-- What the home page says of the calculator. -/
  summary : Json
  /-- Expressions are read strictly, unless a request says otherwise. -/
  strict : Bool
  /-- The name of the angle mode for requests that name none. -/
  mode : Option String
  /-- The most characters of an expression. -/
  maxLength : Option Int
  /-- The most entries of the history. -/
  historyLimit : Option Int
  /-- The most bytes of a request's body. -/
  maxBody : Int

namespace Settings

def defaultSiteName : String := "Calculator Server"

def defaultSummary : String :=
  "Evaluate arithmetic and scientific expressions with degree/radian modes and a " ++
    "recent-results history."

/-- 64 kibibytes. -/
def defaultMaxBody : Int := 65536

/-- A group of settings; what is null or empty counts as an empty group. -/
def group (name : String) (config : Json) : Json :=
  match config.field? name with
  | none => .object []
  | some given => if given.isTrivial then .object [] else given

/-- The most bytes of a body, as a number of kibibytes sets it. -/
def maxBodyOf (site : Json) : Int :=
  match (site.field? "max_content_length_kb").bind numberSetting? with
  | none => defaultMaxBody
  | some v =>
    let bytes := v * 1024.0
    if bytes.isFinite then truncate bytes else defaultMaxBody

/-- The settings that a configuration makes. Some profiles set the size of a body back to its
default. -/
def ofConfig (config : Json) (profile : Option String) : Settings :=
  let site := group "site" config
  let calculator := group "scientific_calculator" (group "plugins" config)
  { siteName := match site with
      | .object _ => some ((site.field? "name").getD (.string defaultSiteName))
      | _ => none
    summary := match calculator.field? "summary" with
      | none => .string defaultSummary
      | some given => if given.isTrivial then .string defaultSummary else given
    strict := match calculator.field? "strict" with
      | none => true
      | some given => !given.isTrivial
    mode := match calculator.field? "default_angle_mode" with
      | none => some AngleMode.degree.name
      | some given => given.text?
    maxLength :=
      WholeSetting.orDefault Expression.defaultMaxLength (calculator.field? "max_expression_length")
    historyLimit := WholeSetting.orDefault History.defaultLimit (calculator.field? "history_size")
    maxBody :=
      if profile = some "TestingConfig" ∨ profile = some "BaseConfig" then defaultMaxBody else
        maxBodyOf site }

/-- The configuration that is in force if no other is given. -/
def standardConfig : Json :=
  .object [
    ("site", .object [("name", .string "Calculator Server"), ("max_content_length_kb", .int 64)]),
    ("plugins", .object [("scientific_calculator", .object [
      ("summary", .string
        "Evaluate arithmetic and scientific expressions with degree/radian modes."),
      ("default_angle_mode", .string "degree"), ("strict", .bool true), ("history_size", .int 20),
      ("max_expression_length", .int 1024)])])]

/-- The profile that is in force if no other is given. -/
def standardProfile : String := "TestingConfig"

end Settings

end Calculator.Service

import Calculator.Answer
import Calculator.Constants
import Calculator.Json.Writer
import Calculator.Text.Digit

/-! # The command line

Three commands: `eval` evaluates an expression, `tokens` shows its tokens, `functions` lists the
functions. The arguments are read in two steps. Each argument is first taken for what it looks like:
a switch, an operand, or the mark behind which everything is an operand (`Argument`); then a command
takes what it needs (`Command.ofArguments`).

A switch may be cut short as long as one switch of the command begins like that, and its value may
stand behind an equals sign. What starts with a minus is an operand only if it is a negative number,
has a space in it, or is the minus alone.
-/

namespace Calculator.CommandLine

/-- The switches of the commands. -/
inductive Switch where
  | help
  | mode
  | lenient
  | noConstants
deriving DecidableEq, Repr

/-- The name of a switch. -/
def Switch.name : Switch → String
  | help => "--help"
  | mode => "--angle-mode"
  | lenient => "--lenient"
  | noConstants => "--no-constants"

/-- What an argument looks like. -/
inductive Argument where
  | operand (text : String)
  | switch (s : Switch) (value : Option String)
  /-- From here on everything is an operand. -/
  | mark
deriving DecidableEq, Repr

/-- Why no command is run. -/
inductive Stop where
  /-- The arguments make no command. -/
  | misuse
  /-- Only help was asked for. -/
  | help
deriving DecidableEq, Repr

/-- One or more digits of any script. -/
def isDigits (cs : List Char) : Bool :=
  !cs.isEmpty && cs.all Text.isDigit

/-- A minus and digits with an optional point, which has a digit behind it. A line end may
follow. -/
def isNegativeNumber (cs : List Char) : Bool :=
  match if cs.getLast? = some '\n' then cs.dropLast else cs with
  | '-' :: cs =>
    isDigits cs ||
      match cs.dropWhile Text.isDigit with
      | '.' :: behind => isDigits behind
      | _ => false
  | _ => false

/-- The part of an argument in front of an equals sign, and the part behind it. -/
def splitValue (cs : List Char) : List Char × Option String :=
  match cs.dropWhile fun c => c != '=' with
  | [] => (cs, none)
  | _ :: value => (cs.takeWhile fun c => c != '=', some (String.ofList value))

/-- The switches whose names begin with a text. -/
def candidates (allowed : List Switch) (start : List Char) : List Switch :=
  allowed.filter fun s => start.isPrefixOf s.name.toList

/-- What an argument looks like that starts with a minus but is no switch's name. -/
def classifyDashed (allowed : List Switch) (text : String) : Except Stop Argument :=
  let cs := text.toList
  let (start, value) := splitValue cs
  match allowed.find? (fun s => s.name.toList == start), value with
  | some s, some value => .ok (.switch s (some value))
  | _, _ =>
    let found := if "--".toList.isPrefixOf cs then candidates allowed start else []
    match found with
    | [s] => .ok (.switch s value)
    | _ :: _ :: _ => .error .misuse
    | [] =>
      if "-h".toList.isPrefixOf cs then
        if (cs.drop 1).all fun c => c == 'h' then .ok (.switch .help none) else .error .misuse
      else if isNegativeNumber cs || cs.contains ' ' then .ok (.operand text)
      else .error .misuse

/-- What an argument looks like to a command with these switches. -/
def classify (allowed : List Switch) (text : String) : Except Stop Argument :=
  match text.toList with
  | [] => .ok (.operand text)
  | c :: rest =>
    if c ≠ '-' then .ok (.operand text)
    else match allowed.find? fun s => s.name == text with
    | some s => .ok (.switch s none)
    | none => if rest.isEmpty then .ok (.operand text) else classifyDashed allowed text

/-- What the arguments look like. -/
def classifyAll (allowed : List Switch) : List String → Except Stop (List Argument)
  | [] => .ok []
  | text :: texts =>
    if text = "--" then .ok (.mark :: texts.map .operand)
    else do
      let argument ← classify allowed text
      let arguments ← classifyAll allowed texts
      return argument :: arguments

/-- What was given to a command. -/
structure Given where
  expression : Option String
  mode : AngleMode
  lenient : Bool
  noConstants : Bool
deriving DecidableEq, Repr

/-- Nothing was given; angles are in degrees. -/
def Given.nothing : Given := ⟨none, .degree, false, false⟩

/-- The mode with exactly this name. -/
def modeNamed (text : String) : Except Stop AngleMode :=
  if text = AngleMode.degree.name then .ok .degree
  else if text = AngleMode.radian.name then .ok .radian
  else .error .misuse

/-- The one operand that a command takes. -/
def Given.withOperand (given : Given) (text : String) : Except Stop Given :=
  match given.expression with
  | none => .ok { given with expression := some text }
  | some _ => .error .misuse

/-- What the arguments give. The mark may stand next to the operand, on either side. -/
def collect (given : Given) : List Argument → Except Stop Given
  | [] => .ok given
  | .switch .mode none :: .operand text :: rest => do
    collect { given with mode := ← modeNamed text } rest
  | .switch .mode (some text) :: rest => do collect { given with mode := ← modeNamed text } rest
  | .switch .lenient none :: rest => collect { given with lenient := true } rest
  | .switch .noConstants none :: rest => collect { given with noConstants := true } rest
  | .switch .help none :: _ => .error .help
  | .switch .. :: _ => .error .misuse
  | .mark :: .operand text :: rest => do collect (← given.withOperand text) rest
  | .operand text :: .mark :: rest => do collect (← given.withOperand text) rest
  | .operand text :: rest => do collect (← given.withOperand text) rest
  | .mark :: _ => .error .misuse

/-- What can be asked for. -/
inductive Command where
  | eval (expression : String) (mode : AngleMode) (lenient noConstants : Bool)
  | tokens (expression : String) (lenient : Bool)
  | functions
deriving DecidableEq, Repr

/-- The command that the arguments make. -/
def Command.ofArguments : List String → Except Stop Command
  | "eval" :: rest => do
    let given ← collect .nothing (← classifyAll [.help, .mode, .lenient, .noConstants] rest)
    match given.expression with
    | some expression => .ok (eval expression given.mode given.lenient given.noConstants)
    | none => .error .misuse
  | "tokens" :: rest => do
    let given ← collect .nothing (← classifyAll [.help, .lenient] rest)
    match given.expression with
    | some expression => .ok (tokens expression given.lenient)
    | none => .error .misuse
  | "functions" :: rest => do
    let given ← collect .nothing (← classifyAll [.help] rest)
    match given.expression with
    | some _ => .error .misuse
    | none => .ok functions
  | first :: _ =>
    if first = "--" then .error .misuse
    else match classify [.help] first with
    | .ok (.switch .help none) => .error .help
    | _ => .error .misuse
  | [] => .error .misuse

/-- The answer to a command. -/
def Command.answer : Command → Except Error Json
  | eval expression mode lenient noConstants => do
    let text := if noConstants then expression else substituteConstants expression
    let report ← Expression.report (some mode.name) (!lenient) Expression.defaultMaxLength
      (some text)
    return report.describe
  | tokens expression lenient => do
    let listed ← Token.read (!lenient) expression
    let program ← Expression.compile (!lenient) Expression.defaultMaxLength (some expression)
    return Token.describeBoth listed program
  | functions => .ok MathFunction.describeAll

/-- How a run ends: the exit code, and what is printed. -/
structure Outcome where
  exitCode : UInt32
  printed : String
deriving DecidableEq, Repr

/-- What a run with these arguments does. -/
def run (arguments : List String) : Outcome :=
  match Command.ofArguments arguments with
  | .error .misuse => ⟨2, ""⟩
  | .error .help => ⟨0, ""⟩
  | .ok command =>
    match command.answer with
    | .ok answer => ⟨0, answer.write Json.Layout.page⟩
    | .error e => ⟨1, (Json.object [("error", e.describe)]).write Json.Layout.page⟩

end Calculator.CommandLine

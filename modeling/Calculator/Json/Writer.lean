import Calculator.Json

/-! # Writing JSON

A value is written with the fields of its objects sorted by name. Two layouts are in use: one line
of ASCII without blanks, and indented lines in which characters beyond ASCII stand as they are.
Infinities and NaN, which JSON does not have, are written as words.
-/

namespace Calculator.Json

/-- How a value is laid out. -/
structure Layout where
  /-- Characters beyond ASCII are escaped. -/
  ascii : Bool
  /-- Each item and each field gets a line of its own, two blanks further in. -/
  lines : Bool
deriving DecidableEq, Repr

/-- The layout of a response: one line, ASCII only. -/
def Layout.wire : Layout := ⟨true, false⟩

/-- The layout of a printed answer: indented, and readable in any script. -/
def Layout.page : Layout := ⟨false, true⟩

/-- Four hexadecimal digits. -/
def hexCode (n : Nat) : List Char :=
  let ds := Nat.toDigits 16 n
  '\\' :: 'u' :: List.replicate (4 - ds.length) '0' ++ ds

/-- The escape of a code point: of those beyond the basic plane, two. -/
def escapeCode (n : Nat) : List Char :=
  if n < 0x10000 then hexCode n
  else hexCode (0xD800 + (n - 0x10000) / 0x400) ++ hexCode (0xDC00 + (n - 0x10000) % 0x400)

/-- A character inside a quoted text. -/
def quoteChar (ascii : Bool) (c : Char) : List Char :=
  if c = '"' then ['\\', '"']
  else if c = '\\' then ['\\', '\\']
  else if c = '\n' then ['\\', 'n']
  else if c = '\r' then ['\\', 'r']
  else if c = '\t' then ['\\', 't']
  else if c = '\x08' then ['\\', 'b']
  else if c = '\x0c' then ['\\', 'f']
  else if c.toNat < 32 || (ascii && 127 ≤ c.toNat) then escapeCode c.toNat
  else [c]

/-- A quoted text. -/
def quote (ascii : Bool) (s : String) : String :=
  String.ofList ('"' :: s.toList.flatMap (quoteChar ascii) ++ ['"'])

/-- A quoted text by its code points. Half of a surrogate pair is escaped. -/
def quotePoints (ascii : Bool) (points : List Nat) : String :=
  let quotePoint (n : Nat) := if n.isValidChar then quoteChar ascii (Char.ofNat n) else escapeCode n
  String.ofList ('"' :: points.flatMap quotePoint ++ ['"'])

/-- A number, or the word for what is none. -/
def floatText (v : Float) : String :=
  if v.isNaN then "NaN"
  else if v.isInf then (if Number.isNegative v then "-Infinity" else "Infinity")
  else Number.text v

/-- A line end and the blanks of this depth. -/
def lineStart (depth : Nat) : String :=
  String.ofList ('\n' :: List.replicate (2 * depth) ' ')

/-- The parts of an array or object, in its brackets. -/
def Layout.enclose (layout : Layout) (depth : Nat) (opening closing : String)
    (parts : List String) : String :=
  if parts.isEmpty then opening ++ closing
  else if layout.lines then
    opening ++ lineStart (depth + 1) ++ String.intercalate ("," ++ lineStart (depth + 1)) parts ++
      lineStart depth ++ closing
  else opening ++ String.intercalate "," parts ++ closing

/-- A field's name and text. -/
def Layout.fieldText (layout : Layout) (f : String × String) : String :=
  quote layout.ascii f.1 ++ (if layout.lines then ": " else ":") ++ f.2

/-- Fields in the order of their names. -/
def sortFields (fields : List (String × String)) : List (String × String) :=
  fields.mergeSort fun a b => a.1 ≤ b.1

mutual
/-- The text of a value at some depth. -/
def render (layout : Layout) (depth : Nat) : Json → String
  | null => "null"
  | bool b => if b then "true" else "false"
  | int n => toString n
  | float v => floatText v
  | string s => quote layout.ascii s
  | torn points => quotePoints layout.ascii points
  | array items => layout.enclose depth "[" "]" (renderItems layout (depth + 1) items)
  | object fields =>
    layout.enclose depth "\x7b" "\x7d"
      ((sortFields (renderFields layout (depth + 1) fields)).map layout.fieldText)

/-- The texts of an array's items. -/
def renderItems (layout : Layout) (depth : Nat) : List Json → List String
  | [] => []
  | item :: items => render layout depth item :: renderItems layout depth items

/-- The names and texts of an object's fields. -/
def renderFields (layout : Layout) (depth : Nat) : List (String × Json) → List (String × String)
  | [] => []
  | (name, value) :: fields => (name, render layout depth value) :: renderFields layout depth fields
end

/-- A value as a text, with a line end behind it. -/
def write (layout : Layout) (value : Json) : String :=
  value.render layout 0 ++ "\n"

end Calculator.Json

import Calculator.Json
import Calculator.Number.Read

/-! # Reading JSON

The whole text has to be one value, blanks aside. Beyond the standard the words `NaN`, `Infinity`
and `-Infinity` are read, and of several fields with one name the last counts. A number without a
point and an exponent is an integer, of any size that `Integer.maxDigits` allows. Half of a
surrogate pair may stand alone in a text, which is then a torn one. A text whose arrays and objects
stand too deep in one another is given up on.

Two steps consume a character at least, so twice the length of the text bounds the steps.
-/

namespace Calculator.Json

open Text

/-- A blank between the parts of a value. -/
def isGap (c : Char) : Bool :=
  c == ' ' || c == '\t' || c == '\n' || c == '\r'

def skipGaps (cs : List Char) : List Char :=
  cs.dropWhile isGap

/-- Four hexadecimal digits and the rest. -/
def hexCode? : List Char → Option (Nat × List Char)
  | a :: b :: c :: d :: rest => do
    let a ← hexValue? a
    let b ← hexValue? b
    let c ← hexValue? c
    let d ← hexValue? d
    return (((a * 16 + b) * 16 + c) * 16 + d, rest)
  | _ => none

def isHighSurrogate (n : Nat) : Bool := 0xD800 ≤ n && n < 0xDC00

def isLowSurrogate (n : Nat) : Bool := 0xDC00 ≤ n && n < 0xE000

/-- Half of a surrogate pair. -/
def isSurrogate (n : Nat) : Bool := isHighSurrogate n || isLowSurrogate n

/-- The code point that an escape denotes, the mark `\u` already read, and the rest. Two halves of a
surrogate pair are put together; a half alone stays what it is. -/
def escapedUnit? (cs : List Char) : Option (Nat × List Char) := do
  let (n, rest) ← hexCode? cs
  if isHighSurrogate n then
    match rest with
    | '\\' :: 'u' :: more => do
      let (m, after) ← hexCode? more
      if isLowSurrogate m then return (0x10000 + (n - 0xD800) * 0x400 + (m - 0xDC00), after)
      else return (n, rest)
    | _ => return (n, rest)
  else return (n, rest)

/-- The code point that an escape denotes, the backslash already read, and the rest. -/
def escaped? : List Char → Option (Nat × List Char)
  | '"' :: cs => some ('"'.toNat, cs)
  | '\\' :: cs => some ('\\'.toNat, cs)
  | '/' :: cs => some ('/'.toNat, cs)
  | 'b' :: cs => some (0x08, cs)
  | 'f' :: cs => some (0x0C, cs)
  | 'n' :: cs => some (0x0A, cs)
  | 'r' :: cs => some (0x0D, cs)
  | 't' :: cs => some (0x09, cs)
  | 'u' :: cs => escapedUnit? cs
  | _ => none

/-- The code points up to the closing quote, and what follows it. -/
def quoted? : Nat → List Char → Option (List Nat × List Char)
  | 0, _ => none
  | _ + 1, [] => none
  | fuel + 1, c :: cs =>
    if c = '"' then some ([], cs)
    else if c = '\\' then do
      let (n, rest) ← escaped? cs
      let (ns, rest) ← quoted? fuel rest
      return (n :: ns, rest)
    else if c.toNat < 32 then none
    else do
      let (ns, rest) ← quoted? fuel cs
      return (c.toNat :: ns, rest)

/-- The value with these code points. -/
def ofPoints (points : List Nat) : Json :=
  if points.any isSurrogate then torn points else string (String.ofList (points.map Char.ofNat))

/-- The name with these code points. Half of a surrogate pair is replaced. -/
def nameOf (points : List Nat) : String :=
  String.ofList (points.map fun n => if isSurrogate n then '\uFFFD' else Char.ofNat n)

/-- A point with digits behind it, or nothing. -/
def splitFraction : List Char → List Char × List Char
  | '.' :: cs =>
    if cs.head?.any isAsciiDigit then (cs.takeWhile isAsciiDigit, cs.dropWhile isAsciiDigit) else
      ([], '.' :: cs)
  | cs => ([], cs)

/-- An exponent with its mark, or nothing. -/
def splitExponent : List Char → Option Int × List Char
  | [] => (none, [])
  | c :: cs =>
    let (negative, ds) := Number.splitSign cs
    if (c = 'e' || c = 'E') && ds.head?.any isAsciiDigit then
      let k : Int := Number.ofDigits (ds.takeWhile isAsciiDigit)
      (some (if negative then -k else k), ds.dropWhile isAsciiDigit)
    else (none, c :: cs)

/-- A number that starts with a digit, and the rest. A zero is not followed by further digits. -/
def number? (negative : Bool) (cs : List Char) : Option (Json × List Char) :=
  let (whole, rest) :=
    match cs with
    | '0' :: rest => (['0'], rest)
    | cs => (cs.takeWhile isAsciiDigit, cs.dropWhile isAsciiDigit)
  let (behind, rest) := splitFraction rest
  let (exponent, rest) := splitExponent rest
  if whole.isEmpty then none
  else if behind.isEmpty && exponent.isNone then
    if Integer.maxDigits < whole.length then none
    else
      let n : Int := Number.ofDigits whole
      some (.int (if negative then -n else n), rest)
  else
    let d := Number.ofPlaces whole behind
    let d : Decimal := ⟨d.coefficient, d.exponent + exponent.getD 0⟩
    some (.float (Number.withSign negative d.withinReach.toFloat), rest)

/-- A word and what follows it. -/
def word? (cs : List Char) : Option (Json × List Char) :=
  let words : List (List Char × Json) := [
    ("null".toList, .null), ("true".toList, .bool true), ("false".toList, .bool false),
    ("NaN".toList, .float (0.0 / 0.0)), ("Infinity".toList, .float (1.0 / 0.0)),
    ("-Infinity".toList, .float (-1.0 / 0.0))]
  (words.find? fun w => w.1.isPrefixOf cs).map fun w => (w.2, cs.drop w.1.length)

/-- Why a text is no value. -/
inductive ReadError where
  /-- It is not written as a value is. -/
  | malformed
  /-- Its arrays and objects stand too deep in one another. The rest of the text is not looked
  at. -/
  | tooDeep
deriving DecidableEq, Repr

/-- The most arrays and objects that may stand in one another. -/
def maxDepth : Nat := 970

/-- What was read, if anything was. -/
def found {α : Type} : Option α → Except ReadError α
  | some a => .ok a
  | none => .error .malformed

mutual
/-- A value and what follows it. It may have as many arrays and objects in one another as `depth`
says. -/
def value : Nat → Nat → List Char → Except ReadError (Json × List Char)
  | 0, _, _ => .error .malformed
  | _ + 1, _, [] => .error .malformed
  | fuel + 1, depth, c :: cs =>
    if c = '"' then (found (quoted? fuel cs)).map fun r => (ofPoints r.1, r.2)
    else if c = '[' then
      match depth with
      | 0 => .error .tooDeep
      | depth + 1 =>
        let rest := skipGaps cs
        if rest.head? = some ']' then .ok (array [], rest.drop 1)
        else (items fuel depth rest).map fun r => (array r.1, r.2)
    else if c = '\x7b' then
      match depth with
      | 0 => .error .tooDeep
      | depth + 1 =>
        let rest := skipGaps cs
        if rest.head? = some '\x7d' then .ok (object [], rest.drop 1)
        else (fields fuel depth rest).map fun r => (ofFields r.1, r.2)
    else match word? (c :: cs) with
    | some r => .ok r
    | none => found (if c = '-' then number? true cs else number? false (c :: cs))

/-- The items of an array, of which there is one, and what follows the closing bracket. -/
def items : Nat → Nat → List Char → Except ReadError (List Json × List Char)
  | 0, _, _ => .error .malformed
  | fuel + 1, depth, cs => do
    let (item, rest) ← value fuel depth cs
    match skipGaps rest with
    | ',' :: more => do
      let (others, after) ← items fuel depth (skipGaps more)
      return (item :: others, after)
    | ']' :: after => return ([item], after)
    | _ => .error .malformed

/-- The fields of an object, of which there is one, and what follows the closing brace. -/
def fields : Nat → Nat → List Char → Except ReadError (List (String × Json) × List Char)
  | 0, _, _ => .error .malformed
  | fuel + 1, depth, cs =>
    match cs with
    | '"' :: cs => do
      let (name, rest) ← found (quoted? fuel cs)
      match skipGaps rest with
      | ':' :: rest => do
        let (first, rest) ← value fuel depth (skipGaps rest)
        match skipGaps rest with
        | ',' :: more => do
          let (others, after) ← fields fuel depth (skipGaps more)
          return ((nameOf name, first) :: others, after)
        | '\x7d' :: after => return ([(nameOf name, first)], after)
        | _ => .error .malformed
      | _ => .error .malformed
    | _ => .error .malformed
end

/-- The value that a text denotes. -/
def read (text : List Char) : Except ReadError Json := do
  let cs := skipGaps text
  let (v, rest) ← value (2 * cs.length + 2) maxDepth cs
  if (skipGaps rest).isEmpty then return v else .error .malformed

end Calculator.Json

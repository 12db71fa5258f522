import Calculator.Text.LetterCase
import Calculator.Text.Punycode
import Calculator.Text.Split

/-! # Host names

A host name is a list of labels with dots between them. In an address it is written in ASCII: a
label with other characters is written in Punycode behind a mark. A label is neither empty nor too
long; only the last one may be empty, behind the dot that ends the name.
-/

namespace Calculator.Host

/-- The most characters of a label, and one more. -/
def labelBound : Nat := 64

/-- A dot between labels: the full stop and its wide forms. -/
def isDot (c : Char) : Bool :=
  c == '.' || c == '\u3002' || c == '\uFF0E' || c == '\uFF61'

def isAscii (cs : List Char) : Bool :=
  cs.all fun c => c.toNat < 128

/-- The mark of a label in Punycode. -/
def mark : List Char := "xn--".toList

/-- A label of an acceptable length. -/
def fitting? (label : List Char) : Option (List Char) :=
  if label.isEmpty || labelBound ≤ label.length then none else some label

/-- A label in ASCII. -/
def asciiLabel? (label : List Char) : Option (List Char) :=
  if isAscii label then fitting? label
  else if mark.isPrefixOf label then none
  else fitting? (mark ++ Text.Punycode.encode label)

/-- Labels with full stops between them. -/
def join (labels : List (List Char)) : List Char :=
  ['.'].intercalate labels

/-- The last label of a name in ASCII may be empty. -/
def asciiLast? (label : List Char) : Option (List Char) :=
  if label.isEmpty then some [] else asciiLabel? label

/-- A name in ASCII, if all of its labels are acceptable. -/
def ascii? (name : List Char) : Option (List Char) := do
  let labels := Text.splitAt (if isAscii name then (· == '.') else isDot) name
  let front ← labels.dropLast.mapM asciiLabel?
  let last ← asciiLast? (labels.getLast?.getD [])
  return join (front ++ [last])

end Calculator.Host

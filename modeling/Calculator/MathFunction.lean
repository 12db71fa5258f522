import Calculator.Text.Quoted

/-! # Functions

The functions of one argument that an expression can apply, and their spellings. Each function but
the identity is spelled by its symbol, and some have a second spelling for keyboards. The identity
has none: it stands in for a name that is not known.
-/

namespace Calculator

/-- A function of one argument. -/
inductive MathFunction where
  | sin | cos | tan
  | asin | acos | atan
  | log | ln
  | square | cube | sqrt | cbrt
  | powerOfTen | exp
  | factorial | reciprocal
  | identity
deriving DecidableEq, Repr

namespace MathFunction

/-- The symbol of a function. -/
def symbol : MathFunction → String
  | sin => "sin"
  | cos => "cos"
  | tan => "tan"
  | asin => "asin"
  | acos => "acos"
  | atan => "atan"
  | log => "log"
  | ln => "ln"
  | square => "x²"
  | cube => "x³"
  | sqrt => "√"
  | cbrt => "∛"
  | powerOfTen => "10^x"
  | exp => "e^x"
  | factorial => "n!"
  | reciprocal => "1/x"
  | identity => "identity"

/-- The functions that can be spelled, in the order in which they are listed. -/
def listed : List MathFunction :=
  [sin, cos, tan, asin, acos, atan, log, ln, square, cube, sqrt, cbrt, powerOfTen, exp, factorial,
    reciprocal]

/-- The second spellings. -/
def keyboardSpellings : List (String × MathFunction) := [
  ("sqrt", sqrt), ("cbrt", cbrt), ("exp", exp), ("fact", factorial), ("x^2", square), ("x^3", cube)]

/-- All spellings, each with its function. -/
def spellings : List (String × MathFunction) :=
  listed.map (fun f => (f.symbol, f)) ++ keyboardSpellings

/-- The function that a text spells. -/
def ofSpelling? (text : String) : Option MathFunction :=
  spellings.lookup text

/-- The spellings of a function, the symbol first. -/
def names (f : MathFunction) : List String :=
  (spellings.filter fun s => s.2 = f).map Prod.fst

/-- The function with this symbol, the identity included. -/
def ofSymbol? (text : String) : Option MathFunction :=
  (listed ++ [identity]).find? fun f => f.symbol == text

/-- What is said of a symbol that is no function's. -/
def unknownSymbolMessage (text : String) : String :=
  Text.quoted text ++ " is not a valid MathFunction"

/-- The functions that take or return an angle. -/
def angleDependent : MathFunction → Bool
  | sin | cos | tan | asin | acos | atan => true
  | _ => false

theorem mem_listed {f : MathFunction} : f ∈ listed ↔ f ≠ identity := by
  cases f <;> decide

theorem ofSpelling?_symbol {f : MathFunction} (h : f ≠ identity) :
    ofSpelling? f.symbol = some f := by
  cases f <;> first | contradiction | decide +kernel

theorem ofSymbol?_symbol (f : MathFunction) : ofSymbol? f.symbol = some f := by
  cases f <;> decide +kernel

end MathFunction

end Calculator

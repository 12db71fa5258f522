import Calculator.Text.Blank

/-! # Angle modes

The unit of angles: what trigonometric functions take and what their inverses return.
-/

namespace Calculator

/-- The unit of an angle. -/
inductive AngleMode where
  | degree
  | radian
deriving DecidableEq, Repr

namespace AngleMode

/-- The name of a mode in answers. -/
def name : AngleMode → String
  | degree => "degree"
  | radian => "radian"

/-- The ways to write each mode. -/
def aliases : List (String × AngleMode) := [
  ("degree", degree), ("deg", degree), ("degrees", degree),
  ("radian", radian), ("rad", radian), ("radians", radian)]

/-- The mode that a text names, in any case and with blanks around it. -/
def ofText? (text : String) : Option AngleMode :=
  aliases.lookup (String.ofList ((Text.trim Text.isBlank text.toList).map Char.toLower))

theorem ofText?_name (m : AngleMode) : ofText? m.name = some m := by
  cases m <;> decide +kernel

end AngleMode

end Calculator

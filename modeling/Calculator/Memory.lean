/-! # The memory register

One number that is added to and subtracted from. An operand that is not a number counts as zero.
-/

namespace Calculator

/-- The memory register. -/
structure Memory where
  value : Float
deriving DecidableEq

namespace Memory

/-- A register that holds zero. -/
def empty : Memory := ⟨0.0⟩

/-- What an operand counts as. -/
def usable (v : Float) : Float :=
  if v.isNaN then 0.0 else v

def add (memory : Memory) (v : Float) : Memory := ⟨memory.value + usable v⟩

def subtract (memory : Memory) (v : Float) : Memory := ⟨memory.value - usable v⟩

/-- The register holds something other than zero. -/
def active (memory : Memory) : Bool :=
  memory.value != 0.0

end Memory

end Calculator

import Calculator.CommandLine

/-! # The program

Runs the command line: prints what it prints and ends with its exit code.
-/

def main (arguments : List String) : IO UInt32 := do
  let outcome := Calculator.CommandLine.run arguments
  IO.print outcome.printed
  return outcome.exitCode

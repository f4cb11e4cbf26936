import TypeDescriptors.Main.Arguments

set_option autoImplicit false

def main (arguments : List String) : IO UInt32 := do
  let outcome := TypeDescriptors.CommandLine.outcome arguments
  (← IO.getStderr).putStr outcome.errors
  (← IO.getStdout).putStr outcome.output
  return UInt32.ofNat outcome.exit

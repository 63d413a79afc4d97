import CodeGraph.Cli.Document

/-!
# The program

Reads a snapshot document from standard input, runs the command of its arguments, prints messages and
output, and after them each file that the command leaves behind.
-/

open CodeGraph

/-- Print what a command leaves behind. -/
def printOutcome (o : Cli.Outcome) : IO Unit := do
  for line in o.messages do
    IO.eprintln line
  if let some output := o.output then
    IO.println output.text
  for (place, v) in o.written do
    IO.println place.path
    IO.println (v.pretty true)

/-- Run the command of the arguments on the snapshot on standard input. -/
def main (args : List String) : IO UInt32 := do
  let input ← (← IO.getStdin).getLine
  let document := match Json.parse input with
    | .ok v => v
    | .error _ => .null
  let outcome := Cli.run (.ofJson "/" document) args
  printOutcome outcome
  return UInt32.ofNat outcome.exitCode

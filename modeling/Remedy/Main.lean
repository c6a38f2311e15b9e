import Remedy.Command.Run
import Remedy.Json.Source
import Remedy.Scene

/-!
# The program

The program works on the machine that a scene on its standard input describes.  Without a scene
there are no files, and git does nothing.
-/

/-- Reads the scene, runs the program, and writes what it says. -/
def main (args : List String) : IO UInt32 := do
  let text ← (← IO.getStdin).getLine
  let scene := (Remedy.Json.parse? text).getD .null
  let machine := Remedy.Scene.machine [] scene
  let (outcome, _) := Remedy.Command.run args (Remedy.Scene.environment scene) machine
  (← IO.getStdout).putStr outcome.output
  (← IO.getStderr).putStr outcome.reports
  return UInt32.ofNat outcome.code

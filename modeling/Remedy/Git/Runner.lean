import Remedy.Machine.Basic
import Remedy.Text.Blank
import Remedy.Text.Utf8

/-!
# Running git

A runner starts git in one folder and waits for it for a limited time.  A process that cannot be
started or takes too long is a failure; a process that is not successful is one only if success
is asked for.
-/

namespace Remedy.Git

/-- How git is run. -/
structure Runner where
  binary : String
  folder : Path
  /-- How long a process may take, in milliseconds. -/
  patience : Nat
deriving DecidableEq

/-- What a finished process has written, and how it ended. -/
structure Output where
  ending : Ending
  out : String
  err : String
deriving DecidableEq

/-- Why git did not do its work. -/
inductive Failure where
  | refused (command : String) (error : SystemError)
  | late (command : String) (patience : Nat)
  | unsuccessful (command : String) (output : Output)
deriving DecidableEq

/-- A number of thousandths in digits, without zeros at its end. -/
def thousandths (n : Nat) : String :=
  let digits := [n / 100, n / 10 % 10, n % 10]
  let shown := (digits.reverse.dropWhile (· == 0)).reverse
  if shown = [] then "" else "." ++ String.join (shown.map toString)

/-- The text of a length of time. -/
def durationText (milliseconds : Nat) : String :=
  if milliseconds = 0 then "0ns"
  else if milliseconds < 1000 then toString milliseconds ++ "ms"
  else toString (milliseconds / 1000) ++ thousandths (milliseconds % 1000) ++ "s"

/-- The wording of a failure. -/
def Failure.message : Failure → String
  | .refused command error => "failed to run `" ++ command ++ "`: " ++ error.message
  | .late command patience =>
      "`" ++ command ++ "` did not finish within " ++ durationText patience
  | .unsuccessful command output =>
      "`" ++ command ++ "` exited with " ++ output.ending.message ++ "\n(stdout)->" ++
        output.out ++ "\n(stderr)->" ++ output.err

namespace Runner

variable {σ : Type}

/-- The command line as it is shown. -/
def describe (runner : Runner) (args : List String) : String :=
  String.intercalate " " (runner.binary :: args)

/-- Runs git, and gives what it has written, whether it is successful or not. -/
def runAnyway (runner : Runner) (args : List String) : Task σ Failure Output := do
  match ← Task.start runner.binary runner.folder args with
  | .refused error => throw (.refused (runner.describe args) error)
  | .hung => throw (.late (runner.describe args) runner.patience)
  | .finished ending out err =>
      return ⟨ending, String.ofList (Text.decodeLossy out), String.ofList (Text.decodeLossy err)⟩

/-- Runs git, which must be successful. -/
def run (runner : Runner) (args : List String) : Task σ Failure Output := do
  let output ← runner.runAnyway args
  if output.ending.isSuccess then return output
  else throw (.unsuccessful (runner.describe args) output)

/-- Runs git, which must be successful, and gives what it has written without blanks around it. -/
def ask (runner : Runner) (args : List String) : Task σ Failure String := do
  let output ← runner.run args
  return String.ofList (Text.trim output.out.toList)

end Runner

end Remedy.Git

import Remedy.Baseline
import Remedy.Finding.Fingerprint
import Remedy.Fix.Pass
import Remedy.Settings
import Remedy.Text.Lines

/-!
# Complaints

A complaint says why a command failed, and what was behind that, from the nearest cause to the
farthest.
-/

namespace Remedy

/-- Why a command failed. -/
structure Complaint where
  message : String
  causes : List String
  /-- The exit code of the program. -/
  code : Nat
deriving DecidableEq

namespace Complaint

/-- A complaint that an operation was refused. -/
def ofSystem (message : String) (error : SystemError) : Complaint :=
  ⟨message, [error.message], 1⟩

/-- A complaint about findings that could not be read. -/
def ofReading (failure : ReadFailure) : Complaint :=
  match failure with
  | .document _ error | .lines _ error => ofSystem failure.message error
  | .malformed => ⟨failure.message, [""], 1⟩

/-- What is behind the failure of a fix. -/
def fixCauses : Fix.Failure → List String
  | .system error | .rewrite (.system error) => [error.message]
  | .invalidPattern => [""]
  | _ => []

/-- A complaint about a pass that stopped. -/
def ofTrouble (trouble : Fix.Trouble) : Complaint :=
  match trouble.failure? with
  | none => ⟨trouble.message, [], 1⟩
  | some .overflow => ⟨Fix.Failure.overflow.message, [], 101⟩
  | some failure => ⟨trouble.message, failure.message :: fixCauses failure, 1⟩

/-- What is behind a failure of git. -/
def gitCauses : Git.Failure → List String
  | .refused _ error => [error.message]
  | _ => []

/-- A complaint about a baseline. -/
def ofBaseline (trouble : Baseline.Trouble) : Complaint :=
  match trouble with
  | .removal _ error => ofSystem trouble.message error
  | .git failure => ⟨trouble.message, failure.message :: gitCauses failure, 1⟩
  | _ => ⟨trouble.message, [], 1⟩

/-- A complaint about settings. -/
def ofSettings (failure : Settings.Failure) : Complaint :=
  match failure with
  | .unreadable _ error => ofSystem failure.message error
  | .malformed _ => ⟨failure.message, [""], 1⟩
  | .invalid _ issues => ⟨failure.message, [Settings.issuesMessage issues], 1⟩
  | .variable _ => ⟨failure.message, [], 1⟩

/-- A text whose first line stands behind `first` and the others behind `others`. -/
def indent (first others : String) (text : String) : String :=
  first ++ String.intercalate ("\n" ++ others) ((Text.split text.toList).map String.ofList)

/-- A number in five columns. -/
def numberColumn (n : Nat) : String :=
  let digits := toString n
  "".pushn ' ' (5 - digits.length) ++ digits

/-- The report of a complaint. -/
def report (complaint : Complaint) : String :=
  let causes :=
    match complaint.causes with
    | [] => ""
    | [cause] => "\n\nCaused by:\n" ++ indent "    " "    " cause
    | causes =>
        "\n\nCaused by:\n" ++ String.intercalate "\n" (causes.mapIdx fun i cause =>
          indent (numberColumn i ++ ": ") "       " cause)
  "Error: " ++ complaint.message ++ causes ++ "\n"

end Complaint

end Remedy

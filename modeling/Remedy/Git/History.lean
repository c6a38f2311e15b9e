import Remedy.Git.Runner
import Remedy.Text.Lines

/-!
# The commits of a comparison

A comparison of the current commit with a reference covers the commits since the two parted.  If
the reference has gone on since then, the commits that it has gained are missing here.
-/

namespace Remedy.Git

/-- The commits that a comparison with a reference covers. -/
structure History where
  /-- The commit that the reference stands for. -/
  commit : String
  /-- The commit at which the two parted. -/
  mergeBase : String
  /-- A list of the commits since then. -/
  introduced : String
  /-- A list of the commits that only the reference has, if it has gone on. -/
  missing? : Option String
deriving DecidableEq

namespace History

variable {σ : Type}

/-- A list of the commits in a range, without blanks at its end. -/
def list (runner : Runner) (range : String) : Task σ Failure String := do
  let output ← runner.run ["log", "--oneline", "--graph", range]
  return String.ofList (Text.trimEnd output.out.toList)

/-- Asks git for the commits of a comparison. -/
def collect (runner : Runner) (reference : String) : Task σ Failure History := do
  let commit ← runner.ask ["rev-parse", reference]
  let mergeBase ← runner.ask ["merge-base", reference, "HEAD"]
  let introduced ← list runner (mergeBase ++ "..HEAD")
  if mergeBase = commit then
    return ⟨commit, mergeBase, introduced, none⟩
  else
    let missing ← list runner (mergeBase ++ ".." ++ commit)
    return ⟨commit, mergeBase, introduced, some missing⟩

/-- Moves the lines of a text to the right. -/
def indent (text : String) : String :=
  String.intercalate "\n" <|
    (Text.plainLines text.toList).map fun line => "    " ++ String.ofList line

/-- What is said about the commits that a comparison covers. -/
def remarks (history : History) (reference : String) : List (Level × String) :=
  let introduced :=
    [(.info, "  Will report findings introduced by these commits:"),
      (.info, indent history.introduced)]
  let missing :=
    match history.missing? with
    | none => []
    | some missing =>
        [(.warning, "  The current branch is missing these commits from the baseline branch:"),
          (.info, indent missing),
          (.info, "  Any finding these commits fixed will look like a new finding in the " ++
            "current branch."),
          (.info, "  To avoid reporting such findings, compare to the branch-off point with:\n" ++
            "    --ref=$(git merge-base " ++ reference ++ " HEAD)")]
  introduced ++ missing

/-- Notes which commits a comparison covers, if git tells. -/
def announce {ε : Type} (runner : Runner) (reference : String) : Task σ ε Unit := do
  match ← (collect runner reference).outcome with
  | .error _ => return ()
  | .ok history =>
      (history.remarks reference).forM fun (level, text) => Task.note level text

end History

end Remedy.Git

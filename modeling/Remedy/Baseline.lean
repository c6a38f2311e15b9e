import Remedy.Git.History
import Remedy.Git.Pending

/-!
# Baselines

A baseline is an earlier commit against which findings are compared.  To look at the files as they
were then, the working tree is swapped for that of the commit and restored afterwards.  A swap
begins only if git tracks no pending change and no untracked file is in the way; the state of the
tree is recorded first, and from then on every way out of the swap restores it.
-/

namespace Remedy

open Git (Runner Changes Pending)

/-- A baseline that was checked, and what is known about it. -/
structure Baseline where
  runner : Runner
  reference : String
  /-- Where the runner's folder lies in the repository. -/
  place : Path
  /-- The files that differ from the baseline. -/
  changes : Changes
  pending : Pending
deriving DecidableEq

namespace Baseline

/-- Why files cannot be swapped for those of a baseline. -/
inductive Trouble where
  | unknownReference (reference : String)
  | pendingChanges (paths : List Path)
  | untrackedConflict (reference : String) (paths : List Path)
  | removal (path : Path) (error : SystemError)
  | restoration (report : String)
  | git (failure : Git.Failure)
deriving DecidableEq

/-- Paths in a row. -/
def pathList (paths : List Path) : String :=
  String.intercalate ", " (paths.map (·.text))

/-- The wording of a trouble. -/
def Trouble.message : Trouble → String
  | .unknownReference reference =>
      "Cannot find a commit with reference '" ++ reference ++ "'. Possible reasons:\n\n" ++
        "- the referenced commit does not exist\n" ++
        "- the current working directory is not a git repository\n" ++
        "- the git binary is not available\n\n" ++
        "Try running `git show " ++ reference ++ "` to debug the issue."
  | .pendingChanges paths =>
      "Found pending changes in tracked files. Baseline scans require a clean git state: " ++
        pathList paths
  | .untrackedConflict reference paths =>
      "Found files that are untracked by git but exist in " ++ reference ++ ". " ++
        "Running a baseline scan would overwrite them, so aborting. " ++
        "Please commit or stash your untracked changes in these paths: " ++ pathList paths
  | .removal path error =>
      "failed to remove " ++ path.text ++ " before baseline checkout: " ++ error.message
  | .restoration report =>
      "Fatal error restoring Git state; please restore your repository state manually:\n" ++
        report
  | .git failure => "Error initializing baseline: " ++ failure.message

/-- A recorded state of the working tree, which has been swapped and is to be restored. -/
structure Swap where
  tree : String
  /-- Whether the tree was restored, or is being restored. -/
  settled : Bool := false
deriving DecidableEq

variable {σ : Type}

/-- The arguments that list how the index differs from the merge base with a reference. -/
def diffArgs (reference : String) : List String :=
  ["diff", "--cached", "--name-status", "--no-ext-diff", "-z", "--diff-filter=ACDMRTUXB",
    "--ignore-submodules", "--relative", "--merge-base", reference]

/-- The arguments that list the files that are pending. -/
def statusArgs : List String :=
  ["status", "--porcelain", "-z", "--untracked-files=all"]

/-- Asks git which files differ from a reference. -/
def readChanges (runner : Runner) (reference : String) : Task σ Git.Failure Changes := do
  let output ← runner.run (diffArgs reference)
  return .ofList (← Task.disk) runner.folder (Git.Change.parse output.out)

/-- Asks git which files are pending. -/
def readPending (runner : Runner) : Task σ Git.Failure Pending := do
  let output ← runner.run statusArgs
  return .parse output.out

/-- The paths that differ from the baseline and are in the way of untracked files. -/
def conflicts (baseline : Baseline) (pending : Pending) : List Path :=
  PathSet.ofList <| baseline.changes.paths.filter fun path =>
    pending.untracked.any fun untracked => (baseline.place.join path).same untracked

/-- Checks that the files can be swapped. -/
def check (baseline : Baseline) (pending : Pending) : Except Trouble Unit :=
  if pending.tracked ≠ [] then .error (.pendingChanges pending.tracked)
  else
    let conflicts := baseline.conflicts pending
    if conflicts ≠ [] then .error (.untrackedConflict baseline.reference conflicts)
    else .ok ()

/-- The baseline at a reference, after all checks. -/
def ofReference (runner : Runner) (reference : String) : Task σ Trouble Baseline := do
  let commit := reference ++ "^\x7bcommit\x7d"
  let known ← (runner.runAnyway ["cat-file", "-e", commit]).relabel .git
  if !known.ending.isSuccess then throw (.unknownReference reference)
  let place ← (runner.ask ["rev-parse", "--show-prefix"]).relabel .git
  let changes ← (readChanges runner reference).relabel .git
  let pending ← (readPending runner).relabel .git
  let baseline : Baseline := ⟨runner, reference, ⟨place⟩, changes, pending⟩
  Task.ofExcept (baseline.check pending)
  return baseline

/-!
## Restoring
-/

/-- The arguments that check out all files of a tree or a commit. -/
def checkoutArgs (name : String) : List String :=
  ["checkout", name, "--", "."]

/-- The arguments that list a tree. -/
def listArgs (tree : String) : List String :=
  ["ls-tree", "--name-only", "-z", tree]

/-- The arguments that remove files. -/
def removeArgs (paths : List Path) : List String :=
  "rm" :: "-f" :: "--" :: paths.map (·.text)

/-- Holds if git finds nothing in a tree. -/
def isEmptyTree (baseline : Baseline) (tree : String) : Task σ Git.Failure Bool := do
  let output ← baseline.runner.run (listArgs tree)
  return output.out.toList.all (· == '\x00')

/-- The files that are not in the recorded tree but have come with the baseline. -/
def left (baseline : Baseline) (disk : Disk) : List Path :=
  baseline.changes.removed.filter fun path => disk.leads (baseline.runner.folder.join path)

/-- Removes the files that have come with the baseline, if there are any. -/
def removeLeft {ε : Type} (baseline : Baseline) : Task σ ε Unit := do
  let left := baseline.left (← Task.disk)
  if left = [] then return ()
  match ← (baseline.runner.runAnyway (removeArgs left)).outcome with
  | .error failure =>
      Task.note .warning ("git rm of removed paths failed: " ++ failure.message)
  | .ok output =>
      if !output.ending.isSuccess then
        Task.note .warning <|
          "git rm of removed paths failed stderr=" ++
            String.ofList (Text.trim output.err.toList)

/-- Checks out a recorded tree.  An empty one counts as checked out although git refuses it. -/
def checkOutTree (baseline : Baseline) (tree : String) : Task σ Trouble Unit := do
  let label (failure : Git.Failure) : Trouble := .restoration failure.message
  let output ← (baseline.runner.runAnyway (checkoutArgs tree)).relabel label
  if output.ending.isSuccess then return ()
  else if ← (baseline.isEmptyTree tree).relabel label then return ()
  else throw (.restoration output.err)

/-- Brings back a recorded tree, and nothing else. -/
def bringBack (baseline : Baseline) (tree : String) : Task σ Trouble Unit := do
  baseline.checkOutTree tree
  baseline.removeLeft

/--
Lets go of a swap.  If it is not settled, its tree is brought back, where nobody can be told of a
failure but in a note.
-/
def release {ε : Type} (baseline : Baseline) (swap : Swap) : Task σ ε Unit := do
  if swap.settled then return ()
  match ← (baseline.bringBack swap.tree).outcome with
  | .ok () => return ()
  | .error trouble => Task.note .error trouble.message

/-- Brings back the tree of a swap, and tells of a failure.  The swap is let go of as settled. -/
def restore (baseline : Baseline) (swap : Swap) : Task σ Trouble Unit := do
  let swap := { swap with settled := true }
  let result ← (baseline.bringBack swap.tree).outcome
  baseline.release swap
  Task.ofExcept result

/-!
## Swapping
-/

/-- Removes a file; one that is not there does not matter. -/
def removeFile (folder path : Path) : Task σ Trouble Unit := do
  match (← Task.disk).remove (folder.join path) with
  | .ok disk => Task.setDisk disk
  | .error .notFound => return ()
  | .error error => throw (.removal path error)

/-- Removes files, one after the other. -/
def removeFiles (folder : Path) : List Path → Task σ Trouble Unit
  | [] => return ()
  | path :: rest => do
      removeFile folder path
      removeFiles folder rest

/-- Brings in the files of the baseline. -/
def checkOut (baseline : Baseline) : Task σ Trouble Unit := do
  removeFiles baseline.runner.folder baseline.changes.added
  let _ ← (baseline.runner.run (checkoutArgs baseline.reference)).relabel .git

/-- Checks once more that the files can be swapped, and records the tree that they are in. -/
def record (baseline : Baseline) : Task σ Trouble String := do
  let pending ← (readPending baseline.runner).relabel .git
  Task.ofExcept (baseline.check pending)
  (baseline.runner.ask ["write-tree"]).relabel .git

/-- Swaps the files for those of the baseline.  If that fails, the swap is let go of. -/
def enter (baseline : Baseline) : Task σ Trouble Swap := do
  let swap : Swap := { tree := ← baseline.record }
  match ← baseline.checkOut.outcome with
  | .ok () => return swap
  | .error trouble =>
      baseline.release swap
      throw trouble

/--
Works on the files of the baseline, and restores the others when the work is done.  Work that
breaks off comes to nothing, and the files are restored all the same.
-/
def runInside {α : Type} (baseline : Baseline) (work : StateM (Machine σ) (Option α)) :
    Task σ Trouble (Option α) := do
  let swap ← baseline.enter
  match ← work with
  | some value =>
      baseline.restore swap
      return some value
  | none =>
      baseline.release swap
      return none

end Baseline

end Remedy

import Remedy.Command.Arguments
import Remedy.Command.Complaint
import Remedy.Command.Verbosity
import Remedy.Diff

/-!
# Running commands

A command works on a machine and says what it has done.  What is said becomes the two texts that
the program writes, its output and its reports.
-/

namespace Remedy

/-- What a program leaves behind when it ends. -/
structure Exit where
  code : Nat
  output : String
  reports : String
deriving DecidableEq

namespace Command

variable {σ : Type}

/-- Work that may end with a complaint. -/
abbrev Work (σ α : Type) := Task σ Complaint α

/-- What a computation that may fail comes to. -/
def settle {ε α : Type} (complain : ε → Complaint) (result : Except ε α) : Work σ α :=
  ExceptT.mk (pure (result.mapError complain))

/-- Says a line of output. -/
def sayLine (line : String) : Work σ Unit :=
  Task.say (.output (line ++ "\n"))

/-!
## Applying fixes
-/

/-- What the files that fixes are for hold before a pass. -/
def textsBefore (disk : Disk) (findings : Findings) : List (Path × String) :=
  let files := PathSet.ofList ((findings.toList.filter Finding.hasRemedy).map (·.path))
  files.filterMap fun file => (disk.readText file).toOption.map fun text => (file, text)

/-- Says what a fix in a trial comes to. -/
def sayPreview (folder : Path) (preview : Fix.Preview) : Work σ Unit := do
  sayLine ("~ " ++ (folder.relativeTo preview.path).text ++ ":" ++ toString preview.line ++
    " (" ++ preview.rule ++ ")")
  preview.lines.forM fun line => sayLine ("    " ++ String.ofList line)

/-- Says that a file was fixed, and what has changed, if its text before is known. -/
def sayFixed (folder : Path) (disk : Disk) (before : List (Path × String)) (file : Path) :
    Work σ Unit := do
  let name := (folder.relativeTo file).text
  sayLine ("✓ Fixed " ++ name)
  match before.find? fun entry => entry.1.same file, disk.readText file with
  | some (_, old), .ok new =>
      if old ≠ new then
        sayLine ("\n--- " ++ name ++ " (original)")
        sayLine ("+++ " ++ name ++ " (fixed)")
        Task.say (.output (Diff.compare old new))
  | _, _ => return ()

/-- Goes through findings, and keeps what a pass that stopped has left. -/
def fixAll (trial : Bool) (findings : Findings) : Work σ Fix.Pass := do
  match Fix.Pass.run trial findings (← Task.disk) with
  | .error stop =>
      Task.setDisk stop.disk
      throw (.ofTrouble stop.trouble)
  | .ok pass =>
      Task.setDisk pass.disk
      Task.note .info pass.summary
      return pass

/-- The findings of a document, their paths as seen from a folder. -/
def findingsFrom (disk : Disk) (folder results : Path) : Except ReadFailure Findings :=
  (Findings.load disk (folder.join results)).map (·.rebase folder)

/-- Applies the fixes of a document of findings. -/
def applyFixes (folder : Path) (settings : Settings) (results : Path)
    (trial showsChanges : Bool) : Work σ Unit := do
  let disk ← Task.disk
  let findings ← settle .ofReading (findingsFrom disk folder results)
  sayLine ("Loaded " ++ toString findings.size ++ " matches from " ++ results.text)
  let before :=
    if (showsChanges || settings.showsChanges) && !trial then textsBefore disk findings else []
  if trial then sayLine "[DRY RUN - showing fixed lines, no files written]"
  let pass ← fixAll trial findings
  pass.previews.forM (sayPreview folder)
  pass.modified.forM (sayFixed folder pass.disk before)
  sayLine "\nSummary:"
  if trial then sayLine ("  " ++ toString pass.previews.length ++ " fixes previewed")
  else sayLine ("  " ++ toString pass.modified.length ++ " files modified")

/-!
## Baselines
-/

/-- Says which files differ in one way. -/
def sayGroup (label : String) (paths : List Path) : Work σ Unit := do
  if paths ≠ [] then
    sayLine (label ++ " (" ++ toString paths.length ++ " paths)")
    paths.forM fun path => sayLine ("  - " ++ path.text)
    sayLine ""

/-- Says which files differ from a baseline. -/
def showStatus (runner : Git.Runner) (reference : String) : Work σ Unit := do
  let baseline ← (Baseline.ofReference runner reference).relabel .ofBaseline
  sayLine ("Baseline Status Report\nReference: " ++ reference ++ "\n")
  sayGroup "ADDED" baseline.changes.added
  sayGroup "MODIFIED" baseline.changes.modified
  sayGroup "REMOVED" baseline.changes.removed
  sayGroup "UNMERGED" baseline.changes.unmerged
  if baseline.changes.paths = [] then sayLine "No tracked changes since the reference."

/-- Runs the program of a comparison; what it writes is passed on. -/
def runProgram (folder : Path) (comparison : Comparison) : Work σ Ending := do
  match ← Task.start comparison.program folder comparison.args with
  | .refused error => throw (.ofSystem ("failed to run " ++ comparison.program) error)
  | .hung => throw ⟨comparison.program ++ " does not end", [], 1⟩
  | .finished ending out err =>
      Task.say (.output (String.ofList (Text.decodeLossy out)))
      Task.say (.report (String.ofList (Text.decodeLossy err)))
      return ending

/-- What is done on the files of the baseline: the program runs, and its findings are read. -/
def scan (folder : Path) (comparison : Comparison) :
    Work σ (Ending × Option (List Fingerprint)) := do
  let line := String.intercalate " " (comparison.program :: comparison.args)
  Task.note .info ("running `" ++ line ++ "` against " ++ comparison.reference)
  let ending ← runProgram folder comparison
  match comparison.results? with
  | none => return (ending, none)
  | some results =>
      let disk ← Task.disk
      let findings ← settle .ofReading (Findings.load disk (folder.join results))
      let fingerprints ← settle .ofReading (findings.fingerprints disk folder)
      return (ending, some fingerprints)

/-- Writes findings to a file, or says them. -/
def deliver (folder : Path) (findings : Findings) (output? : Option Path) : Work σ Unit := do
  match output? with
  | none => sayLine findings.write
  | some output =>
      let file := folder.join output
      match (← Task.disk).writeText file findings.write with
      | .error error => throw (.ofSystem ("failed to write " ++ file.text) error)
      | .ok disk =>
          Task.setDisk disk
          sayLine ("Wrote " ++ toString findings.size ++ " new findings to " ++ file.text)

/-- Takes the findings of a baseline out of those of a document. -/
def filterHead (folder : Path) (comparison : Comparison) (known : List Fingerprint)
    (head : Path) : Work σ Unit := do
  let disk ← Task.disk
  let current ← settle .ofReading (Findings.load disk (folder.join head))
  let removal ← settle (fun stop => .ofReading stop.failure)
    (current.removal disk folder known)
  Task.note .info (toString removal.count ++ " of " ++ toString current.size ++
    " findings already present in " ++ comparison.reference)
  deliver folder removal.left comparison.output?

/-- Compares findings with those of a baseline. -/
def compareFindings (folder : Path) (runner : Git.Runner) (comparison : Comparison) :
    Work σ Unit := do
  let baseline ← (Baseline.ofReference runner comparison.reference).relabel .ofBaseline
  Git.History.announce runner comparison.reference
  let scanned? ← (baseline.runInside (some <$> (scan folder comparison).run)).relabel .ofBaseline
  match scanned? with
  | none => return ()
  | some scanned =>
      let (ending, known?) ← settle id scanned
      Task.note .info ("baseline command exited with " ++ ending.message)
      match known?, comparison.head? with
      | some known, some head => filterHead folder comparison known head
      | _, _ => return ()

/-!
## The whole program
-/

/-- The folder to work in, as an absolute path. -/
def workFolder (folder? : Option Path) : Work σ Path := do
  let disk ← Task.disk
  match folder? with
  | none => return Disk.pathOf disk.here
  | some folder =>
      settle (.ofSystem ("cannot access " ++ folder.text)) (disk.canonical folder)

/-- Does what was asked for. -/
def perform (invocation : Invocation) (environment : List (String × String)) :
    Work σ Unit := do
  let folder ← workFolder invocation.folder?
  let timeout? := environment.lookup Settings.timeoutVariable
  let found ← settle .ofSettings (Settings.ofFolder (← Task.disk) folder timeout?)
  let settings := { found with seconds := invocation.seconds?.getD found.seconds }
  match invocation.command with
  | .apply results trial showsChanges => applyFixes folder settings results trial showsChanges
  | .status reference => showStatus (settings.runner folder) reference
  | .log reference => Git.History.announce (settings.runner folder) reference
  | .compare comparison => compareFindings folder (settings.runner folder) comparison

/-- The texts of what was said; notes are shown up to a rank. -/
def texts (shown : Nat) (said : List Message) : String × String :=
  (String.join (said.map fun
    | .output text => text
    | _ => ""),
  String.join (said.map fun
    | .note level text => if Verbosity.rank level ≤ shown then level.line text else ""
    | .report text => text
    | .output _ => ""))

/-- How the program is used. -/
def usage : String :=
  "Usage: fixbase [OPTIONS] <COMMAND>\n\n" ++
    "Commands:\n" ++
    "  apply --results <FILE> [--dry-run] [--diff]\n" ++
    "  baseline status --ref <REF>\n" ++
    "  baseline log --ref <REF>\n" ++
    "  baseline run --ref <REF> [--results <FILE>] [--head <FILE>] [--output <FILE>] " ++
    "-- <COMMAND>...\n\n" ++
    "Options:\n" ++
    "  -C, --directory <FOLDER>\n" ++
    "  -v, --verbose\n" ++
    "      --git-timeout <SECONDS>\n"

/-- Runs the program with some arguments in an environment. -/
def run (args : List String) (environment : List (String × String)) (machine : Machine σ) :
    Exit × Machine σ :=
  match Invocation.ofArgs args with
  | .error .help => (⟨0, usage, ""⟩, machine)
  | .error .version => (⟨0, "fixbase 0.1.0\n", ""⟩, machine)
  | .error .misuse => (⟨2, "", usage⟩, machine)
  | .ok invocation =>
      let (result, machine) := (perform invocation environment).run.run machine
      let shown := Verbosity.ofText (environment.lookup "RUST_LOG")
      let (output, reports) := texts shown machine.said
      match result with
      | .ok () => (⟨0, output, reports⟩, machine)
      | .error complaint => (⟨complaint.code, output, reports ++ complaint.report⟩, machine)

end Command

end Remedy

import Remedy.Fix.Directive
import Remedy.Fix.Splice

/-!
# Passes

A pass goes through findings in their order and carries out their remedies, each on what the ones
before it have left.  A trial pass changes nothing: every remedy is worked out on the files as
they are, and its lines are shown.  A pass stops at the first remedy that fails; what has been
rewritten by then stays rewritten.
-/

namespace Remedy.Fix

/-- What a remedy would come to. -/
structure Preview where
  rule : String
  path : Path
  /-- The line on which the match begins, counted from one. -/
  line : Nat
  lines : List (List Char)
deriving DecidableEq

/-- Why a pass stops. -/
inductive Trouble where
  | fault (fault : Directive.Fault)
  /-- A text could not be put into a file. -/
  | literal (path : Path) (failure : Failure)
  /-- A substitution could not be made in a file. -/
  | substitution (path : Path) (pattern : String) (failure : Failure)

namespace Trouble

/-- The wording of a trouble. -/
def message : Trouble → String
  | .fault f => f.message
  | .literal path failure =>
      "unable to modify file " ++ path.text ++ ": " ++ failure.message
  | .substitution path pattern failure =>
      "unable to use regex to modify file " ++ path.text ++ " with fix-regex '" ++ pattern ++
        "': " ++ failure.message

/-- The failure behind a trouble, if a remedy failed. -/
def failure? : Trouble → Option Failure
  | .fault _ => none
  | .literal _ failure | .substitution _ _ failure => some failure

end Trouble

/-- How far a pass has come. -/
structure Pass where
  disk : Disk
  /-- How far the files have drifted, for those that a remedy was written to. -/
  drifts : List (Path × Drift)
  modified : PathSet
  previews : List Preview

/-- Where a pass stopped: why, and what it left. -/
structure Stop where
  trouble : Trouble
  disk : Disk

namespace Directive

/-- Says that a directive failed on a file. -/
def trouble (directive : Directive) (path : Path) (failure : Failure) : Trouble :=
  match directive with
  | .literal _ => .literal path failure
  | .substitution pattern _ _ => .substitution path (String.ofList pattern) failure

/-- What a directive makes of the text of a file. -/
def splice (directive : Directive) (text : List Char) (span : Span) : Except Failure Splice :=
  match directive with
  | .literal fix => Splice.literal text span fix
  | .substitution pattern template count =>
      match Pattern.compile? pattern with
      | none => .error .invalidPattern
      | some program => Splice.substitution text span (program.replace template count)

/-- The drift after a directive has been carried out on a span; none if it is too large. -/
def record? (directive : Directive) (drift : Drift) (span : Span) (delta : Int) : Option Drift :=
  match directive with
  | .literal fix => (drift.recordLiteral span delta fix.length).toOption
  | .substitution _ _ _ => (drift.recordLines delta).toOption

end Directive

/-- What carrying out a directive comes to. -/
structure Computed where
  /-- The text of the file before. -/
  before : String
  span : Span
  splice : Splice

/-- Works out what a directive for a finding comes to. -/
def compute (disk : Disk) (drift : Drift) (finding : Finding) (directive : Directive) :
    Except Failure Computed :=
  match disk.readText finding.path with
  | .error e => .error (.system e)
  | .ok before => do
      let span ← drift.locate finding.start finding.stop
      let splice ← directive.splice before.toList span
      return ⟨before, span, splice⟩

namespace Pass

/-- A pass that begins. -/
def begin (disk : Disk) : Pass :=
  ⟨disk, [], [], []⟩

/-- How far a file has drifted, if a remedy was written to it. -/
def drift? (pass : Pass) (path : Path) : Option Drift :=
  (pass.drifts.find? fun entry => entry.1.same path).map (·.2)

/-- Notes how far a file has drifted. -/
def setDrift (path : Path) (drift : Drift) : List (Path × Drift) → List (Path × Drift)
  | [] => [(path, drift)]
  | (p, d) :: rest =>
      if p.same path then (p, drift) :: rest else (p, d) :: setDrift path drift rest

/-- Shows what a directive for a finding would come to. -/
def preview (pass : Pass) (finding : Finding) (directive : Directive) : Except Trouble Pass :=
  match compute pass.disk (.ofLine finding.start.line) finding directive with
  | .error failure => .error (directive.trouble finding.path failure)
  | .ok computed =>
      let shown : Preview :=
        ⟨finding.rule, finding.path, finding.start.line, computed.splice.block⟩
      .ok { pass with previews := pass.previews ++ [shown] }

/-- Carries out a directive for a finding. -/
def carryOut (pass : Pass) (finding : Finding) (directive : Directive) : Except Stop Pass :=
  let path := finding.path
  let line := finding.start.line
  let drift := ((pass.drift? path).getD (.ofLine line)).enterLine line
  match compute pass.disk drift finding directive with
  | .error failure => .error ⟨directive.trouble path failure, pass.disk⟩
  | .ok computed =>
      let after := String.ofList computed.splice.text
      match (Rewrite.ofTexts path computed.before after).apply pass.disk with
      | .error failure => .error ⟨directive.trouble path (.rewrite failure), pass.disk⟩
      | .ok (disk, _) =>
          match directive.record? drift computed.span computed.splice.delta with
          | none => .error ⟨directive.trouble path .overflow, disk⟩
          | some drift =>
              .ok { pass with
                disk
                drifts := setDrift path drift pass.drifts
                modified := pass.modified.insert path }

/-- Goes on to a finding. -/
def step (trial : Bool) (pass : Pass) (finding : Finding) : Except Stop Pass :=
  match Directive.ofFinding finding with
  | .error fault => .error ⟨.fault fault, pass.disk⟩
  | .ok none => .ok pass
  | .ok (some directive) =>
      if trial then
        (pass.preview finding directive).mapError fun trouble => ⟨trouble, pass.disk⟩
      else
        pass.carryOut finding directive

/-- Goes through findings, rule by rule. -/
def run (trial : Bool) (findings : Findings) (disk : Disk) : Except Stop Pass :=
  findings.toList.foldlM (step trial) (begin disk)

/-- Says how many files a pass has modified. -/
def summary (pass : Pass) : String :=
  match pass.modified.length with
  | 0 => "no files modified."
  | 1 => "successfully modified 1 file."
  | n => "successfully modified " ++ toString n ++ " files."

end Pass

end Remedy.Fix

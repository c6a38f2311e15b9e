import Remedy.Digest
import Remedy.Finding.Document
import Remedy.Text.Utf8
import Remedy.Tree.Access

/-!
# Fingerprints

A fingerprint is what stays of a finding when its place in the file is left out: the rule, the
path and the text of its lines.  Two findings with equal fingerprints count as one, so that the
findings of an earlier state of the files can be taken out of those of a later one.
-/

namespace Remedy

/-- Why findings, or the lines that they are about, could not be read. -/
inductive ReadFailure where
  | document (path : Path) (error : SystemError)
  /-- The text is no document of findings. -/
  | malformed
  | lines (path : Path) (error : SystemError)
deriving DecidableEq

/-- The wording of a failure to read. -/
def ReadFailure.message : ReadFailure → String
  | .document path error =>
      "failed to read results from " ++ path.text ++ ": " ++ error.message
  | .malformed => "failed to parse results JSON: "
  | .lines path error =>
      "failed to read matched lines from " ++ path.text ++ ": " ++ error.message

/-- What a finding is recognised by. -/
structure Fingerprint where
  rule : String
  path : Path
  /-- The lines of the match with their newlines. -/
  lines : List (List Char)
  digest : UInt64
deriving DecidableEq

/-- Holds if two fingerprints are those of one finding. -/
def Fingerprint.same (a b : Fingerprint) : Bool :=
  a.rule == b.rule && a.path.same b.path && a.digest == b.digest && a.lines == b.lines

namespace Finding

/-- The lines of a content from `start` to `stop`, which are counted from one. -/
def linesWithin (content : Content) (start stop : Nat) : List (List Char) :=
  ((Text.terminatedLines 10 content.toBytes).take stop |>.drop (start - 1)).map
    Text.decodeLossy

/--
The lines of a match with their newlines, in a file below the folder `root`.  A match in an empty
file, whose lines are both zero, has none.
-/
def lines (finding : Finding) (disk : Disk) (root : Path) : Except ReadFailure (List (List Char)) :=
  if finding.start.line = 0 ∧ finding.stop.line = 0 then .ok []
  else
    match disk.resolve (root.join finding.path) with
    | .error e => .error (.lines finding.path e)
    | .ok (_, .file content) => .ok (linesWithin content finding.start.line finding.stop.line)
    | .ok _ =>
        if finding.stop.line = 0 then .ok [] else .error (.lines finding.path .isFolder)

/-- The fingerprint of a finding in the files as they are. -/
def fingerprint (finding : Finding) (disk : Disk) (root : Path) :
    Except ReadFailure Fingerprint := do
  let lines ← finding.lines disk root
  let digest := Digest.ofText (String.ofList (Text.join lines))
  return ⟨finding.rule, finding.path, lines, digest⟩

end Finding

namespace Findings

/-- Reads the findings of a document on disk. -/
def load (disk : Disk) (path : Path) : Except ReadFailure Findings :=
  match disk.readText path with
  | .error e => .error (.document path e)
  | .ok text =>
      match parse? text with
      | some findings => .ok findings
      | none => .error .malformed

/-- The fingerprints of all findings. -/
def fingerprints (findings : Findings) (disk : Disk) (root : Path) :
    Except ReadFailure (List Fingerprint) :=
  findings.toList.mapM fun finding => finding.fingerprint disk root

/-- How many findings of a list have one of some fingerprints, and those that have none. -/
def unmatched (disk : Disk) (root : Path) (baseline : List Fingerprint) :
    List Finding → Except ReadFailure (Nat × List Finding)
  | [] => .ok (0, [])
  | finding :: rest => do
      let fingerprint ← finding.fingerprint disk root
      let (count, kept) ← unmatched disk root baseline rest
      return if baseline.any (·.same fingerprint) then (count + 1, kept)
        else (count, finding :: kept)

/-- A removal that went through: how many findings it has taken out, and those it has left. -/
structure Removal where
  count : Nat
  left : Findings

/-- A removal that failed: why, and the findings it left. -/
structure RemovalStop where
  failure : ReadFailure
  left : Findings

/-- Takes the findings with some fingerprints out of groups, group by group, and counts them. -/
def unmatchedGroups (disk : Disk) (root : Path) (baseline : List Fingerprint) :
    List (String × List Finding) → Except RemovalStop (Nat × List (String × List Finding))
  | [] => .ok (0, [])
  | (rule, found) :: rest =>
      match unmatched disk root baseline found with
      | .error failure => .error ⟨failure, ⟨(rule, []) :: rest⟩⟩
      | .ok (count, kept) =>
          match unmatchedGroups disk root baseline rest with
          | .error stop => .error { stop with left := ⟨(rule, kept) :: stop.left.groups⟩ }
          | .ok (more, others) => .ok (count + more, (rule, kept) :: others)

/--
Takes out the findings that have one of some fingerprints, and the rules that are left without
findings.  If the lines of a finding cannot be read, the findings of its rule are all gone.
-/
def removal (findings : Findings) (disk : Disk) (root : Path)
    (baseline : List Fingerprint) : Except RemovalStop Removal :=
  (unmatchedGroups disk root baseline findings.groups).map fun (count, groups) =>
    ⟨count, ⟨groups.filter fun group => !group.2.isEmpty⟩⟩

/-- What is left when the findings that have one of some fingerprints are taken out. -/
def removeBaseline (findings : Findings) (disk : Disk) (root : Path)
    (baseline : List Fingerprint) : Except RemovalStop Findings :=
  (findings.removal disk root baseline).map (·.left)

end Findings

end Remedy

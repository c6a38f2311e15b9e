import Remedy.Proofs.Fix.Files

/-!
# Where a pass stops

A pass that writes stops at the first remedy that fails.  Until then it has done what a pass
through the findings before that one does, and the remedy that fails does nothing at all, not even
to its own file.  So it is whatever the reason, and also if the system refuses to write.
-/

namespace Remedy

namespace Findings

/-- The first groups, cut so that so many findings are left. -/
def takeGroups : List (String × List Finding) → Nat → List (String × List Finding)
  | [], _ => []
  | (rule, found) :: rest, count =>
      if count = 0 then []
      else (rule, found.take count) :: takeGroups rest (count - found.length)

/-- The first findings, so many of them. -/
def take (findings : Findings) (count : Nat) : Findings :=
  ⟨takeGroups findings.groups count⟩

end Findings

namespace Fix

open Outcome

/-!
## Passes with any writer
-/

/-- Carries out rewrites on a disk. -/
abbrev Writer :=
  Rewrite → Disk → Except Rewrite.Failure (Disk × Rewrite.Outcome)

/-- A writer that the system may refuse.  What it refuses is not written at all, and what it does
not is carried out. -/
def Writer.MayBeRefused (write : Writer) : Prop :=
  ∀ rewrite disk, write rewrite disk = rewrite.apply disk ∨
    ∃ error, write rewrite disk = .error (.system error)

namespace Pass

/-- Carries out a directive for a finding by means of a writer. -/
def carryOutBy (write : Writer) (pass : Pass) (finding : Finding) (directive : Directive) :
    Except Stop Pass :=
  let path := finding.path
  let line := finding.start.line
  let drift := ((pass.drift? path).getD (.ofLine line)).enterLine line
  match compute pass.disk drift finding directive with
  | .error failure => .error ⟨directive.trouble path failure, pass.disk⟩
  | .ok computed =>
      let after := String.ofList computed.splice.text
      match write (Rewrite.ofTexts path computed.before after) pass.disk with
      | .error failure => .error ⟨directive.trouble path (.rewrite failure), pass.disk⟩
      | .ok (disk, _) =>
          match directive.record? drift computed.span computed.splice.delta with
          | none => .error ⟨directive.trouble path .overflow, disk⟩
          | some drift =>
              .ok { pass with
                disk
                drifts := setDrift path drift pass.drifts
                modified := pass.modified.insert path }

/-- Goes on to a finding by means of a writer. -/
def stepBy (write : Writer) (pass : Pass) (finding : Finding) : Except Stop Pass :=
  match Directive.ofFinding finding with
  | .error fault => .error ⟨.fault fault, pass.disk⟩
  | .ok none => .ok pass
  | .ok (some directive) => pass.carryOutBy write finding directive

/-- Goes through findings, rule by rule, by means of a writer. -/
def runBy (write : Writer) (findings : Findings) (disk : Disk) : Except Stop Pass :=
  findings.toList.foldlM (stepBy write) (begin disk)

/-- A pass that writes is one by the writer that is never refused. -/
theorem runBy_apply (findings : Findings) (disk : Disk) :
    runBy Rewrite.apply findings disk = run false findings disk := rfl

theorem mayBeRefused_apply : Writer.MayBeRefused Rewrite.apply :=
  fun _ _ => .inl rfl

end Pass

/-!
## What working out a directive may fail for
-/

/-- A computation that does not fail because of a rewrite. -/
def Unwritten {α : Type} (result : Except Failure α) : Prop :=
  ∀ failure, result ≠ .error (.rewrite failure)

namespace Unwritten

variable {α β : Type}

theorem ok (a : α) : Unwritten (.ok a) :=
  fun _ h => nomatch h

theorem bind {result : Except Failure α} {next : α → Except Failure β} (h : Unwritten result)
    (hnext : ∀ a, Unwritten (next a)) : Unwritten (result >>= next) := by
  intro failure hfails
  cases result with
  | error e =>
      cases hfails
      exact h failure rfl
  | ok a => exact hnext a failure hfails

theorem move (place offset : Int) : Unwritten (Drift.move place offset) := by
  unfold Drift.move
  cases Offset.add? place (-1) with
  | none => exact fun _ h => nomatch h
  | some index =>
      dsimp only
      cases Offset.add? index offset with
      | none => exact fun _ h => nomatch h
      | some moved => exact .ok moved

theorem shift (value : Nat) (offset : Int) : Unwritten (Drift.shift value offset) :=
  move _ _

theorem toLine (line : Int) : Unwritten (Drift.toLine line) := by
  intro failure h
  unfold Drift.toLine at h
  split at h <;> cases h

theorem locate (drift : Drift) (start stop : Position) :
    Unwritten (drift.locate start stop) := by
  unfold Drift.locate
  refine .bind (.shift _ _) fun _ => .bind (.toLine _) fun startLine => ?_
  refine .bind (.shift _ _) fun _ => .bind (.toLine _) fun stopLine => ?_
  dsimp only
  split
  · exact fun _ h => nomatch h
  · refine .bind (.shift _ _) fun startCol => .bind (.shift _ _) fun stopCol => ?_
    split
    · exact fun _ h => nomatch h
    · split
      · exact fun _ h => nomatch h
      · exact .ok _

theorem lineAt (lines : List (List Char)) (index : Nat) :
    Unwritten (Splice.lineAt lines index) := by
  unfold Splice.lineAt
  split
  · exact .ok _
  · intro failure h
    have hnoLine := Except.error.inj h
    unfold Splice.noLine at hnoLine
    cases hline : Offset.add? (Offset.ofNat index) 1 with
    | none =>
        rw [hline] at hnoLine
        cases hnoLine
    | some line =>
        rw [hline] at hnoLine
        cases hnoLine

theorem splice (directive : Directive) (text : List Char) (span : Span) :
    Unwritten (directive.splice text span) := by
  cases directive with
  | literal fix =>
      exact .bind (.lineAt _ _) fun _ => .bind (.lineAt _ _) fun _ => .ok _
  | substitution pattern template count =>
      unfold Directive.splice
      dsimp only
      split
      · exact fun _ h => nomatch h
      · exact .bind (.lineAt _ _) fun _ => .ok _

theorem compute (disk : Disk) (drift : Drift) (finding : Finding) (directive : Directive) :
    Unwritten (compute disk drift finding directive) := by
  unfold Fix.compute
  split
  · exact fun _ h => nomatch h
  · exact .bind (.locate _ _ _) fun _ => .bind (.splice _ _ _) fun _ => .ok _

end Unwritten

namespace Pass

/-- What is worked out for a file holds the text that stands there. -/
theorem exists_resolve_before {disk : Disk} {drift : Drift} {finding : Finding}
    {directive : Directive} {computed : Computed}
    (hcompute : compute disk drift finding directive = .ok computed) :
    ∃ location, disk.resolve finding.path = .ok (location, .file (.text computed.before)) := by
  obtain ⟨location, text, hresolve⟩ := exists_resolve_of_compute hcompute
  refine ⟨location, ?_⟩
  unfold compute Disk.readText Disk.readContent at hcompute
  rw [hresolve] at hcompute
  simp only [bind_eq_ok_iff, pure_eq_ok] at hcompute
  obtain ⟨span, -, splice, -, heq⟩ := hcompute
  rw [hresolve, ← Except.ok.inj heq]

end Pass

/-- The failure behind a trouble with a directive is the one that it is about. -/
theorem Directive.failure?_trouble (directive : Directive) (path : Path) (failure : Failure) :
    (directive.trouble path failure).failure? = some failure := by
  cases directive <;> rfl

/-!
## The remedy that fails
-/

/-- A stop that leaves the disk of a pass as it was, and does not say that a file has changed. -/
structure Spares (pass : Pass) (stop : Stop) : Prop where
  disk : stop.disk = pass.disk
  unchanged : ∀ path, stop.trouble.failure? ≠ some (.rewrite (.changed path))

namespace Pass

variable {write : Writer}

/-- A writer to which the system refuses one file. -/
def refusing (path : Path) : Writer := fun rewrite disk =>
  if rewrite.file = path then .error (.system .notFound) else rewrite.apply disk

end Pass

end Fix

end Remedy

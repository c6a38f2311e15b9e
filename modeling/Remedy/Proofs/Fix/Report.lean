import Remedy.Proofs.Fix.Failing
import Remedy.Proofs.Fix.Independence
import Remedy.Proofs.Tree.Rewriting

/-!
# What a pass reports

Every remedy that a pass carries out is a rewrite of the file that it is for.  The rewrite has an
effect only if the remedy makes another text of the file.  The pass notes the path either way.  So
what it reports is the files for which it was asked to do something, and these are the files that
were rewritten only if for each of them at least one remedy had an effect.
-/

namespace Remedy

namespace Fix

open Outcome

/-- A rewrite that a pass makes. -/
structure Revision where
  path : Path
  /-- The text from which the new one was computed. -/
  before : String
  after : String
  outcome : Rewrite.Outcome
deriving DecidableEq

/-- Holds if the file was written. -/
def Revision.isEffective (revision : Revision) : Bool :=
  match revision.outcome with
  | .applied _ => true
  | .alreadyApplied => false

namespace Pass

/-- The rewrite that a pass makes when it goes on to a finding, if it makes one. -/
def revision? (pass : Pass) (finding : Finding) : Option Revision := do
  let path := finding.path
  let line := finding.start.line
  let drift := ((pass.drift? path).getD (.ofLine line)).enterLine line
  let job ← Job.ofFinding? finding
  let computed ← (compute pass.disk drift finding job.directive).toOption
  let after := String.ofList computed.splice.text
  let (_, outcome) ← ((Rewrite.ofTexts path computed.before after).apply pass.disk).toOption
  return ⟨path, computed.before, after, outcome⟩

/-- The rewrites that a pass makes when it goes through findings, in their order. -/
def history (pass : Pass) : List Finding → List Revision
  | [] => []
  | finding :: rest =>
      (pass.revision? finding).toList ++
        match step false pass finding with
        | .ok next => next.history rest
        | .error _ => []

/-- A pass makes a rewrite, and notes the path. -/
structure Revises (pass after : Pass) (finding : Finding) (revision : Revision) : Prop where
  path : revision.path = finding.path
  reads : pass.disk.readText revision.path = .ok revision.before
  apply : (Rewrite.ofTexts revision.path revision.before revision.after).apply pass.disk =
    .ok (after.disk, revision.outcome)
  modified : after.modified = pass.modified.insert revision.path

/-- A rewrite has an effect if it puts another text in the place of the one that was read. -/
theorem Revises.isEffective_iff {pass after : Pass} {finding : Finding} {revision : Revision}
    (h : pass.Revises after finding revision) :
    revision.isEffective = true ↔ revision.before ≠ revision.after := by
  obtain ⟨location, hresolve⟩ := Disk.readText_eq_ok_iff.mp h.reads
  have happly := h.apply
  generalize hrewrite : Rewrite.ofTexts revision.path revision.before revision.after = rewrite
    at happly
  have hfile : revision.path = rewrite.file := by rw [← hrewrite]; rfl
  have htext : rewrite.text = revision.after := by rw [← hrewrite]; rfl
  rw [hfile] at hresolve
  rw [Rewrite.apply_of_resolve hresolve, htext] at happly
  unfold Revision.isEffective
  split at happly
  · rename_i hsame
    rw [← (Prod.mk.inj (Except.ok.inj happly)).2]
    exact iff_of_false Bool.false_ne_true fun hne => hne hsame
  · rename_i hne
    split at happly
    · rw [← (Prod.mk.inj (Except.ok.inj happly)).2]
      exact iff_of_true rfl hne
    · cases happly

/-- A pass that goes on to a finding makes a rewrite if a remedy is asked for. -/
theorem exists_revises_of_step {pass after : Pass} {finding : Finding}
    (h : step false pass finding = .ok after) :
    (Job.ofFinding? finding = none ∧ pass.revision? finding = none ∧ after = pass) ∨
      ∃ job revision, Job.ofFinding? finding = some job ∧
        pass.revision? finding = some revision ∧ pass.Revises after finding revision := by
  obtain ⟨-, hact⟩ := step_eq_ok_iff.mp h
  cases hjob : Job.ofFinding? finding with
  | none =>
      rw [hjob] at hact
      refine .inl ⟨rfl, ?_, (Except.ok.inj hact).symm⟩
      rw [revision?, hjob]
      rfl
  | some job =>
      obtain ⟨rfl, -⟩ := Job.ofFinding?_eq_some_iff.mp hjob
      rw [hjob, Option.toList_some, List.foldlM_cons, bind_eq_ok_iff] at hact
      obtain ⟨next, hcarry, hlast⟩ := hact
      obtain rfl := Except.ok.inj hlast
      change pass.carryOut job.finding job.directive = .ok next at hcarry
      -- of the three things that carrying out may fail at, only the last one is behind the rewrite
      unfold carryOut at hcarry
      dsimp only at hcarry
      split at hcarry
      · cases hcarry
      · rename_i computed hcompute
        split at hcarry
        · cases hcarry
        · rename_i disk outcome happly
          split at hcarry
          · cases hcarry
          · cases hcarry
            refine .inr ⟨job, ⟨job.finding.path, computed.before,
              String.ofList computed.splice.text, outcome⟩, rfl, ?_, rfl, ?_, happly, rfl⟩
            · simp [revision?, hjob, hcompute, happly, Except.toOption]
            · exact Disk.readText_eq_ok_iff.mpr (exists_resolve_before hcompute)

/-- The history of a pass that goes through: one rewrite for each job, made in its place. -/
structure Accounts (pass after : Pass) (findings : List Finding) : Prop where
  paths : (pass.history findings).map (·.path) =
    (findings.filterMap Job.ofFinding?).map (·.finding.path)
  modified : after.modified = PathSet.gather ((pass.history findings).map (·.path)) pass.modified
  isEffective_iff : ∀ revision ∈ pass.history findings,
    revision.isEffective = true ↔ revision.before ≠ revision.after

theorem accounts_of_foldlM {pass after : Pass} {findings : List Finding}
    (h : findings.foldlM (step false) pass = .ok after) : pass.Accounts after findings := by
  induction findings generalizing pass with
  | nil =>
      obtain rfl := Except.ok.inj h
      exact ⟨rfl, rfl, List.forall_mem_nil _⟩
  | cons finding rest ih =>
      rw [List.foldlM_cons, bind_eq_ok_iff] at h
      obtain ⟨next, hstep, hrest⟩ := h
      obtain ⟨hpaths, hmodified, heffective⟩ := ih hrest
      rcases exists_revises_of_step hstep with
        ⟨hjob, hnone, rfl⟩ | ⟨job, revision, hjob, hrevision, hrevises⟩
      · have hhistory : next.history (finding :: rest) = next.history rest := by
          rw [history, hnone, hstep]
          rfl
        refine ⟨?_, ?_, ?_⟩
        · rw [hhistory, hpaths, List.filterMap_cons_none hjob]
        · rw [hhistory, hmodified]
        · rw [hhistory]
          exact heffective
      · have hhistory : pass.history (finding :: rest) = revision :: next.history rest := by
          rw [history, hrevision, hstep]
          rfl
        obtain ⟨hfinding, -⟩ := Job.ofFinding?_eq_some_iff.mp hjob
        refine ⟨?_, ?_, ?_⟩
        · rw [hhistory, List.filterMap_cons_some hjob, List.map_cons, List.map_cons, hpaths,
            hrevises.path, hfinding]
        · rw [hhistory, hmodified, hrevises.modified]
          rfl
        · rw [hhistory]
          exact List.forall_mem_cons.mpr ⟨hrevises.isEffective_iff, heffective⟩

/-!
## The report
-/

/-- A pass through findings writes the file at a path at least once. -/
def Rewrites (findings : Findings) (disk : Disk) (path : Path) : Prop :=
  ∃ revision ∈ (begin disk).history findings.toList,
    revision.path.same path = true ∧ revision.isEffective = true

instance (findings : Findings) (disk : Disk) (path : Path) :
    Decidable (Rewrites findings disk path) :=
  inferInstanceAs (Decidable (∃ _ ∈ _, _))

/-- A pass reports the files that it has written, each of them once. -/
structure ReportsRewritten (findings : Findings) (disk : Disk) (pass : Pass) : Prop where
  ascending : PathSet.Ascending pass.modified
  holds_iff : ∀ path, PathSet.Holds pass.modified path ↔ Rewrites findings disk path
  /-- A file is written when a remedy has made another text of it. -/
  isEffective_iff : ∀ revision ∈ (begin disk).history findings.toList,
    revision.isEffective = true ↔ revision.before ≠ revision.after

section Report

variable {findings : Findings} {disk : Disk} {pass : Pass}

/-- If nothing is wrong with it, a finding that carries a remedy asks for a job. -/
theorem exists_job_of_hasRemedy {finding : Finding} (h : Job.Faultless finding)
    (hremedy : finding.hasRemedy = true) : ∃ job, Job.ofFinding? finding = some job := by
  obtain ⟨directive?, hdirective⟩ := h
  cases directive? with
  | some directive =>
      exact ⟨⟨finding, directive⟩, Job.ofFinding?_eq_some_iff.mpr ⟨rfl, hdirective⟩⟩
  | none =>
      unfold Directive.ofFinding at hdirective
      split at hdirective
      · cases hdirective
      · rename_i hliteral
        split at hdirective
        · rename_i request _
          cases hchecked : Directive.ofSubstitution finding.rule request with
          | error fault => rw [hchecked] at hdirective; cases hdirective
          | ok directive => rw [hchecked] at hdirective; cases hdirective
        · rename_i hsubstitution
          simp [Finding.hasRemedy, hliteral, hsubstitution] at hremedy

/-- What is reported is what was asked for. -/
theorem holds_modified_iff (h : run false findings disk = .ok pass) (path : Path) :
    PathSet.Holds pass.modified path ↔
      ∃ finding ∈ findings.toList, finding.hasRemedy = true ∧ finding.path.same path = true := by
  obtain ⟨hpaths, hmodified, -⟩ := accounts_of_foldlM h
  have hsound := (run_eq_ok_iff.mp h).1
  rw [hmodified, hpaths, PathSet.holds_gather_iff]
  have hempty : ¬PathSet.Holds (begin disk).modified path := by simp [PathSet.Holds, begin]
  rw [or_iff_left hempty]
  constructor
  · rintro ⟨spelt, hspelt, hsame⟩
    obtain ⟨job, hjob, rfl⟩ := List.mem_map.mp hspelt
    obtain ⟨hmem, hremedy⟩ := Job.mem_of_mem_ofFindings hjob
    exact ⟨job.finding, hmem, hremedy, hsame⟩
  · rintro ⟨finding, hmem, hremedy, hsame⟩
    obtain ⟨job, hjob⟩ := exists_job_of_hasRemedy (hsound finding hmem) hremedy
    obtain ⟨hfinding, -⟩ := Job.ofFinding?_eq_some_iff.mp hjob
    refine ⟨finding.path, List.mem_map.mpr ⟨job, ?_, by rw [hfinding]⟩, hsame⟩
    exact List.mem_filterMap.mpr ⟨finding, hmem, hjob⟩

/-- A file is written only if that was asked for. -/
theorem holds_modified_of_rewrites (h : run false findings disk = .ok pass) {path : Path}
    (hrewrites : Rewrites findings disk path) : PathSet.Holds pass.modified path := by
  obtain ⟨hpaths, hmodified, -⟩ := accounts_of_foldlM h
  obtain ⟨revision, hmem, hsame, -⟩ := hrewrites
  rw [hmodified]
  exact PathSet.holds_gather_iff.mpr
    (.inl ⟨revision.path, List.mem_map.mpr ⟨revision, hmem, rfl⟩, hsame⟩)

theorem Rewrites.of_same {path other : Path} (hsame : path.same other = true)
    (h : Rewrites findings disk path) : Rewrites findings disk other := by
  obtain ⟨revision, hmem, hspelt, heffective⟩ := h
  refine ⟨revision, hmem, ?_, heffective⟩
  rw [Path.same_iff] at hspelt hsame ⊢
  rw [hspelt, hsame]

/--
A pass that goes through reports the files that it has written just if, of the remedies for each
file, at least one has made another text of it.
-/
theorem reportsRewritten_iff (h : run false findings disk = .ok pass) :
    ReportsRewritten findings disk pass ↔
      ∀ finding ∈ findings.toList, finding.hasRemedy = true →
        Rewrites findings disk finding.path := by
  constructor
  · rintro ⟨-, hholds, -⟩ finding hmem hremedy
    rw [← hholds, holds_modified_iff h]
    exact ⟨finding, hmem, hremedy, Path.same_iff.mpr rfl⟩
  · intro hrewrites
    have haccounts := accounts_of_foldlM h
    refine ⟨?_, fun path => ⟨fun hholds => ?_, holds_modified_of_rewrites h⟩,
      haccounts.isEffective_iff⟩
    · rw [haccounts.modified]
      exact PathSet.ascending_gather .nil _
    · obtain ⟨finding, hmem, hremedy, hsame⟩ := (holds_modified_iff h path).mp hholds
      exact (hrewrites finding hmem hremedy).of_same hsame

/-- Three files: the first one is written by its second remedy only, and the last one not at all. -/
def writtenLate : Findings × Disk :=
  (.ofList [.ofFix "r" "a.txt" (1, 1) (1, 4) "one", .ofFix "r" "b.txt" (1, 1) (1, 4) "2",
      .ofPattern "s" "a.txt" (1, 1) (1, 4) "o" "u",
      ⟨"s", ⟨"c.txt"⟩, ⟨1, 1, 0⟩, ⟨1, 2, 0⟩, "", none, none⟩],
    ⟨⟨[(["a.txt"], .file (.text "one\n")), (["b.txt"], .file (.text "two\n")),
      (["c.txt"], .file (.text "three\n"))]⟩, []⟩)

theorem reportsRewritten_iff_written_late :
    ∃ pass, run false writtenLate.1 writtenLate.2 = .ok pass ∧
      pass.modified = [⟨"a.txt"⟩, ⟨"b.txt"⟩] ∧
      ReportsRewritten writtenLate.1 writtenLate.2 pass := by
  have hmodified : (run false writtenLate.1 writtenLate.2).toOption.map (·.modified) =
      some [⟨"a.txt"⟩, ⟨"b.txt"⟩] := by decide +kernel
  obtain ⟨pass, hpass, hlisted⟩ := Option.map_eq_some_iff.mp hmodified
  have hrun := toOption_eq_some_iff.mp hpass
  exact ⟨pass, hrun, hlisted, (reportsRewritten_iff hrun).mpr (by decide +kernel)⟩

/-- A remedy that makes the same text of its file. -/
def idle : Findings × Disk :=
  (.ofList [.ofFix "r" "a.txt" (1, 1) (1, 4) "foo"], .ofFile "a.txt" "foo\n")

/-- A file that no remedy has changed is reported all the same. -/
theorem not_forall_reportsRewritten :
    ¬∀ findings disk pass, run false findings disk = .ok pass →
      ReportsRewritten findings disk pass := by
  intro h
  have hruns : (run false idle.1 idle.2).toOption.isSome = true := by decide +kernel
  obtain ⟨pass, hpass⟩ := Option.isSome_iff_exists.mp hruns
  have hrun := toOption_eq_some_iff.mp hpass
  have hreported : PathSet.Holds pass.modified ⟨"a.txt"⟩ :=
    (holds_modified_iff hrun _).mpr (by decide +kernel)
  have hwritten := ((h idle.1 idle.2 pass hrun).holds_iff ⟨"a.txt"⟩).mp hreported
  exact absurd hwritten (by decide +kernel)

end Report

end Pass

end Fix

end Remedy

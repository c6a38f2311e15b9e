import Remedy.Command.Run
import Remedy.Proofs.Baseline.Steps
import Remedy.Proofs.Finding.Removal
import Remedy.Proofs.Tree.Reading

/-!
# Comparing findings with those of a baseline

A comparison looks at the same paths at two moments: at what the program has left in the files of
the baseline, and at what is there when the swap was restored.  What it gives out is a document of
the findings of the second moment that do not recur from the first.
-/

namespace Remedy

variable {σ : Type}

/-- Work that is done inside a swap is done between entering it and restoring it. -/
theorem Baseline.runInside_eq_ok_iff {baseline : Baseline} {ε α : Type} {work : Task σ ε α}
    {machine after : Machine σ} {result? : Option (Except ε α)} :
    (baseline.runInside (some <$> work.run)).runOn machine = (.ok result?, after) ↔
      ∃ swap entered worked result, baseline.enter.runOn machine = (.ok swap, entered) ∧
        work.runOn entered = (result, worked) ∧
        (baseline.restore swap).runOn worked = (.ok (), after) ∧ result? = some result := by
  rcases henter : baseline.enter.runOn machine with ⟨entering, entered⟩
  cases entering with
  | error trouble =>
      rw [runOn_runInside_of_error henter]
      simp
  | ok swap =>
      rw [runOn_runInside_of_ok henter]
      rcases hwork : work.runOn entered with ⟨result, worked⟩
      have hrun : (some <$> work.run).run entered = (some result, worked) := by
        rw [StateT.run_map]
        exact congrArg (Prod.map some id) hwork
      rw [hrun]
      dsimp only
      constructor
      · intro h
        rcases hrestore : (baseline.restore swap).runOn worked with ⟨restoring, restored⟩
        rw [hrestore] at h
        cases restoring with
        | error trouble => cases h
        | ok done =>
            cases h
            exact ⟨swap, entered, worked, result, rfl, hwork, hrestore, rfl⟩
      · rintro ⟨_, _, _, _, hentered, hworked, hrestored, rfl⟩
        cases hentered
        cases hwork.symm.trans hworked
        rw [hrestored]

namespace Command

/-!
## Steps
-/

@[simp] theorem runOn_settle {ε α : Type} (complain : ε → Complaint) (result : Except ε α)
    (machine : Machine σ) :
    (settle complain result : Work σ α).runOn machine = (result.mapError complain, machine) := rfl

/-- What comes of settling a computation that has succeeded. -/
theorem settle_eq_ok_iff {ε α : Type} {complain : ε → Complaint} {result : Except ε α}
    {machine after : Machine σ} {a : α} :
    (settle complain result : Work σ α).runOn machine = (.ok a, after) ↔
      result = .ok a ∧ machine = after := by
  rw [runOn_settle]
  cases result <;> simp

/-- Where a document is given out: in the file that it was to be written to, or said last. -/
def GivesOut (folder : Path) (output? : Option Path) (machine : Machine σ)
    (document : String) : Prop :=
  match output? with
  | none => machine.said.getLast? = some (.output (document ++ "\n"))
  | some output => machine.disk.readText (folder.join output) = .ok document

/-- Findings that were delivered are given out as their document. -/
theorem givesOut_of_deliver {folder : Path} {findings : Findings} {output? : Option Path}
    {machine after : Machine σ}
    (h : (deliver folder findings output?).runOn machine = (.ok (), after)) :
    GivesOut folder output? after findings.write := by
  cases output? with
  | none =>
      cases h
      exact List.getLast?_concat
  | some output =>
      obtain ⟨disk, same, hdisk, hrest⟩ := Task.bind_eq_ok_iff.mp h
      rw [Task.runOn_disk] at hdisk
      cases hdisk
      split at hrest
      · cases hrest
      · rename_i written hwrite
        obtain ⟨_, _, hset, hsay⟩ := Task.bind_eq_ok_iff.mp hrest
        cases hset
        cases hsay
        exact Disk.readText_of_writeText hwrite

/-- The findings of a document are read and their fingerprints taken behind the program. -/
theorem scan_eq_ok {folder results : Path} {comparison : Comparison}
    (hresults : comparison.results? = some results) {machine after : Machine σ}
    {scanned : Ending × Option (List Fingerprint)}
    (h : (scan folder comparison).runOn machine = (.ok scanned, after)) :
    ∃ remark ending known fingerprints,
      (runProgram folder comparison).runOn (machine.say remark) = (.ok ending, after) ∧
        Findings.load after.disk (folder.join results) = .ok known ∧
        known.fingerprints after.disk folder = .ok fingerprints ∧
        scanned = (ending, some fingerprints) := by
  unfold scan at h
  simp only [hresults, Task.bind_eq_ok_iff, Task.runOn_note, Task.runOn_disk,
    settle_eq_ok_iff] at h
  obtain ⟨_, _, hnote, ending, ran, hrun, _, _, hdisk, known, _, ⟨hload, rfl⟩, fingerprints, _,
    ⟨hfingerprints, rfl⟩, hend⟩ := h
  cases hnote
  cases hdisk
  cases hend
  exact ⟨_, ending, known, fingerprints, hrun, hload, hfingerprints, rfl⟩

/-- What is left of a document that was filtered is given out. -/
theorem filterHead_eq_ok {folder head : Path} {comparison : Comparison}
    {fingerprints : List Fingerprint} {machine after : Machine σ}
    (h : (filterHead folder comparison fingerprints head).runOn machine = (.ok (), after)) :
    ∃ current left, Findings.load machine.disk (folder.join head) = .ok current ∧
      current.removeBaseline machine.disk folder fingerprints = .ok left ∧
      GivesOut folder comparison.output? after left.write := by
  unfold filterHead at h
  simp only [Task.bind_eq_ok_iff, Task.runOn_note, Task.runOn_disk, settle_eq_ok_iff] at h
  obtain ⟨_, _, hdisk, current, _, ⟨hload, rfl⟩, removal, _, ⟨hremoval, rfl⟩, _, _, hnote,
    hdeliver⟩ := h
  cases hdisk
  cases hnote
  have hremove : current.removeBaseline machine.disk folder fingerprints = .ok removal.left := by
    rw [Findings.removeBaseline, hremoval]
    rfl
  exact ⟨current, removal.left, hload, hremove, givesOut_of_deliver hdeliver⟩

/-!
## Whole comparisons
-/

/-- The machines that a comparison passes, each left by a step that succeeds on the one before. -/
structure Stages (folder : Path) (runner : Git.Runner) (comparison : Comparison)
    (start : Machine σ) where
  {baseline : Baseline}
  {swap : Baseline.Swap}
  {remark : Message}
  {ending : Ending}
  {ready announced entered : Machine σ}
  /-- The machine that the program leaves, among the files of the baseline. -/
  scanned : Machine σ
  /-- The machine that the restoration leaves. -/
  restored : Machine σ
  make : (Baseline.ofReference runner comparison.reference).runOn start = (.ok baseline, ready)
  announce : (Git.History.announce runner comparison.reference : Work σ Unit).runOn ready =
    (.ok (), announced)
  enter : baseline.enter.runOn announced = (.ok swap, entered)
  scan : (runProgram folder comparison).runOn (entered.say remark) = (.ok ending, scanned)
  restore : (baseline.restore swap).runOn scanned = (.ok (), restored)

/--
The findings of the baseline, and their lines, are read from the files as the program has left them,
and those of the head from the files as the restoration has left them.  What is given out is read as
just the findings of the head that do not recur, in their order, if no count has a double in it.
-/
def FiltersHead (folder : Path) (runner : Git.Runner) (comparison : Comparison)
    (results head : Path) (start after : Machine σ) : Prop :=
  ∃ (stages : Stages folder runner comparison start) (known current : Findings)
    (document : String),
    Findings.load stages.scanned.disk (folder.join results) = .ok known ∧
    Findings.Readable stages.scanned.disk folder known.toList ∧
    Findings.load stages.restored.disk (folder.join head) = .ok current ∧
    Findings.Readable stages.restored.disk folder current.toList ∧
    GivesOut folder comparison.output? after document ∧
    ((∀ finding ∈ current.toList, finding.Exact) →
      ∃ new, Findings.parse? document = some new ∧
        new.toList = current.toList.filter fun finding => !known.toList.any fun old =>
          old.recurs stages.scanned.disk stages.restored.disk folder finding)

/-- A comparison that goes through with two documents takes out of the second what recurs. -/
theorem filtersHead_of_compareFindings {folder : Path} {runner : Git.Runner}
    {comparison : Comparison} {results head : Path} {start after : Machine σ}
    (hresults : comparison.results? = some results) (hhead : comparison.head? = some head)
    (h : (compareFindings folder runner comparison).runOn start = (.ok (), after)) :
    FiltersHead folder runner comparison results head start after := by
  unfold compareFindings at h
  simp only [Task.bind_eq_ok_iff, Task.relabel_eq_ok_iff, Baseline.runInside_eq_ok_iff] at h
  obtain ⟨baseline, ready, hmake, _, announced, hannounce, _, restored,
    ⟨swap, entered, scanned, result, henter, hscan, hrestore, rfl⟩, hrest⟩ := h
  -- the work inside the swap has succeeded, since the comparison goes on behind it
  obtain ⟨found, _, hfound, hbehind⟩ := Task.bind_eq_ok_iff.mp hrest
  obtain ⟨rfl, rfl⟩ := settle_eq_ok_iff.mp hfound
  obtain ⟨remark, ending, known, fingerprints, hrun, hknown, hfingerprints, rfl⟩ :=
    scan_eq_ok hresults hscan
  obtain ⟨_, _, hnote, hfilter⟩ := Task.bind_eq_ok_iff.mp hbehind
  rw [Task.runOn_note] at hnote
  cases hnote
  rw [hhead] at hfilter
  obtain ⟨current, left, hcurrent, hremove, hgiven⟩ := filterHead_eq_ok hfilter
  obtain ⟨hreadable, hleft, -⟩ := Findings.removeBaseline_eq_ok hremove
  refine ⟨⟨scanned, restored, hmake, hannounce, henter, hrun, hrestore⟩, known, current, left.write,
    hknown, (Findings.mapM_fingerprint_eq_ok hfingerprints).1, hcurrent, hreadable, hgiven,
    fun hexact => ⟨left, Findings.parse?_write_of_removeBaseline hcurrent hremove hexact, ?_⟩⟩
  rw [hleft]
  exact Findings.filter_isKnown hfingerprints hreadable

/-- Of two findings on lines of a file one was there before, then on the first line. -/
def upward : Comparison where
  reference := "main"
  results? := some ⟨"old.json"⟩
  head? := some ⟨"head.json"⟩
  output? := some ⟨"new.json"⟩
  program := "scan"
  args := []

/-- A file with the given text at the top. -/
def fileAtTop (name text : String) : Path × Option Node :=
  (⟨name⟩, some (.file (.text text)))

/-- A document with findings of one rule on some lines of the file. -/
def onLines (lines : List String) : String :=
  "\x7b\"results\":[" ++ String.intercalate "," (lines.map fun line =>
    "[\"r\",\"a.txt\",[" ++ line ++ ",1],[" ++ line ++ ",4]]") ++ "]\x7d"

/-- Git swaps the file, the program writes its findings, and git brings the file back. -/
def swapping : Machine Script where
  programs := .scripted
  memory := ⟨["git", "scan"], [], [.silent, .silent, .silent, .silent, Baseline.exiting 1 "",
    .silent, Baseline.exiting 0 "T\n", ⟨some (.exited 0), [], [], [fileAtTop "a.txt" "old\n"]⟩,
    ⟨some (.exited 1), [], [], [fileAtTop "old.json" (onLines ["1"])]⟩,
    ⟨some (.exited 0), [], [], [fileAtTop "a.txt" "new\nold\n"]⟩]⟩
  disk := ⟨⟨[(["a.txt"], .file (.text "new\nold\n")),
    (["head.json"], .file (.text (onLines ["1", "2"])))]⟩, []⟩
  calls := []
  said := []

theorem filtersHead_of_compareFindings_upward :
    ∃ after, (compareFindings ⟨"/"⟩ ⟨"git", ⟨"/"⟩, 1000⟩ upward).runOn swapping = (.ok (), after) ∧
      after.said.getLast? = some (.output "Wrote 1 new findings to /new.json\n") ∧
      FiltersHead ⟨"/"⟩ ⟨"git", ⟨"/"⟩, 1000⟩ upward ⟨"old.json"⟩ ⟨"head.json"⟩ swapping after := by
  have hrun : ((compareFindings ⟨"/"⟩ ⟨"git", ⟨"/"⟩, 1000⟩ upward).runOn swapping).1.toOption.isSome
      = true := by
    decide +kernel
  have hsaid : ((compareFindings ⟨"/"⟩ ⟨"git", ⟨"/"⟩, 1000⟩ upward).runOn
      swapping).2.said.getLast? = some (.output "Wrote 1 new findings to /new.json\n") := by
    decide +kernel
  obtain ⟨_, after, hafter⟩ := Task.exists_runOn_eq_ok hrun
  rw [hafter] at hsaid
  exact ⟨after, hafter, hsaid, filtersHead_of_compareFindings rfl rfl hafter⟩

end Command

end Remedy

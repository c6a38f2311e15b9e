import Remedy.Proofs.Fix.Draft
import Remedy.Proofs.Fix.Exactness

/-!
# How many lines a fix gives a file

A splice counts the lines that it puts together; the next fix cuts the text that they make into
lines again.  The two counts agree as long as there is a line at all.  Where a directive leaves
nothing of a text there are no lines to put together, but the empty text is one line: the count is
one short, and the drift of the file falls behind by one each time that this happens.
-/

namespace Remedy.Fix

open Outcome

/--
The text of a splice is cut into the lines that were put together, and there are as many more of
them than before as the splice says.
-/
structure Splice.CountsLines (splice : Splice) (text : List Char) (span : Span) : Prop where
  split : Text.split splice.text = splice.lines text span
  length : ((Text.split splice.text).length : Int) = (Text.split text).length + splice.delta

namespace Directive

/-- Holds if a directive leaves nothing of a text: it makes none, and its span covers all lines. -/
def Empties (directive : Directive) (text : List Char) (span : Span) : Prop :=
  directive.made? (Text.split text) span = some [] ∧ span.startLine = 0 ∧
    (Text.split text).length ≤ span.stopLine + 1

instance (directive : Directive) (text : List Char) (span : Span) :
    Decidable (directive.Empties text span) :=
  inferInstanceAs (Decidable (_ ∧ _))

variable {directive : Directive} {text : List Char} {span : Span} {splice : Splice}

/-- A splice puts no lines together just if nothing is left of the text. -/
theorem lines_eq_nil_iff (hsplice : directive.splice text span = .ok splice) :
    splice.lines text span = [] ↔ directive.Empties text span := by
  obtain ⟨made, hmade, hblock, -⟩ := exists_made?_of_splice hsplice
  have hnone : splice.block = [] ↔ made = [] := by
    rw [hblock, Text.breakLines_eq_nil_iff]
  unfold Splice.lines Empties
  rw [List.append_eq_nil_iff, List.append_eq_nil_iff, and_right_comm,
    take_eq_nil_and_drop_eq_nil_iff, and_comm, hnone, hmade, Option.some.injEq]

/-- No line that a splice puts together contains a newline. -/
theorem newline_not_mem_of_mem_lines (hsplice : directive.splice text span = .ok splice) :
    ∀ line ∈ splice.lines text span, '\n' ∉ line := by
  obtain ⟨made, -, hblock, -⟩ := exists_made?_of_splice hsplice
  intro line hline
  rcases List.mem_append.mp hline with hfront | hbehind
  · rcases List.mem_append.mp hfront with hbefore | hmade
    · exact Text.not_mem_of_mem_split (List.mem_of_mem_take hbefore)
    · rw [hblock] at hmade
      exact Text.newline_not_mem_of_mem_breakLines hmade
  · exact Text.not_mem_of_mem_split (List.mem_of_mem_drop hbehind)

/-- The lines that a splice puts together are those of its text, if there are any. -/
theorem split_text_of_not_empties (hsplice : directive.splice text span = .ok splice)
    (hleft : ¬directive.Empties text span) :
    Text.split splice.text = splice.lines text span := by
  obtain ⟨made, -, -, htext, -⟩ := exists_made?_of_splice hsplice
  rw [htext]
  exact Text.split_join (mt (lines_eq_nil_iff hsplice).mp hleft)
    (newline_not_mem_of_mem_lines hsplice)

/-- The text of a splice has the lines that were counted, and one more if nothing was left. -/
theorem length_split_text (hsplice : directive.splice text span = .ok splice) :
    ((Text.split splice.text).length : Int) =
      (Text.split text).length + splice.delta +
        (decide (directive.Empties text span)).toNat := by
  obtain ⟨made, -, -, htext, hdelta⟩ := exists_made?_of_splice hsplice
  by_cases hempties : directive.Empties text span
  · have hlines := (lines_eq_nil_iff hsplice).mpr hempties
    -- The empty text is one line, although no line was put into it.
    have hone : (Text.split splice.text).length = 1 := by
      rw [htext, hlines]
      rfl
    rw [hlines, List.length_nil] at hdelta
    rw [hone, decide_eq_true hempties, Bool.toNat_true]
    omega
  · rw [split_text_of_not_empties hsplice hempties, decide_eq_false hempties, Bool.toNat_false]
    omega

/-- A splice counts its lines just if something is left of the text. -/
theorem countsLines_iff (hsplice : directive.splice text span = .ok splice) :
    splice.CountsLines text span ↔ ¬directive.Empties text span := by
  have hlength := length_split_text hsplice
  constructor
  · rintro ⟨-, hcount⟩ hempties
    rw [hcount, decide_eq_true hempties, Bool.toNat_true] at hlength
    omega
  · intro hleft
    refine ⟨split_text_of_not_empties hsplice hleft, ?_⟩
    rw [hlength, decide_eq_false hleft, Bool.toNat_false]
    omega

/-- The last lines of a file are taken away, by a substitution that ends behind them. -/
theorem countsLines_iff_last :
    ∃ splice, (substitution "( *)b\n".toList "${1}".toList 0).splice "a\nb\n".toList
        ⟨1, 0, 8, 3⟩ = .ok splice ∧
      splice.text = "a".toList ∧ splice.delta = -2 ∧
      splice.CountsLines "a\nb\n".toList ⟨1, 0, 8, 3⟩ := by
  have hsplice : (substitution "( *)b\n".toList "${1}".toList 0).splice "a\nb\n".toList
      ⟨1, 0, 8, 3⟩ = .ok ⟨"a".toList, [], -2⟩ :=
    toOption_eq_some_iff.mp (by decide +kernel)
  exact ⟨_, hsplice, rfl, rfl, (countsLines_iff hsplice).mpr (by decide +kernel)⟩

/-- If the only line of a file is taken away, one line less is counted than is left. -/
theorem not_forall_countsLines :
    ¬∀ (directive : Directive) (text : List Char) (span : Span) (splice : Splice),
      directive.splice text span = .ok splice → splice.CountsLines text span := by
  intro h
  have hsplice : (substitution "( *)a".toList "${1}".toList 0).splice ['a'] ⟨0, 0, 0, 1⟩ =
      .ok ⟨[], [], -1⟩ :=
    toOption_eq_some_iff.mp (by decide +kernel)
  exact absurd (h _ _ _ _ hsplice).length (by decide)

end Directive

namespace Draft

/-- Holds if a job leaves nothing of the text of a draft. -/
def empties (draft : Draft) (job : Job) : Bool :=
  ((draft.aim job).locate job.finding.start job.finding.stop).toOption.any fun span =>
    job.directive.Empties draft.text span

/-- How many jobs of a run leave nothing of the text to which they come. -/
def emptyings : Draft → List Job → Nat
  | _, [] => 0
  | draft, job :: rest =>
      (draft.empties job).toNat + (draft.carryOut job).toOption.elim 0 (emptyings · rest)

variable {draft next final : Draft} {job : Job} {jobs : List Job}

theorem Plans.empties_eq {span : Span} {splice : Splice} (h : draft.Plans job span splice) :
    draft.empties job = decide (job.directive.Empties draft.text span) := by
  unfold empties
  rw [Drift.locate_eq_ok_iff.mpr h.locates]
  rfl

/-- A job moves the lines of a text and its drift alike, unless it leaves nothing of the text. -/
theorem length_split_of_carryOut (hnext : draft.carryOut job = .ok next) :
    ((Text.split next.text).length : Int) - next.drift.lines =
      (Text.split draft.text).length - draft.drift.lines + (draft.empties job).toNat := by
  obtain ⟨span, splice, hplans, htext, hrecord⟩ := carryOut_eq_ok_iff.mp hnext
  obtain ⟨-, hlines, -⟩ := Directive.lines_of_record? hrecord
  rw [lines_aim] at hlines
  rw [htext, hlines, hplans.empties_eq, Directive.length_split_text hplans.splice]
  omega

/-- In a run, the lines of a text gain one on its drift for each job that leaves nothing of it. -/
theorem length_split_of_run (hrun : draft.run jobs = .ok final) :
    ((Text.split final.text).length : Int) - final.drift.lines =
      (Text.split draft.text).length - draft.drift.lines + draft.emptyings jobs := by
  induction jobs generalizing draft with
  | nil =>
      obtain rfl := Except.ok.inj hrun
      rw [emptyings, Int.natCast_zero, Int.add_zero]
  | cons job rest ih =>
      obtain ⟨next, hnext, hfinal⟩ := run_cons_eq_ok_iff.mp hrun
      have hstep := length_split_of_carryOut hnext
      have hrest := ih hfinal
      have hcount : draft.emptyings (job :: rest) =
          (draft.empties job).toNat + next.emptyings rest := by
        rw [emptyings, hnext]
        rfl
      rw [hcount]
      omega

/-- The drift of a file is the number of lines that it gained just if no job took them all away. -/
theorem drift_of_run_iff {text : List Char} (hrun : (ofText text).run jobs = .ok final) :
    final.drift.lines = ((Text.split final.text).length : Int) - (Text.split text).length ↔
      (ofText text).emptyings jobs = 0 := by
  have hlength := length_split_of_run hrun
  have hstart : (ofText text).drift.lines = 0 := rfl
  have htext : (ofText text).text = text := rfl
  rw [hstart, htext] at hlength
  omega

end Draft

end Remedy.Fix

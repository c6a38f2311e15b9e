import Remedy.Proofs.Fix.Splice
import Remedy.Proofs.Text.Breaking

/-!
# When a splice is exact

A directive makes a text for the lines of a span, and the lines of that text are put in.  Lines of
a file end at newlines only, those of the new text at every break.  So the new text itself comes to
stand in the file just if it is plain, and a substitution that finds nothing to replace leaves the
file alone just if the lines of its span are unbroken.
-/

namespace Remedy

namespace Pattern.Program

/-- There are matches in a text unless there is none from its start on. -/
theorem allMatches_eq_nil {program : Program} {text : List Char}
    (hnone : program.match? text 0 = none) : program.allMatches text = [] := by
  unfold allMatches
  rw [matchesFrom, hnone]

/-- A text without matches is replaced by itself. -/
theorem replace_of_match?_eq_none {program : Program} {text : List Char}
    (hnone : program.match? text 0 = none) (template : List Char) (count : Nat) :
    program.replace template count text = text := by
  unfold replace
  dsimp only
  rw [allMatches_eq_nil hnone, List.take_nil, ite_self]
  rfl

end Pattern.Program

namespace Fix

open Outcome

namespace Directive

/-- The text that a directive makes for the lines of a span, before it is broken into lines. -/
def made? (directive : Directive) (lines : List (List Char)) (span : Span) :
    Option (List Char) :=
  match directive with
  | .literal fix => do
      let first ← lines[span.startLine]?
      let last ← lines[span.stopLine]?
      return first.take span.startCol ++ fix ++ last.drop span.stopCol
  | .substitution pattern template count =>
      (Pattern.compile? pattern).map fun program =>
        program.replace template count (Splice.covered lines span)

end Directive

namespace Splice

/-- The lines that a splice puts together: those in front of a span, its block, those behind. -/
def lines (splice : Splice) (text : List Char) (span : Span) : List (List Char) :=
  (Text.split text).take span.startLine ++ splice.block ++
    (Text.split text).drop (span.stopLine + 1)

/-- A span that ends behind the last line has the same lines behind it as one that ends there. -/
theorem drop_min_succ (lines : List (List Char)) (stop : Nat) :
    lines.drop (min stop (lines.length - 1) + 1) = lines.drop (stop + 1) := by
  rw [List.drop_eq_drop_iff]
  omega

end Splice

/--
A splice joins the lines that it puts together, and counts them.  Its block holds the lines of the
text that its directive makes.
-/
theorem Directive.exists_made?_of_splice {directive : Directive} {text : List Char} {span : Span}
    {splice : Splice} (hsplice : directive.splice text span = .ok splice) :
    ∃ made, directive.made? (Text.split text) span = some made ∧
      splice.block = Text.breakLines made ∧
      splice.text = Text.join (splice.lines text span) ∧
      splice.delta = ((splice.lines text span).length : Int) - (Text.split text).length := by
  cases directive with
  | literal fix =>
      simp only [Directive.splice, Splice.literal, bind_eq_ok_iff, pure_eq_ok,
        Splice.lineAt_eq_ok_iff] at hsplice
      obtain ⟨first, hfirst, last, hlast, heq⟩ := hsplice
      obtain rfl := Except.ok.inj heq
      refine ⟨_, ?_, rfl, rfl, rfl⟩
      rw [made?, hfirst, hlast]
      rfl
  | substitution pattern template count =>
      unfold Directive.splice at hsplice
      dsimp only at hsplice
      cases hcompile : Pattern.compile? pattern with
      | none =>
          rw [hcompile] at hsplice
          cases hsplice
      | some program =>
          simp only [hcompile, Splice.substitution, bind_eq_ok_iff, pure_eq_ok] at hsplice
          obtain ⟨first, -, heq⟩ := hsplice
          obtain rfl := Except.ok.inj heq
          unfold Splice.lines Splice.assemble
          dsimp only
          rw [Splice.drop_min_succ]
          refine ⟨_, ?_, rfl, rfl, rfl⟩
          rw [made?, hcompile]
          rfl

/-- The block of a splice holds the lines of the text that its directive makes. -/
theorem Cut.exists_made? {text : List Char} {directive : Directive} {span : Span}
    {before covered behind block : List (List Char)}
    (cut : Cut text directive span before covered behind)
    (hblock : directive.block covered span.startCol span.stopCol = .ok block) :
    ∃ made, directive.made? (Text.split text) span = some made ∧ block = Text.breakLines made := by
  cases directive with
  | literal fix =>
      have hstop : span.stopLine + 1 = before.length + covered.length := by
        rcases cut.stopLine with hstop | ⟨hsubstitution, -⟩
        · exact hstop
        · cases hsubstitution
      obtain rfl := Except.ok.inj hblock
      refine ⟨_, ?_, rfl⟩
      rw [Directive.made?, cut.getElem?_startLine, cut.getElem?_stopLine hstop]
      rfl
  | substitution pattern template count =>
      simp only [Directive.block] at hblock
      cases hcompile : Pattern.compile? pattern with
      | none =>
          rw [hcompile] at hblock
          cases hblock
      | some program =>
          rw [hcompile] at hblock
          obtain rfl := Except.ok.inj hblock
          refine ⟨program.replace template count (Text.join covered), ?_, rfl⟩
          rw [Directive.made?, hcompile, Option.map_some, cut.covered_eq]

namespace Directive

/-- A span covers all lines just if none stands in front of it and none behind it. -/
theorem take_eq_nil_and_drop_eq_nil_iff {text : List Char} {span : Span} :
    (Text.split text).take span.startLine = [] ∧
        (Text.split text).drop (span.stopLine + 1) = [] ↔
      span.startLine = 0 ∧ (Text.split text).length ≤ span.stopLine + 1 := by
  rw [List.take_eq_nil_iff, List.drop_eq_nil_iff, or_iff_left (Text.split_ne_nil text)]

/--
A splice puts the lines of the text that its directive makes between those in front of its span and
those behind it.  It puts the text itself there just if that is plain and not empty, or if it is
empty and the span covers the whole file.
-/
theorem text_splice_eq_iff {text : List Char} {directive : Directive} {span : Span}
    {splice : Splice} (hordered : span.startLine ≤ span.stopLine)
    (hsplice : directive.splice text span = .ok splice) :
    ∃ made, directive.made? (Text.split text) span = some made ∧
      splice.text = Text.join ((Text.split text).take span.startLine ++
        Text.unifiedLines made ++ (Text.split text).drop (span.stopLine + 1)) ∧
      (splice.text = Text.join ((Text.split text).take span.startLine ++ [made] ++
          (Text.split text).drop (span.stopLine + 1)) ↔
        (made ≠ [] ∧ Text.IsPlain made) ∨
          (made = [] ∧ span.startLine = 0 ∧
            (Text.split text).length ≤ span.stopLine + 1)) := by
  have hcut := Cut.of_splice hordered hsplice
  obtain ⟨htext, -, hblock⟩ := hcut.split_text hsplice
  obtain ⟨made, hmade, hlines⟩ := hcut.exists_made? hblock
  rw [hlines] at htext
  refine ⟨made, hmade, ?_, ?_⟩
  · rw [htext, Text.breakLines_eq_unifiedLines]
  · rw [htext, Text.join_append_breakLines_iff, take_eq_nil_and_drop_eq_nil_iff]

/-- A fix that holds a carriage return with a newline behind it, which become one newline. -/
theorem text_splice_eq_iff_pair :
    ∃ splice, (literal "a\r\nb".toList).splice "one\ntwo".toList ⟨1, 1, 1, 2⟩ = .ok splice ∧
      splice.text = "one\nta\nbo".toList ∧
      ∃ made, (literal "a\r\nb".toList).made? (Text.split "one\ntwo".toList) ⟨1, 1, 1, 2⟩ =
          some made ∧
        splice.text = Text.join ((Text.split "one\ntwo".toList).take 1 ++
          Text.unifiedLines made ++ (Text.split "one\ntwo".toList).drop 2) ∧
        (splice.text = Text.join ((Text.split "one\ntwo".toList).take 1 ++ [made] ++
            (Text.split "one\ntwo".toList).drop 2) ↔
          (made ≠ [] ∧ Text.IsPlain made) ∨
            (made = [] ∧ (1 : Nat) = 0 ∧ (Text.split "one\ntwo".toList).length ≤ 2)) :=
  ⟨_, rfl, by decide +kernel, text_splice_eq_iff (by decide) rfl⟩

end Directive

/-- Lines come back from a text only as they were put in, if as many are put in as were there. -/
theorem Cut.block_eq_covered {text : List Char} {directive : Directive} {span : Span}
    {before covered behind block : List (List Char)}
    (cut : Cut text directive span before covered behind)
    (hfree : ∀ line ∈ block, '\n' ∉ line) (hlength : block.length = covered.length)
    (htext : Text.join (before ++ block ++ behind) = text) : block = covered := by
  have hcovered := List.length_pos_iff.mpr cut.covered_ne
  have hne : before ++ block ++ behind ≠ [] := by
    have hblock : block ≠ [] := List.length_pos_iff.mp (by omega)
    simp [hblock]
  have hlines : before ++ block ++ behind = before ++ covered ++ behind := by
    rw [← cut.split, ← htext, Text.split_join hne (cut.newline_not_mem_of_block hfree)]
  rwa [List.append_cancel_right_eq, List.append_cancel_left_eq] at hlines

/-- A splice that puts in the lines of the covered text keeps all just if those are unbroken. -/
theorem Cut.keeps_iff {text : List Char} {directive : Directive} {span : Span}
    {before covered behind : List (List Char)}
    (cut : Cut text directive span before covered behind) :
    Text.join (before ++ Text.breakLines (Text.join covered) ++ behind) = text ∧
        ((Text.breakLines (Text.join covered)).length : Int) - covered.length = 0 ↔
      Text.AreUnbroken covered := by
  have hfree : ∀ line ∈ covered, '\n' ∉ line :=
    fun line hline => cut.newline_not_mem line (by simp [hline])
  rw [← Text.breakLines_join_eq_self_iff cut.covered_ne hfree]
  constructor
  · rintro ⟨htext, hdelta⟩
    exact cut.block_eq_covered (fun _ => Text.newline_not_mem_of_mem_breakLines) (by omega) htext
  · intro h
    rw [h, ← cut.split, Text.join_split]
    exact ⟨rfl, Int.sub_self _⟩

namespace Directive

/-- A substitution in a span that ends in front of its first line finds no line to change. -/
theorem unmatched_splice_of_succ {text pattern template : List Char} {count : Nat} {span : Span}
    {program : Pattern.Program} (hsucc : span.startLine = span.stopLine + 1)
    (hstart : span.startLine < (Text.split text).length)
    (hcompile : Pattern.compile? pattern = some program)
    (hnone : program.match? (Splice.covered (Text.split text) span) 0 = none) :
    (substitution pattern template count).splice text span = .ok ⟨text, [], 0⟩ := by
  have hcovered : Splice.covered (Text.split text) span = [] := by
    unfold Splice.covered
    rw [← hsucc, List.drop_eq_nil_of_le (List.length_take_le _ _)]
    rfl
  have hstop : min span.stopLine ((Text.split text).length - 1) + 1 = span.startLine := by
    omega
  have hall : (Text.split text).take span.startLine ++ [] ++
      (Text.split text).drop span.startLine = Text.split text := by
    rw [List.append_nil, List.take_append_drop]
  simp only [splice, hcompile, Splice.substitution, Splice.lineAt, List.getElem?_eq_getElem hstart,
    ok_bind, pure_eq_ok, Splice.assemble, hstop, hcovered]
  rw [hcovered] at hnone
  rw [Pattern.Program.replace_of_match?_eq_none hnone, Text.breakLines_eq_nil_iff.mpr rfl, hall,
    Text.join_split, Int.sub_self]

/--
A substitution that finds nothing to replace in the lines of its span leaves the text and the
number of its lines alone just if these lines are unbroken.
-/
theorem unmatched_splice_eq_self_iff {text pattern template : List Char} {count : Nat}
    {span : Span} {program : Pattern.Program} (hordered : span.startLine ≤ span.stopLine + 1)
    (hstart : span.startLine < (Text.split text).length)
    (hcompile : Pattern.compile? pattern = some program)
    (hnone : program.match? (Splice.covered (Text.split text) span) 0 = none) :
    ∃ splice, (substitution pattern template count).splice text span = .ok splice ∧
      (splice.text = text ∧ splice.delta = 0 ↔
        Text.AreUnbroken (((Text.split text).take (span.stopLine + 1)).drop span.startLine)) := by
  rcases Nat.eq_or_lt_of_le hordered with hsucc | hlt
  · refine ⟨_, unmatched_splice_of_succ hsucc hstart hcompile hnone, ?_⟩
    rw [← hsucc, List.drop_eq_nil_of_le (List.length_take_le _ _)]
    exact iff_of_true ⟨rfl, rfl⟩ (by decide)
  · have hcut : Cut text (substitution pattern template count) span _ _ _ :=
      Cut.of_le (Nat.le_of_lt_succ hlt) hstart (.inr rfl)
    rw [hcut.covered_eq] at hnone
    have hsplice := hcut.splice_eq
    rw [block, hcompile] at hsplice
    dsimp only [Except.map] at hsplice
    rw [Pattern.Program.replace_of_match?_eq_none hnone] at hsplice
    exact ⟨_, hsplice, hcut.keeps_iff⟩

/-- A line that ends in a carriage return, and two that do not. -/
theorem unmatched_splice_eq_self_iff_tab :
    ∃ program, Pattern.compile? "x+".toList = some program ∧
      program.match? (Splice.covered (Text.split "a\r\nb\tc\nd".toList) ⟨1, 0, 5, 0⟩) 0 = none ∧
      ∃ splice, (substitution "x+".toList "y".toList 0).splice "a\r\nb\tc\nd".toList ⟨1, 0, 5, 0⟩ =
          .ok splice ∧
        (splice.text = "a\r\nb\tc\nd".toList ∧ splice.delta = 0 ↔
          Text.AreUnbroken (((Text.split "a\r\nb\tc\nd".toList).take 6).drop 1)) := by
  obtain ⟨program, hcompile⟩ := Option.isSome_iff_exists.mp (show
    (Pattern.compile? "x+".toList).isSome = true by decide +kernel)
  have hnone : ((Pattern.compile? "x+".toList).map fun program =>
      (program.match? (Splice.covered (Text.split "a\r\nb\tc\nd".toList) ⟨1, 0, 5, 0⟩) 0).isNone) =
      some true := by
    decide +kernel
  rw [hcompile] at hnone
  have hmatch := Option.isNone_iff_eq_none.mp (Option.some.inj hnone)
  exact ⟨program, hcompile, hmatch,
    unmatched_splice_eq_self_iff (by decide) (by decide +kernel) hcompile hmatch⟩

/-- An empty line is taken away by a substitution that finds nothing in it. -/
theorem not_forall_unmatched_splice_eq_self :
    ¬∀ (text pattern template : List Char) (count : Nat) (span : Span)
        (program : Pattern.Program), span.startLine ≤ span.stopLine →
      span.startLine < (Text.split text).length → Pattern.compile? pattern = some program →
      program.match? (Splice.covered (Text.split text) span) 0 = none →
      ∃ splice, (substitution pattern template count).splice text span = .ok splice ∧
        splice.text = text ∧ splice.delta = 0 := by
  intro h
  obtain ⟨program, hcompile⟩ := Option.isSome_iff_exists.mp (show
    (Pattern.compile? "x".toList).isSome = true by decide +kernel)
  have hnone : ((Pattern.compile? "x".toList).map fun program =>
      (program.match? (Splice.covered (Text.split "a\n\nb".toList) ⟨1, 0, 1, 0⟩) 0).isNone) =
      some true := by
    decide +kernel
  rw [hcompile] at hnone
  obtain ⟨splice, hsplice, htext, -⟩ := h "a\n\nb".toList "x".toList "y".toList 0 ⟨1, 0, 1, 0⟩
    program (by decide) (by decide +kernel) hcompile
    (Option.isNone_iff_eq_none.mp (Option.some.inj hnone))
  have hmade : ((substitution "x".toList "y".toList 0).splice "a\n\nb".toList
      ⟨1, 0, 1, 0⟩).toOption.map (·.text) = some "a\nb".toList := by
    decide +kernel
  rw [hsplice] at hmade
  rw [Except.toOption, Option.map_some, htext] at hmade
  exact absurd hmade (by decide)

end Directive

end Fix

end Remedy

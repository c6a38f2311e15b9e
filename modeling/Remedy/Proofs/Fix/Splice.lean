import Remedy.Proofs.Fix.Drift
import Remedy.Proofs.Text.Lines

/-!
# Splices touch the lines of their span only

The lines of a file fall into those before a span, those that it covers and those behind it.  The
block that a splice puts in is worked out from the covered lines and the two columns alone, and
the lines on either side stay.
-/

namespace Remedy.Fix

open Outcome

namespace Directive

/-- Holds for a substitution. -/
def isSubstitution : Directive → Bool
  | .literal _ => false
  | .substitution _ _ _ => true

/-- The block that a directive makes of the lines that a span covers. -/
def block (directive : Directive) (covered : List (List Char)) (startCol stopCol : Nat) :
    Except Failure (List (List Char)) :=
  match directive with
  | .literal fix =>
      .ok (Text.breakLines ((covered.head?.getD []).take startCol ++ fix ++
        (covered.getLast?.getD []).drop stopCol))
  | .substitution pattern template count =>
      match Pattern.compile? pattern with
      | none => .error .invalidPattern
      | some program =>
          .ok (Text.breakLines (program.replace template count (Text.join covered)))

/-- No line of a block contains a newline. -/
theorem newline_not_mem_of_mem_block {directive : Directive} {covered block : List (List Char)}
    {startCol stopCol : Nat} (hblock : directive.block covered startCol stopCol = .ok block) :
    ∀ line ∈ block, '\n' ∉ line := by
  intro line hline
  cases directive with
  | literal fix =>
      obtain rfl := Except.ok.inj hblock
      exact Text.newline_not_mem_of_mem_breakLines hline
  | substitution pattern template count =>
      simp only [Directive.block] at hblock
      split at hblock
      · cases hblock
      · obtain rfl := Except.ok.inj hblock
        exact Text.newline_not_mem_of_mem_breakLines hline

end Directive

/--
How a span cuts the lines of a text.  The span of a substitution may end behind the last line.
-/
structure Cut (text : List Char) (directive : Directive) (span : Span)
    (before covered behind : List (List Char)) : Prop where
  split : Text.split text = before ++ covered ++ behind
  startLine : span.startLine = before.length
  covered_ne : covered ≠ []
  stopLine : span.stopLine + 1 = before.length + covered.length ∨
    (directive.isSubstitution = true ∧ behind = [] ∧
      before.length + covered.length ≤ span.stopLine)

namespace Splice

theorem lineAt_eq_ok_iff {lines : List (List Char)} {index : Nat} {line : List Char} :
    lineAt lines index = .ok line ↔ lines[index]? = some line := by
  unfold lineAt
  cases hline : lines[index]? with
  | some found => simp
  | none => simp

end Splice

namespace Cut

variable {text : List Char} {directive : Directive} {span : Span}
  {before covered behind : List (List Char)}

/-- The first covered line is the one on which the span begins. -/
theorem getElem?_startLine (cut : Cut text directive span before covered behind) :
    (Text.split text)[span.startLine]? = some (covered.head?.getD []) := by
  obtain ⟨first, rest, rfl⟩ := List.exists_cons_of_ne_nil cut.covered_ne
  rw [cut.split, cut.startLine]
  simp

/-- If the span ends inside the text, the last covered line is the one on which it does. -/
theorem getElem?_stopLine (cut : Cut text directive span before covered behind)
    (hstop : span.stopLine + 1 = before.length + covered.length) :
    (Text.split text)[span.stopLine]? = some (covered.getLast?.getD []) := by
  obtain ⟨front, last, rfl⟩ := List.eq_nil_or_concat covered |>.resolve_left cut.covered_ne
  have hindex : span.stopLine = before.length + front.length := by
    simp at hstop
    omega
  rw [cut.split, hindex]
  simp

theorem length_split (cut : Cut text directive span before covered behind) :
    (Text.split text).length = before.length + covered.length + behind.length := by
  rw [cut.split]
  simp only [List.length_append]

/-- The lines before, under and behind a span contain no newline. -/
theorem newline_not_mem (cut : Cut text directive span before covered behind) :
    ∀ line ∈ before ++ covered ++ behind, '\n' ∉ line := by
  rw [← cut.split]
  exact fun _ => Text.not_mem_of_mem_split

/-- Nor do they when a block without newlines takes the place of those under it. -/
theorem newline_not_mem_of_block (cut : Cut text directive span before covered behind)
    {block : List (List Char)} (hfree : ∀ line ∈ block, '\n' ∉ line) :
    ∀ line ∈ before ++ block ++ behind, '\n' ∉ line := by
  have hlines := cut.newline_not_mem
  simp only [List.mem_append] at hlines
  intro line hline
  rcases List.mem_append.mp hline with hfront | hbehind
  · rcases List.mem_append.mp hfront with hbefore | hblock
    · exact hlines line (.inl (.inl hbefore))
    · exact hfree line hblock
  · exact hlines line (.inr hbehind)

/-- Putting a block in the place of the covered lines leaves the others. -/
theorem assemble_eq (cut : Cut text directive span before covered behind) {stop : Nat}
    (hstop : stop + 1 = before.length + covered.length) (block : List (List Char)) :
    Splice.assemble (Text.split text) span.startLine stop block =
      ⟨Text.join (before ++ block ++ behind), block,
        (block.length : Int) - covered.length⟩ := by
  have hbefore : (Text.split text).take span.startLine = before := by
    rw [cut.split, cut.startLine, List.append_assoc, List.take_left]
  have hbehind : (Text.split text).drop (stop + 1) = behind := by
    rw [cut.split, hstop, ← List.length_append, List.drop_left]
  unfold Splice.assemble
  rw [hbefore, hbehind, cut.length_split]
  simp only [List.length_append, Splice.mk.injEq, true_and]
  push_cast
  omega

/-- The text that a substitution works on is that of the covered lines. -/
theorem covered_eq (cut : Cut text directive span before covered behind) :
    Splice.covered (Text.split text) span = Text.join covered := by
  have htake : (Text.split text).take (span.stopLine + 1) = before ++ covered := by
    rcases cut.stopLine with hstop | ⟨-, rfl, hstop⟩
    · rw [cut.split, hstop, ← List.length_append, List.take_left]
    · rw [cut.split, List.append_nil, List.take_of_length_le]
      rw [List.length_append]
      omega
  unfold Splice.covered
  rw [htake, cut.startLine, List.drop_left]

/-- The last line that a substitution covers. -/
theorem min_stopLine (cut : Cut text directive span before covered behind) :
    min span.stopLine ((Text.split text).length - 1) + 1 = before.length + covered.length := by
  have hcovered := List.length_pos_iff.mpr cut.covered_ne
  rw [cut.length_split]
  rcases cut.stopLine with hstop | ⟨-, rfl, hstop⟩
  · omega
  · rw [List.length_nil]
    omega

/-- What a splice makes of a text, seen through the cut. -/
theorem splice_eq (cut : Cut text directive span before covered behind) :
    directive.splice text span =
      (directive.block covered span.startCol span.stopCol).map fun block =>
        ⟨Text.join (before ++ block ++ behind), block,
          (block.length : Int) - covered.length⟩ := by
  have hfirst := cut.getElem?_startLine
  cases directive with
  | literal fix =>
      have hstop : span.stopLine + 1 = before.length + covered.length := by
        rcases cut.stopLine with hstop | ⟨hsubstitution, -⟩
        · exact hstop
        · cases hsubstitution
      simp only [Directive.splice, Splice.literal, Splice.lineAt, hfirst,
        cut.getElem?_stopLine hstop, ok_bind, pure_eq_ok, Directive.block, Except.map,
        cut.assemble_eq hstop]
  | substitution pattern template count =>
      simp only [Directive.splice, Directive.block]
      cases Pattern.compile? pattern with
      | none => rfl
      | some program =>
          simp only [Splice.substitution, Splice.lineAt, hfirst, ok_bind, pure_eq_ok,
            cut.assemble_eq cut.min_stopLine, cut.covered_eq, Except.map]

/-- The lines of the text that a splice makes. -/
theorem split_text (cut : Cut text directive span before covered behind) {splice : Splice}
    (hsplice : directive.splice text span = .ok splice) :
    splice.text = Text.join (before ++ splice.block ++ behind) ∧
      splice.delta = (splice.block.length : Int) - covered.length ∧
      directive.block covered span.startCol span.stopCol = .ok splice.block := by
  rw [cut.splice_eq] at hsplice
  cases hblock : directive.block covered span.startCol span.stopCol with
  | error e => rw [hblock] at hsplice; cases hsplice
  | ok block =>
      rw [hblock] at hsplice
      obtain rfl := Except.ok.inj hsplice
      exact ⟨rfl, rfl, rfl⟩

end Cut

/-- Lines are cut at two places, the second of which may lie behind the last line. -/
theorem Cut.of_le {text : List Char} {directive : Directive} {span : Span}
    (hordered : span.startLine ≤ span.stopLine)
    (hstart : span.startLine < (Text.split text).length)
    (hstop : span.stopLine < (Text.split text).length ∨ directive.isSubstitution = true) :
    Cut text directive span ((Text.split text).take span.startLine)
      (((Text.split text).take (span.stopLine + 1)).drop span.startLine)
      ((Text.split text).drop (span.stopLine + 1)) := by
  have hcovered : (((Text.split text).take (span.stopLine + 1)).drop span.startLine).length =
      min (span.stopLine + 1) (Text.split text).length - span.startLine := by
    rw [List.length_drop, List.length_take]
  have hbefore : ((Text.split text).take span.startLine).length = span.startLine := by
    rw [List.length_take]
    omega
  refine ⟨?_, hbefore.symm, ?_, ?_⟩
  · have hfront : (Text.split text).take span.startLine =
        ((Text.split text).take (span.stopLine + 1)).take span.startLine := by
      rw [List.take_take, Nat.min_eq_left (by omega)]
    rw [hfront, List.take_append_drop, List.take_append_drop]
  · intro hnil
    rw [hnil, List.length_nil] at hcovered
    omega
  · by_cases hlast : span.stopLine < (Text.split text).length
    · left
      omega
    · right
      refine ⟨hstop.resolve_left hlast, ?_, by omega⟩
      rw [List.drop_eq_nil_iff]
      omega

/-- A splice that succeeds cuts the lines of its text. -/
theorem Cut.of_splice {text : List Char} {directive : Directive} {span : Span}
    {splice : Splice} (hordered : span.startLine ≤ span.stopLine)
    (hsplice : directive.splice text span = .ok splice) :
    Cut text directive span ((Text.split text).take span.startLine)
      (((Text.split text).take (span.stopLine + 1)).drop span.startLine)
      ((Text.split text).drop (span.stopLine + 1)) := by
  cases directive with
  | literal fix =>
      simp only [Directive.splice, Splice.literal, bind_eq_ok_iff,
        Splice.lineAt_eq_ok_iff] at hsplice
      obtain ⟨first, hfirst, last, hlast, -⟩ := hsplice
      obtain ⟨hstart, -⟩ := List.getElem?_eq_some_iff.mp hfirst
      obtain ⟨hstop, -⟩ := List.getElem?_eq_some_iff.mp hlast
      exact .of_le hordered hstart (.inl hstop)
  | substitution pattern template count =>
      simp only [Directive.splice] at hsplice
      split at hsplice
      · cases hsplice
      · simp only [Splice.substitution, bind_eq_ok_iff, Splice.lineAt_eq_ok_iff] at hsplice
        obtain ⟨first, hfirst, -⟩ := hsplice
        obtain ⟨hstart, -⟩ := List.getElem?_eq_some_iff.mp hfirst
        exact .of_le hordered hstart (.inr rfl)

end Remedy.Fix

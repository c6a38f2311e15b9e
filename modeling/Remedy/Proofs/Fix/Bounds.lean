import Remedy.Proofs.Fix.Range
import Remedy.Proofs.Text.Tokens

/-!
# Slices within bounds

A splice slices lists of lines at the lines of its span, lines at its columns and the new block at
every break, and it counts in words.  Here it is worked out with all bounds looked at, so that
there is none where a slice is out of bounds or a word too large.  On a span whose lines are in
order this never happens, as long as there is room for the text and for what is made of it.
-/

namespace Remedy.Fix

namespace Splice

/-- The items in front of an index, which must not lie behind the end. -/
def before? {α : Type} (items : List α) (index : Nat) : Option (List α) :=
  if index ≤ items.length then some (items.take index) else none

/-- The items from one index to another, at which there must be an item. -/
def among? {α : Type} (items : List α) (start stop : Nat) : Option (List α) :=
  if start ≤ stop + 1 ∧ stop < items.length then some ((items.take (stop + 1)).drop start)
  else none

/-- The index behind another one; indices are words without a sign. -/
def next? (index : Nat) : Option Nat :=
  if index + 1 < 2 ^ 64 then some (index + 1) else none

/-- The index of the last item, of which there must be one. -/
def last? {α : Type} (items : List α) : Option Nat :=
  if items = [] then none else some (items.length - 1)

/-- What stands in front of a column of a line, and what from there on, cut at a byte. -/
def cutLine? (line : List Char) (col : Nat) : Option (List Char × List Char) :=
  Text.cutAt? (Text.boundary line col) line

/-- Puts a block in the place of lines. -/
def assemble? (lines : List (List Char)) (start stop : Nat) (block : List (List Char)) :
    Option Splice := do
  let before ← before? lines start
  let behind ← next? stop
  let all := before ++ block ++ lines.drop behind
  let delta ← Offset.sub? (Offset.ofNat all.length) (Offset.ofNat lines.length)
  return ⟨Text.join all, block, delta⟩

/-- Puts a text in the place of the characters of a span. -/
def literal? (text : List Char) (span : Span) (fix : List Char) :
    Option (Except Failure Splice) :=
  let lines := Text.split text
  match lineAt lines span.startLine, lineAt lines span.stopLine with
  | .error failure, _ => some (.error failure)
  | .ok _, .error failure => some (.error failure)
  | .ok first, .ok last => do
      let (front, _) ← cutLine? first span.startCol
      let (_, behind) ← cutLine? last span.stopCol
      let block ← Text.loop? (front ++ fix ++ behind)
      let splice ← assemble? lines span.startLine span.stopLine block
      return .ok splice

/-- Puts what `replace` makes of the lines of a span in their place. -/
def substitution? (text : List Char) (span : Span) (replace : List Char → List Char) :
    Option (Except Failure Splice) :=
  let lines := Text.split text
  match lineAt lines span.startLine with
  | .error failure => some (.error failure)
  | .ok _ => do
      let last ← last? lines
      let stop := min span.stopLine last
      let covered ← among? lines span.startLine stop
      let block ← Text.loop? (replace (Text.join covered))
      let splice ← assemble? lines span.startLine stop block
      return .ok splice

variable {lines : List (List Char)} {start stop : Nat}

theorem next?_eq {index : Nat} (h : index < 2 ^ 63) : next? index = some (index + 1) := by
  unfold next?
  rw [if_pos (by omega)]

/-- The difference of two numbers that are not too large is found. -/
theorem sub?_ofNat {a b : Nat} (ha : a < 2 ^ 63) (hb : b < 2 ^ 63) :
    Offset.sub? (Offset.ofNat a) (Offset.ofNat b) = some ((a : Int) - b) := by
  rw [Offset.ofNat_of_lt ha, Offset.ofNat_of_lt hb, Offset.sub?_eq_some_iff]
  refine ⟨?_, rfl⟩
  unfold Offset.IsOffset
  omega

/-- Lines are put together within bounds if there are not too many of them. -/
theorem assemble?_eq (hstart : start ≤ lines.length) (hstop : stop < 2 ^ 63)
    (hlines : lines.length < 2 ^ 63) {block : List (List Char)}
    (hmade : (assemble lines start stop block).text.length + 1 < 2 ^ 63) :
    assemble? lines start stop block = some (assemble lines start stop block) := by
  have hcount := Text.length_le_length_join (lines.take start ++ block ++ lines.drop (stop + 1))
  unfold assemble at hmade ⊢
  dsimp only at hmade
  have hall := Nat.lt_of_le_of_lt hcount hmade
  have hdelta := sub?_ofNat hall hlines
  have hnext := next?_eq hstop
  have hbefore : before? lines start = some (lines.take start) := if_pos hstart
  unfold assemble?
  rw [hbefore, Option.bind_eq_bind, Option.bind_some, hnext, Option.bind_eq_bind,
    Option.bind_some]
  dsimp only
  rw [hdelta]
  rfl

theorem cutLine?_eq (line : List Char) (col : Nat) :
    cutLine? line col = some (line.take col, line.drop col) :=
  Text.cutAt?_boundary line col

/-- The lines of a span that is cut off at the end of a text are those that it covers. -/
theorem among?_eq {span : Span} (hordered : span.startLine ≤ span.stopLine)
    (hstart : span.startLine < lines.length) :
    among? lines span.startLine (min span.stopLine (lines.length - 1)) =
      some ((lines.take (span.stopLine + 1)).drop span.startLine) := by
  have htake : lines.take (min span.stopLine (lines.length - 1) + 1) =
      lines.take (span.stopLine + 1) := by
    rw [List.take_eq_take_iff]
    omega
  unfold among?
  rw [if_pos (by omega), htake]

/-- A literal fix is made within bounds, as long as there is room for it. -/
theorem literal?_eq {text fix : List Char} {span : Span} (hstop : span.stopLine < 2 ^ 63)
    (htext : text.length + 1 < 2 ^ 63)
    (hmade : ∀ splice, literal text span fix = .ok splice → splice.text.length + 1 < 2 ^ 63) :
    literal? text span fix = some (literal text span fix) := by
  have hlines := Text.length_split_le text
  unfold literal at hmade ⊢
  unfold literal?
  dsimp only at hmade ⊢
  cases hfirst : lineAt (Text.split text) span.startLine with
  | error failure => rfl
  | ok first =>
      cases hlast : lineAt (Text.split text) span.stopLine with
      | error failure => rfl
      | ok last =>
          obtain ⟨hstart, -⟩ := List.getElem?_eq_some_iff.mp (lineAt_eq_ok_iff.mp hfirst)
          rw [hfirst, hlast] at hmade
          simp only [cutLine?_eq, Option.bind_eq_bind, Option.bind_some, Text.loop?_eq,
            assemble?_eq (Nat.le_of_lt hstart) hstop (by omega) (hmade _ rfl), Option.pure_def]
          rfl

/-- So is a substitution on a span whose lines are in order, which may end behind the text. -/
theorem substitution?_eq {text : List Char} {span : Span} {replace : List Char → List Char}
    (hordered : span.startLine ≤ span.stopLine) (htext : text.length + 1 < 2 ^ 63)
    (hmade : ∀ splice, substitution text span replace = .ok splice →
      splice.text.length + 1 < 2 ^ 63) :
    substitution? text span replace = some (substitution text span replace) := by
  have hlines := Text.length_split_le text
  unfold substitution covered at hmade ⊢
  unfold substitution?
  dsimp only at hmade ⊢
  cases hfirst : lineAt (Text.split text) span.startLine with
  | error failure => rfl
  | ok first =>
      obtain ⟨hstart, -⟩ := List.getElem?_eq_some_iff.mp (lineAt_eq_ok_iff.mp hfirst)
      have hlast : last? (Text.split text) = some ((Text.split text).length - 1) :=
        if_neg (Text.split_ne_nil text)
      have hstop : min span.stopLine ((Text.split text).length - 1) < 2 ^ 63 := by omega
      rw [hfirst] at hmade
      simp only [hlast, Option.bind_eq_bind, Option.bind_some, among?_eq hordered hstart,
        Text.loop?_eq, assemble?_eq (Nat.le_of_lt hstart) hstop (by omega) (hmade _ rfl),
        Option.pure_def]
      rfl

end Splice

/-- What a directive makes of the text of a file; there is none where it is out of bounds. -/
def Directive.splice? (directive : Directive) (text : List Char) (span : Span) :
    Option (Except Failure Splice) :=
  match directive with
  | .literal fix => Splice.literal? text span fix
  | .substitution pattern template count =>
      match Pattern.compile? pattern with
      | none => some (.error .invalidPattern)
      | some program => Splice.substitution? text span (program.replace template count)

/-- A span whose lines are in order is spliced within bounds. -/
theorem Directive.splice?_eq {directive : Directive} {text : List Char} {span : Span}
    (hordered : span.startLine ≤ span.stopLine) (hstop : span.stopLine < 2 ^ 63)
    (htext : text.length + 1 < 2 ^ 63)
    (hmade : ∀ splice, directive.splice text span = .ok splice → splice.text.length + 1 < 2 ^ 63) :
    directive.splice? text span = some (directive.splice text span) := by
  cases directive with
  | literal fix => exact Splice.literal?_eq hstop htext hmade
  | substitution pattern template count =>
      unfold Directive.splice at hmade ⊢
      unfold Directive.splice?
      dsimp only at hmade ⊢
      cases hcompiled : Pattern.compile? pattern with
      | none => rfl
      | some program =>
          rw [hcompiled] at hmade
          exact Splice.substitution?_eq hordered htext hmade

end Remedy.Fix

import Remedy.Fix.Drift
import Remedy.Pattern.Basic
import Remedy.Text.Lines

/-!
# Splicing

A splice puts new lines in the place of the lines that a span covers.  A literal splice replaces
the characters of the span and keeps what stands before and behind it on its lines; a
substitution works on the whole lines of the span.  Either way the new block is cut at every kind
of line break, and a block without lines takes the old lines away.
-/

namespace Remedy.Fix

/-- A text into which new lines have been put. -/
structure Splice where
  text : List Char
  /-- The lines that were put in. -/
  block : List (List Char)
  /-- How many lines the text has gained. -/
  delta : Int
deriving DecidableEq

namespace Splice

/-- Says that there is no line at an index of a text of `count` lines. -/
def noLine (index : Nat) (count : Nat) : Failure :=
  (Offset.add? (Offset.ofNat index) 1).elim .overflow (.lineOutOfRange · count)

/-- The line at an index. -/
def lineAt (lines : List (List Char)) (index : Nat) : Except Failure (List Char) :=
  match lines[index]? with
  | some line => .ok line
  | none => .error (noLine index lines.length)

/-- Puts a block in the place of the lines from `start` to `stop`. -/
def assemble (lines : List (List Char)) (start stop : Nat) (block : List (List Char)) : Splice :=
  let all := lines.take start ++ block ++ lines.drop (stop + 1)
  ⟨Text.join all, block, (all.length : Int) - lines.length⟩

/-- Puts a text in the place of the characters of a span. -/
def literal (text : List Char) (span : Span) (fix : List Char) : Except Failure Splice := do
  let lines := Text.split text
  let first ← lineAt lines span.startLine
  let last ← lineAt lines span.stopLine
  let block := first.take span.startCol ++ fix ++ last.drop span.stopCol
  return assemble lines span.startLine span.stopLine (Text.breakLines block)

/-- The text of the lines that a span covers; lines behind the last one do not count. -/
def covered (lines : List (List Char)) (span : Span) : List Char :=
  Text.join ((lines.take (span.stopLine + 1)).drop span.startLine)

/-- Puts what `replace` makes of the lines of a span in their place. -/
def substitution (text : List Char) (span : Span) (replace : List Char → List Char) :
    Except Failure Splice := do
  let lines := Text.split text
  let _ ← lineAt lines span.startLine
  let stop := min span.stopLine (lines.length - 1)
  return assemble lines span.startLine stop (Text.breakLines (replace (covered lines span)))

end Splice

end Remedy.Fix

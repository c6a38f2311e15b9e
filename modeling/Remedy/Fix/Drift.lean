import Remedy.Finding.Basic
import Remedy.Fix.Failure
import Remedy.Fix.Offset

/-!
# Drift

Fixes are made from the top of a file to its bottom, and each moves what comes after it.  A drift
says by how much: by so many lines in the whole file, and by so many columns on the line that the
last match began on.  `Drift.locate` finds where a match lies now.
-/

namespace Remedy.Fix

/-- A stretch of a file: lines and columns are counted from zero, and the end is left out. -/
structure Span where
  startLine : Nat
  startCol : Nat
  stopLine : Nat
  stopCol : Nat
deriving DecidableEq, Inhabited

namespace Span

/-- Holds for a stretch that ends on the line on which it begins. -/
def isSingleLine (span : Span) : Bool :=
  span.startLine == span.stopLine

/-- How many columns lie between the start and the end. -/
def width (span : Span) : Nat :=
  span.stopCol - span.startCol

end Span

/-- How far the fixes so far have moved what comes after them. -/
structure Drift where
  /-- How many lines the file has gained. -/
  lines : Int
  /-- How many columns the active line has gained. -/
  cols : Int
  /-- The line, as first counted from one, on which the last match begins. -/
  activeLine : Nat
deriving DecidableEq, Inhabited

namespace Drift

/-- Nothing has moved yet. -/
def ofLine (line : Nat) : Drift :=
  ⟨0, 0, line⟩

/-- Turns to a match that begins on a line; columns have not moved on a line that is new. -/
def enterLine (drift : Drift) (line : Nat) : Drift :=
  if drift.activeLine = line then drift else { drift with activeLine := line, cols := 0 }

/-- A place that was counted from one, now counted from zero and moved. -/
def move (place offset : Int) : Except Failure Int :=
  match Offset.add? place (-1) with
  | none => .error .overflow
  | some index =>
      match Offset.add? index offset with
      | none => .error .overflow
      | some moved => .ok moved

/-- Moves the place that a number is the count of. -/
def shift (value : Nat) (offset : Int) : Except Failure Int :=
  move (Offset.ofNat value) offset

/-- A line that was moved; it must not lie above the file. -/
def toLine (line : Int) : Except Failure Nat :=
  if line < 0 then .error (.lineOutOfRange (line + 1) 0) else .ok line.toNat

/-- Where the stretch between two positions lies now. -/
def locate (drift : Drift) (start stop : Position) : Except Failure Span := do
  let startLine ← toLine (← shift start.line drift.lines)
  let stopLine ← toLine (← shift stop.line drift.lines)
  if stopLine < startLine then
    throw (.invertedSpan (startLine + 1) (stopLine + 1))
  let startCol ← shift start.col drift.cols
  let stopCol ← shift stop.col drift.cols
  if startCol < 0 then
    throw (.columnBeforeLine (startLine + 1) startCol)
  if stopCol < 0 then
    throw (.columnBeforeLine (stopLine + 1) stopCol)
  return ⟨startLine, startCol.toNat, stopLine, stopCol.toNat⟩

/-- Records a fix that gave the file `delta` lines.  If that is too much the drift stays. -/
def recordLines (drift : Drift) (delta : Int) : Except Drift Drift :=
  match Offset.add? drift.lines delta with
  | some lines => .ok { drift with lines }
  | none => .error drift

/-- Records that on a line `chars` columns took the place of `width`, unless that is too much. -/
def recordCols (drift : Drift) (chars width : Int) : Except Drift Drift :=
  match Offset.sub? chars width with
  | none => .error drift
  | some gained =>
      match Offset.add? drift.cols gained with
      | none => .error drift
      | some cols => .ok { drift with cols }

/--
Records that `chars` characters took the place of a stretch, and gave the file `delta` lines.
Only a stretch on a single line moves the columns behind it.  If the columns move too far, what
has been recorded of the lines stays.
-/
def recordLiteral (drift : Drift) (span : Span) (delta : Int) (chars : Nat) :
    Except Drift Drift := do
  let drift ← drift.recordLines delta
  if span.isSingleLine then
    drift.recordCols (Offset.ofNat chars) (Offset.ofNat span.width)
  else
    .ok drift

end Drift

end Remedy.Fix

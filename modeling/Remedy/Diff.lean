import Remedy.Text.Lines

/-!
# Differences between texts

A script leads from the lines of one text to those of another.  It is found by the greedy search
for the middle of a shortest script, from both ends at once, and then halved again and again.
Afterwards insertions are slid down as far as they go, and edits that meet are joined.
-/

namespace Remedy.Diff

/-- A line with its ending. -/
abbrev Line := List Char

/-- A part of a script. -/
inductive Edit where
  | keep (lines : List Line)
  | delete (lines : List Line)
  | insert (lines : List Line)
deriving DecidableEq

/-- The lines of a text with their endings: a newline, a carriage return, or both. -/
def lines : List Char → List Line
  | [] => []
  | '\r' :: '\n' :: rest => ['\r', '\n'] :: lines rest
  | c :: rest =>
      if c = '\n' ∨ c = '\r' then [c] :: lines rest
      else
        match lines rest with
        | [] => [[c]]
        | line :: more => (c :: line) :: more

/-- What two lists have in common in front. -/
def commonFront {α : Type} [DecidableEq α] : List α → List α → List α
  | a :: as, b :: bs => if a = b then a :: commonFront as bs else []
  | _, _ => []

/-- What two lists have in common at the end. -/
def commonBack {α : Type} [DecidableEq α] (as bs : List α) : List α :=
  (commonFront as.reverse bs.reverse).reverse

/-!
## The middle of a shortest script
-/

/-- How far the paths on each diagonal have come; a diagonal is a difference of two positions. -/
abbrev Reach := List (Int × Nat)

/-- How far the paths on a diagonal have come. -/
def Reach.get (reach : Reach) (diagonal : Int) : Nat :=
  (reach.lookup diagonal).getD 0

/-- Where a path with one more edit comes to on a diagonal, before lines that are alike. -/
def nextStart (reach : Reach) (edits diagonal : Int) : Nat :=
  if diagonal = -edits ∨
      (diagonal ≠ edits ∧ reach.get (diagonal - 1) < reach.get (diagonal + 1)) then
    reach.get (diagonal + 1)
  else
    reach.get (diagonal - 1) + 1

/-- How many lines are alike from a position on; `x` and `y` are counted from one end. -/
def run (old new : List Line) (x y : Nat) : Nat :=
  (commonFront (old.drop x) (new.drop y)).length

/-- The diagonals that paths with so many edits can end on, from the highest to the lowest. -/
def diagonals (edits : Nat) : List Int :=
  (List.range (edits + 1)).map fun (i : Nat) => (edits : Int) - 2 * (i : Int)

/--
Moves the paths from one end on by an edit.  When a path meets one from the other end, the place
where its last run of lines begins and ends is the second result.
-/
def advance (old new : List Line) (opposite : Reach) (meets : Int → Bool) (edits : Nat) :
    List Int → Reach → Reach × Option ((Nat × Nat) × (Nat × Nat))
  | [], reach => (reach, none)
  | diagonal :: rest, reach =>
      let start := nextStart reach edits diagonal
      let startNew := ((start : Int) - diagonal).toNat
      let length := run old new start startNew
      let reach := (diagonal, start + length) :: reach
      let mirrored := (old.length : Int) - new.length - diagonal
      if meets diagonal && old.length ≤ start + length + opposite.get mirrored then
        (reach, some ((start, startNew), (start + length, startNew + length)))
      else
        advance old new opposite meets edits rest reach

/-- Searches for the place in which the halves of a shortest script meet. -/
def middle? (old new : List Line) : Option (Nat × Nat) :=
  let delta : Int := (old.length : Int) - new.length
  let isOdd := delta % 2 ≠ 0
  let rec search : Nat → Nat → Reach → Reach → Option (Nat × Nat)
    | 0, _, _, _ => none
    | fuel + 1, edits, front, back =>
        let near (slack : Int) (diagonal : Int) : Bool :=
          decide (-slack ≤ diagonal - delta) && decide (diagonal - delta ≤ slack)
        let meetsFront (diagonal : Int) : Bool := isOdd && near (edits - 1) diagonal
        match advance old new back meetsFront edits (diagonals edits) front with
        | (_, some (start, _)) => some start
        | (front, none) =>
            let meetsBack (diagonal : Int) : Bool := !isOdd && near edits diagonal
            match advance old.reverse new.reverse front meetsBack edits (diagonals edits) back with
            | (_, some (_, (x, y))) => some (old.length - x, new.length - y)
            | (back, none) => search fuel (edits + 1) front back
  search ((old.length + new.length + 1) / 2 + 1) 0 [(1, 0)] [(1, 0)]

/-- A part of a script, unless it is empty. -/
def part (edit : List Line → Edit) (lines : List Line) : List Edit :=
  if lines = [] then [] else [edit lines]

/-- A shortest script; `fuel` bounds how often it is halved. -/
def halve : Nat → List Line → List Line → List Edit
  | 0, old, new => part .delete old ++ part .insert new
  | fuel + 1, old, new =>
      let front := commonFront old new
      let old := old.drop front.length
      let new := new.drop front.length
      let back := commonBack old new
      let old := old.take (old.length - back.length)
      let new := new.take (new.length - back.length)
      let inner :=
        if old = [] ∨ new = [] then part .delete old ++ part .insert new
        else
          match middle? old new with
          | none => part .delete old ++ part .insert new
          | some (x, y) =>
              halve fuel (old.take x) (new.take y) ++ halve fuel (old.drop x) (new.drop y)
      part .keep front ++ inner ++ part .keep back

/-!
## Sliding edits
-/

/-- A script with a place in it: an edit, what comes before it from the nearest on, and after. -/
structure Focus where
  before : List Edit
  edit : Edit
  after : List Edit

/-- The lines of an edit. -/
def Edit.lines : Edit → List Line
  | .keep lines | .delete lines | .insert lines => lines

/-- Puts lines that are kept in front of edits. -/
def keepFront (kept : List Line) : List Edit → List Edit
  | .keep more :: rest => .keep (kept ++ more) :: rest
  | edits => .keep kept :: edits

/-- Puts lines that are kept behind edits, which are given from the last to the first. -/
def keepBack (kept : List Line) : List Edit → List Edit
  | .keep more :: rest => .keep (more ++ kept) :: rest
  | edits => .keep kept :: edits

/-- Drops an edit in front of others if it has no lines. -/
def dropEmpty : List Edit → List Edit
  | .keep [] :: rest => rest
  | edits => edits

/-- Moves the edit in focus a step up, if possible. -/
def Focus.up? (focus : Focus) : Option Focus :=
  match focus.edit, focus.before with
  | .insert lines, .keep kept :: before =>
      let shared := commonBack kept lines
      if shared = [] then none
      else
        some ⟨dropEmpty (.keep (kept.take (kept.length - shared.length)) :: before),
          .insert (shared ++ lines.take (lines.length - shared.length)),
          keepFront shared focus.after⟩
  | .insert lines, .insert more :: before => some ⟨before, .insert (more ++ lines), focus.after⟩
  | .delete lines, .delete more :: before => some ⟨before, .delete (more ++ lines), focus.after⟩
  | .insert _, .delete more :: before | .delete _, .insert more :: before =>
      some ⟨before, focus.edit, (focus.before.headD (.keep more)) :: focus.after⟩
  | _, _ => none

/-- Moves the edit in focus a step down, if possible. -/
def Focus.down? (focus : Focus) : Option Focus :=
  match focus.edit, focus.after with
  | .insert lines, .keep kept :: after =>
      let shared := commonFront kept lines
      if shared = [] then none
      else
        some ⟨keepBack shared focus.before,
          .insert (lines.drop shared.length ++ shared),
          dropEmpty (.keep (kept.drop shared.length) :: after)⟩
  | .insert lines, .insert more :: after => some ⟨focus.before, .insert (lines ++ more), after⟩
  | .delete lines, .delete more :: after => some ⟨focus.before, .delete (lines ++ more), after⟩
  | .insert _, .delete more :: after | .delete _, .insert more :: after =>
      some ⟨(focus.after.headD (.keep more)) :: focus.before, focus.edit, after⟩
  | _, _ => none

/-- Repeats a step as long as it is possible, but not more often than `fuel` says. -/
def Focus.repeatedly (step? : Focus → Option Focus) : Nat → Focus → Focus
  | 0, focus => focus
  | fuel + 1, focus =>
      match step? focus with
      | some focus => repeatedly step? fuel focus
      | none => focus

/-- Slides the edits of one kind up and then down, one after the other. -/
def slide (isKind : Edit → Bool) : Nat → List Edit → List Edit → List Edit
  | 0, before, after => before.reverse ++ after
  | _, before, [] => before.reverse
  | fuel + 1, before, edit :: after =>
      if isKind edit then
        let focus := Focus.repeatedly Focus.up? fuel ⟨before, edit, after⟩
        let focus := Focus.repeatedly Focus.down? fuel focus
        slide isKind fuel (focus.edit :: focus.before) focus.after
      else slide isKind fuel (edit :: before) after

/-- Holds for deletions. -/
def Edit.isDelete : Edit → Bool
  | .delete _ => true
  | _ => false

/-- Holds for insertions. -/
def Edit.isInsert : Edit → Bool
  | .insert _ => true
  | _ => false

/-- The script from some lines to others. -/
def script (old new : List Line) : List Edit :=
  let size := old.length + new.length
  let edits := halve (size + 1) old new
  let fuel := 4 * (size + edits.length + 1)
  slide Edit.isInsert fuel [] (slide Edit.isDelete fuel [] edits)

/-!
## Showing differences
-/

/-- A line behind a sign, ended by a newline if it has no ending. -/
def shownLine (sign : Char) (line : Line) : List Char :=
  let ending := if line.getLast? = some '\n' ∨ line.getLast? = some '\r' then [] else ['\n']
  sign :: line ++ ending

/-- Lines behind signs. -/
def shownLines (sign : Char) (lines : List Line) : List Char :=
  lines.flatMap (shownLine sign)

/-- Shows edits; of edits that meet the deletions, `deleted`, come before the insertions. -/
def showEdits (deleted inserted : List Line) : List Edit → List Char
  | [] => shownLines '-' deleted ++ shownLines '+' inserted
  | .delete lines :: rest => showEdits (deleted ++ lines) inserted rest
  | .insert lines :: rest => showEdits deleted (inserted ++ lines) rest
  | .keep lines :: rest =>
      shownLines '-' deleted ++ shownLines '+' inserted ++ shownLines ' ' lines ++
        showEdits [] [] rest

/-- All lines of two texts, those that are not in both behind a sign. -/
def compare (old new : String) : String :=
  String.ofList (showEdits [] [] (script (lines old.toList) (lines new.toList)))

end Remedy.Diff

import Remedy.Pattern.Syntax
import Remedy.Text.Blank

/-!
# Reading characters of a pattern

A reader keeps the rest of a pattern, whether it is written verbosely, and the capturing groups
so far.  In a verbose pattern blanks and comments say nothing; most readers skip them behind
each character that they take.
-/

namespace Remedy.Pattern

/-- How far the reading of a pattern has come. -/
structure Reader where
  rest : List Char
  verbose : Bool
  /-- How many capturing groups have been opened. -/
  groups : Nat
  /-- The names of groups with their indices. -/
  names : List (String × Nat)

/-- A step of reading, which fails if the pattern is malformed. -/
abbrev Read := StateT Reader Option

namespace Read

/-- Drops blanks and comments; `inComment` says whether a comment has been begun. -/
def skipIdle (inComment : Bool) : List Char → List Char
  | [] => []
  | c :: rest =>
      if inComment then skipIdle (c ≠ '\n') rest
      else if Text.isBlank c then skipIdle false rest
      else if c = '#' then skipIdle true rest
      else c :: rest

/-- Skips blanks and comments in a verbose pattern. -/
def skip : Read Unit :=
  modify fun reader =>
    if reader.verbose then { reader with rest := skipIdle false reader.rest } else reader

/-- The next character, which is not taken. -/
def peek? : Read (Option Char) :=
  return (← get).rest.head?

/-- The next character, which must be there and is not taken. -/
def peek : Read Char := do
  match (← get).rest with
  | c :: _ => return c
  | [] => failure

/-- Takes so many characters. -/
def drop (count : Nat) : Read Unit :=
  modify fun reader => { reader with rest := reader.rest.drop count }

/-- Takes a character and what is idle behind it. -/
def take : Read Unit := do
  drop 1
  skip

/-- Takes a text if it comes next. -/
def takeIf (text : List Char) : Read Bool := do
  let reader ← get
  if text.isPrefixOf reader.rest then
    drop text.length
    return true
  else
    return false

/-- The second next character; in a verbose pattern the first that is not idle. -/
def peekSecond? : Read (Option Char) := do
  let reader ← get
  let rest := reader.rest.drop 1
  if reader.verbose then
    match rest.dropWhile Text.isBlank with
    | '#' :: rest => return (rest.dropWhile Text.isBlank).head?
    | rest => return rest.head?
  else
    return rest.head?

/-- Takes characters with a property, and what is idle behind each, as long as there are any. -/
def takeWhile (accept : Char → Bool) : Read (List Char) := do
  loop ((← get).rest.length + 1)
where
  loop : Nat → Read (List Char)
    | 0 => return []
    | fuel + 1 => do
        match ← peek? with
        | some c =>
            if accept c then
              take
              return c :: (← loop fuel)
            else
              return []
        | none => return []

/-- Reads a number, with blanks around it. -/
def number : Read Nat := do
  modify fun reader => { reader with rest := reader.rest.dropWhile Text.isBlank }
  let digits ← takeWhile Char.isDigit
  let _ ← takeWhile Text.isBlank
  let value := digits.foldl (fun n d => n * 10 + (d.toNat - '0'.toNat)) 0
  if digits = [] ∨ UInt32.size ≤ value then failure
  return value

end Read

end Remedy.Pattern

/-!
# Lines of a text

A text is cut into lines in two ways.  `split` cuts at every newline and at nothing else, so
that `join` gives the text back.  `breakLines` cuts at every line break of the list `isBreak`,
takes a carriage return with the newline behind it for one break, and drops a break at the very
end: this is how a replacement block becomes lines of the file it is put into.
-/

namespace Remedy.Text

/-- The pieces between the occurrences of a separator; there is always at least one. -/
def splitAt {α : Type} [DecidableEq α] (separator : α) : List α → List (List α)
  | [] => [[]]
  | c :: rest =>
      if c = separator then
        [] :: splitAt separator rest
      else
        match splitAt separator rest with
        | [] => [[c]]
        | piece :: pieces => (c :: piece) :: pieces

/-- The lines of a text, which lie between its newlines. -/
def split (text : List Char) : List (List Char) :=
  splitAt '\n' text

/-- The words of a text, which lie between its spaces and newlines. -/
def words (text : List Char) : List (List Char) :=
  ((split text).flatMap (splitAt ' ')).filter fun word => !word.isEmpty

/-- The text whose lines are given. -/
def join (lines : List (List Char)) : List Char :=
  List.intercalate ['\n'] lines

/-- The characters that end a line inside a block. -/
def isBreak (c : Char) : Bool :=
  c == '\n' || c == '\r' || c == '\x0b' || c == '\x0c' || c == '\x1c' || c == '\x1d' ||
    c == '\x1e' || c == '\u0085' || c == '\u2028' || c == '\u2029'

/-- Puts a character in front of the first line, and opens a line where there is none. -/
def consFirst (c : Char) : List (List Char) → List (List Char)
  | [] => [[c]]
  | line :: lines => (c :: line) :: lines

/-- The lines of a block, without the break that may stand at its end. -/
def breakLines : List Char → List (List Char)
  | [] => []
  | '\r' :: '\n' :: rest => [] :: breakLines rest
  | c :: rest =>
      if isBreak c then [] :: breakLines rest else consFirst c (breakLines rest)

/-- The lines of a text with their newlines; only the last one may lack it. -/
def terminatedLines {α : Type} [DecidableEq α] (newline : α) : List α → List (List α)
  | [] => []
  | c :: rest =>
      if c = newline then
        [c] :: terminatedLines newline rest
      else
        match terminatedLines newline rest with
        | [] => [[c]]
        | line :: lines => (c :: line) :: lines

/-- A line without the newline, and the carriage return in front of it, that may end it. -/
def dropEnding (line : List Char) : List Char :=
  match line.reverse with
  | '\n' :: '\r' :: rest => rest.reverse
  | '\n' :: rest => rest.reverse
  | _ => line

/-- The lines of a text without their newlines. -/
def plainLines (text : List Char) : List (List Char) :=
  (terminatedLines '\n' text).map dropEnding

theorem splitAt_ne_nil {α : Type} [DecidableEq α] (separator : α) (text : List α) :
    splitAt separator text ≠ [] := by
  cases text with
  | nil => simp [splitAt]
  | cons c rest =>
      simp only [splitAt]
      split
      · simp
      · split <;> simp

/-- Joining the pieces with the separator gives the list back. -/
theorem intercalate_splitAt {α : Type} [DecidableEq α] (separator : α) (text : List α) :
    List.intercalate [separator] (splitAt separator text) = text := by
  induction text with
  | nil => simp [splitAt, List.intercalate]
  | cons c rest ih =>
      simp only [splitAt]
      by_cases hc : c = separator
      · cases hs : splitAt separator rest with
        | nil => exact absurd hs (splitAt_ne_nil separator rest)
        | cons piece pieces =>
            rw [hs] at ih
            simpa [hc, List.intercalate, List.intersperse] using ih
      · cases hs : splitAt separator rest with
        | nil => exact absurd hs (splitAt_ne_nil separator rest)
        | cons piece pieces =>
            rw [hs] at ih
            cases pieces with
            | nil => simpa [hc, List.intercalate] using ih
            | cons next more => simpa [hc, List.intercalate, List.intersperse] using ih

/-- The lines of a text, joined, are the text. -/
@[simp] theorem join_split (text : List Char) : join (split text) = text :=
  intercalate_splitAt '\n' text

/-- The lines with their newlines, one after the other, are the text. -/
theorem flatten_terminatedLines {α : Type} [DecidableEq α] (newline : α) (text : List α) :
    (terminatedLines newline text).flatten = text := by
  induction text with
  | nil => rfl
  | cons c rest ih =>
      simp only [terminatedLines]
      by_cases hc : c = newline
      · simp [hc, ih]
      · cases hs : terminatedLines newline rest with
        | nil => rw [hs] at ih; simpa [hc] using ih
        | cons line lines => rw [hs] at ih; simpa [hc] using ih

end Remedy.Text

import Remedy.Toml.Scalar
import Remedy.Toml.Text

/-!
# Reading TOML

A document is read from its front to its end, and each assignment and each header is carried out
on the table read so far.  What is no TOML, or sets a key twice, gives no table at all.  Between
the braces of a table, as between the brackets of a list, there may be line ends, comments and a
comma behind the last item.
-/

namespace Remedy.Toml

/-- What follows spaces, line ends and comments; a comment with a forbidden character fails. -/
def skipIdle? : (comment : Bool) → List Char → Option (List Char)
  | _, [] => some []
  | _, '\n' :: rest => skipIdle? false rest
  | _, '\r' :: '\n' :: rest => skipIdle? false rest
  | true, c :: rest => if isPlain c then skipIdle? true rest else none
  | false, c :: rest =>
      if c = '#' then skipIdle? true rest
      else if isSpace c then skipIdle? false rest
      else some (c :: rest)

/-- Holds for the characters that end a word. -/
def endsWord (c : Char) : Bool :=
  isSpace c || c == '\n' || c == '\r' || c == ',' || c == ']' || c == '}' || c == '#'

/-- Splits off a word; between a date and a time of day there may be a space. -/
def word (text : List Char) : List Char × List Char :=
  let split (text : List Char) : List Char × List Char :=
    (text.takeWhile fun c => !endsWord c, text.dropWhile fun c => !endsWord c)
  let (first, rest) := split text
  match rest with
  | ' ' :: c :: more =>
      if isDate first && c.isDigit then
        let (second, rest) := split (c :: more)
        (first ++ ' ' :: second, rest)
      else (first, rest)
  | _ => (first, rest)

mutual

/-- Reads a value. -/
def value? : Nat → List Char → Option (Toml × List Char)
  | 0, _ => none
  | fuel + 1, text =>
      match text with
      | '"' :: _ | '\'' :: _ => (string? text).map fun (s, rest) => (.string s, rest)
      | '[' :: rest => do
          let (items, rest) ← items? fuel rest
          return (.array items, rest)
      | '\x7b' :: rest => do
          let (fields, rest) ← inline? fuel [] rest
          return (fields.toToml, rest)
      | _ =>
          let (chars, rest) := word text
          (word? chars).map fun value => (value, rest)

/-- Reads the items of an array up to its bracket. -/
def items? : Nat → List Char → Option (List Toml × List Char)
  | 0, _ => none
  | fuel + 1, text => do
      match ← skipIdle? false text with
      | ']' :: rest => return ([], rest)
      | text => do
          let (item, rest) ← value? fuel text
          match ← skipIdle? false rest with
          | ',' :: rest => do
              let (items, rest) ← items? fuel rest
              return (item :: items, rest)
          | ']' :: rest => return ([item], rest)
          | _ => none

/-- Reads the assignments of a table in braces up to its brace. -/
def inline? : Nat → Fields → List Char → Option (Fields × List Char)
  | 0, _, _ => none
  | fuel + 1, fields, text => do
      match ← skipIdle? false text with
      | '\x7d' :: rest => return (fields, rest)
      | text => do
          let ((path, key), value, rest) ← assignment? fuel text
          let fields ← Fields.assign? path key value .opened fields
          match ← skipIdle? false rest with
          | ',' :: rest => inline? fuel fields rest
          | '\x7d' :: rest => return (fields, rest)
          | _ => none

/-- Reads an assignment. -/
def assignment? : Nat → List Char → Option ((List String × String) × Toml × List Char)
  | 0, _ => none
  | fuel + 1, text => do
      let (key, rest) ← key? text.length text
      match rest with
      | '=' :: rest => do
          let (value, rest) ← value? fuel (skipSpace rest)
          return (key, value, rest)
      | _ => none

end

/-- Reads a line that is not empty. -/
def line? (fuel : Nat) (text : List Char) : Option (Line × List Char) :=
  match text with
  | '[' :: '[' :: rest => do
      let ((path, key), rest) ← key? fuel rest
      match rest with
      | ']' :: ']' :: rest => return (.listHeader path key, rest)
      | _ => none
  | '[' :: rest => do
      let ((path, key), rest) ← key? fuel rest
      match rest with
      | ']' :: rest => return (.header path key, rest)
      | _ => none
  | _ => do
      let ((path, key), value, rest) ← assignment? fuel text
      return (.assignment path key value, rest)

/-- The rest of a line behind its content: spaces and a comment. -/
def lineEnd? (text : List Char) : Option (List Char) :=
  match skipSpace text with
  | [] => some []
  | '#' :: rest =>
      match rest.dropWhile isPlain with
      | [] => some []
      | rest => newline? rest
  | rest => newline? rest

/-- Reads the lines of a document. -/
def lines? : Nat → List Char → Option (List Line)
  | 0, _ => none
  | fuel + 1, text => do
      match ← skipIdle? false text with
      | [] => return []
      | text => do
          let (line, rest) ← line? fuel text
          return line :: (← lines? fuel (← lineEnd? rest))

/-- Reads a document, in front of which a byte order mark may stand. -/
def parse? (text : String) : Option Toml := do
  let text :=
    match text.toList with
    | '\ufeff' :: rest => rest
    | chars => chars
  ofLines? [] [] (← lines? (text.length + 2) text)

end Remedy.Toml

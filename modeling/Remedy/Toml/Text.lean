import Remedy.Text.Hex

/-!
# Strings and keys of TOML

Strings stand in quotes or apostrophes, single ones on one line and triple ones over several.
Only the former have escapes.  A key is a string on one line, or bare.
-/

namespace Remedy.Toml

/-- Holds for spaces and tabs. -/
def isSpace (c : Char) : Bool :=
  c == ' ' || c == '\t'

/-- The text without the spaces and tabs in front. -/
def skipSpace (text : List Char) : List Char :=
  text.dropWhile isSpace

/-- The text behind a line end. -/
def newline? : List Char → Option (List Char)
  | '\n' :: rest => some rest
  | '\r' :: '\n' :: rest => some rest
  | _ => none

/-- Holds for the characters that may stand in comments and strings on one line. -/
def isPlain (c : Char) : Bool :=
  c == '\t' || (' ' ≤ c && c != '\x7f')

/-- The character with a code. -/
def scalar? (code : Nat) : Option Char :=
  if h : code.isValidChar then some (Char.ofNatAux code h) else none

/-- The character that so many hexadecimal digits stand for. -/
def coded? (count : Nat) (text : List Char) : Option (Char × List Char) := do
  let digits := text.take count
  if digits.length = count then
    let values ← digits.mapM Text.Hex.value?
    let char ← scalar? (values.foldl (fun n d => 16 * n + d) 0)
    return (char, text.drop count)
  else none

/-- The character that an escape stands for, the backslash of which has been read. -/
def escape? : List Char → Option (Char × List Char)
  | 'b' :: rest => some ('\x08', rest)
  | 'e' :: rest => some ('\x1b', rest)
  | 'f' :: rest => some ('\x0c', rest)
  | 'n' :: rest => some ('\n', rest)
  | 'r' :: rest => some ('\r', rest)
  | 't' :: rest => some ('\t', rest)
  | '"' :: rest => some ('"', rest)
  | '\\' :: rest => some ('\\', rest)
  | 'x' :: rest => coded? 2 rest
  | 'u' :: rest => coded? 4 rest
  | 'U' :: rest => coded? 8 rest
  | _ => none

/-- Holds for a backslash at the end of a line, which joins it with the next one. -/
def foldsLine (rest : List Char) : Bool :=
  (newline? (skipSpace rest)).isSome

/-- The text without the spaces and line ends in front. -/
def skipWhite : List Char → List Char
  | ' ' :: rest => skipWhite rest
  | '\t' :: rest => skipWhite rest
  | '\n' :: rest => skipWhite rest
  | '\r' :: '\n' :: rest => skipWhite rest
  | text => text

/-- A string up to the quote that ends it. -/
def quoted? (quote : Char) : Nat → List Char → Option (List Char × List Char)
  | 0, _ => none
  | _, [] => none
  | fuel + 1, c :: rest =>
      if c = quote then some ([], rest)
      else if c = '\\' ∧ quote = '"' then do
        let (char, rest) ← escape? rest
        let (chars, rest) ← quoted? quote fuel rest
        return (char :: chars, rest)
      else if isPlain c then do
        let (chars, rest) ← quoted? quote fuel rest
        return (c :: chars, rest)
      else none

/-- A string over several lines up to the three quotes that end it, with two more at most. -/
def longQuoted? (quote : Char) : Nat → List Char → Option (List Char × List Char)
  | 0, _ => none
  | _, [] => none
  | fuel + 1, c :: rest =>
      if c = quote then
        let run := ((c :: rest).takeWhile (· == quote)).length
        if run < 3 then do
          let (chars, rest) ← longQuoted? quote fuel rest
          return (c :: chars, rest)
        else if run ≤ 5 then some (List.replicate (run - 3) quote, (c :: rest).drop run)
        else none
      else if c = '\\' ∧ quote = '"' then
        if foldsLine rest then longQuoted? quote fuel (skipWhite rest)
        else do
          let (char, rest) ← escape? rest
          let (chars, rest) ← longQuoted? quote fuel rest
          return (char :: chars, rest)
      else if isPlain c || c == '\n' || (c == '\r' && rest.head? == some '\n') then do
        let (chars, rest) ← longQuoted? quote fuel rest
        return (c :: chars, rest)
      else none

/-- A string of any kind. -/
def string? (text : List Char) : Option (String × List Char) :=
  let fuel := text.length
  let long (quote : Char) (rest : List Char) : Option (List Char × List Char) :=
    longQuoted? quote fuel ((newline? rest).getD rest)
  let read? : Option (List Char × List Char) :=
    match text with
    | '"' :: '"' :: '"' :: rest => long '"' rest
    | '\'' :: '\'' :: '\'' :: rest => long '\'' rest
    | '"' :: rest => quoted? '"' fuel rest
    | '\'' :: rest => quoted? '\'' fuel rest
    | _ => none
  read?.map fun (chars, rest) => (String.ofList chars, rest)

/-- Holds for the characters of bare keys. -/
def isBare (c : Char) : Bool :=
  c.isAlphanum || c == '_' || c == '-'

/-- A key without dots. -/
def simpleKey? (text : List Char) : Option (String × List Char) :=
  match text with
  | '"' :: rest =>
      (quoted? '"' text.length rest).map fun (chars, rest) => (String.ofList chars, rest)
  | '\'' :: rest =>
      (quoted? '\'' text.length rest).map fun (chars, rest) => (String.ofList chars, rest)
  | _ =>
      match text.takeWhile isBare with
      | [] => none
      | chars => some (String.ofList chars, text.dropWhile isBare)

/--
A key and the keys that lead to it, with dots between them, and the text behind it, in front of
which there is no space.
-/
def key? : Nat → List Char → Option ((List String × String) × List Char)
  | 0, _ => none
  | fuel + 1, text => do
      let (key, rest) ← simpleKey? (skipSpace text)
      match skipSpace rest with
      | '.' :: rest => do
          let ((path, last), rest) ← key? fuel rest
          return ((key :: path, last), rest)
      | rest => return (([], key), rest)

end Remedy.Toml

import Remedy.Json.Basic

/-!
# Writing JSON

`write` leaves out all blanks; `writePretty` puts each item and each field on a line of its own,
two blanks further in than what holds it.  In a string only the quote, the backslash and the
controls below the blank are escaped.
-/

namespace Remedy.Json

/-- A hexadecimal digit in lower case. -/
def hexDigit (n : Nat) : Char :=
  (Nat.toDigits 16 n).headD '0'

/-- A character as it stands in a string. -/
def escape (c : Char) : List Char :=
  if c = '"' then ['\\', '"']
  else if c = '\\' then ['\\', '\\']
  else if c = '\x08' then ['\\', 'b']
  else if c = '\t' then ['\\', 't']
  else if c = '\n' then ['\\', 'n']
  else if c = '\x0c' then ['\\', 'f']
  else if c = '\r' then ['\\', 'r']
  else if c.toNat < 0x20 then
    ['\\', 'u', '0', '0', hexDigit (c.toNat / 16), hexDigit (c.toNat % 16)]
  else [c]

/-- A string in its quotes. -/
def writeString (s : String) : List Char :=
  '"' :: s.toList.flatMap escape ++ ['"']

mutual

/-- The text of a value without blanks. -/
def write : Json → List Char
  | .null => ['n', 'u', 'l', 'l']
  | .bool true => ['t', 'r', 'u', 'e']
  | .bool false => ['f', 'a', 'l', 's', 'e']
  | .number n => n.write
  | .string s => writeString s
  | .array items => '[' :: writeItems items ++ [']']
  | .object fields => '{' :: writeFields fields ++ ['}']

/-- The items of an array with commas between them. -/
def writeItems : List Json → List Char
  | [] => []
  | [item] => write item
  | item :: rest => write item ++ ',' :: writeItems rest

/-- The fields of an object with commas between them. -/
def writeFields : List (String × Json) → List Char
  | [] => []
  | [(key, value)] => writeString key ++ ':' :: write value
  | (key, value) :: rest => writeString key ++ ':' :: write value ++ ',' :: writeFields rest

end

/-- A new line that is indented by so many levels. -/
def newLine (level : Nat) : List Char :=
  '\n' :: List.replicate (2 * level) ' '

mutual

/-- The text of a value that stands at a level of indentation. -/
def writePretty (level : Nat) : Json → List Char
  | .array [] => ['[', ']']
  | .array (item :: items) =>
      '[' :: writePrettyItems (level + 1) (item :: items) ++ newLine level ++ [']']
  | .object [] => ['{', '}']
  | .object (field :: fields) =>
      '{' :: writePrettyFields (level + 1) (field :: fields) ++ newLine level ++ ['}']
  | .null => ['n', 'u', 'l', 'l']
  | .bool true => ['t', 'r', 'u', 'e']
  | .bool false => ['f', 'a', 'l', 's', 'e']
  | .number n => n.write
  | .string s => writeString s

/-- The items of an array, each on its line. -/
def writePrettyItems (level : Nat) : List Json → List Char
  | [] => []
  | [item] => newLine level ++ writePretty level item
  | item :: rest =>
      newLine level ++ writePretty level item ++ ',' :: writePrettyItems level rest

/-- The fields of an object, each on its line. -/
def writePrettyFields (level : Nat) : List (String × Json) → List Char
  | [] => []
  | [(key, value)] =>
      newLine level ++ writeString key ++ ':' :: ' ' :: writePretty level value
  | (key, value) :: rest =>
      newLine level ++ writeString key ++ ':' :: ' ' :: writePretty level value ++
        ',' :: writePrettyFields level rest

end

/-- The text of a value without blanks. -/
def compact (value : Json) : String :=
  String.ofList (write value)

/-- The text of a value over several lines. -/
def pretty (value : Json) : String :=
  String.ofList (writePretty 0 value)

end Remedy.Json

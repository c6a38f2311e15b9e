import Remedy.Pattern.Reader
import Remedy.Unicode.Property

/-!
# Escapes

A backslash begins a character that stands for itself, a control, a character by its number, an
assertion or a class.  References back to groups and octal numbers are not accepted.
-/

namespace Remedy.Pattern

/-- What an escape can stand for. -/
inductive Escaped where
  | literal (literal : Literal)
  | assertion (assertion : Assertion)
  | letter (kind : LetterClass) (negated : Bool)
  | property (query : PropertyQuery) (negated : Bool)

namespace Escaped

/-- The characters with a meaning of their own in patterns. -/
def isMeta (c : Char) : Bool :=
  ['\\', '.', '+', '*', '?', '(', ')', '|', '[', ']', '\x7b', '\x7d', '^', '$', '#', '&', '-',
    '~'].contains c

/-- The characters that may follow a backslash to stand for themselves. -/
def isEscapable (c : Char) : Bool :=
  isMeta c || (c.toNat < 0x80 && !c.isAlphanum && c ≠ '<' && c ≠ '>')

/-- The control that a letter stands for. -/
def control? : Char → Option Char
  | 'a' => some '\x07'
  | 'f' => some '\x0c'
  | 't' => some '\t'
  | 'n' => some '\n'
  | 'r' => some '\r'
  | 'v' => some '\x0b'
  | _ => none

/-- The class that a letter stands for, and whether it is negated. -/
def letter? : Char → Option (LetterClass × Bool)
  | 'd' => some (.digit, false)
  | 's' => some (.space, false)
  | 'w' => some (.word, false)
  | 'D' => some (.digit, true)
  | 'S' => some (.space, true)
  | 'W' => some (.word, true)
  | _ => none

/-- The assertion that a letter stands for. -/
def assertion? : Char → Option Assertion
  | 'A' => some .textStart
  | 'z' => some .textEnd
  | 'b' => some .wordEdge
  | 'B' => some .noWordEdge
  | '<' => some .wordStart
  | '>' => some .wordEnd
  | _ => none

/-- The value of a hexadecimal digit. -/
def hexValue? (c : Char) : Option Nat :=
  if c.isDigit then some (c.toNat - '0'.toNat)
  else if 'a' ≤ c ∧ c ≤ 'f' then some (c.toNat - 'a'.toNat + 10)
  else if 'A' ≤ c ∧ c ≤ 'F' then some (c.toNat - 'A'.toNat + 10)
  else none

/-- The character with a number in hexadecimal digits. -/
def character? (digits : List Char) : Option Char := do
  let values ← digits.mapM hexValue?
  let code := values.foldl (fun n v => n * 16 + v) 0
  if code < 0xD800 ∨ (0xDFFF < code ∧ code ≤ 0x10FFFF) then some (Char.ofNat code) else none

/-- Reads so many hexadecimal digits. -/
def fixedDigits : Nat → Read (List Char)
  | 0 => return []
  | count + 1 => do
      let c ← Read.peek
      if (hexValue? c).isNone then failure
      Read.take
      return c :: (← fixedDigits count)

/-- Reads a character by its number; `x`, `u` and `U` are followed by two, four or eight digits. -/
def byNumber (kind : Char) : Read Literal := do
  Read.take
  if (← Read.peek) = '\x7b' then
    Read.take
    let digits ← Read.takeWhile (· ≠ '\x7d')
    let _ ← Read.peek
    Read.take
    if digits = [] then failure
    return ⟨← character? digits, false⟩
  else
    let count := if kind = 'x' then 2 else if kind = 'u' then 4 else 8
    return ⟨← character? (← fixedDigits count), kind = 'x'⟩

/-- Cuts a text at the first place where another text begins. -/
def cutAt? (mark : List Char) : List Char → Option (List Char × List Char)
  | [] => none
  | c :: rest =>
      if mark.isPrefixOf (c :: rest) then some ([], (c :: rest).drop mark.length)
      else (cutAt? mark rest).map fun (front, back) => (c :: front, back)

/-- The query that stands between the braces. -/
def query (text : List Char) : PropertyQuery :=
  let cut? := (cutAt? ['!', '='] text).orElse fun _ =>
    (cutAt? [':'] text).orElse fun _ => cutAt? ['='] text
  match cut? with
  | some (name, value) => .valued (String.ofList name) (String.ofList value)
  | none => .named (String.ofList text)

/-- Reads the property behind `p` or `P`. -/
def propertyQuery : Read PropertyQuery := do
  Read.take
  let c ← Read.peek
  if c = '\x7b' then
    Read.take
    let text ← Read.takeWhile (· ≠ '\x7d')
    let _ ← Read.peek
    Read.drop 1
    return query text
  else if c = '\\' then failure
  else
    Read.take
    return .named (String.ofList [c])

/-- The edges of words that are named in braces. -/
def namedEdge? (name : List Char) : Option Assertion :=
  match String.ofList name with
  | "start" => some .wordStart
  | "end" => some .wordEnd
  | "start-half" => some .wordStartHalf
  | "end-half" => some .wordEndHalf
  | _ => none

/-- Reads the name of an edge; braces that hold a number are left to be a repetition. -/
def edge : Read Assertion := do
  let before ← get
  if (← Read.peek?) ≠ some '\x7b' then return .wordEdge
  Read.take
  let isNameChar (c : Char) : Bool := c.isAlpha || c == '-'
  if isNameChar (← Read.peek) then
    let name ← Read.takeWhile isNameChar
    if (← Read.peek) ≠ '\x7d' then failure
    Read.drop 1
    namedEdge? name
  else
    set before
    return .wordEdge

/-- Reads what a backslash begins. -/
def read : Read Escaped := do
  Read.drop 1
  let c ← Read.peek
  if c.isDigit then failure
  else if c = 'x' ∨ c = 'u' ∨ c = 'U' then return .literal (← byNumber c)
  else if c = 'p' ∨ c = 'P' then return .property (← propertyQuery) (c = 'P')
  else
    Read.drop 1
    if let some (kind, negated) := letter? c then return .letter kind negated
    else if isEscapable c then return .literal ⟨c, false⟩
    else if let some control := control? c then return .literal ⟨control, false⟩
    else if c = 'b' then return .assertion (← edge)
    else return .assertion (← assertion? c)

end Escaped

end Remedy.Pattern

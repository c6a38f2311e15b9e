import Remedy.Json.Basic

/-!
# Reading JSON

Reading has two stages.  `Source.parse?` recognises a text and gives its tree, in which numbers
are still digits and objects keep all their fields in the order of the text.  A string that holds
half of a surrogate pair is recognised but has no value.  What is then made of the tree is up to
its reader: parts that a reader skips are held to the grammar only, and `Source.value?` turns a
tree into a value, with limits on its depth and on the size of its numbers.
-/

namespace Remedy.Json

/-- A number as it is written. -/
structure Numeral where
  negative : Bool
  whole : List Char
  /-- The digits behind the point; there are none if there is no point. -/
  fraction : List Char
  /-- The power of ten: whether it is negative, and its digits. -/
  exponent? : Option (Bool × List Char)
deriving DecidableEq

/-- A text that has been recognised as JSON. -/
inductive Source where
  | null
  | bool (value : Bool)
  | number (numeral : Numeral)
  /-- A string, unless it holds half of a surrogate pair. -/
  | string (value? : Option String)
  | array (items : List Source)
  | object (fields : List (Option String × Source))
deriving Inhabited

namespace Source

/-- The text without the blanks, tabs and line ends in front. -/
def skipBlanks (text : List Char) : List Char :=
  text.dropWhile fun c => c == ' ' || c == '\t' || c == '\n' || c == '\r'

/-- The value of a hexadecimal digit. -/
def hexValue? (c : Char) : Option Nat :=
  if '0' ≤ c ∧ c ≤ '9' then some (c.toNat - '0'.toNat)
  else if 'a' ≤ c ∧ c ≤ 'f' then some (c.toNat - 'a'.toNat + 10)
  else if 'A' ≤ c ∧ c ≤ 'F' then some (c.toNat - 'A'.toNat + 10)
  else none

/-- The character that a one-letter escape stands for. -/
def shortEscape? : Char → Option Char
  | '"' => some '"'
  | '\\' => some '\\'
  | '/' => some '/'
  | 'b' => some '\x08'
  | 'f' => some '\x0c'
  | 'n' => some '\n'
  | 'r' => some '\r'
  | 't' => some '\t'
  | _ => none

/-- The code units of a string up to its closing quote, and what stands behind that. -/
def units? : List Char → Option (List Nat × List Char)
  | [] => none
  | '"' :: rest => some ([], rest)
  | '\\' :: 'u' :: a :: b :: c :: d :: rest => do
      let unit := (((← hexValue? a) * 16 + (← hexValue? b)) * 16 + (← hexValue? c)) * 16
        + (← hexValue? d)
      let (units, rest) ← units? rest
      return (unit :: units, rest)
  | '\\' :: c :: rest => do
      let escaped ← shortEscape? c
      let (units, rest) ← units? rest
      return (escaped.toNat :: units, rest)
  | c :: rest =>
      if c.toNat < 0x20 ∨ c = '\\' then none
      else do
        let (units, rest) ← units? rest
        return (c.toNat :: units, rest)

/-- Holds for the first half of a surrogate pair. -/
def isHighSurrogate (unit : Nat) : Bool := 0xD800 ≤ unit && unit < 0xDC00

/-- Holds for the second half of a surrogate pair. -/
def isLowSurrogate (unit : Nat) : Bool := 0xDC00 ≤ unit && unit < 0xE000

/-- The characters of some code units, unless a half of a surrogate pair stands alone. -/
def characters? : List Nat → Option (List Char)
  | [] => some []
  | [unit] =>
      if isHighSurrogate unit || isLowSurrogate unit then none else some [Char.ofNat unit]
  | unit :: next :: rest =>
      if isLowSurrogate unit then none
      else if isHighSurrogate unit then
        if isLowSurrogate next then
          (characters? rest).map
            (Char.ofNat ((unit - 0xD800) * 0x400 + (next - 0xDC00) + 0x10000) :: ·)
        else none
      else (characters? (next :: rest)).map (Char.ofNat unit :: ·)

/-- A string whose opening quote has been read. -/
def string? (text : List Char) : Option (Option String × List Char) := do
  let (units, rest) ← units? text
  return ((characters? units).map String.ofList, rest)

/-- The digits in front of a text, and the text behind them. -/
def digits (text : List Char) : List Char × List Char :=
  (text.takeWhile Char.isDigit, text.dropWhile Char.isDigit)

/-- The digits behind a point, of which there must be one. -/
def fraction? : List Char → Option (List Char × List Char)
  | '.' :: text =>
      match digits text with
      | ([], _) => none
      | found => some found
  | text => some ([], text)

/-- The power of ten behind its mark, which must have a digit. -/
def exponent? : List Char → Option (Option (Bool × List Char) × List Char)
  | [] => some (none, [])
  | c :: text =>
      if c = 'e' ∨ c = 'E' then
        let (negative, text) :=
          match text with
          | '-' :: text => (true, text)
          | '+' :: text => (false, text)
          | text => (false, text)
        match digits text with
        | ([], _) => none
        | (found, rest) => some (some (negative, found), rest)
      else some (none, c :: text)

/-- A number; it has no zero in front of other digits. -/
def numeral? (text : List Char) : Option (Numeral × List Char) := do
  let (negative, text) :=
    match text with
    | '-' :: text => (true, text)
    | text => (false, text)
  let (whole, rest) := digits text
  if whole = [] ∨ (whole.head? = some '0' ∧ whole ≠ ['0']) then none
  let (fraction, rest) ← fraction? rest
  let (exponent?, rest) ← exponent? rest
  return (⟨negative, whole, fraction, exponent?⟩, rest)

mutual

/-- Recognises a value and gives what stands behind it. -/
def value : Nat → List Char → Option (Source × List Char)
  | 0, _ => none
  | fuel + 1, text =>
      match skipBlanks text with
      | 'n' :: 'u' :: 'l' :: 'l' :: rest => some (.null, rest)
      | 't' :: 'r' :: 'u' :: 'e' :: rest => some (.bool true, rest)
      | 'f' :: 'a' :: 'l' :: 's' :: 'e' :: rest => some (.bool false, rest)
      | '"' :: rest => (string? rest).map fun (s, rest) => (.string s, rest)
      | '[' :: rest =>
          match skipBlanks rest with
          | ']' :: rest => some (.array [], rest)
          | rest => (items fuel rest).map fun (found, rest) => (.array found, rest)
      | '{' :: rest =>
          match skipBlanks rest with
          | '}' :: rest => some (.object [], rest)
          | rest => (fields fuel rest).map fun (found, rest) => (.object found, rest)
      | text => (numeral? text).map fun (n, rest) => (.number n, rest)

/-- Recognises the items of an array up to its end. -/
def items : Nat → List Char → Option (List Source × List Char)
  | 0, _ => none
  | fuel + 1, text => do
      let (item, rest) ← value fuel text
      match skipBlanks rest with
      | ',' :: rest =>
          let (more, rest) ← items fuel rest
          return (item :: more, rest)
      | ']' :: rest => return ([item], rest)
      | _ => none

/-- Recognises the fields of an object up to its end. -/
def fields : Nat → List Char → Option (List (Option String × Source) × List Char)
  | 0, _ => none
  | fuel + 1, text =>
      match skipBlanks text with
      | '"' :: rest => do
          let (key, rest) ← string? rest
          match skipBlanks rest with
          | ':' :: rest =>
              let (item, rest) ← value fuel rest
              match skipBlanks rest with
              | ',' :: rest =>
                  let (more, rest) ← fields fuel rest
                  return ((key, item) :: more, rest)
              | '}' :: rest => return ([(key, item)], rest)
              | _ => none
          | _ => none
      | _ => none

end

/-- Recognises a text that is one value and nothing else. -/
def parse? (text : String) : Option Source :=
  let text := text.toList
  match value (2 * text.length + 2) text with
  | some (source, rest) => if skipBlanks rest = [] then some source else none
  | none => none

end Source

/-!
## Numbers

An integer that fits into 64 bits stays one, except for the negative zero.  Any other number is a
double: the leading digits that fit into 64 bits, multiplied or divided by a power of ten.
-/

namespace Numeral

/-- The largest integer without a sign. -/
def largest : Nat := UInt64.size - 1

/-- A power of ten as a double. -/
def tenTo (exponent : Nat) : Float :=
  Float.ofScientific 1 false exponent

/-- Multiplies by a power of ten, in steps of 308 when it is very small. -/
def scale? (value : Float) (exponent : Int) : Option Float :=
  if exponent.natAbs ≤ 308 then
    if 0 ≤ exponent then
      let product := value * tenTo exponent.natAbs
      if product.isInf then none else some product
    else some (value / tenTo exponent.natAbs)
  else if value == 0 then some value
  else if h : 0 ≤ exponent then none
  else scale? (value / tenTo 308) (exponent + 308)
termination_by (-exponent).toNat
decreasing_by omega

/-- Adds a digit to a number of 64 bits, unless it does not fit. -/
def push? (significand : Nat) (digit : Char) : Option Nat :=
  let grown := significand * 10 + (digit.toNat - '0'.toNat)
  if grown ≤ largest then some grown else none

/-- Takes digits as long as they fit, and counts the digits that are left. -/
def gather (significand : Nat) : List Char → Nat × Nat
  | [] => (significand, 0)
  | digit :: rest =>
      match push? significand digit with
      | some grown => gather grown rest
      | none => (significand, rest.length + 1)

/-- The significand and the power of ten of the digits around the point. -/
def significand (numeral : Numeral) : Nat × Int :=
  let (significand, dropped) := gather 0 numeral.whole
  let (full, left) := gather significand numeral.fraction
  (full, (dropped : Int) - ((numeral.fraction.length - left : Nat) : Int))

/-- The largest power of ten that is read as it stands. -/
def largestExponent : Nat := Nat.pow 2 31 - 1

/-- The double that a number stands for, unless it is too large. -/
def double? (numeral : Numeral) : Option Float := do
  let (significand, shift) := numeral.significand
  let value ←
    match numeral.exponent? with
    | none => scale? significand.toUInt64.toFloat shift
    | some (negative, digits) =>
        let exponent := digits.foldl (fun n d => n * 10 + (d.toNat - '0'.toNat)) 0
        if largestExponent < exponent then
          if significand ≠ 0 ∧ negative = false then none else some 0
        else
          let exponent : Int := if negative then shift - exponent else shift + exponent
          scale? significand.toUInt64.toFloat exponent
  return if numeral.negative then -value else value

/-- The number that is written, unless it is too large for a double. -/
def number? (numeral : Numeral) : Option Number :=
  let whole := numeral.whole.foldl (fun n d => n * 10 + (d.toNat - '0'.toNat)) 0
  let isWhole := numeral.fraction = [] ∧ numeral.exponent? = none
  if isWhole ∧ numeral.negative = false ∧ whole ≤ largest then some (.natural whole)
  else if isWhole ∧ numeral.negative = true ∧ whole ≠ 0 ∧ whole ≤ Nat.pow 2 63 then
    some (.negative whole)
  else numeral.double?.map fun value => .double value.toBits

end Numeral

/--
The value of a tree, in which arrays and objects may lie `depth - 1` deep.  There is none if a
string or a number has no value.
-/
def Source.value? : Nat → Source → Option Json
  | _, .null => some .null
  | _, .bool b => some (.bool b)
  | _, .number n => n.number?.map .number
  | _, .string s? => s?.map .string
  | 0, _ => none
  | depth + 1, .array items =>
      if depth = 0 then none
      else (items.mapM (Source.value? depth)).map .array
  | depth + 1, .object fields =>
      if depth = 0 then none
      else
        let field? (field : Option String × Source) : Option (String × Json) := do
          return (← field.1, ← Source.value? depth field.2)
        (fields.mapM field?).map fun found => .object (sortFields found)

/-- Reads a text as a value without a limit on its depth. -/
def parse? (text : String) : Option Json := do
  let source ← Source.parse? text
  source.value? (text.length + 2)

end Remedy.Json

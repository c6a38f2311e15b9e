import Remedy.Text.Hex
import Remedy.Text.Lines
import Remedy.Toml.Basic

/-!
# Words of TOML

A word is a value that is neither a string nor made of other values: a truth value, a number, a
date or a time of day.  Digits of numbers may be separated by single underlines.
-/

namespace Remedy.Toml

/-- Digits without the underlines between them; each must lie between two digits. -/
def digits? (isDigit : Char → Bool) (text : List Char) : Option (List Char) :=
  let groups := Text.splitAt '_' text
  if groups.all fun group => !group.isEmpty && group.all isDigit then some groups.flatten
  else none

/-- The number that digits in a base stand for. -/
def number? (base : Nat) (text : List Char) : Option Nat := do
  let isDigit (c : Char) : Bool := ((Text.Hex.value? c).map fun d => decide (d < base)).getD false
  let digits ← digits? isDigit text
  let values ← digits.mapM Text.Hex.value?
  return values.foldl (fun n d => base * n + d) 0

/-- Splits off the sign in front of a number; true stands for a minus. -/
def signed : List Char → Bool × List Char
  | '-' :: rest => (true, rest)
  | '+' :: rest => (false, rest)
  | text => (false, text)

/-- Decimal digits, which begin with a zero only if there are no others. -/
def isWhole (text : List Char) : Bool :=
  (digits? Char.isDigit text).isSome && (text.length ≤ 1 || text.head? != some '0')

/-- An integer of 64 bits. -/
def integer? (text : List Char) : Option Int := do
  let value ←
    match text with
    | '0' :: 'x' :: digits => (number? 16 digits).map Int.ofNat
    | '0' :: 'o' :: digits => (number? 8 digits).map Int.ofNat
    | '0' :: 'b' :: digits => (number? 2 digits).map Int.ofNat
    | _ =>
        let (negative, whole) := signed text
        if isWhole whole then
          (number? 10 whole).map fun n => if negative then -(n : Int) else n
        else none
  if -9223372036854775808 ≤ value ∧ value < 9223372036854775808 then some value else none

/-- Splits a text at the first of some characters, which is dropped. -/
def cut (isMark : Char → Bool) (text : List Char) : List Char × Option (List Char) :=
  let rest := text.dropWhile fun c => !isMark c
  (text.takeWhile fun c => !isMark c, if rest = [] then none else some rest.tail)

/-- Holds for numbers with a fraction or a power of ten. -/
def isFraction (text : List Char) : Bool :=
  let (_, number) := signed text
  let (mantissa, exponent?) := cut (fun c => c == 'e' || c == 'E') number
  let (whole, fraction?) := cut (· == '.') mantissa
  let isDigits (digits : List Char) : Bool := (digits? Char.isDigit digits).isSome
  number == "inf".toList || number == "nan".toList ||
    (isWhole whole && (exponent?.isSome || fraction?.isSome) &&
      (fraction?.map isDigits).getD true &&
      (exponent?.map fun digits => isDigits (signed digits).2).getD true)

/-- The number that exactly `count` digits stand for. -/
def fixed? (count : Nat) (text : List Char) : Option Nat :=
  if text.length = count then number? 10 text else none

/-- How many days a month has. -/
def daysOf (year month : Nat) : Nat :=
  if month = 2 then
    if year % 4 = 0 ∧ (year % 100 ≠ 0 ∨ year % 400 = 0) then 29 else 28
  else if month = 4 ∨ month = 6 ∨ month = 9 ∨ month = 11 then 30
  else 31

/-- Holds for dates. -/
def isDate (text : List Char) : Bool :=
  match (Text.splitAt '-' text) with
  | [year, month, day] =>
      match fixed? 4 year, fixed? 2 month, fixed? 2 day with
      | some year, some month, some day =>
          1 ≤ month && month ≤ 12 && 1 ≤ day && day ≤ daysOf year month
      | _, _, _ => false
  | _ => false

/-- Holds for hours and minutes. -/
def isClock (hour minute : List Char) : Bool :=
  match fixed? 2 hour, fixed? 2 minute with
  | some hour, some minute => hour < 24 && minute < 60
  | _, _ => false

/-- Holds for times of day; the seconds may be missing. -/
def isTimeOfDay (text : List Char) : Bool :=
  match Text.splitAt ':' text with
  | [hour, minute] => isClock hour minute
  | [hour, minute, second] =>
      let (whole, fraction?) := cut (· == '.') second
      isClock hour minute && ((fixed? 2 whole).map fun s => decide (s ≤ 60)).getD false &&
        (fraction?.map fun digits => !digits.isEmpty && digits.all Char.isDigit).getD true
  | _ => false

/-- Holds for times of day with or without a difference from universal time. -/
def isZonedTime (text : List Char) : Bool :=
  let isZone (c : Char) : Bool := c == 'Z' || c == 'z' || c == '+' || c == '-'
  let zone := text.dropWhile fun c => !isZone c
  let zoneFits :=
    match zone with
    | [] => true
    | [c] => c == 'Z' || c == 'z'
    | c :: rest =>
        (c == '+' || c == '-') &&
          (match Text.splitAt ':' rest with
            | [hour, minute] => isClock hour minute
            | _ => false)
  isTimeOfDay (text.takeWhile fun c => !isZone c) && zoneFits

/-- Holds for dates, times of day, and both together. -/
def isTime (text : List Char) : Bool :=
  let (date, time?) := cut (fun c => c == 'T' || c == 't' || c == ' ') text
  isTimeOfDay text || (isDate date && (time?.map isZonedTime).getD true)

/-- The value that a word stands for. -/
def word? (text : List Char) : Option Toml :=
  if text = "true".toList then some (.bool true)
  else if text = "false".toList then some (.bool false)
  else
    match integer? text with
    | some value => some (.integer value)
    | none =>
        if isFraction text then some .fraction
        else if isTime text then some .time
        else none

end Remedy.Toml

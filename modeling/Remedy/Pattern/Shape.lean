import Remedy.Pattern.Syntax
import Remedy.Unicode.Folding
import Remedy.Unicode.Property
import Remedy.Unicode.Script

/-!
# What patterns come to

A shape is a pattern whose flags have been carried out: classes are sets of characters,
assertions are tests of a position, and repetitions know how greedy they are.  Flags hold from
where they stand to the end of the group around them.  Without the flag for Unicode a class may
hold ASCII characters only, so that no class may be negated.
-/

namespace Remedy.Pattern

open Unicode (CharSet)

/-- A test of a position between two characters. -/
inductive Look where
  | start
  | stop
  | lineStart
  | lineEnd
  /-- The start of a line, where lines may end in a carriage return and a newline. -/
  | crlfStart
  | crlfEnd
  | wordEdge (unicode : Bool)
  | noWordEdge (unicode : Bool)
  | wordStart (unicode : Bool)
  | wordEnd (unicode : Bool)
  | wordStartHalf (unicode : Bool)
  | wordEndHalf (unicode : Bool)
deriving DecidableEq

/-- A pattern without flags. -/
inductive Shape where
  | empty
  | set (chars : CharSet)
  | look (test : Look)
  | repetition (least : Nat) (most? : Option Nat) (greedy : Bool) (body : Shape)
  | group (index : Nat) (body : Shape)
  | choice (branches : List Shape)
  | sequence (parts : List Shape)
deriving Inhabited

/-- The flags that are on. -/
structure Flags where
  ignoreCase : Bool
  multiLine : Bool
  dotAll : Bool
  swapGreed : Bool
  unicode : Bool
  crlf : Bool
deriving DecidableEq

namespace Flags

/-- The flags at the beginning of a pattern. -/
def initial : Flags := ⟨false, false, false, false, true, false⟩

/-- Carries out flags in a row. -/
def apply (flags : Flags) (list : FlagList) : Flags :=
  let state (flag : Flag) (old : Bool) : Bool := (list.state? flag true).getD old
  ⟨state .ignoreCase flags.ignoreCase, state .multiLine flags.multiLine,
    state .dotAll flags.dotAll, state .swapGreed flags.swapGreed, state .unicode flags.unicode,
    state .crlf flags.crlf⟩

end Flags

/-!
## Classes
-/

namespace PropertyQuery

/-- Brings a name into small letters, without blanks, underlines, hyphens and a first `is`. -/
def normalize (name : String) : String :=
  let lower := name.toList.map Char.toLower
  let (begins, body) :=
    match lower with
    | 'i' :: 's' :: rest => (true, rest)
    | rest => (false, rest)
  let kept := body.filter fun c => c ≠ ' ' && c ≠ '_' && c ≠ '-' && c.toNat < 0x80
  if begins ∧ kept = ['c'] then "isc" else String.ofList kept

/-- The characters with the property. -/
def chars? : PropertyQuery → Option CharSet
  | .named name =>
      let name := normalize name
      let property? :=
        if name = "cf" ∨ name = "sc" ∨ name = "lc" then none else Unicode.Property.find? name
      property?.orElse fun _ =>
        (Unicode.Category.find? name).orElse fun _ => Unicode.Script.find? name
  | .valued name value =>
      let value := normalize value
      match normalize name with
      | "gc" | "generalcategory" => Unicode.Category.find? value
      | "sc" | "script" => Unicode.Script.find? value
      | "scx" | "scriptextensions" => Unicode.Script.findExtended? value
      | _ => none

end PropertyQuery

namespace Flags

/-- The letters of the other case, ASCII letters only. -/
def otherCase (chars : CharSet) : CharSet :=
  let shifted (set : CharSet) (first : Nat) (move : Nat → Nat) : CharSet :=
    ⟨(set.inter (.range first (first + 25))).ranges.map fun (a, b) => (move a, move b)⟩
  (shifted chars 0x41 (· + 32)).union (shifted chars 0x61 (· - 32))

/-- Adds the characters that differ in case only, if case is ignored. -/
def fold (flags : Flags) (chars : CharSet) : CharSet :=
  if flags.ignoreCase = false then chars
  else if flags.unicode then chars.foldCase
  else chars.union (otherCase chars)

/-- Negates a class, which is possible only where all characters are allowed. -/
def negate? (flags : Flags) (negated : Bool) (chars : CharSet) : Option CharSet :=
  if negated = false then some chars
  else if flags.unicode then some chars.complement
  else none

/-- A class that has a letter. -/
def letterClass? (flags : Flags) (kind : LetterClass) (negated : Bool) : Option CharSet :=
  let chars :=
    match kind, flags.unicode with
    | .digit, true => Unicode.Category.single "nd"
    | .space, true => Unicode.Property.listed "whitespace"
    | .word, true => Unicode.Property.word
    | .digit, false => CharSet.range 0x30 0x39
    | .space, false => CharSet.ofText "9-D 20"
    | .word, false => CharSet.ofText "30-39 41-5A 5F 61-7A"
  flags.negate? negated chars

/-- A class of the characters with a property. -/
def propertyClass? (flags : Flags) (query : PropertyQuery) (negated : Bool) : Option CharSet :=
  if flags.unicode then
    query.chars?.bind fun chars => flags.negate? negated (flags.fold chars)
  else
    none

/-- The code of a character in a class. -/
def classCode? (flags : Flags) (literal : Literal) : Option Nat :=
  if flags.unicode || literal.char.toNat < 0x80 then some literal.char.toNat else none

/-- Combines two classes. -/
def combine (flags : Flags) (operator : ClassOperator) (left right : CharSet) : CharSet :=
  let left := flags.fold left
  let right := flags.fold right
  match operator with
  | .intersection => left.inter right
  | .difference => left.diff right
  | .symmetricDifference => left.symmDiff right

end Flags

mutual

/-- The characters of a part of a class. -/
def ClassItem.chars? (flags : Flags) : ClassItem → Option CharSet
  | .literal literal => (flags.classCode? literal).map fun code => .range code code
  | .range first last => do
      return .range (← flags.classCode? first) (← flags.classCode? last)
  | .ascii chars negated => flags.negate? negated (flags.fold chars)
  | .letter kind negated => flags.letterClass? kind negated
  | .property query negated => flags.propertyClass? query negated
  | .bracket negated body => do
      flags.negate? negated (flags.fold (← body.chars? flags))
  | .union items => ClassItem.union? flags items

/-- The characters of any of some parts of a class. -/
def ClassItem.union? (flags : Flags) : List ClassItem → Option CharSet
  | [] => some .empty
  | item :: rest => do
      return (← item.chars? flags).union (← ClassItem.union? flags rest)

/-- The characters of the body of a class. -/
def ClassBody.chars? (flags : Flags) : ClassBody → Option CharSet
  | .item item => item.chars? flags
  | .combine operator left right => do
      return flags.combine operator (← left.chars? flags) (← right.chars? flags)

end

/-!
## Shapes
-/

namespace Shape

mutual

/-- Holds for shapes that match nothing but the empty text. -/
def isIdle : Shape → Bool
  | .empty | .look _ => true
  | .set _ => false
  | .repetition _ most? _ body => most? == some 0 || body.isIdle
  | .group _ body => body.isIdle
  | .choice branches => areIdle branches
  | .sequence parts => areIdle parts

/-- Holds if each shape matches nothing but the empty text. -/
def areIdle : List Shape → Bool
  | [] => true
  | shape :: rest => shape.isIdle && areIdle rest

end

mutual

/-- Holds for shapes that can match the empty text. -/
def isNullable : Shape → Bool
  | .empty | .look _ => true
  | .set chars => chars.ranges.isEmpty
  | .repetition least _ _ body => least == 0 || body.isNullable
  | .group _ body => body.isNullable
  | .choice branches => anyNullable branches
  | .sequence parts => allNullable parts

/-- Holds if one of the shapes can match the empty text. -/
def anyNullable : List Shape → Bool
  | [] => false
  | shape :: rest => shape.isNullable || anyNullable rest

/-- Holds if each shape can match the empty text. -/
def allNullable : List Shape → Bool
  | [] => true
  | shape :: rest => shape.isNullable && allNullable rest

end

/-- A repetition; what matches only the empty text is not repeated more than once. -/
def repeated (least : Nat) (most? : Option Nat) (greedy : Bool) (body : Shape) : Shape :=
  let (least, most?) :=
    if body.isIdle then (min least 1, some (min (most?.getD 1) 1)) else (least, most?)
  if least = 0 ∧ most? = some 0 then .empty
  else if least = 1 ∧ most? = some 1 then body
  else .repetition least most? greedy body

end Shape

namespace Flags

/-- The test that an assertion asks for. -/
def look (flags : Flags) : Assertion → Look
  | .lineStart =>
      if flags.multiLine then (if flags.crlf then .crlfStart else .lineStart) else .start
  | .lineEnd =>
      if flags.multiLine then (if flags.crlf then .crlfEnd else .lineEnd) else .stop
  | .textStart => .start
  | .textEnd => .stop
  | .wordEdge => .wordEdge flags.unicode
  | .noWordEdge => .noWordEdge flags.unicode
  | .wordStart => .wordStart flags.unicode
  | .wordEnd => .wordEnd flags.unicode
  | .wordStartHalf => .wordStartHalf flags.unicode
  | .wordEndHalf => .wordEndHalf flags.unicode

/-- The characters that a dot stands for. -/
def dot? (flags : Flags) : Option CharSet :=
  if flags.unicode = false then none
  else if flags.dotAll then some .full
  else if flags.crlf then some (CharSet.ofText "A D").complement
  else some (CharSet.ofText "A").complement

/-- The characters that a character stands for. -/
def literalClass? (flags : Flags) (literal : Literal) : Option CharSet :=
  if flags.unicode = false && literal.isByte && 0x80 ≤ literal.char.toNat then none
  else some (flags.fold (.single literal.char))

end Flags

mutual

/-- The shape of a pattern, and the flags behind it. -/
def Syntax.shape? (flags : Flags) : Syntax → Option (Shape × Flags)
  | .empty => some (.empty, flags)
  | .flags list => some (.empty, flags.apply list)
  | .literal char => do return (.set (← flags.literalClass? char), flags)
  | .dot => do return (.set (← flags.dot?), flags)
  | .assertion test => some (.look (flags.look test), flags)
  | .letter kind negated => do return (.set (← flags.letterClass? kind negated), flags)
  | .property query negated => do return (.set (← flags.propertyClass? query negated), flags)
  | .bracket negated body => do
      return (.set (← flags.negate? negated (flags.fold (← body.chars? flags))), flags)
  | .repetition least most? greedy body => do
      let (body, flags) ← body.shape? flags
      return (.repeated least most? (greedy != flags.swapGreed) body, flags)
  | .group (.capture index) body => do
      let (body, _) ← body.shape? flags
      return (.group index body, flags)
  | .group (.flags list) body => do
      let (body, _) ← body.shape? (flags.apply list)
      return (body, flags)
  | .choice branches => do
      let (branches, flags) ← Syntax.shapes? flags branches
      return (.choice branches, flags)
  | .sequence parts => do
      let (parts, flags) ← Syntax.shapes? flags parts
      return (.sequence parts, flags)

/-- The shapes of patterns that follow one another, and the flags behind them. -/
def Syntax.shapes? (flags : Flags) : List Syntax → Option (List Shape × Flags)
  | [] => some ([], flags)
  | part :: rest => do
      let (shape, flags) ← part.shape? flags
      let (shapes, flags) ← Syntax.shapes? flags rest
      return (shape :: shapes, flags)

end

end Remedy.Pattern

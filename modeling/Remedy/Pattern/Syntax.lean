import Remedy.Unicode.CharSet

/-!
# The syntax of patterns

The tree of a pattern as it is written.  Flags are still changes at some place of the pattern,
and classes are still expressions; what they come to is worked out in a second step.
-/

namespace Remedy.Pattern

open Unicode (CharSet)

/-- What a position is tested for. -/
inductive Assertion where
  | lineStart
  | lineEnd
  | textStart
  | textEnd
  | wordEdge
  | noWordEdge
  | wordStart
  | wordEnd
  | wordStartHalf
  | wordEndHalf
deriving DecidableEq

/-- A character that stands for itself. -/
structure Literal where
  char : Char
  /-- Whether it is written as a byte, with two hexadecimal digits. -/
  isByte : Bool
deriving DecidableEq

/-- What can be switched on and off. -/
inductive Flag where
  | ignoreCase
  | multiLine
  | dotAll
  | swapGreed
  | unicode
  | crlf
  | verbose
deriving DecidableEq

/-- Flags in a row; from a hyphen, given as none, on they are switched off. -/
abbrev FlagList := List (Option Flag)

/-- The classes that have a letter of their own. -/
inductive LetterClass where
  | digit
  | space
  | word
deriving DecidableEq

/-- How a property is asked for. -/
inductive PropertyQuery where
  | named (name : String)
  | valued (name value : String)
deriving DecidableEq

/-- How two classes are combined. -/
inductive ClassOperator where
  | intersection
  | difference
  | symmetricDifference
deriving DecidableEq

mutual

/-- A part of a class in brackets. -/
inductive ClassItem where
  | literal (literal : Literal)
  | range (first last : Literal)
  | ascii (set : CharSet) (negated : Bool)
  | letter (kind : LetterClass) (negated : Bool)
  | property (query : PropertyQuery) (negated : Bool)
  | bracket (negated : Bool) (body : ClassBody)
  | union (items : List ClassItem)

/-- What stands between the brackets of a class. -/
inductive ClassBody where
  | item (item : ClassItem)
  | combine (operator : ClassOperator) (left right : ClassBody)

end

/-- What a group is for. -/
inductive GroupKind where
  | capture (index : Nat)
  | flags (flags : FlagList)
deriving DecidableEq

/-- A pattern as it is written. -/
inductive Syntax where
  | empty
  | flags (flags : FlagList)
  | literal (literal : Literal)
  | dot
  | assertion (assertion : Assertion)
  | letter (kind : LetterClass) (negated : Bool)
  | property (query : PropertyQuery) (negated : Bool)
  | bracket (negated : Bool) (body : ClassBody)
  | repetition (least : Nat) (most? : Option Nat) (greedy : Bool) (body : Syntax)
  | group (kind : GroupKind) (body : Syntax)
  | choice (branches : List Syntax)
  | sequence (parts : List Syntax)
deriving Inhabited

/-- What a flag list says of a flag, if it names the flag. -/
def FlagList.state? (flag : Flag) : Bool → FlagList → Option Bool
  | _, [] => none
  | _, none :: rest => state? flag false rest
  | on, some f :: rest => if f = flag then some on else state? flag on rest

/-!
## Depth

Groups, repetitions, classes, choices and sequences count as levels.
-/

mutual

/-- How many levels deep a part of a class is. -/
def ClassItem.depth : ClassItem → Nat
  | .bracket _ body => body.depth + 1
  | .union items => ClassItem.depths items + 1
  | _ => 0

/-- How many levels deep the deepest part is. -/
def ClassItem.depths : List ClassItem → Nat
  | [] => 0
  | item :: rest => max item.depth (ClassItem.depths rest)

/-- How many levels deep the body of a class is. -/
def ClassBody.depth : ClassBody → Nat
  | .item item => item.depth
  | .combine _ left right => max left.depth right.depth + 1

end

mutual

/-- How many levels deep a pattern is. -/
def Syntax.depth : Syntax → Nat
  | .bracket _ body => body.depth + 1
  | .repetition _ _ _ body => body.depth + 1
  | .group _ body => body.depth + 1
  | .choice branches => Syntax.depths branches + 1
  | .sequence parts => Syntax.depths parts + 1
  | _ => 0

/-- How many levels deep the deepest of some patterns is. -/
def Syntax.depths : List Syntax → Nat
  | [] => 0
  | part :: rest => max part.depth (Syntax.depths rest)

end

/-- The deepest pattern that is accepted. -/
def depthLimit : Nat := 250

end Remedy.Pattern

import Remedy.Machine.Basic
import Remedy.Text.Lines

/-!
# Verbosity

Which notes are shown is said by a list of directives with commas between them.  A directive is a
level, or a level for a part of a program, by whose name the whole program can be meant.  Notes up
to the level are shown.
-/

namespace Remedy.Verbosity

/-- How many levels there are up to one; notes of a higher rank are not shown. -/
def rank : Level → Nat
  | .error => 1
  | .warning => 2
  | .info => 3

/-- The rank up to which a level shows notes. -/
def level? (text : String) : Option Nat :=
  match text.toLower with
  | "off" | "0" => some 0
  | "error" | "1" => some 1
  | "warn" | "2" => some 2
  | "info" | "3" => some 3
  | "debug" | "4" => some 4
  | "trace" | "5" => some 5
  | _ => none

/-- The name of the whole program. -/
def programName : String := "fixbase"

/-- A directive: what it is for, if it is not for everything, and the rank it sets. -/
abbrev Directive := Option String × Nat

/-- Reads a directive. -/
def directive? (text : List Char) : Option Directive :=
  let name := String.ofList (text.takeWhile (· ≠ '='))
  match text.dropWhile (· ≠ '=') with
  | [] =>
      match level? name with
      | some rank => some (none, rank)
      | none => some (some name, 5)
  | _ :: value => (level? (String.ofList value)).map fun rank => (some name, rank)

/-- The rank that directives set for the program; the more special one counts. -/
def rankOf (directives : List Directive) : Nat :=
  match directives.reverse.lookup (some programName) with
  | some rank => rank
  | none => (directives.reverse.lookup none).getD 0

/-- The rank up to which notes are shown; without usable directives, up to information. -/
def ofText (text? : Option String) : Nat :=
  match text? with
  | none => rank .info
  | some text =>
      let texts := (Text.splitAt ',' text.toList).filter fun part => !part.isEmpty
      match texts.mapM directive? with
      | none => rank .info
      | some [] => rank .error
      | some directives => rankOf directives

end Remedy.Verbosity

import Remedy.Finding.Basic
import Remedy.Fix.Template
import Remedy.Json.Printer
import Remedy.Decimal.Numeral

/-!
# Directives

A directive is the remedy of a finding after it has been checked.  A text to put in comes before
a substitution.  A substitution needs a pattern and a replacement, and the number of occurrences
to replace, which may be given in digits inside a string; zero means all of them.
-/

namespace Remedy.Fix

/-- What to do about a finding. -/
inductive Directive where
  | literal (fix : List Char)
  | substitution (pattern template : List Char) (count : Nat)
deriving DecidableEq

namespace Directive

/-- What is wrong with a remedy. -/
inductive Fault where
  | missingFields (rule : String)
  | invalidCount (rule : String) (count : Json)

/-- The wording of a fault. -/
def Fault.message : Fault → String
  | .missingFields rule =>
      "rule " ++ rule ++ ": 'regex' and 'replacement' values required when using 'fix-regex'"
  | .invalidCount rule count =>
      "rule " ++ rule ++ ": optional 'count' value must be an integer when using 'fix-regex' " ++
        "(got " ++ count.compact ++ ")"

/-- The number of occurrences that a count asks for. -/
def count? : Json → Option Nat
  | .null => some 0
  | .number (.natural n) => some n
  | .string s => Decimal.read? (Text.trim s.toList)
  | _ => none

/-- The characters of a text that is there and not empty. -/
def filled? (text? : Option String) : Option (List Char) :=
  text?.bind fun text => if text = "" then none else some text.toList

/-- Checks a substitution. -/
def ofSubstitution (rule : String) (substitution : Substitution) : Except Fault Directive :=
  match filled? substitution.pattern?, filled? substitution.replacement? with
  | some pattern, some replacement =>
      match substitution.count? with
      | none => .ok (.substitution pattern (Template.toDollars replacement) 0)
      | some value =>
          match count? value with
          | some count => .ok (.substitution pattern (Template.toDollars replacement) count)
          | none => .error (.invalidCount rule value)
  | _, _ => .error (.missingFields rule)

/-- The directive for a finding; there is none if it carries no remedy. -/
def ofFinding (finding : Finding) : Except Fault (Option Directive) :=
  match finding.literalFix? with
  | some fix => .ok (some (.literal fix))
  | none =>
      match finding.substitution? with
      | some request => (ofSubstitution finding.rule request).map some
      | none => .ok none

end Directive

end Remedy.Fix

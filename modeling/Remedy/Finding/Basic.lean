import Remedy.Json.Basic
import Remedy.Path
import Remedy.Text.Blank

/-!
# Findings

A finding says that a rule matched a stretch of a file.  It may carry a remedy: a text to put in
place of the stretch, or a substitution to make in its lines.  `Findings` holds findings by rule,
the rules in the order in which they were first seen.
-/

namespace Remedy

/-- A place in a file; lines and columns are counted from one. -/
structure Position where
  line : Nat
  col : Nat
  offset : Nat
deriving DecidableEq, Inhabited

/-- A substitution as it was asked for.  The count is checked only when it is carried out. -/
structure Substitution where
  pattern? : Option String
  replacement? : Option String
  count? : Option Json
deriving BEq, Inhabited

/-- A match of a rule. -/
structure Finding where
  rule : String
  path : Path
  start : Position
  /-- The place behind the last character of the match. -/
  stop : Position
  message : String
  fix? : Option String
  substitution? : Option Substitution
deriving BEq, Inhabited

namespace Finding

/-- The text to put in place of the match, without blanks at its end; an empty one is none. -/
def literalFix? (finding : Finding) : Option (List Char) :=
  match finding.fix? with
  | none => none
  | some fix => if Text.trimEnd fix.toList = [] then none else some (Text.trimEnd fix.toList)

/-- Holds if the finding carries a remedy of either kind. -/
def hasRemedy (finding : Finding) : Bool :=
  finding.literalFix?.isSome || finding.substitution?.isSome

/-- Takes a relative path as seen from the folder `root`. -/
def rebase (root : Path) (finding : Finding) : Finding :=
  if finding.path.isAbsolute then finding
  else { finding with path := root.join finding.path }

end Finding

/-- Findings by rule. -/
structure Findings where
  groups : List (String × List Finding)
deriving BEq, Inhabited

namespace Findings

/-- No findings. -/
def empty : Findings := ⟨[]⟩

/-- Adds a finding behind the others of its rule; a new rule comes last. -/
def push (findings : Findings) (finding : Finding) : Findings :=
  ⟨pushGroup findings.groups⟩
where
  pushGroup : List (String × List Finding) → List (String × List Finding)
    | [] => [(finding.rule, [finding])]
    | (rule, found) :: rest =>
        if rule = finding.rule then (rule, found ++ [finding]) :: rest
        else (rule, found) :: pushGroup rest

/-- The findings of a list, added one after the other. -/
def ofList (findings : List Finding) : Findings :=
  findings.foldl push empty

/-- The findings of a rule, if the rule is there. -/
def get? (findings : Findings) (rule : String) : Option (List Finding) :=
  findings.groups.lookup rule

/-- All findings, rule by rule. -/
def toList (findings : Findings) : List Finding :=
  findings.groups.flatMap (·.2)

/-- How many findings there are. -/
def size (findings : Findings) : Nat :=
  findings.toList.length

/-- Holds if there is no finding. -/
def isEmpty (findings : Findings) : Bool :=
  findings.size == 0

/-- Takes the relative paths as seen from the folder `root`. -/
def rebase (findings : Findings) (root : Path) : Findings :=
  ⟨findings.groups.map fun (rule, found) => (rule, found.map (Finding.rebase root))⟩

end Findings

end Remedy

import Remedy.Pattern.Dollar
import Remedy.Pattern.Parser
import Remedy.Pattern.Program
import Remedy.Pattern.Weight

/-!
# Patterns

A pattern is compiled once, and then its matches in a text are replaced.
-/

namespace Remedy.Pattern

/-- The program of a pattern, unless the pattern is invalid or too large. -/
def compile? (pattern : List Char) : Option Program := do
  let (parsed, names) ← Parser.pattern? pattern
  let (shape, _) ← parsed.shape? .initial
  if shape.isLight then some (.ofShape shape names) else none

/-- What the group that is referred to matched; nothing if there is no such group. -/
def Program.referred (program : Program) (text : List Char) (found : Match) :
    Dollar.Reference → List Char
  | .number index => (found.group? text index).getD []
  | .name name =>
      ((program.names.lookup name).bind (found.group? text)).getD []

/-- The text with some matches replaced, `index` being the place where the rest begins. -/
def Program.rebuild (program : Program) (template text : List Char) (index : Nat) :
    List Match → List Char
  | [] => text.drop index
  | found :: rest =>
      (text.take found.start).drop index ++
        Dollar.expand (program.referred text found) template ++
        program.rebuild template text found.stop rest

/-- Replaces the first `count` matches in a text, or all of them if `count` is zero. -/
def Program.replace (program : Program) (template : List Char) (count : Nat)
    (text : List Char) : List Char :=
  let all := program.allMatches text
  program.rebuild template text 0 (if count = 0 then all else all.take count)

end Remedy.Pattern

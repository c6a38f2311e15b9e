/-!
# Replacement templates

A template is written with backslashes: `\1` and `\g<name>` stand for groups, `\n`, `\t` and a
doubled backslash for a newline, a tab and a backslash.  `toDollars` puts it into the form in
which substitutions take it, where `${1}` and `${name}` stand for groups and `$$` for a dollar.
-/

namespace Remedy.Fix.Template

/-- A reference to a group in the form with dollars. -/
def groupReference (name : List Char) : List Char :=
  '$' :: '{' :: name ++ ['}']

/-- What the translation is in the middle of. -/
inductive Mode where
  /-- Nothing. -/
  | plain
  /-- The name of a group, whose characters so far are given from the last to the first. -/
  | name (reversed : List Char)

/-- Translates a template. -/
def translate : Mode → List Char → List Char
  | .plain, [] => []
  | .name reversed, [] => groupReference reversed.reverse
  | .name reversed, c :: rest =>
      if c = '>' then groupReference reversed.reverse ++ translate .plain rest
      else translate (.name (c :: reversed)) rest
  | .plain, '$' :: rest => '$' :: '$' :: translate .plain rest
  | .plain, '\\' :: 'g' :: '<' :: rest => translate (.name []) rest
  | .plain, '\\' :: 'g' :: rest => '\\' :: 'g' :: translate .plain rest
  | .plain, '\\' :: 'n' :: rest => '\n' :: translate .plain rest
  | .plain, '\\' :: 't' :: rest => '\t' :: translate .plain rest
  | .plain, '\\' :: '\\' :: rest => '\\' :: translate .plain rest
  | .plain, '\\' :: c :: d :: rest =>
      if c.isDigit ∧ d.isDigit then groupReference [c, d] ++ translate .plain rest
      else if c.isDigit then groupReference [c] ++ translate .plain (d :: rest)
      else '\\' :: translate .plain (c :: d :: rest)
  | .plain, ['\\', c] =>
      if c.isDigit then groupReference [c] else '\\' :: translate .plain [c]
  | .plain, c :: rest => c :: translate .plain rest

/-- The template in the form with dollars. -/
def toDollars (template : List Char) : List Char :=
  translate .plain template

end Remedy.Fix.Template

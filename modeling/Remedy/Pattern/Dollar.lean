import Remedy.Decimal.Numeral

/-!
# Templates with dollars

In a template with dollars `${1}` and `${name}` stand for what a group matched, and so do `$1` and
`$name`, which take as many letters, digits and underlines as follow.  A doubled dollar is one
dollar, and a dollar that begins none of these stands for itself.
-/

namespace Remedy.Pattern.Dollar

/-- How a template refers to a group. -/
inductive Reference where
  | number (index : Nat)
  | name (name : String)
deriving DecidableEq

/-- The reference that is meant by a text: an index if it is a numeral, else a name. -/
def Reference.ofText (text : List Char) : Reference :=
  match Decimal.read? text with
  | some index => .number index
  | none => .name (String.ofList text)

/-- Holds for the characters that a reference without braces is made of. -/
def isNameChar (c : Char) : Bool :=
  c.isAlphanum || c == '_'

/-- Splits a text in front of the first closing brace, which is dropped. -/
def braced? : List Char → Option (List Char × List Char)
  | [] => none
  | c :: rest =>
      if c = '\x7d' then some ([], rest)
      else (braced? rest).map fun (name, rest) => (c :: name, rest)

/-- Reads the reference behind a dollar, and gives what follows it. -/
def reference? : List Char → Option (Reference × List Char)
  | [] => none
  | c :: rest =>
      if c = '\x7b' then (braced? rest).map fun (name, rest) => (.ofText name, rest)
      else
        let name := (c :: rest).takeWhile isNameChar
        if name = [] then none
        else some (.ofText name, (c :: rest).dropWhile isNameChar)

theorem length_of_braced? {text name rest : List Char} (h : braced? text = some (name, rest)) :
    rest.length < text.length := by
  induction text generalizing name rest with
  | nil => simp [braced?] at h
  | cons c more ih =>
      simp only [braced?] at h
      split at h
      · obtain ⟨_, rfl⟩ := by simpa using h
        simp
      · obtain ⟨⟨n, r⟩, found, same⟩ := Option.map_eq_some_iff.1 h
        obtain ⟨_, rfl⟩ := by simpa using same
        have := ih found
        simp only [List.length_cons]
        omega

/-- What follows a reference is shorter than what holds it. -/
theorem length_of_reference? {text rest : List Char} {reference : Reference}
    (h : reference? text = some (reference, rest)) : rest.length < text.length := by
  cases text with
  | nil => simp [reference?] at h
  | cons c more =>
      simp only [reference?] at h
      split at h
      · obtain ⟨⟨n, r⟩, found, same⟩ := Option.map_eq_some_iff.1 h
        obtain ⟨_, rfl⟩ := by simpa using same
        have := length_of_braced? found
        simp only [List.length_cons]
        omega
      · split at h
        · simp at h
        · next taken =>
            obtain ⟨_, rfl⟩ := by simpa using h
            have split := congrArg List.length
              (List.takeWhile_append_dropWhile (p := isNameChar) (l := c :: more))
            have some_taken : 0 < ((c :: more).takeWhile isNameChar).length :=
              List.length_pos_iff.2 taken
            simp only [List.length_append] at split
            omega

/-- The text of a template, where `group` says what the groups matched. -/
def expand (group : Reference → List Char) : List Char → List Char
  | [] => []
  | '$' :: '$' :: rest => '$' :: expand group rest
  | '$' :: rest =>
      match h : reference? rest with
      | some (reference, after) =>
          have : after.length < rest.length := length_of_reference? h
          group reference ++ expand group after
      | none => '$' :: expand group rest
  | c :: rest => c :: expand group rest
termination_by template => template.length
decreasing_by all_goals simp only [List.length_cons]; omega

end Remedy.Pattern.Dollar

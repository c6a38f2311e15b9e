import Remedy.Pattern.Escape

/-!
# Reading patterns

A pattern is a choice of sequences of repeated parts.  Groups capture unless they say otherwise,
and may have names, each only once.  A brace always begins a repetition.  Groups that look ahead
or behind are not accepted.
-/

namespace Remedy.Pattern

open Unicode (CharSet)

namespace Parser

/-- The classes that are named between colons. -/
def asciiNamed? (name : List Char) : Option CharSet :=
  let ranges (text : String) : Option CharSet := some (CharSet.ofText text)
  match String.ofList name with
  | "alnum" => ranges "30-39 41-5A 61-7A"
  | "alpha" => ranges "41-5A 61-7A"
  | "ascii" => ranges "0-7F"
  | "blank" => ranges "9 20"
  | "cntrl" => ranges "0-1F 7F"
  | "digit" => ranges "30-39"
  | "graph" => ranges "21-7E"
  | "lower" => ranges "61-7A"
  | "print" => ranges "20-7E"
  | "punct" => ranges "21-2F 3A-40 5B-60 7B-7E"
  | "space" => ranges "9-D 20"
  | "upper" => ranges "41-5A"
  | "word" => ranges "30-39 41-5A 5F 61-7A"
  | "xdigit" => ranges "30-39 41-46 61-66"
  | _ => none

/-- Reads a class that is named between colons, if one comes next. -/
def ascii? : Read (Option ClassItem) := do
  let reader ← get
  match reader.rest with
  | '[' :: ':' :: rest =>
      let (negated, rest) :=
        match rest with
        | '^' :: rest => (true, rest)
        | rest => (false, rest)
      let name := rest.takeWhile (· ≠ ':')
      match rest.dropWhile (· ≠ ':'), asciiNamed? name with
      | ':' :: ']' :: rest, some chars =>
          set { reader with rest }
          return some (.ascii chars negated)
      | _, _ => return none
  | _ => return none

/-- What an escape, or a character that stands for itself, is in a class. -/
def itemOf? : Escaped → Option ClassItem
  | .literal literal => some (.literal literal)
  | .letter kind negated => some (.letter kind negated)
  | .property query negated => some (.property query negated)
  | .assertion _ => none

/-- Reads an escape or a character. -/
def classPrimitive : Read Escaped := do
  let c ← Read.peek
  if c = '\\' then Escaped.read
  else
    Read.drop 1
    return .literal ⟨c, false⟩

/-- Reads a character, a range or a class that has a letter or a name. -/
def rangeOrSingle : Read ClassItem := do
  let first ← classPrimitive
  Read.skip
  let c ← Read.peek
  let second? ← Read.peekSecond?
  if c ≠ '-' ∨ second? = some ']' ∨ second? = some '-' then
    itemOf? first
  else
    Read.take
    let _ ← Read.peek
    let last ← classPrimitive
    match first, last with
    | .literal first, .literal last =>
        if last.char < first.char then failure
        return .range first last
    | _, _ => failure

/-- One item, or the union of none or several. -/
def unionOf : List ClassItem → ClassItem
  | [item] => item
  | items => .union items.reverse


/-- Reads hyphens at the beginning of a class, which stand for themselves. -/
def hyphens : Nat → Read (List ClassItem)
  | 0 => return []
  | fuel + 1 => do
      if (← Read.peek) = '-' then
        Read.take
        return .literal ⟨'-', false⟩ :: (← hyphens fuel)
      else
        return []

/-- Reads the opening of a class: whether it is negated, and what can stand only here. -/
def classOpening : Read (Bool × List ClassItem) := do
  Read.take
  let negated := (← Read.peek) = '^'
  if negated then Read.take
  let items ← hyphens ((← get).rest.length + 1)
  if items = [] ∧ (← Read.peek) = ']' then
    Read.take
    let _ ← Read.peek
    return (negated, [.literal ⟨']', false⟩])
  else
    return (negated, items)

/-- Ends an operand: it becomes the right side of the operator before it. -/
def close (left? : Option (ClassOperator × ClassBody)) (items : List ClassItem) : ClassBody :=
  let right := ClassBody.item (unionOf items)
  match left? with
  | some (operator, left) => .combine operator left right
  | none => right

/-- The operator that comes next, if one does. -/
def operator? : List Char → Option ClassOperator
  | '&' :: '&' :: _ => some .intersection
  | '-' :: '-' :: _ => some .difference
  | '~' :: '~' :: _ => some .symmetricDifference
  | _ => none

/--
Reads a class up to its closing bracket.  Operators bind alike, from the left; the items of the
operand that is being read are given from the last to the first.
-/
def classBody : Nat → Option (ClassOperator × ClassBody) → List ClassItem → Read ClassBody
  | 0, _, _ => failure
  | fuel + 1, left?, items => do
      Read.skip
      let c ← Read.peek
      if c = '[' then
        if let some item ← ascii? then classBody fuel left? (item :: items)
        else
          let (negated, first) ← classOpening
          let inner ← classBody fuel none first.reverse
          classBody fuel left? (.bracket negated inner :: items)
      else if c = ']' then
        Read.drop 1
        return close left? items
      else if let some operator := operator? (← get).rest then
        Read.drop 2
        classBody fuel (some (operator, close left? items)) []
      else
        let item ← rangeOrSingle
        classBody fuel left? (item :: items)


/-- Reads a class in brackets. -/
def bracketed : Read Syntax := do
  let fuel := (← get).rest.length + 1
  let (negated, first) ← classOpening
  return .bracket negated (← classBody fuel none first.reverse)

/-- The flag of a letter. -/
def flag? : Char → Option Flag
  | 'i' => some .ignoreCase
  | 'm' => some .multiLine
  | 's' => some .dotAll
  | 'U' => some .swapGreed
  | 'u' => some .unicode
  | 'R' => some .crlf
  | 'x' => some .verbose
  | _ => none

/-- Reads flags up to a colon or a closing parenthesis; none may stand twice. -/
def flagList : Nat → FlagList → Read FlagList
  | 0, _ => failure
  | fuel + 1, flags => do
      let c ← Read.peek
      if c = ':' ∨ c = ')' then
        if flags.getLast? = some none then failure
        return flags
      let item : Option Flag ← if c = '-' then pure none else pure (some (← flag? c))
      if flags.contains item then failure
      Read.drop 1
      flagList fuel (flags ++ [item])

/-- Holds for the characters that a name may begin with. -/
def isNameStart (c : Char) : Bool :=
  c == '_' || Unicode.Property.alphabetic.contains c

/-- Holds for the characters that a name may go on with. -/
def isNamePart (c : Char) : Bool :=
  isNameStart c || c == '.' || c == '[' || c == ']' ||
    (Unicode.Category.several ["nd", "nl", "no"]).contains c

/-- Counts a new capturing group. -/
def newGroup : Read Nat := do
  modify fun reader => { reader with groups := reader.groups + 1 }
  return (← get).groups

/-- Reads the name of a group up to its closing bracket. -/
def groupName (index : Nat) : Read Unit := do
  let name := (← get).rest.takeWhile (· ≠ '>')
  match name with
  | [] => failure
  | c :: more => if !isNameStart c ∨ !more.all isNamePart then failure
  Read.drop name.length
  let _ ← Read.peek
  Read.drop 1
  let name := String.ofList name
  if ((← get).names.lookup name).isSome then failure
  modify fun reader => { reader with names := reader.names ++ [(name, index)] }

/-- What an opening parenthesis begins: flags for the rest of the group around it, or a group. -/
inductive Opening where
  | flags (flags : FlagList)
  | group (kind : GroupKind)

/-- Reads the opening of a group. -/
def opening : Read Opening := do
  Read.take
  let isLookAround := [['?', '='], ['?', '!'], ['?', '<', '='], ['?', '<', '!']].any
    (·.isPrefixOf (← get).rest)
  if isLookAround then failure
  let named ← Read.takeIf ['?', 'P', '<']
  let named ← if named then pure true else Read.takeIf ['?', '<']
  if named then
    let index ← newGroup
    groupName index
    return .group (.capture index)
  else if ← Read.takeIf ['?'] then
    let flags ← flagList ((← get).rest.length + 1) []
    let c ← Read.peek
    Read.drop 1
    if c = ')' then
      if flags = [] then failure
      return .flags flags
    else
      return .group (.flags flags)
  else
    return .group (.capture (← newGroup))

/-- The bounds of a repetition in braces. -/
def bounds : Read (Nat × Option Nat) := do
  Read.take
  let _ ← Read.peek
  let least ← Read.number
  let c ← Read.peek
  if c = ',' then
    Read.take
    if (← Read.peek) = '\x7d' then return (least, none)
    let most ← Read.number
    if most < least then failure
    return (least, some most)
  else
    return (least, some least)

/-- Reads the question mark that makes a repetition reluctant. -/
def greed : Read Bool := do
  if (← Read.peek?) = some '?' then
    Read.drop 1
    return false
  else
    return true

/-- Reads what repeats the part before it. -/
def repeated (c : Char) (body : Syntax) : Read Syntax := do
  match body with
  | .empty | .flags _ => failure
  | _ =>
    if c = '\x7b' then
      let (least, most?) ← bounds
      if (← Read.peek?) ≠ some '\x7d' then failure
      Read.take
      return .repetition least most? (← greed) body
    else
      Read.drop 1
      let (least, most?) :=
        if c = '?' then (0, some 1) else if c = '*' then (0, none) else (1, none)
      return .repetition least most? (← greed) body

/-- Reads a part that is neither a group nor a class in brackets. -/
def primitive (c : Char) : Read Syntax := do
  if c = '\\' then
    match ← Escaped.read with
    | .literal literal => return .literal literal
    | .assertion assertion => return .assertion assertion
    | .letter kind negated => return .letter kind negated
    | .property query negated => return .property query negated
  else
    Read.drop 1
    if c = '.' then return .dot
    else if c = '^' then return .assertion .lineStart
    else if c = '$' then return .assertion .lineEnd
    else return .literal ⟨c, false⟩

/-- One part, or a sequence of none or several. -/
def sequenceOf : List Syntax → Syntax
  | [] => .empty
  | [part] => part
  | parts => .sequence parts.reverse

/-- One branch, or a choice of several. -/
def choiceOf : List Syntax → Syntax
  | [branch] => branch
  | branches => .choice branches.reverse

/--
Reads a choice up to a closing parenthesis or the end.  The parts of the branch that is being
read, and the branches before it, are given from the last to the first.
-/
def choice : Nat → List Syntax → List Syntax → Read Syntax
  | 0, _, _ => failure
  | fuel + 1, parts, branches => do
      Read.skip
      match ← Read.peek? with
      | none | some ')' => return choiceOf (sequenceOf parts :: branches)
      | some '|' =>
          Read.drop 1
          choice fuel [] (sequenceOf parts :: branches)
      | some '(' =>
          match ← opening with
          | .flags flags =>
              if let some verbose := FlagList.state? .verbose true flags then
                modify fun reader => { reader with verbose }
              choice fuel (.flags flags :: parts) branches
          | .group kind =>
              let before := (← get).verbose
              if let .flags flags := kind then
                modify fun reader =>
                  { reader with verbose := (FlagList.state? .verbose true flags).getD before }
              let body ← choice fuel [] []
              if (← Read.peek?) ≠ some ')' then failure
              Read.drop 1
              modify fun reader => { reader with verbose := before }
              choice fuel (.group kind body :: parts) branches
      | some '[' =>
          let part ← bracketed
          choice fuel (part :: parts) branches
      | some c =>
          if c = '?' ∨ c = '*' ∨ c = '+' ∨ c = '\x7b' then
            match parts with
            | [] => failure
            | part :: before =>
                let next ← repeated c part
                choice fuel (next :: before) branches
          else
            let part ← primitive c
            choice fuel (part :: parts) branches

/-- Reads a whole pattern, and gives the names of its groups. -/
def pattern? (text : List Char) : Option (Syntax × List (String × Nat)) :=
  match (choice (text.length + 1) [] []).run ⟨text, false, 0, []⟩ with
  | some (pattern, reader) =>
      if reader.rest = [] ∧ pattern.depth ≤ depthLimit then some (pattern, reader.names)
      else none
  | none => none

end Parser

end Remedy.Pattern

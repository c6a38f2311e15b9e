import Remedy.Pattern.Shape

/-!
# Programs

A shape is compiled into a program: instructions that take a character, choose between two ways,
mark a position or test it.  A search follows all ways at once, from the one that is preferred
to the one that is not, and drops a way where a preferred one has been before.  So of the matches
that begin leftmost the preferred one is found, in time proportional to text and program.
-/

namespace Remedy.Pattern

open Unicode (CharSet)

/-- An instruction; the numbers are those of the instructions to go on with. -/
inductive Instruction where
  | take (chars : CharSet) (next : Nat)
  | either (first second : Nat)
  | mark (slot next : Nat)
  | look (test : Look) (next : Nat)
  | accept

/-- Instructions by their numbers. -/
abbrev Code := Array Instruction

/-- A step of compiling. -/
abbrev Compile := StateM Code

namespace Compile

/-- Adds an instruction. -/
def emit (instruction : Instruction) : Compile Nat := do
  let code ← get
  set (code.push instruction)
  return code.size

/-- Replaces an instruction. -/
def amend (number : Nat) (instruction : Instruction) : Compile Unit :=
  modify fun code => code.setIfInBounds number instruction

/-- A choice between going into a body and going on; a greedy one prefers the body. -/
def fork (greedy : Bool) (body next : Nat) : Instruction :=
  if greedy then .either body next else .either next body

/-- Compiles a body so many times in a row. -/
def times (body : Nat → Compile Nat) : Nat → Nat → Compile Nat
  | 0, next => return next
  | count + 1, next => do body (← times body count next)

/-- Compiles a body that may be left out, so many times, each inside the one before. -/
def upTo (greedy : Bool) (body : Nat → Compile Nat) (stop : Nat) : Nat → Compile Nat
  | 0 => return stop
  | count + 1 => do
      let inner ← upTo greedy body stop count
      emit (fork greedy (← body inner) stop)

/-- Compiles a body that is passed through at least once. -/
def oneOrMore (greedy : Bool) (body : Nat → Compile Nat) (next : Nat) : Compile (Nat × Nat) := do
  let again ← emit .accept
  let start ← body again
  amend again (fork greedy start next)
  return (start, again)

mutual

/-- Compiles a shape in front of the instruction `next`. -/
def shape (next : Nat) : Shape → Compile Nat
  | .empty => return next
  | .set chars => emit (.take chars next)
  | .look test => emit (.look test next)
  | .group index body => do
      let close ← emit (.mark (2 * index + 1) next)
      let start ← shape close body
      emit (.mark (2 * index) start)
  | .sequence parts => sequence next parts
  | .choice branches => choice next branches
  | .repetition least most? greedy body =>
      let one (next : Nat) : Compile Nat := shape next body
      match least, most? with
      | 0, none =>
          if body.isNullable then do
            let (start, _) ← oneOrMore greedy one next
            emit (fork greedy start next)
          else do
            let (_, again) ← oneOrMore greedy one next
            return again
      | least + 1, none => do
          let (start, _) ← oneOrMore greedy one next
          times one least start
      | least, some most => do
          let options ← upTo greedy one next (most - least)
          times one least options

/-- Compiles shapes that follow one another. -/
def sequence (next : Nat) : List Shape → Compile Nat
  | [] => return next
  | part :: rest => do shape (← sequence next rest) part

/-- Compiles shapes of which one is chosen, the first if possible. -/
def choice (next : Nat) : List Shape → Compile Nat
  | [] => emit (.take .empty next)
  | [branch] => shape next branch
  | branch :: rest => do
      let others ← choice next rest
      let start ← shape next branch
      emit (.either start others)

end

end Compile

/-- A compiled pattern. -/
structure Program where
  code : Code
  start : Nat
  /-- The names of groups with their indices. -/
  names : List (String × Nat)

namespace Program

/-- The program of a shape; the whole match is group zero. -/
def ofShape (shape : Shape) (names : List (String × Nat)) : Program :=
  let compile : Compile Nat := do
    let accept ← Compile.emit .accept
    Compile.shape accept (.group 0 shape)
  let (start, code) := compile.run #[]
  ⟨code, start, names⟩

end Program

/-!
## Searching
-/

/-- A position in a text: the characters on either side, and its distance from the start. -/
structure Spot where
  before? : Option Char
  after? : Option Char
  index : Nat

namespace Spot

/-- Holds for the characters of words. -/
def isWord (unicode : Bool) : Option Char → Bool
  | none => false
  | some c =>
      if unicode && 0x80 ≤ c.toNat then Unicode.Property.word.contains c
      else c.isAlphanum || c == '_'

/-- Holds if the position passes a test. -/
def passes (spot : Spot) : Look → Bool
  | .start => spot.before?.isNone
  | .stop => spot.after?.isNone
  | .lineStart => spot.before?.isNone || spot.before? == some '\n'
  | .lineEnd => spot.after?.isNone || spot.after? == some '\n'
  | .crlfStart =>
      spot.before?.isNone || spot.before? == some '\n' ||
        (spot.before? == some '\r' && spot.after? != some '\n')
  | .crlfEnd =>
      spot.after?.isNone || spot.after? == some '\r' ||
        (spot.after? == some '\n' && spot.before? != some '\r')
  | .wordEdge unicode => isWord unicode spot.before? != isWord unicode spot.after?
  | .noWordEdge unicode => isWord unicode spot.before? == isWord unicode spot.after?
  | .wordStart unicode => !isWord unicode spot.before? && isWord unicode spot.after?
  | .wordEnd unicode => isWord unicode spot.before? && !isWord unicode spot.after?
  | .wordStartHalf unicode => !isWord unicode spot.before?
  | .wordEndHalf unicode => !isWord unicode spot.after?

end Spot

/-- The marked positions: two slots for each group, where it begins and where it ends. -/
abbrev Slots := List (Nat × Nat)

/-- A way through a program, with the positions marked on it. -/
structure Way where
  number : Nat
  slots : Slots

/-- The instructions where ways have been, and the ways that wait there. -/
structure Front where
  visited : Array Bool
  /-- The ways, from the last to the first. -/
  ways : List Way

namespace Program

/-- No way yet. -/
def noFront (program : Program) : Front :=
  ⟨Array.replicate program.code.size false, []⟩

/-- Sets a slot. -/
def setSlot (slot index : Nat) : Slots → Slots
  | [] => [(slot, index)]
  | (s, i) :: rest => if s = slot then (s, index) :: rest else (s, i) :: setSlot slot index rest

/-- Follows ways up to where they take a character or accept. -/
def follow (program : Program) (spot : Spot) : Nat → List Way → Front → Front
  | 0, _, front => front
  | _, [], front => front
  | fuel + 1, way :: rest, front =>
      if front.visited.getD way.number true then follow program spot fuel rest front
      else
        let visited := front.visited.setIfInBounds way.number true
        let onward (ways : List Way) : Front :=
          follow program spot fuel (ways ++ rest) ⟨visited, front.ways⟩
        match program.code[way.number]? with
        | some (.either first second) =>
            onward [{ way with number := first }, { way with number := second }]
        | some (.mark slot next) => onward [⟨next, setSlot slot spot.index way.slots⟩]
        | some (.look test next) =>
            if spot.passes test then onward [{ way with number := next }] else onward []
        | some (.take _ _) | some .accept =>
            follow program spot fuel rest ⟨visited, way :: front.ways⟩
        | none => onward []

/-- Enough steps to follow one way everywhere. -/
def followFuel (program : Program) : Nat :=
  2 * program.code.size + 2

/-- Adds a way to the front at a position. -/
def enter (program : Program) (spot : Spot) (way : Way) (front : Front) : Front :=
  program.follow spot program.followFuel [way] front

/--
Takes ways, from the preferred one on, past the next character to the position `spot`.  A way that
accepts ends this, and its slots are the second result.
-/
def advance (program : Program) (taken? : Option Char) (spot : Spot) :
    List Way → Front → Front × Option Slots
  | [], front => (front, none)
  | way :: rest, front =>
      match program.code[way.number]? with
      | some .accept => (front, some way.slots)
      | some (.take chars next) =>
          match taken? with
          | some c =>
              if chars.contains c then
                advance program taken? spot rest
                  (program.enter spot { way with number := next } front)
              else advance program taken? spot rest front
          | none => advance program taken? spot rest front
      | _ => advance program taken? spot rest front

/--
Searches the rest of a text from a position on.  New ways are begun at each position as long as
no match has been found.
-/
def scan (program : Program) (spot : Spot) (ways : List Way) (found? : Option Slots) :
    List Char → Option Slots
  | [] =>
      match program.advance none spot ways program.noFront with
      | (_, some slots) => some slots
      | (_, none) => found?
  | c :: rest =>
      let next : Spot := ⟨some c, rest.head?, spot.index + 1⟩
      let (front, accepted?) := program.advance (some c) next ways program.noFront
      let found? := accepted?.orElse fun _ => found?
      if found?.isSome then
        if front.ways.isEmpty then found?
        else scan program next front.ways.reverse found? rest
      else
        let front := program.enter next ⟨program.start, []⟩ front
        scan program next front.ways.reverse none rest

/-- The slots of the first match that begins at the index `start` or behind it. -/
def find? (program : Program) (text : List Char) (start : Nat) : Option Slots :=
  if text.length < start then none
  else
    let rest := text.drop start
    let before? := if start = 0 then none else text[start - 1]?
    let spot : Spot := ⟨before?, rest.head?, start⟩
    let front := program.enter spot ⟨program.start, []⟩ program.noFront
    program.scan spot front.ways.reverse none rest

end Program

/-- A match: where it begins and ends, and where its groups do. -/
structure Match where
  start : Nat
  stop : Nat
  slots : Slots

/-- The part of a text that a group matched. -/
def Match.group? (text : List Char) (found : Match) (index : Nat) : Option (List Char) := do
  let start ← found.slots.lookup (2 * index)
  let stop ← found.slots.lookup (2 * index + 1)
  return (text.take stop).drop start

namespace Program

/-- The first match at an index or behind it. -/
def match? (program : Program) (text : List Char) (start : Nat) : Option Match := do
  let slots ← program.find? text start
  return ⟨← slots.lookup 0, ← slots.lookup 1, slots⟩

/--
The matches from an index on that do not overlap.  An empty match right behind another match does
not count; `last?` is where that one ended.
-/
def matchesFrom (program : Program) (text : List Char) :
    Nat → Nat → Option Nat → List Match
  | 0, _, _ => []
  | fuel + 1, start, last? =>
      match program.match? text start with
      | none => []
      | some found =>
          if found.start = found.stop ∧ some found.stop = last? then
            match program.match? text (start + 1) with
            | none => []
            | some found => found :: matchesFrom program text fuel found.stop (some found.stop)
          else found :: matchesFrom program text fuel found.stop (some found.stop)

/-- The matches in a text. -/
def allMatches (program : Program) (text : List Char) : List Match :=
  program.matchesFrom text (text.length + 2) 0 none

end Program

end Remedy.Pattern

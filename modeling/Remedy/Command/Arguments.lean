import Remedy.Path
import Remedy.Decimal.Numeral

/-!
# Arguments

The arguments name a command, which may have commands of its own, and set switches.  A switch has
a long name, and may have a letter; letters may be given together.  Some switches hold for all
commands and may stand in front of a command or behind it, where they count more.
-/

namespace Remedy

/-- A comparison of findings with those of a baseline. -/
structure Comparison where
  reference : String
  /-- Where the program leaves the findings of the baseline. -/
  results? : Option Path
  /-- The findings to take those of the baseline out of. -/
  head? : Option Path
  /-- Where to write what is left. -/
  output? : Option Path
  program : String
  args : List String
deriving DecidableEq

/-- What is to be done. -/
inductive Command where
  | apply (results : Path) (trial showsChanges : Bool)
  | status (reference : String)
  | log (reference : String)
  | compare (comparison : Comparison)
deriving DecidableEq

/-- A command and where and how to do it. -/
structure Invocation where
  folder? : Option Path
  /-- How long git may take, in seconds. -/
  seconds? : Option Nat
  command : Command
deriving DecidableEq

namespace Invocation

/-- Why there is no command to be done. -/
inductive Refusal where
  /-- The arguments make no sense. -/
  | misuse
  | help
  | version
deriving DecidableEq

/-- What a switch takes. -/
inductive Operand where
  | nothing
  | text
  /-- A path, which is not empty. -/
  | path
  /-- A number of seconds, at least one. -/
  | seconds
deriving DecidableEq

/-- A switch. -/
structure Switch where
  name : String
  letter? : Option Char
  operand : Operand
deriving DecidableEq

/-- Holds if a switch takes a value. -/
def Switch.takesValue (switch : Switch) : Bool :=
  switch.operand ≠ .nothing

/-- Switches that were set, with their values. -/
abbrev Given := List (String × String)

/-- Where the switches end. -/
inductive Tail where
  | nothing
  | word (word : String) (rest : List String)
  /-- Behind two hyphens. -/
  | verbatim (rest : List String)
deriving DecidableEq

/-- The switches of all commands. -/
def globalSwitches : List Switch :=
  [⟨"directory", some 'C', .path⟩, ⟨"verbose", some 'v', .nothing⟩,
    ⟨"git-timeout", none, .seconds⟩, ⟨"help", some 'h', .nothing⟩]

/-- The switches in front of a command. -/
def topSwitches : List Switch :=
  ⟨"version", some 'V', .nothing⟩ :: globalSwitches

/-- The switches for applying fixes. -/
def applySwitches : List Switch :=
  [⟨"results", some 'r', .path⟩, ⟨"dry-run", some 'n', .nothing⟩,
    ⟨"diff", some 'd', .nothing⟩] ++ globalSwitches

/-- The switches for asking about a baseline. -/
def referenceSwitches : List Switch :=
  ⟨"ref", none, .text⟩ :: globalSwitches

/-- The switches for comparing with a baseline. -/
def comparisonSwitches : List Switch :=
  [⟨"results", none, .path⟩, ⟨"head", none, .path⟩, ⟨"output", some 'o', .path⟩] ++
    referenceSwitches

/-!
## Reading switches
-/

/-- The number of seconds, at least one, that a text stands for. -/
def secondsOf? (text : String) : Option Nat :=
  (Decimal.read? text.toList).filter (0 < ·)

/-- Holds if a switch may be set to a value. -/
def Operand.admits (operand : Operand) (value : String) : Bool :=
  match operand with
  | .nothing | .text => true
  | .path => value ≠ ""
  | .seconds => (secondsOf? value).isSome

/-- Holds for words that begin like a switch. -/
def looksLikeSwitch (word : String) : Bool :=
  word.toList.head? == some '-' && word != "-"

/--
Sets a switch, unless it asks for help or the version.  Only the verbosity can be set again.
-/
def set (given : Given) (switch : Switch) (value : String) : Except Refusal Given :=
  if switch.name = "help" then .error .help
  else if switch.name = "version" then .error .version
  else if (given.lookup switch.name).isSome ∧ switch.name ≠ "verbose" then .error .misuse
  else if switch.operand.admits value then .ok (given ++ [(switch.name, value)])
  else .error .misuse

/--
Reads letters that are given together.  The last one may take a value, which is the rest of the
word, or else the next word: then its switch is the second result.
-/
def letters (switches : List Switch) (given : Given) :
    List Char → Except Refusal (Given × Option Switch)
  | [] => .ok (given, none)
  | c :: rest =>
      match switches.find? fun switch => switch.letter? == some c with
      | none => .error .misuse
      | some switch =>
          if switch.takesValue then
            match rest with
            | [] => .ok (given, some switch)
            | '=' :: value => do return (← set given switch (String.ofList value), none)
            | value => do return (← set given switch (String.ofList value), none)
          else do
            letters switches (← set given switch "") rest

/-- Splits a long switch at the equals sign that may stand in front of its value. -/
def splitValue (text : List Char) : String × Option String :=
  let name := String.ofList (text.takeWhile (· ≠ '='))
  match text.dropWhile (· ≠ '=') with
  | [] => (name, none)
  | _ :: value => (name, some (String.ofList value))

/-- What a word says: that the switches end, or which are set, and one that needs a value. -/
inductive Opening where
  | tail (tail : Tail)
  | given (given : Given) (open? : Option Switch)

/-- Reads a word behind switches that were set. -/
def opening (switches : List Switch) (given : Given) (word : String) (rest : List String) :
    Except Refusal Opening :=
  match word.toList with
  | ['-', '-'] => .ok (.tail (.verbatim rest))
  | '-' :: '-' :: text =>
      let (name, value?) := splitValue text
      match switches.find? fun switch => switch.name == name with
      | none => .error .misuse
      | some switch =>
          match switch.takesValue, value? with
          | true, some value => do return .given (← set given switch value) none
          | true, none => .ok (.given given (some switch))
          | false, none => do return .given (← set given switch "") none
          | false, some _ => .error .misuse
  | '-' :: c :: text => do
      let (given, open?) ← letters switches given (c :: text)
      return .given given open?
  | _ => .ok (.tail (.word word rest))

/-- Reads switches up to a word that is none. -/
def readSwitches (switches : List Switch) (given : Given) :
    List String → Except Refusal (Given × Tail)
  | [] => .ok (given, .nothing)
  | word :: rest => do
      match ← opening switches given word rest, rest with
      | .tail tail, _ => return (given, tail)
      | .given given none, rest => readSwitches switches given rest
      | .given _ (some _), [] => throw .misuse
      | .given given (some switch), value :: rest =>
          if looksLikeSwitch value then throw .misuse
          else readSwitches switches (← set given switch value) rest

/-!
## Reading commands
-/

/-- The path that a switch is set to. -/
def path? (given : Given) (name : String) : Option Path :=
  (given.lookup name).map Path.mk

/-- The value of a switch that must be set. -/
def required {α : Type} (value? : Option α) : Except Refusal α :=
  match value? with
  | some value => .ok value
  | none => .error .misuse

/-- A command with the switches of all commands, of which those that count come first. -/
def withGlobals (given : Given) (command : Command) : Invocation :=
  ⟨path? given "directory", (given.lookup "git-timeout").bind secondsOf?, command⟩

/-- Holds if nothing is left. -/
def ends : Tail → Except Refusal Unit
  | .nothing | .verbatim [] => .ok ()
  | _ => .error .misuse

/-- Reads the rest of a command that asks about a baseline. -/
def ofReference (given : Given) (make : String → Command) (words : List String) :
    Except Refusal Invocation := do
  let (inner, tail) ← readSwitches referenceSwitches [] words
  ends tail
  let reference ← required (inner.lookup "ref")
  return withGlobals (inner ++ given) (make reference)

/-- Reads the rest of a command that compares with a baseline. -/
def ofComparison (given : Given) (words : List String) : Except Refusal Invocation := do
  let (inner, tail) ← readSwitches comparisonSwitches [] words
  match tail with
  | .verbatim (program :: args) =>
      let reference ← required (inner.lookup "ref")
      let results? := path? inner "results"
      let head? := path? inner "head"
      let output? := path? inner "output"
      if head?.isSome ∧ results?.isNone then throw .misuse
      if output?.isSome ∧ head?.isNone then throw .misuse
      return withGlobals (inner ++ given)
        (.compare ⟨reference, results?, head?, output?, program, args⟩)
  | _ => throw .misuse

/-- What one gets who asks for help on a command, which is given with those that it belongs to. -/
def helpOn : List String → Refusal
  | [] | ["apply"] | ["baseline"] | ["help"] => .help
  | ["baseline", "status"] | ["baseline", "log"] | ["baseline", "run"] => .help
  | ["baseline", "help"] => .help
  | _ => .misuse

/-- Reads the arguments. -/
def ofArgs (args : List String) : Except Refusal Invocation := do
  let (outer, tail) ← readSwitches topSwitches [] args
  match tail with
  | .word "apply" words =>
      let (inner, tail) ← readSwitches applySwitches [] words
      ends tail
      let results ← required (path? inner "results")
      return withGlobals (inner ++ outer) <|
        .apply results (inner.lookup "dry-run").isSome (inner.lookup "diff").isSome
  | .word "baseline" words =>
      let (middle, tail) ← readSwitches globalSwitches [] words
      match tail with
      | .word "status" words => ofReference (middle ++ outer) .status words
      | .word "log" words => ofReference (middle ++ outer) .log words
      | .word "run" words => ofComparison (middle ++ outer) words
      | .word "help" words => throw (helpOn ("baseline" :: words))
      | _ => throw .misuse
  | .word "help" words => throw (helpOn words)
  | _ => throw .misuse

end Invocation

end Remedy

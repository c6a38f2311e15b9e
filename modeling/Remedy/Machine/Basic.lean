import Remedy.Tree.Access

/-!
# Machines

A machine has a file tree and other programs, which may be started and may change the tree.  It
remembers which programs were started and what was said.  A task works on a machine; when it
fails, what it has done to the machine stays.
-/

namespace Remedy

/-- How a process ended. -/
inductive Ending where
  | exited (code : Nat)
  | killed (signal : Nat)
deriving DecidableEq

/-- What comes of starting a process. -/
inductive Answer where
  /-- It could not be started. -/
  | refused (error : SystemError)
  /-- It does not end. -/
  | hung
  | finished (ending : Ending) (out err : List UInt8)

/-- A program that is to be started in a folder. -/
structure Call where
  binary : String
  folder : Location
  args : List String
deriving DecidableEq

/-- The programs of a machine; `σ` is what they remember from start to start. -/
structure Programs (σ : Type) where
  start : Call → Disk → σ → Answer × Disk × σ

/-- How much a note matters. -/
inductive Level where
  | error
  | warning
  | info
deriving DecidableEq

/-- Something that is said to the user. -/
inductive Message where
  /-- A note about what is going on. -/
  | note (level : Level) (text : String)
  /-- A text that belongs to the output. -/
  | output (text : String)
  /-- A text that belongs to the reports of errors. -/
  | report (text : String)
deriving DecidableEq

/-- A file tree with programs, and what has happened there. -/
structure Machine (σ : Type) where
  programs : Programs σ
  memory : σ
  disk : Disk
  /-- The calls that were made, in their order, each with whether it started a process. -/
  calls : List (Call × Bool)
  said : List Message

/-- Work on a machine that may fail. -/
abbrev Task (σ ε α : Type) := ExceptT ε (StateM (Machine σ)) α

namespace Ending

/-- A process is successful if it exits with zero. -/
def isSuccess : Ending → Bool
  | .exited code => code == 0
  | .killed _ => false

/-- The names of the signals from one on. -/
def signalNames : List String :=
  ["SIGHUP", "SIGINT", "SIGQUIT", "SIGILL", "SIGTRAP", "SIGABRT", "SIGBUS", "SIGFPE", "SIGKILL",
    "SIGUSR1", "SIGSEGV", "SIGUSR2", "SIGPIPE", "SIGALRM", "SIGTERM", "SIGSTKFLT", "SIGCHLD",
    "SIGCONT", "SIGSTOP", "SIGTSTP", "SIGTTIN", "SIGTTOU", "SIGURG", "SIGXCPU", "SIGXFSZ",
    "SIGVTALRM", "SIGPROF", "SIGWINCH", "SIGIO", "SIGPWR", "SIGSYS"]

/-- The wording of how a process ended. -/
def message : Ending → String
  | .exited code => "exit status: " ++ toString code
  | .killed signal =>
      let name := if signal = 0 then "" else
        ((signalNames[signal - 1]?).map fun name => " (" ++ name ++ ")").getD ""
      "signal: " ++ toString signal ++ name

end Ending

/-- The name of a level in five columns. -/
def Level.label : Level → String
  | .error => "ERROR"
  | .warning => " WARN"
  | .info => " INFO"

/-- The line of a note. -/
def Level.line (level : Level) (text : String) : String :=
  level.label ++ " " ++ text ++ "\n"

/-- The notes among some messages, a line for each. -/
def noteLines (said : List Message) : String :=
  String.join <| said.map fun message =>
    match message with
    | .note level text => level.line text
    | _ => ""

namespace Machine

variable {σ : Type}

/-- Says something. -/
def say (machine : Machine σ) (message : Message) : Machine σ :=
  { machine with said := machine.said ++ [message] }

/-- Starts a program in the folder that a path leads to. -/
def start (machine : Machine σ) (binary : String) (folder : Path) (args : List String) :
    Answer × Machine σ :=
  let refuse (location : Location) (error : SystemError) : Answer × Machine σ :=
    (.refused error,
      { machine with calls := machine.calls ++ [(⟨binary, location, args⟩, false)] })
  if (binary :: folder.text :: args).any fun text => text.toList.contains '\x00' then
    refuse [] .nulInCommand
  else
    match machine.disk.resolve folder with
    | .error e => refuse [] e
    | .ok (location, .folder) =>
        let call : Call := ⟨binary, location, args⟩
        match machine.programs.start call machine.disk machine.memory with
        | (.refused error, _, _) => refuse location error
        | (answer, disk, memory) =>
            (answer, { machine with memory, disk, calls := machine.calls ++ [(call, true)] })
    | .ok (location, _) => refuse location .notFolder

end Machine

namespace Task

variable {σ ε : Type}

/-- Says something. -/
def say (message : Message) : Task σ ε Unit :=
  modify (·.say message)

/-- Notes something. -/
def note (level : Level) (text : String) : Task σ ε Unit :=
  say (.note level text)

/-- The files of the machine. -/
def disk : Task σ ε Disk :=
  return (← get).disk

/-- Changes the files of the machine. -/
def setDisk (disk : Disk) : Task σ ε Unit :=
  modify fun machine => { machine with disk }

/-- Starts a program. -/
def start (binary : String) (folder : Path) (args : List String) : Task σ ε Answer :=
  modifyGet fun machine => machine.start binary folder args

/-- The task that comes to a given result and does nothing. -/
def ofExcept {α : Type} (result : Except ε α) : Task σ ε α :=
  ExceptT.mk (pure result)

/-- Carries out a task; what it comes to, failure or not, is the result. -/
def outcome {α : Type} (task : Task σ ε α) {ε' : Type} : Task σ ε' (Except ε α) :=
  ExceptT.mk <| Except.ok <$> task.run

/-- Puts failures of one kind into another kind. -/
def relabel {ε' α : Type} (label : ε → ε') (task : Task σ ε α) : Task σ ε' α :=
  ExceptT.mk <| (·.mapError label) <$> task.run

end Task

end Remedy

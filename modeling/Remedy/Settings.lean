import Remedy.Git.Runner
import Remedy.Decimal.Numeral
import Remedy.Toml.Parser
import Remedy.Tree.Access

/-!
# Settings

Settings come from a file in the working folder, if there is one, and a variable of the
environment may change how long git may take.  Everything has a value of its own when it is left
out, and nothing that is unknown may be set.
-/

namespace Remedy

/-- How the program is set. -/
structure Settings where
  /-- The name of the git program. -/
  binary : String
  /-- How long a run of git may take, in seconds. -/
  seconds : Nat
  /-- Whether changes of files are shown line by line. -/
  showsChanges : Bool
deriving DecidableEq

namespace Settings

/-- The settings where nothing is set. -/
def initial : Settings := ⟨"git", 100, false⟩

/-- The name of the file that settings are read from. -/
def fileName : String := "fixbase.toml"

/-- The name of the variable with the seconds that git may take. -/
def timeoutVariable : String := "FIXBASE_GIT_TIMEOUT"

/-- What is wrong with a setting. -/
inductive Issue where
  | empty (field : String)
  | outOfRange (field : String) (text : String)
deriving DecidableEq

/-- The wording of an issue. -/
def Issue.message : Issue → String
  | .empty field => "'" ++ field ++ "' must not be empty"
  | .outOfRange field text => "'" ++ field ++ "' " ++ text

/-- The wording of issues, a line for each. -/
def issuesMessage (issues : List Issue) : String :=
  String.intercalate "\n" (issues.map Issue.message)

/-- Why there are no settings. -/
inductive Failure where
  | unreadable (file : Path) (error : SystemError)
  /-- The text is no document, or sets something that is unknown or of another type. -/
  | malformed (file? : Option Path)
  | invalid (file? : Option Path) (issues : List Issue)
  | variable (value : String)
deriving DecidableEq

/-- The file that a failure is about, in brackets. -/
def fileNote : Option Path → String
  | none => ""
  | some file => " (" ++ file.text ++ ")"

/-- The wording of a failure. -/
def Failure.message : Failure → String
  | .unreadable file error =>
      "failed to read config from " ++ file.text ++ ": " ++ error.message
  | .malformed file? => "failed to parse config TOML" ++ fileNote file? ++ ": "
  | .invalid file? issues =>
      "invalid config" ++ fileNote file? ++ ": " ++ issuesMessage issues
  | .variable value =>
      timeoutVariable ++ " must be a positive number of seconds, got '" ++ value ++ "'"

/-- What is wrong with the settings. -/
def issues (settings : Settings) : List Issue :=
  (if settings.binary = "" then [.empty "git.binary"] else []) ++
  (if settings.seconds = 0 then [.outOfRange "git.timeout_secs" "must be at least 1 second"]
    else [])

/-- Sets the name of the git program. -/
def setBinary? (settings : Settings) : Toml → Option Settings
  | .string value => some { settings with binary := value }
  | _ => none

/-- Sets how long git may take. -/
def setSeconds? (settings : Settings) : Toml → Option Settings
  | .integer value => if value < 0 then none else some { settings with seconds := value.toNat }
  | _ => none

/-- Sets whether changes are shown. -/
def setShows? (settings : Settings) : Toml → Option Settings
  | .bool value => some { settings with showsChanges := value }
  | _ => none

/--
Sets the fields of a group.  The group is a table of known fields, or an array of their values in
their order; values that are too many are not looked at.
-/
def setGroup? (known : List (String × (Settings → Toml → Option Settings)))
    (settings : Settings) : Toml → Option Settings
  | .table fields =>
      fields.foldlM (fun settings (key, value) => do (← known.lookup key) settings value) settings
  | .array items =>
      (known.zip items).foldlM (fun settings (field, value) => field.2 settings value) settings
  | _ => none

/-- The settings of a document. -/
def ofToml? : Toml → Option Settings :=
  setGroup?
    [("git", setGroup? [("binary", setBinary?), ("timeout_secs", setSeconds?)]),
      ("fix", setGroup? [("show_diff", setShows?)])]
    initial

/-- Reads settings from a text, which may come from a file. -/
def parse (file? : Option Path) (text : String) : Except Failure Settings :=
  match (Toml.parse? text).bind ofToml? with
  | none => .error (.malformed file?)
  | some settings =>
      if settings.issues = [] then .ok settings else .error (.invalid file? settings.issues)

/-- Reads settings from a file. -/
def load (disk : Disk) (file : Path) : Except Failure Settings :=
  match disk.readText file with
  | .error e => .error (.unreadable file e)
  | .ok text => parse (some file) text

/-- Carries out the variable that says how long git may take. -/
def override (settings : Settings) (value? : Option String) : Except Failure Settings :=
  match value? with
  | none => .ok settings
  | some value =>
      match Decimal.read? (Text.trim value.toList) with
      | some (seconds + 1) => .ok { settings with seconds := seconds + 1 }
      | _ => .error (.variable value)

/-- The settings for a folder; a file for them need not be there. -/
def ofFolder (disk : Disk) (folder : Path) (seconds? : Option String) :
    Except Failure Settings := do
  let file := folder.join ⟨fileName⟩
  let settings ← if disk.leadsToFile file then load disk file else .ok initial
  settings.override seconds?

/-- How git is run in a folder. -/
def runner (settings : Settings) (folder : Path) : Git.Runner :=
  ⟨settings.binary, folder, 1000 * settings.seconds⟩

end Settings

end Remedy

import Remedy.Json.Basic
import Remedy.Machine.Script
import Remedy.Text.Hex

/-!
# Scenes

A scene describes a machine as a JSON object: the files that are there, the folder to work in, the
variables of the environment and the replies that git is to play.  Files are given by their
paths: a string is a text, and an object holds bytes in hexadecimal digits, the target of a link,
or says that there is a folder; null says that there is nothing.
-/

namespace Remedy.Scene

/-- The text of a field; without the field it is empty. -/
def textField (key : String) (json : Json) : String :=
  match json.field? key with
  | some (.string s) => s
  | _ => ""

/-- The items of a field; without the field there are none. -/
def listField (key : String) (json : Json) : List Json :=
  match json.field? key with
  | some (.array items) => items
  | _ => []

/-- The number of a field, if it is one. -/
def numberField? (key : String) (json : Json) : Option Nat :=
  match json.field? key with
  | some (.number (.natural n)) => some n
  | _ => none

/-- Whether a field is true. -/
def isSet (key : String) (json : Json) : Bool :=
  match json.field? key with
  | some (.bool value) => value
  | _ => false

/-- The bytes that hexadecimal digits stand for; none if there is anything else. -/
def hexBytes (digits : String) : List UInt8 :=
  (Text.Hex.bytes? digits.toList).getD []

/-- What a description puts at a path. -/
def node? : Json → Option Node
  | .string s => some (.file (.text s))
  | .object [("hex", .string digits)] => some (.file (.ofBytes (hexBytes digits)))
  | .object [("link", .string target)] => some (.link ⟨target⟩)
  | .object _ => some .folder
  | _ => none

/-- The layout that a description of files asks for, in the order of the paths. -/
def layout : Json → Disk.Layout
  | .object fields => (Json.sortFields fields).map fun (path, json) => (⟨path⟩, node? json)
  | _ => []

/-- The layout of a field. -/
def layoutField (key : String) (json : Json) : Disk.Layout :=
  ((json.field? key).map layout).getD []

/-- The description of a node. -/
def describeNode : Node → Json
  | .file (.text s) => .string s
  | .file (.bytes bytes) => .object [("hex", .string (Text.Hex.ofBytes bytes))]
  | .link target => .object [("link", .string target.text)]
  | .folder => .object [("dir", .bool true)]

/-- The description of the files below a folder. -/
def describe (disk : Disk) (top : Location) : Json :=
  .object <| Json.sortFields <|
    (disk.listing top).map fun (path, node) => (path.text, describeNode node)

/-- The bytes that a text or its hexadecimal digits describe. -/
def bytesField (key : String) (json : Json) : List UInt8 :=
  match json.field? key with
  | some (.string s) => s.toUTF8.toList
  | some (.object [("hex", .string digits)]) => hexBytes digits
  | _ => []

/-- How a described process ends. -/
def ending? (json : Json) : Option Ending :=
  if isSet "hang" json then none
  else
    match numberField? "signal" json with
    | some signal => some (.killed signal)
    | none => some (.exited ((numberField? "code" json).getD 0))

/-- The reply that is described. -/
def reply (json : Json) : Reply :=
  ⟨ending? json, bytesField "out" json, bytesField "err" json, layoutField "files" json⟩

/-- The folder below `top` that is described as the one to work in. -/
def workFolder (top : Location) (disk : Disk) (json : Json) : Location :=
  match disk.resolve ⟨"./" ++ textField "cwd" json⟩ with
  | .ok (location, _) => location
  | .error _ => top

/-- The machine that is described, its files below the folder `top`. -/
def machine (top : Location) (json : Json) : Machine Script :=
  let folders := (List.range (top.length + 1)).drop 1 |>.map fun n => (top.take n, Node.folder)
  let disk := (Disk.mk ⟨folders⟩ top).arrange top (layoutField "files" json)
  let script : Script := ⟨["git", "altgit"], top, (listField "git" json).map reply⟩
  ⟨.scripted, script, { disk with here := workFolder top disk json }, [], []⟩

/-- The variables of the environment that are described. -/
def environment (json : Json) : List (String × String) :=
  match json.field? "env" with
  | some (.object fields) =>
      fields.filterMap fun (name, value) =>
        match value with
        | .string text => some (name, text)
        | _ => none
  | _ => []

end Remedy.Scene

import Remedy.Finding.Basic
import Remedy.Json.Printer
import Remedy.Json.Source

/-!
# Documents of findings

A document is a JSON object with a list of results.  A record in it may be an object, in which
unknown fields are skipped and no known field stands twice, or an array of its fields in their
order, from which fields may be missing at the end.  Records and counts may lie 127 deep.
-/

namespace Remedy

open Json (Source)

/-- How deep arrays and objects may lie in one another, plus one. -/
def documentDepth : Nat := 128

namespace Json.Source

/--
The fields of a record in the order of their names, each with its value if it is there, and the
depth that is left to them.
-/
def record? (names : List String) : Nat → Source → Option (List (Option Source) × Nat)
  | depth + 1, .array items =>
      if depth = 0 ∨ names.length < items.length then none
      else some ((List.range names.length).map (items[·]?), depth)
  | depth + 1, .object fields =>
      if depth = 0 then none
      else do
        let named ← fields.mapM fun field => field.1.map fun name => (name, field.2)
        let isKnown (name : String) : Bool := names.contains name
        let known := (named.map (·.1)).filter isKnown
        if known.Nodup then some (names.map (named.lookup ·), depth) else none
  | _, _ => none

/-- The value of a string. -/
def text? : Source → Option String
  | .string s? => s?
  | _ => none

/-- The value of an integer without a sign. -/
def natural? : Source → Option Nat
  | .number numeral =>
      match numeral.number? with
      | some (.natural n) => some n
      | _ => none
  | _ => none

/-- Reads a field that may be missing or null. -/
def optional? {α : Type} (read? : Source → Option α) : Option Source → Option (Option α)
  | none | some .null => some none
  | some source => (read? source).map some

/-- Reads a field that has a value of its own when it is missing. -/
def defaulting? {α : Type} (missing : α) (read? : Source → Option α) :
    Option Source → Option α
  | none => some missing
  | some source => read? source

end Json.Source

namespace Position

/-- Reads a position; the offset may be missing. -/
def ofSource? (depth : Nat) (source : Source) : Option Position :=
  match source.record? ["line", "col", "offset"] depth with
  | some ([some line, some col, offset?], _) => do
      return ⟨← line.natural?, ← col.natural?, ← Source.defaulting? 0 Source.natural? offset?⟩
  | _ => none

/-- The fields of a position. -/
def toJson (position : Position) : Json :=
  .object [
    ("line", .number (.natural position.line)),
    ("col", .number (.natural position.col)),
    ("offset", .number (.natural position.offset))]

end Position

namespace Substitution

/-- Reads a substitution, all of whose fields may be missing. -/
def ofSource? (depth : Nat) (source : Source) : Option Substitution :=
  match source.record? ["regex", "replacement", "count"] depth with
  | some ([pattern?, replacement?, count?], depth) => do
      return ⟨← Source.optional? Source.text? pattern?,
        ← Source.optional? Source.text? replacement?,
        ← Source.optional? (Source.value? depth) count?⟩
  | _ => none

/-- The fields of a substitution that are there. -/
def toJson (substitution : Substitution) : Json :=
  .object <|
    (substitution.pattern?.map fun s => ("regex", Json.string s)).toList ++
    (substitution.replacement?.map fun s => ("replacement", Json.string s)).toList ++
    (substitution.count?.map fun value => ("count", value)).toList

end Substitution

namespace Finding

/-- What a result says besides its rule and its place. -/
structure Extra where
  message : String
  fix? : Option String
  substitution? : Option Substitution

/-- Reads what a result says besides its rule and its place. -/
def Extra.ofSource? (depth : Nat) (source : Source) : Option Extra :=
  match source.record? ["message", "fix", "fix_regex"] depth with
  | some ([message?, fix?, substitution?], depth) => do
      return ⟨← Source.defaulting? "" Source.text? message?,
        ← Source.optional? Source.text? fix?,
        ← Source.optional? (Substitution.ofSource? depth) substitution?⟩
  | _ => none

/-- Reads a result. -/
def ofSource? (depth : Nat) (source : Source) : Option Finding :=
  match source.record? ["check_id", "path", "start", "end", "extra"] depth with
  | some ([some rule, some path, some start, some stop, extra?], depth) => do
      let rule ← rule.text?
      let path ← path.text?
      let start ← Position.ofSource? depth start
      let stop ← Position.ofSource? depth stop
      let extra ← Source.defaulting? ⟨"", none, none⟩ (Extra.ofSource? depth) extra?
      return ⟨rule, ⟨path⟩, start, stop, extra.message, extra.fix?, extra.substitution?⟩
  | _ => none

/-- The fields of a result. -/
def toJson (finding : Finding) : Json :=
  .object [
    ("check_id", .string finding.rule),
    ("path", .string finding.path.text),
    ("start", finding.start.toJson),
    ("end", finding.stop.toJson),
    ("extra", .object <|
      ("message", .string finding.message) ::
      ((finding.fix?.map fun s => ("fix", Json.string s)).toList ++
      (finding.substitution?.map fun s => ("fix_regex", s.toJson)).toList))]

end Finding

namespace Findings

/-- The results of a document, in their order. -/
def listOfSource? (source : Source) : Option (List Finding) :=
  match source.record? ["results"] documentDepth with
  | some ([results?], depth) =>
      let results : Source → Option (List Finding)
        | .array items =>
            if depth ≤ 1 then none else items.mapM (Finding.ofSource? (depth - 1))
        | _ => none
      Source.defaulting? [] results results?
  | _ => none

/-- Reads a document; there are no results to be had from a text that is none. -/
def list? (text : String) : Option (List Finding) :=
  (Source.parse? text).bind listOfSource?

/-- Reads the findings of a document. -/
def parse? (text : String) : Option Findings :=
  (list? text).map ofList

/-- The document of some findings. -/
def toJson (findings : Findings) : Json :=
  .object [("results", .array (findings.toList.map Finding.toJson))]

/-- The text of the document of some findings. -/
def write (findings : Findings) : String :=
  findings.toJson.pretty

end Findings

end Remedy

/-!
# TOML values

A document is written in lines: assignments to keys, which may be dotted, and headers, which open
a table or the next table of a list.  `Item` is a table under construction.  It remembers how each
table came about, because this decides whether a table may still be added to: a table is opened
once, a table made by dotted keys is not opened at all, and an opened one takes no dotted keys.
-/

namespace Remedy

/-- A value. -/
inductive Toml where
  | string (value : String)
  | integer (value : Int)
  | bool (value : Bool)
  /-- A fraction, whose value is not kept. -/
  | fraction
  /-- A date or a time of day, whose value is not kept. -/
  | time
  | array (items : List Toml)
  | table (fields : List (String × Toml))
deriving Inhabited

namespace Toml

/-- How a table came about. -/
inductive Mark where
  /-- It was opened by a header. -/
  | opened
  /-- It lies on the way to a table that was opened. -/
  | implied
  /-- It was made by dotted keys. -/
  | dotted
deriving DecidableEq

/-- What a key of a table under construction stands for. -/
inductive Item where
  | value (value : Toml)
  | table (mark : Mark) (fields : List (String × Item))
  /-- The tables of a list, from the last to the first. -/
  | tables (last : List (String × Item)) (others : List (List (String × Item)))
deriving Inhabited

/-- The keys of a table under construction. -/
abbrev Fields := List (String × Item)

namespace Fields

/-- Gives a key a new item, or adds it at the end. -/
def put (key : String) (item : Item) : Fields → Fields
  | [] => [(key, item)]
  | (k, i) :: rest => if k = key then (k, item) :: rest else (k, i) :: put key item rest

/--
Changes the table that keys lead to, making tables on the way.  Dotted keys do not lead through
tables that were opened.
-/
def change? (dotted : Bool) (change : Mark → Fields → Option Fields) :
    List String → Mark → Fields → Option Fields
  | [], mark, fields => change mark fields
  | key :: rest, _, fields =>
      match fields.lookup key with
      | none => do
          let mark : Mark := if dotted then .dotted else .implied
          let inner ← change? dotted change rest mark []
          return fields.put key (.table mark inner)
      | some (.table mark inner) =>
          if dotted ∧ mark = .opened then none
          else do
            let inner ← change? dotted change rest mark inner
            return fields.put key (.table mark inner)
      | some (.tables last others) =>
          if dotted then none
          else do
            let last ← change? dotted change rest .opened last
            return fields.put key (.tables last others)
      | some (.value _) => none

/-- Assigns a value to the key behind the keys of a path. -/
def assign? (path : List String) (key : String) (value : Toml) :
    Mark → Fields → Option Fields :=
  let add (mark : Mark) (fields : Fields) : Option Fields :=
    if path ≠ [] ∧ mark ≠ .dotted then none
    else if (fields.lookup key).isSome then none
    else some (fields.put key (.value value))
  change? true add path

/-- Opens the table behind the keys of a path. -/
def openTable? (path : List String) (key : String) : Fields → Option Fields :=
  let add (_ : Mark) (fields : Fields) : Option Fields :=
    match fields.lookup key with
    | none => some (fields.put key (.table .opened []))
    | some (.table .implied inner) => some (fields.put key (.table .opened inner))
    | some _ => none
  change? false add path .opened

/-- Opens the next table of the list behind the keys of a path. -/
def openNext? (path : List String) (key : String) : Fields → Option Fields :=
  let add (_ : Mark) (fields : Fields) : Option Fields :=
    match fields.lookup key with
    | none => some (fields.put key (.tables [] []))
    | some (.tables last others) => some (fields.put key (.tables [] (last :: others)))
    | some _ => none
  change? false add path .opened

end Fields

mutual

/-- The value of an item. -/
def Item.toToml : Item → Toml
  | .value assigned => assigned
  | .table _ fields => .table (Item.toFields fields)
  | .tables last others => .array ((.table (Item.toFields last) :: Item.toTables others).reverse)

/-- The values of the keys of a table. -/
def Item.toFields : List (String × Item) → List (String × Toml)
  | [] => []
  | (key, item) :: rest => (key, item.toToml) :: Item.toFields rest

/-- The tables of a list. -/
def Item.toTables : List (List (String × Item)) → List Toml
  | [] => []
  | fields :: rest => .table (Item.toFields fields) :: Item.toTables rest

end

/-- The table that has been constructed. -/
def Fields.toToml (fields : Fields) : Toml :=
  (Item.table .opened fields).toToml

/-- A line of a document. -/
inductive Line where
  | assignment (path : List String) (key : String) (value : Toml)
  | header (path : List String) (key : String)
  | listHeader (path : List String) (key : String)

/-- Carries out lines, the assignments in the table that was opened last. -/
def ofLines? (opened : List String) (fields : Fields) : List Line → Option Toml
  | [] => some fields.toToml
  | .assignment path key value :: rest => do
      let fields ← fields.change? false (Fields.assign? path key value) opened .opened
      ofLines? opened fields rest
  | .header path key :: rest => do
      ofLines? (path ++ [key]) (← fields.openTable? path key) rest
  | .listHeader path key :: rest => do
      ofLines? (path ++ [key]) (← fields.openNext? path key) rest

end Toml

end Remedy

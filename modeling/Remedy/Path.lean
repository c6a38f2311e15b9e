import Remedy.Text.Lines

/-!
# Paths

A path is kept as it was written.  Two views of it matter.  Its `components` are what paths are
compared and ordered by: repeated separators, a separator at the end and a `.` other than the
first say nothing.  Its `steps` are what a walk through a file tree follows.
-/

namespace Remedy

/-- A path as it was written. -/
structure Path where
  text : String
deriving DecidableEq, Inhabited

namespace Path

/-- A part of a path that counts when paths are compared. -/
inductive Component where
  | root
  | here
  | up
  | name (text : String)
deriving DecidableEq

/-- The kinds of components in their order. -/
def Component.rank : Component → Nat
  | .root => 0
  | .here => 1
  | .up => 2
  | .name _ => 3

/-- The root comes first, then `.`, then `..`, then the names in their own order. -/
def Component.order : Component → Component → Ordering
  | .name a, .name b => compare a b
  | a, b => compare a.rank b.rank

/-- The texts between the separators. -/
def segments (path : Path) : List String :=
  (Text.splitAt '/' path.text.toList).map String.ofList

/-- An absolute path begins with a separator. -/
def isAbsolute (path : Path) : Bool :=
  path.text.toList.head? == some '/'

/-- The component that a segment other than the first stands for, if it stands for one. -/
def Component.ofSegment? (segment : String) : Option Component :=
  if segment = "" ∨ segment = "." then none
  else if segment = ".." then some .up
  else some (.name segment)

/-- What a path is compared by. -/
def components (path : Path) : List Component :=
  let rest := path.segments.filterMap Component.ofSegment?
  if path.isAbsolute then .root :: rest
  else if path.segments.head? = some "." then .here :: rest
  else rest

/-- Two paths are the same if their components are. -/
def same (a b : Path) : Bool :=
  a.components == b.components

/-- Paths are ordered by their components, the first difference deciding. -/
def order (a b : Path) : Ordering :=
  compareLists a.components b.components
where
  compareLists : List Component → List Component → Ordering
    | [], [] => .eq
    | [], _ :: _ => .lt
    | _ :: _, [] => .gt
    | a :: as, b :: bs => (a.order b).then (compareLists as bs)

/-- The path `path` as seen from the folder `base`. -/
def join (base path : Path) : Path :=
  if path.isAbsolute then path
  else if base.text = "" ∨ base.text.toList.getLast? = some '/' then ⟨base.text ++ path.text⟩
  else ⟨base.text ++ "/" ++ path.text⟩

/-- Drops the separators and the `.` in front of the next component. -/
def skipIdle : List Char → List Char
  | [] => []
  | '/' :: rest => skipIdle rest
  | ['.'] => []
  | '.' :: '/' :: rest => skipIdle rest
  | text => text

/-- The rest of a path behind the components `base`, as it was written. -/
def stripComponents : List Component → List Char → Option (List Char)
  | [], text => some (skipIdle text)
  | expected :: more, text =>
      let text := skipIdle text
      let segment := text.takeWhile (· ≠ '/')
      if Component.ofSegment? (String.ofList segment) = some expected then
        stripComponents more (text.dropWhile (· ≠ '/'))
      else
        none

/-- The path below the folder `base`, or the whole path if it lies elsewhere. -/
def relativeTo (base path : Path) : Path :=
  let rest? :=
    match base.components, path.components with
    | .root :: more, .root :: _ => stripComponents more path.text.toList
    | .here :: more, .here :: _ => stripComponents more path.text.toList
    | .root :: _, _ | _, .root :: _ | .here :: _, _ | _, .here :: _ => none
    | names, _ => stripComponents names path.text.toList
  (rest?.map (⟨String.ofList ·⟩)).getD path

/-- The path without the separators at its end; a path of separators only is left alone. -/
def bare (path : Path) : Path :=
  let text := (path.text.toList.reverse.dropWhile (· == '/')).reverse
  if text = [] then path else ⟨String.ofList text⟩

/-- Holds if a separator stands at the end of the path, behind a name. -/
def isSlashed (path : Path) : Bool :=
  path.bare ≠ path

/-- A step of a walk through a file tree. -/
inductive Step where
  | here
  | up
  | name (text : String)
deriving DecidableEq

/-- The step that a segment asks for; an empty one stays where it is. -/
def Step.ofSegment (segment : String) : Step :=
  if segment = "" ∨ segment = "." then .here
  else if segment = ".." then .up
  else .name segment

/-- The steps of a walk along the path. -/
def steps (path : Path) : List Step :=
  let steps := path.segments.map Step.ofSegment
  if path.isAbsolute then steps.tail else steps

end Path

/-!
## Sets of paths

A set of paths is a list in ascending order without two paths that are the same.
-/

/-- Paths in ascending order, each in one spelling. -/
abbrev PathSet := List Path

namespace PathSet

/-- Adds a path; the spelling that is there already stays. -/
def insert (path : Path) : PathSet → PathSet
  | [] => [path]
  | p :: rest =>
      match path.order p with
      | .lt => path :: p :: rest
      | .eq => p :: rest
      | .gt => p :: insert path rest

/-- Adds a path; the new spelling takes the place of the one that is there. -/
def replace (path : Path) : PathSet → PathSet
  | [] => [path]
  | p :: rest =>
      match path.order p with
      | .lt => path :: p :: rest
      | .eq => path :: rest
      | .gt => p :: replace path rest

/-- The set of the paths of a list, each in its last spelling. -/
def ofList (paths : List Path) : PathSet :=
  paths.foldl (fun set path => replace path set) []

end PathSet

end Remedy

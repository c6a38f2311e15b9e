import Remedy.Git.Change

/-!
# Pending files

Git lists the files of which the working tree differs from the last commit, each behind two
characters for its state.  `Pending` holds their paths by the first of the two.
-/

namespace Remedy.Git

/-- The paths of pending files by state, the states in ascending order. -/
structure Pending where
  groups : List (Char × List Path)
deriving DecidableEq

namespace Pending

/-- Adds a path to those of its state. -/
def add (state : Char) (path : Path) : List (Char × List Path) → List (Char × List Path)
  | [] => [(state, [path])]
  | (s, paths) :: rest =>
      if state < s then (state, [path]) :: (s, paths) :: rest
      else if state = s then (s, paths ++ [path]) :: rest
      else (s, paths) :: add state path rest

/-- Holds for the characters that announce a second path. -/
def isMove (c : Char) : Bool :=
  c == 'R' || c == 'C'

/-- What follows the first three bytes of a line; nothing if these end within a character. -/
def pathOf (line : List Char) : Path :=
  let rec skip : Nat → List Char → List Char
    | 0, rest => rest
    | _, [] => []
    | bytes, c :: rest => if bytes < c.utf8Size then [] else skip (bytes - c.utf8Size) rest
  ⟨String.ofList (skip 3 line)⟩

/-- The states and paths in parts; a part with fewer than two characters is passed over. -/
def entries : List (List Char) → List (Char × Path)
  | [] => []
  | (x :: y :: more) :: rest =>
      let entry := (x, pathOf (x :: y :: more))
      if isMove x || isMove y then
        match rest with
        | [] => [entry]
        | _ :: rest => entry :: entries rest
      else entry :: entries rest
  | _ :: rest => entries rest

/-- Reads the pending files of a list. -/
def parse (text : String) : Pending :=
  ⟨(entries (parts text.toList)).foldl (fun groups (state, path) => add state path groups) []⟩

/-- The paths with a state. -/
def get (pending : Pending) (code : ChangeCode) : List Path :=
  (pending.groups.lookup code.toChar).getD []

/-- The paths that git does not track. -/
def untracked (pending : Pending) : List Path :=
  pending.get .untracked

/-- The paths of files that git tracks, state by state. -/
def tracked (pending : Pending) : List Path :=
  (pending.groups.filter fun group => group.1 ≠ '?' && group.1 ≠ '!').flatMap (·.2)

/-- Holds if nothing is pending. -/
def isEmpty (pending : Pending) : Bool :=
  pending.groups.isEmpty

end Pending

end Remedy.Git

import Remedy.Path

/-!
# File trees

A tree holds files, symbolic links and folders.  A node is found by its location, the names that
lead to it from the top; the top itself is a folder and has the empty location.  What a file
holds is a text, or bytes that are not UTF-8.
-/

namespace Remedy

/-- What a file holds. -/
inductive Content where
  | text (text : String)
  | bytes (bytes : List UInt8)
deriving DecidableEq, Inhabited

namespace Content

/-- The content with the given bytes: a text if they are UTF-8. -/
def ofBytes (bytes : List UInt8) : Content :=
  match String.fromUTF8? ⟨bytes.toArray⟩ with
  | some s => .text s
  | none => .bytes bytes

/-- The bytes of a content. -/
def toBytes : Content → List UInt8
  | .text s => s.toUTF8.toList
  | .bytes bs => bs

end Content

/-- What stands at a location. -/
inductive Node where
  | file (content : Content)
  | link (target : Path)
  | folder
deriving DecidableEq, Inhabited

/-- The names that lead from the top of a tree to a node. -/
abbrev Location := List String

/-- A file tree. -/
structure Tree where
  nodes : List (Location × Node)
deriving DecidableEq, Inhabited

namespace Tree

/-- The tree that holds nothing but its top. -/
def empty : Tree := ⟨[]⟩

/-- The node at a location. -/
def get? (tree : Tree) (location : Location) : Option Node :=
  if location = [] then some .folder else tree.nodes.lookup location

/-- Puts a node at a location, in the place of the one that stands there. -/
def set (tree : Tree) (location : Location) (node : Node) : Tree :=
  ⟨put tree.nodes⟩
where
  put : List (Location × Node) → List (Location × Node)
    | [] => [(location, node)]
    | (l, n) :: rest => if l = location then (l, node) :: rest else (l, n) :: put rest

/-- Takes away the node at a location. -/
def erase (tree : Tree) (location : Location) : Tree :=
  ⟨tree.nodes.filter (·.1 ≠ location)⟩

/-- Takes away the node at a location and all that lies below it. -/
def prune (tree : Tree) (location : Location) : Tree :=
  ⟨tree.nodes.filter fun (l, _) => !location.isPrefixOf l⟩

/-- The nodes below a location, located from there. -/
def below (tree : Tree) (location : Location) : List (Location × Node) :=
  tree.nodes.filterMap fun (l, node) =>
    if location.isPrefixOf l && l ≠ location then some (l.drop location.length, node) else none

/-- A folder is empty if nothing lies below it. -/
def isEmptyFolder (tree : Tree) (location : Location) : Bool :=
  (tree.below location).isEmpty

@[simp] theorem get?_nil (tree : Tree) : tree.get? [] = some .folder := rfl

theorem lookup_put (location other : Location) (node : Node) (nodes : List (Location × Node)) :
    (set.put location node nodes).lookup other =
      if other = location then some node else nodes.lookup other := by
  induction nodes with
  | nil =>
      by_cases h : other = location
      · simp [set.put, h]
      · have far : (other == location) = false := by simpa using h
        simp [set.put, List.lookup_cons, far, h]
  | cons entry rest ih =>
      obtain ⟨l, n⟩ := entry
      simp only [set.put]
      by_cases hl : l = location
      · by_cases h : other = location
        · simp [hl, h]
        · have far : (other == location) = false := by simpa using h
          simp [hl, h, List.lookup_cons, far]
      · by_cases h : other = location
        · have far : (other == l) = false := by simpa [h] using fun e => hl e.symm
          simp only [if_neg hl, List.lookup_cons, far, ih]
        · simp [hl, List.lookup_cons, ih, h]

/-- A node that was put is the one that is found there, and the others stay. -/
theorem get?_set (tree : Tree) (location other : Location) (node : Node) (h : location ≠ []) :
    (tree.set location node).get? other =
      if other = location then some node else tree.get? other := by
  by_cases ho : other = []
  · subst ho
    simp [Ne.symm h]
  · simp [get?, ho, set, lookup_put]

end Tree

end Remedy

import Remedy.Tree.Walk

/-!
# Reading and changing files

Reading follows all links.  A text is read only from a file that holds one.  Writing a file makes
it if its folder is there.  Removing takes away the node that a path names, so of a link the link
itself, and refuses folders.
-/

namespace Remedy.Disk

/-- The content of the file that a path leads to. -/
def readContent (disk : Disk) (path : Path) : Except SystemError Content :=
  match disk.resolve path with
  | .ok (_, .file content) => .ok content
  | .ok (_, _) => .error .isFolder
  | .error e => .error e

/-- The text of the file that a path leads to. -/
def readText (disk : Disk) (path : Path) : Except SystemError String :=
  match disk.readContent path with
  | .ok (.text text) => .ok text
  | .ok (.bytes _) => .error .notText
  | .error e => .error e

/-- Puts a text into the file at a location. -/
def putText (disk : Disk) (location : Location) (text : String) : Disk :=
  { disk with tree := disk.tree.set location (.file (.text text)) }

/-- Holds if the path, its last separators left out, names a free place in a folder. -/
def isVacant (disk : Disk) (path : Path) : Bool :=
  match disk.walk true path.bare with
  | .ok (.vacant _ _) => true
  | _ => false

/-- Writes a text to the file that a path leads to, which need not be there yet. -/
def writeText (disk : Disk) (path : Path) (text : String) : Except SystemError Disk :=
  match disk.walk true path with
  | .ok (.found location (.file _)) => .ok (disk.putText location text)
  | .ok (.found _ _) => .error .isFolder
  | .ok (.vacant folder name) => .ok (disk.putText (folder ++ [name]) text)
  | .error .notFound =>
      if path.isSlashed ∧ disk.isVacant path then .error .isFolder else .error .notFound
  | .error e => .error e

/-- Removes the file or link that a path names. -/
def remove (disk : Disk) (path : Path) : Except SystemError Disk :=
  match disk.walk false path.bare with
  | .ok (.vacant _ _) => .error .notFound
  | .ok (.found _ .folder) => .error .isFolder
  | .ok (.found location _) =>
      if path.isSlashed then .error .notFolder
      else .ok { disk with tree := disk.tree.erase location }
  | .error e => .error e

/-!
## Laying out a tree

A layout says what is to stand at some paths.  Whatever stood there goes, but a folder that is
to be a folder stays as it is; folders that are missing on the way are made.
-/

/-- The folder that the names lead to, links followed, made where it is missing. -/
def makeFolders (disk : Disk) : Location → List String → Disk × Location
  | folder, [] => (disk, folder)
  | folder, name :: rest =>
      match disk.tree.walk true Tree.linkBudget folder [.name name] with
      | .ok (.found location .folder) => makeFolders disk location rest
      | .ok (.vacant parent missing) =>
          let disk := { disk with tree := disk.tree.set (parent ++ [missing]) .folder }
          makeFolders disk (parent ++ [missing]) rest
      | _ => makeFolders disk (folder ++ [name]) rest

/-- Clears the place that a path below the folder `top` names, unless a folder is to be kept. -/
def clear (disk : Disk) (top : Location) (path : Path) (keepsFolder : Bool) : Disk :=
  match ({ disk with here := top }).walk false path.bare with
  | .ok (.found location node) =>
      if keepsFolder ∧ node = .folder then disk
      else { disk with tree := disk.tree.prune location }
  | _ => disk

/-- Puts a node at a path below the folder `top`, or clears the place. -/
def place (disk : Disk) (top : Location) (path : Path) (node? : Option Node) : Disk :=
  let disk := disk.clear top path (node? = some .folder)
  let names := path.segments.filter (· ≠ "")
  match node?, names.getLast? with
  | some node, some name =>
      let (disk, folder) := makeFolders disk top names.dropLast
      { disk with tree := disk.tree.set (folder ++ [name]) node }
  | _, _ => disk

/-- What is to stand at some paths; nothing is to stand where the node is missing. -/
abbrev Layout := List (Path × Option Node)

/-- Lays out one path after the other. -/
def arrange (disk : Disk) (top : Location) (layout : Layout) : Disk :=
  layout.foldl (fun disk (path, node?) => disk.place top path node?) disk

/-- The files, the links and the empty folders below a location. -/
def listing (disk : Disk) (top : Location) : List (Path × Node) :=
  (disk.tree.below top).filterMap fun (location, node) =>
    if node = .folder ∧ !disk.tree.isEmptyFolder (top ++ location) then none
    else some (⟨String.intercalate "/" location⟩, node)

end Remedy.Disk

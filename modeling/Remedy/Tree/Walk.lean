import Remedy.Tree.Basic

/-!
# Walking through a file tree

A walk starts in a folder and follows the steps of a path.  A link on the way is replaced by its
target; a walk follows at most forty of them.  It ends at a node, or in a folder that lacks the
last name, and it fails at a missing folder, at a file that is used as a folder, and at a name
that is too long.
-/

namespace Remedy

/-- What the operating system reports when it refuses an operation. -/
inductive SystemError where
  | notFound
  | notFolder
  | isFolder
  | tooManyLinks
  | nameTooLong
  | notText
  | nulInPath
  | nulInCommand
deriving DecidableEq, Inhabited

/-- The text of a report. -/
def SystemError.message : SystemError → String
  | .notFound => "No such file or directory (os error 2)"
  | .notFolder => "Not a directory (os error 20)"
  | .isFolder => "Is a directory (os error 21)"
  | .tooManyLinks => "Too many levels of symbolic links (os error 40)"
  | .nameTooLong => "File name too long (os error 36)"
  | .notText => "stream did not contain valid UTF-8"
  | .nulInPath => "file name contained an unexpected NUL byte"
  | .nulInCommand => "nul byte found in provided data"

/-- Where a walk ends. -/
inductive Place where
  /-- At a node. -/
  | found (location : Location) (node : Node)
  /-- In a folder that has no node of the last name. -/
  | vacant (folder : Location) (name : String)
deriving DecidableEq

namespace Tree

/-- The longest name that a node can have, in bytes. -/
def longestName : Nat := 255

/-- The longest path that can be walked, in bytes. -/
def longestPath : Nat := 4095

/-- How many links a walk follows before it gives up. -/
def linkBudget : Nat := 40

/--
Follows steps from a folder.  A link that is not the last node, or that is to be followed there
too, is left to `relink`, which is told the folder of the link, its target and the steps behind.
-/
def descend (tree : Tree) (followLast : Bool)
    (relink : Location → Path → List Path.Step → Except SystemError Place) :
    Location → List Path.Step → Except SystemError Place
  | folder, [] =>
      match tree.get? folder with
      | some node => .ok (.found folder node)
      | none => .error .notFound
  | folder, .here :: rest => descend tree followLast relink folder rest
  | folder, .up :: rest => descend tree followLast relink folder.dropLast rest
  | folder, .name name :: rest =>
      if longestName < name.utf8ByteSize then .error .nameTooLong
      else
        match tree.get? (folder ++ [name]) with
        | none => if rest = [] then .ok (.vacant folder name) else .error .notFound
        | some .folder => descend tree followLast relink (folder ++ [name]) rest
        | some (.file content) =>
            if rest = [] then .ok (.found (folder ++ [name]) (.file content))
            else .error .notFolder
        | some (.link target) =>
            if rest = [] ∧ followLast = false then
              .ok (.found (folder ++ [name]) (.link target))
            else relink folder target rest

/-- Follows steps from a folder, and links as long as the budget lasts. -/
def walk (tree : Tree) (followLast : Bool) :
    Nat → Location → List Path.Step → Except SystemError Place
  | 0 => descend tree followLast fun _ _ _ => .error .tooManyLinks
  | budget + 1 =>
      descend tree followLast fun folder target rest =>
        walk tree followLast budget (if target.isAbsolute then [] else folder)
          (target.steps ++ rest)

end Tree

/-- A file tree as seen from one of its folders, from where relative paths start. -/
structure Disk where
  tree : Tree
  here : Location
deriving DecidableEq, Inhabited

namespace Disk

/-- Walks along a path.  `followLast` says whether a link at its end is followed. -/
def walk (disk : Disk) (followLast : Bool) (path : Path) : Except SystemError Place :=
  if path.text.toList.contains '\x00' then .error .nulInPath
  else if path.text = "" then .error .notFound
  else if Tree.longestPath < path.text.utf8ByteSize then .error .nameTooLong
  else
    disk.tree.walk followLast Tree.linkBudget (if path.isAbsolute then [] else disk.here)
      path.steps

/-- The node that a path leads to, through all links. -/
def resolve (disk : Disk) (path : Path) : Except SystemError (Location × Node) :=
  match disk.walk true path with
  | .ok (.found location node) => .ok (location, node)
  | .ok (.vacant _ _) => .error .notFound
  | .error e => .error e

/-- The node that a path names; a link at its end is the node itself. -/
def nodeAt? (disk : Disk) (path : Path) : Option Node :=
  match disk.walk false path with
  | .ok (.found _ node) => some node
  | _ => none

/-- Holds if the path leads to anything. -/
def leads (disk : Disk) (path : Path) : Bool :=
  match disk.resolve path with
  | .ok _ => true
  | .error _ => false

/-- Holds if the path leads to a folder. -/
def leadsToFolder (disk : Disk) (path : Path) : Bool :=
  match disk.resolve path with
  | .ok (_, .folder) => true
  | _ => false

/-- Holds if the path leads to a file. -/
def leadsToFile (disk : Disk) (path : Path) : Bool :=
  match disk.resolve path with
  | .ok (_, .file _) => true
  | _ => false

/-- Holds if the path names a link. -/
def isLink (disk : Disk) (path : Path) : Bool :=
  match disk.nodeAt? path with
  | some (.link _) => true
  | _ => false

/-- Holds if the path names a link that leads to a folder. -/
def isLinkToFolder (disk : Disk) (path : Path) : Bool :=
  disk.isLink path && disk.leadsToFolder path

/-- The absolute path of a location. -/
def pathOf (location : Location) : Path :=
  ⟨"/" ++ String.intercalate "/" location⟩

/-- The absolute path, free of links, of the node that a path leads to. -/
def canonical (disk : Disk) (path : Path) : Except SystemError Path :=
  (disk.resolve path).map fun (location, _) => pathOf location

end Disk

end Remedy

import Remedy.Text.Blank
import Remedy.Text.Lines
import Remedy.Tree.Walk

/-!
# Changes as git lists them

Git separates the parts of its lists by NULs.  A list of changes against a commit alternates
codes and paths, and has two paths behind a rename or a copy.  `Changes.ofList` sorts such a list
into the paths that were added, modified, removed or left unmerged.
-/

namespace Remedy.Git

/-- The parts of a list; NULs at its ends do not count. -/
def parts (text : List Char) : List (List Char) :=
  let isNul (c : Char) : Bool := c == '\x00'
  match ((text.dropWhile isNul).reverse.dropWhile isNul).reverse with
  | [] => []
  | trimmed => Text.splitAt '\x00' trimmed

/-- What git says of a file. -/
inductive ChangeCode where
  | added
  | deleted
  | renamed
  | modified
  | unmerged
  | typeChanged
  | copied
  | ignored
  | untracked
  /-- The file is changed, but the change is not staged. -/
  | unstaged
  | other (char : Char)
deriving DecidableEq

namespace ChangeCode

/-- The code that a character stands for. -/
def ofChar : Char → ChangeCode
  | 'A' => .added
  | 'D' => .deleted
  | 'R' => .renamed
  | 'M' => .modified
  | 'U' => .unmerged
  | 'T' => .typeChanged
  | 'C' => .copied
  | '!' => .ignored
  | '?' => .untracked
  | ' ' => .unstaged
  | c => .other c

/-- The character of a code. -/
def toChar : ChangeCode → Char
  | .added => 'A'
  | .deleted => 'D'
  | .renamed => 'R'
  | .modified => 'M'
  | .unmerged => 'U'
  | .typeChanged => 'T'
  | .copied => 'C'
  | .ignored => '!'
  | .untracked => '?'
  | .unstaged => ' '
  | .other c => c

/-- Renames and copies have a second path. -/
def hasTwoPaths (code : ChangeCode) : Bool :=
  code == .renamed || code == .copied

@[simp] theorem toChar_ofChar (c : Char) : (ofChar c).toChar = c := by
  unfold ofChar
  split <;> rfl

end ChangeCode

/-- A change of a file. -/
structure Change where
  code : ChangeCode
  path : Path
  /-- Where a renamed or copied file is now. -/
  target? : Option Path
deriving DecidableEq

namespace Change

/--
Reads changes from parts.  A part in the place of a code that is empty or begins with a blank is
passed over, and a code without a path is dropped.
-/
def ofParts : List (List Char) → List Change
  | code :: path :: rest =>
      match code with
      | [] => ofParts (path :: rest)
      | c :: _ =>
          if Text.isBlank c then ofParts (path :: rest)
          else
            let code := ChangeCode.ofChar c
            let path : Path := ⟨String.ofList path⟩
            if code.hasTwoPaths then
              match rest with
              | [] => [⟨code, path, none⟩]
              | target :: rest => ⟨code, path, some ⟨String.ofList target⟩⟩ :: ofParts rest
            else ⟨code, path, none⟩ :: ofParts rest
  | _ => []
termination_by parts => parts.length

/-- Reads the changes of a list. -/
def parse (text : String) : List Change :=
  ofParts (parts text.toList)

end Change

/-- Files that differ from a commit, by how they differ. -/
structure Changes where
  added : List Path
  modified : List Path
  removed : List Path
  unmerged : List Path
deriving DecidableEq

namespace Changes

/-- No changes. -/
def empty : Changes := ⟨[], [], [], []⟩

/-- All paths that differ. -/
def paths (changes : Changes) : List Path :=
  changes.added ++ changes.modified ++ changes.removed ++ changes.unmerged

/--
Adds a change.  A rename removes one path and adds another, and a change of type modifies;
copies and other codes are left out.
-/
def add (changes : Changes) (change : Change) : Changes :=
  match change.code with
  | .added => { changes with added := changes.added ++ [change.path] }
  | .modified | .typeChanged => { changes with modified := changes.modified ++ [change.path] }
  | .deleted => { changes with removed := changes.removed ++ [change.path] }
  | .unmerged => { changes with unmerged := changes.unmerged ++ [change.path] }
  | .renamed =>
      { changes with
        removed := changes.removed ++ [change.path]
        added := changes.added ++ change.target?.toList }
  | _ => changes

/-- Sorts changes; those of links that lead to folders are left out. -/
def ofList (disk : Disk) (folder : Path) (list : List Change) : Changes :=
  (list.filter fun change => !disk.isLinkToFolder (folder.join change.path)).foldl add empty

end Changes

end Remedy.Git

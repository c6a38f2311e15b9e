import Remedy.Digest
import Remedy.Tree.Access

/-!
# Rewriting whole files

A rewrite replaces the text of one file by a text that was computed from an earlier reading.  It
is carried out only if the file still holds what was read then.  A file that holds the new text
already is left alone, whatever was read.
-/

namespace Remedy

/-- What a file is expected to hold. -/
inductive Expectation where
  /-- This text. -/
  | exactly (text : String)
  /-- A text with this digest. -/
  | digest (value : UInt64)
deriving DecidableEq

namespace Expectation

/-- The longest text, in bytes, that is expected word for word. -/
def longestExact : Nat := 1024

/-- The expectation that a file holds a text; of a long text only the digest is kept. -/
def ofText (text : String) : Expectation :=
  if longestExact < text.utf8ByteSize then .digest (Digest.ofText text) else .exactly text

/-- Holds if a text is as expected. -/
def admits : Expectation → String → Bool
  | .exactly expected, text => text == expected
  | .digest expected, text => Digest.ofText text == expected

/-- A text is as its own expectation says. -/
@[simp] theorem admits_ofText (text : String) : (ofText text).admits text = true := by
  unfold ofText
  split <;> simp [admits]

end Expectation

/-- The replacement of a file's text. -/
structure Rewrite where
  file : Path
  expected : Expectation
  text : String
deriving DecidableEq

namespace Rewrite

/-- Why a rewrite was not carried out. -/
inductive Failure where
  /-- The file no longer holds what was read. -/
  | changed (file : Path)
  | system (error : SystemError)
deriving DecidableEq

/-- The wording of a failure. -/
def Failure.message : Failure → String
  | .changed file => file.text ++ " changed on disk since the fix was computed"
  | .system error => "File I/O error: " ++ error.message

/-- What a rewrite did. -/
inductive Outcome where
  /-- The new text was written; it has so many bytes. -/
  | applied (bytes : Nat)
  /-- The file held the new text before. -/
  | alreadyApplied
deriving DecidableEq

/-- The rewrite of a file from the text `before` to the text `text`. -/
def ofTexts (file : Path) (before text : String) : Rewrite :=
  ⟨file, .ofText before, text⟩

/-- Carries out a rewrite.  A link is written through. -/
def apply (rewrite : Rewrite) (disk : Disk) : Except Failure (Disk × Outcome) :=
  match disk.resolve rewrite.file with
  | .error e => .error (.system e)
  | .ok (_, .folder) | .ok (_, .link _) => .error (.system .isFolder)
  | .ok (_, .file (.bytes _)) => .error (.system .notText)
  | .ok (location, .file (.text current)) =>
      if current = rewrite.text then .ok (disk, .alreadyApplied)
      else if rewrite.expected.admits current then
        .ok (disk.putText location rewrite.text, .applied rewrite.text.utf8ByteSize)
      else .error (.changed rewrite.file)

end Rewrite

end Remedy

import Remedy.Machine.Basic

/-!
# Scripted programs

Scripted programs play replies from a list, one for each process that is started, whatever its
arguments.  A reply changes files, writes texts and ends the process.  When the list is exhausted
the process does nothing and is successful.
-/

namespace Remedy

/-- What a scripted process does. -/
structure Reply where
  /-- How it ends; without an ending it hangs. -/
  ending? : Option Ending
  out : List UInt8
  err : List UInt8
  /-- What it changes, seen from the top of the script. -/
  files : Disk.Layout

/-- The reply of a process that does nothing. -/
def Reply.silent : Reply := ⟨some (.exited 0), [], [], []⟩

/-- What remains to be played. -/
structure Script where
  /-- The names under which there is a program. -/
  binaries : List String
  /-- The folder that the files of replies are below. -/
  top : Location
  replies : List Reply

/-- Plays the next reply. -/
def Script.play (call : Call) (disk : Disk) (script : Script) : Answer × Disk × Script :=
  if script.binaries.contains call.binary then
    let reply := script.replies.headD .silent
    let answer :=
      match reply.ending? with
      | some ending => .finished ending reply.out reply.err
      | none => .hung
    (answer, disk.arrange script.top reply.files, { script with replies := script.replies.tail })
  else
    (.refused .notFound, disk, script)

/-- Programs that play a script. -/
def Programs.scripted : Programs Script := ⟨Script.play⟩

end Remedy

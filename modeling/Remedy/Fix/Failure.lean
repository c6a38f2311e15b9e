import Remedy.Rewrite

/-!
# Why a fix fails

A fix fails because of the file, because the place of the finding makes no sense in it, or because
its pattern is none.  Lines and columns in a failure are counted from one, as in the finding.
-/

namespace Remedy.Fix

/-- Why a fix of one finding could not be made. -/
inductive Failure where
  /-- The file could not be read. -/
  | system (error : SystemError)
  | lineOutOfRange (line : Int) (count : Nat)
  | columnBeforeLine (line : Nat) (col : Int)
  | invertedSpan (start stop : Nat)
  | invalidPattern
  /-- The file could not be rewritten. -/
  | rewrite (failure : Rewrite.Failure)
  /-- A place lies beyond all offsets. -/
  | overflow
deriving DecidableEq

/-- The wording of a failure. -/
def Failure.message : Failure → String
  | .system error => "I/O error: " ++ error.message
  | .lineOutOfRange line count =>
      "line " ++ toString line ++ " is outside the file (" ++ toString count ++ " lines)"
  | .columnBeforeLine line col =>
      "column " ++ toString col ++ " is before the start of line " ++ toString line
  | .invertedSpan start stop =>
      "match ends on line " ++ toString stop ++ ", before it starts on line " ++ toString start
  | .invalidPattern => "invalid regex: "
  | .rewrite failure => failure.message
  | .overflow => "attempt to add with overflow"

end Remedy.Fix

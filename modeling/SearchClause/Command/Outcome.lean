import SearchClause.Files.Disk
import SearchClause.Terminal.Log

/-!
# What a run comes to

A run says things one after the other, on the standard output, on the error output or in the log, and
ends with an exit code and a disk that it may have changed. The log goes to the error output if it is
shown at all.
-/

namespace SearchClause

/-- Something a run says. -/
inductive Emission where
  /-- text for the standard output -/
  | out (t : Text)
  /-- text for the error output -/
  | err (t : Text)
  /-- an event for the log -/
  | log (e : Log.Event)
deriving DecidableEq, Repr

/-- A line for the standard output. -/
def Emission.outLine (t : Text) : Emission :=
  .out (t ++ ['\n'])

/-- A line for the error output. -/
def Emission.errLine (t : Text) : Emission :=
  .err (t ++ ['\n'])

/-- The standard output of what was said. -/
def stdoutOf (said : List Emission) : Text :=
  said.flatMap fun
    | .out t => t
    | _ => []

/-- The error output of what was said; `logging` says whether the log is shown. -/
def stderrOf (logging : Bool) (said : List Emission) : Text :=
  said.flatMap fun
    | .out _ => []
    | .err t => t
    | .log e => if logging then e.line ++ ['\n'] else []

/-- The end of a run. -/
structure Outcome where
  /-- the exit code: zero for success, one for failure, two for a command line that is none -/
  code : Nat
  /-- what was said, in order -/
  said : List Emission
  /-- the disk afterwards -/
  disk : Disk
deriving DecidableEq, Repr

end SearchClause

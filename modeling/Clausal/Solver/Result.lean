import Clausal.Answer
import Clausal.Times

/-!
# Results of solver runs

A run succeeds if the solver ended and its output could be read as an answer.
-/

namespace Clausal

inductive RunStatus where
  | success
  | timedOut
  /-- The solver ended, but its output is no answer. -/
  | unreadable
  /-- The solver could not be started or watched. -/
  | failed
  deriving DecidableEq, Repr

namespace RunStatus

def render : RunStatus → String
  | success => "success"
  | timedOut => "timeout"
  | unreadable => "parse_error"
  | failed => "failed"

end RunStatus

structure RunResult where
  output : String
  status : RunStatus
  times : Times
  completed : Bool
  answer : Option Answer
  error : Option String
  deriving DecidableEq, Repr

namespace RunResult

def failed (error : String) : RunResult where
  output := ""
  status := .failed
  times := .unknown
  completed := false
  answer := none
  error := some error

def timedOut (times : Times) : RunResult where
  output := ""
  status := .timedOut
  times
  completed := false
  answer := none
  error := none

/-- The result of a solver that ended, by what its output says. -/
def ofOutput (format : Format) (output : String) (times : Times) : RunResult :=
  match Answer.parse format output with
  | .ok answer =>
      { output, status := .success, times, completed := true, answer := some answer
        error := none }
  | .error failure =>
      { output, status := .unreadable, times, completed := true, answer := none
        error := some failure.message }

end RunResult

end Clausal

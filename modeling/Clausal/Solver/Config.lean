import Clausal.Path
import Clausal.Times

/-!
# Solver configurations

How an external solver is started.  Relative paths of input and timing files are taken from
the working directory.
-/

namespace Clausal

structure SolverConfig where
  solver : Path
  workingDir : Path
  timeout : Option Duration
  arguments : List String
  /-- A timing wrapper, which starts the solver and writes a report to a file. -/
  timeBin : Option Path
  /-- Where the report goes, if it has a place of its own. -/
  timeOutput : Option Path
  deriving DecidableEq, Repr

namespace SolverConfig

def ofSolver (solver : Path) : SolverConfig where
  solver
  workingDir := ⟨['.']⟩
  timeout := none
  arguments := []
  timeBin := none
  timeOutput := none

/-- A timeout of 0 seconds is none. -/
def withTimeoutSeconds (config : SolverConfig) (seconds : UInt64) : SolverConfig :=
  { config with timeout := if seconds = 0 then none else some (.ofSeconds seconds.toNat) }

def resolve (config : SolverConfig) (path : Path) : Path := config.workingDir.join path

theorem resolve_absolute (config : SolverConfig) {path : Path} (h : path.isAbsolute = true) :
    config.resolve path = path := Path.join_absolute h _

end SolverConfig

end Clausal

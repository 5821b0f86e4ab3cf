import Clausal.Batch.Row
import Clausal.Discovery
import Clausal.Solver.Run

/-!
# Batches

A batch solves every instance below a folder, in path order, and reports on each with one
row.  The report is a text of comma-separated values: a header, then the rows as they come.
It is written to a file row by row, so that the rows of a batch that is cut short are kept.
-/

namespace Clausal

def Status.slug (status : Status) : String :=
  String.ofList (status.render.toList.map fun c => if c = ' ' then '_' else c.toLower)

example : Status.optimumFound.slug = "optimum_found" := by decide

def RunResult.successful? (result : RunResult) : Option Answer :=
  match result.status with
  | .success => result.answer
  | _ => none

namespace BatchRow

def unsupported (path : Path) : BatchRow where
  path := path.shown
  status := "unsupported"
  answer := ""
  format := ""
  times := .unknown
  cost := none
  vars := none

/-- The row of a run; only after success there are variables, and only with weights a cost. -/
def ofResult (path : Path) (format : Format) (result : RunResult) : BatchRow where
  path := path.shown
  status := result.status.render
  answer := (result.successful?.map fun answer => answer.status.slug).getD ""
  format := format.extension
  times := result.times
  cost :=
    match format with
    | .cnf => none
    | .wcnf => result.successful?.map Answer.cost
  vars := result.successful?.map fun answer => UInt64.ofNat answer.assignment.size

/-- What is shown of a row while a batch runs; an unknown time shows as zero. -/
def progressLine (row : BatchRow) : String :=
  s!"path={row.path} status={row.status} answer={row.answer}" ++
    s!" real_ms={row.times.real.getD 0} cost={numberField row.cost}"

end BatchRow

namespace SolverConfig

def solveInstance (config : SolverConfig) (host : Host) (m : Machine) (path : Path) :
    Outcome BatchRow × Machine :=
  match path.format? with
  | none => (.finished (.unsupported path), m)
  | some format =>
      let (outcome, m) := config.solve host m path format
      (outcome.map (.ofResult path format), m)

theorem path_of_solveInstance {config : SolverConfig} {host : Host}
    {m m' : Machine} {path : Path} {row : BatchRow}
    (h : config.solveInstance host m path = (.finished row, m')) :
    row.path = path.shown := by
  unfold solveInstance at h
  split at h
  · cases h
    rfl
  · obtain ⟨result, _, rfl⟩ := Outcome.map_eq_finished_iff.1 (congrArg Prod.fst h)
    rfl

end SolverConfig

/-- A batch as far as it got: its rows, how the runs ended, and what kept the report from being
written further.  The row that could not be written is among the rows. -/
structure Batch where
  rows : List BatchRow
  machine : Machine
  outcome : Outcome Unit
  failure : Option WriteFailure

namespace Batch

def csv (rows : List BatchRow) : String :=
  Text.unlines (BatchRow.csvHeader :: rows.map BatchRow.csvLine)

/-- Adds a line to the report; nothing is held back. -/
def putLine (files : FileSystem) (report : FileHandle) (line : String) :
    FileWriter × Except WriteFailure Unit :=
  Writer.putLines FileWriter.put ⟨files, report⟩ [line]

/-- Solves instances in order; each row is written to the report when it is known. -/
def solveAll (config : SolverConfig) (host : Host) : FileHandle → Machine → List Path → Batch
  | _, m, [] => ⟨[], m, .finished (), none⟩
  | report, m, path :: rest =>
      match config.solveInstance host m path with
      | (.finished row, m) =>
          match putLine m.files report row.csvLine with
          | (writer, .ok ()) =>
              let batch := solveAll config host writer.handle { m with files := writer.files } rest
              { batch with rows := row :: batch.rows }
          | (writer, .error failure) =>
              ⟨[row], { m with files := writer.files }, .finished (), some failure⟩
      | (.clockOverflow, m) => ⟨[], m, .clockOverflow, none⟩
      | (.neverEnds, m) => ⟨[], m, .neverEnds, none⟩

theorem paths_of_solveAll {config : SolverConfig} {host : Host} {report : FileHandle}
    {m : Machine} {paths : List Path}
    (h : (solveAll config host report m paths).outcome = .finished ())
    (written : (solveAll config host report m paths).failure = none) :
    (solveAll config host report m paths).rows.map BatchRow.path = paths.map Path.shown := by
  induction paths generalizing m report with
  | nil => rfl
  | cons path rest ih =>
      rw [solveAll] at h written ⊢
      rcases hrow : config.solveInstance host m path with ⟨row | _ | _, m'⟩ <;>
        simp only [hrow] at h written ⊢
      · rcases hput : putLine m'.files report row.csvLine with ⟨writer, failure | ⟨⟩⟩ <;>
          simp only [hput] at h written ⊢
        · cases written
        · simp only [List.map_cons, SolverConfig.path_of_solveInstance hrow, ih h written]
      · cases h
      · cases h

def run (config : SolverConfig) (host : Host) (m : Machine) (folder report : Path) :
    Except FileError Batch := do
  let paths ← m.files.instances folder
  let (files, handle) ← m.files.openNew report
  match putLine files handle BatchRow.csvHeader with
  | (writer, .ok ()) =>
      return solveAll config host writer.handle { m with files := writer.files } paths
  | (writer, .error failure) =>
      return ⟨[], { m with files := writer.files }, .finished (), some failure⟩

end Batch

end Clausal

import Clausal.Batch.Run
import Clausal.Coloring
import Clausal.CommandLine.Request
import Clausal.Search

/-!
# Running requests

A request is run on a machine, with a host that starts solvers.  The report holds what is
printed, how the program ends, and the machine afterwards.
-/

namespace Clausal.CommandLine

inductive Ending where
  | done
  | help
  | misused (misuse : Misuse)
  | failed (message : String)
  /-- A deadline is beyond what the clock can count. -/
  | clockOverflow
  | neverEnds
  deriving DecidableEq, Repr

namespace Ending

/-- The exit code, if the program ends. -/
def code? : Ending → Option UInt8
  | done => some 0
  | help => some 0
  | misused _ => some 2
  | failed _ => some 1
  | clockOverflow => some 101
  | neverEnds => none

/-- What is said about an ending that is not a success. -/
def complaint? : Ending → Option String
  | done | help => none
  | misused misuse => some s!"error: {misuse.message}"
  | failed message => some s!"Error: {message}"
  | clockOverflow => some "the deadline is beyond the clock"
  | neverEnds => some "the solver never ends"

end Ending

structure Report where
  lines : List String
  ending : Ending
  machine : Machine

namespace Report

def failed (message : String) (m : Machine) : Report := ⟨[], .failed message, m⟩

/-- What is printed. -/
def output (report : Report) : String := Text.unlines report.lines

/-- What is said on the error output, by the solvers and at the end. -/
def errors (report : Report) : List UInt8 :=
  report.machine.errorBytes ++
    match report.ending.complaint? with
    | some complaint => Text.encode (complaint ++ "\n")
    | none => []

end Report

/-- A number, or a dash. -/
def shown (value : Option UInt64) : String :=
  match value with
  | some value => toString value
  | none => "-"

def answerLine (answer : Answer) : String :=
  s!"answer={answer.status.render} cost={answer.cost} vars={answer.assignment.size}"

namespace GenerateRequest

def format (request : GenerateRequest) : Format := if request.minimize then .wcnf else .cnf

/-- A coloring with its literals numbered and its formula. -/
structure Instance where
  coloring : Coloring
  numbering : Numbering
  formula : Formula

def build (request : GenerateRequest) : Except String Instance := do
  let graph ← (Graph.random request.nodes request.edges request.seed).mapError
    GraphError.message
  let coloring ← (Coloring.ofGraph 0 request.nodes
    (graph.map fun edge => (edge.low, edge.high)) request.colors request.minimize).mapError
    ColoringError.message
  let numbering ← (Numbering.ofEncoding coloring.encoding request.order).mapError
    EncodingError.message
  let formula ← (Formula.ofEncoding coloring.encoding numbering).mapError
    EncodingError.message
  return { coloring, numbering, formula }

def writtenLine (request : GenerateRequest) (made : Instance) : String :=
  s!"GEN: wrote {request.emit.shown} | format={request.format.extension}" ++
    s!" vars={made.formula.literalCount} clauses={made.formula.clauseCount}" ++
    s!" top={made.formula.top}"

def colorsLine (colors : List (Option UInt64)) : String :=
  "colors: " ++ String.intercalate " " (colors.map shown)

/-- What solving the instance shows, and how it ends. -/
def solved (made : Instance) : List String × Ending :=
  match made.formula.solve with
  | .error failure => ([], .failed failure.message)
  | .ok answer =>
      match answer.status with
      | .optimumFound =>
          match made.coloring.decode answer made.numbering with
          | .error failure => ([answerLine answer], .failed failure.message)
          | .ok colors => ([answerLine answer, colorsLine colors], .done)
      | _ => ([answerLine answer], .done)

/-- Only plain instances can be solved here. -/
def checked (request : GenerateRequest) (made : Instance) : List String × Ending :=
  if !request.check then ([], .done)
  else if request.minimize then
    ([], .failed "--check solves plain CNF only, drop --minimize")
  else solved made

def run (request : GenerateRequest) (m : Machine) : Report :=
  match request.build with
  | .error message => .failed message m
  | .ok made =>
      match made.formula.writeFile m.files request.emit request.format with
      | .error failure => .failed failure.message m
      | .ok files =>
          let (lines, ending) := request.checked made
          ⟨request.writtenLine made :: lines, ending, { m with files }⟩

end GenerateRequest

namespace SolveRequest

def timesLine (result : RunResult) : String :=
  s!"SOLVE: status={result.status.render} real_ms={shown result.times.real}" ++
    s!" user_ms={shown result.times.user} sys_ms={shown result.times.sys}"

def resultLines (raw : Bool) (result : RunResult) : List String :=
  (if raw then [result.output] else []) ++ [timesLine result] ++
    (result.error.map fun error => s!"error: {error}").toList ++
    (result.answer.map answerLine).toList

def run (request : SolveRequest) (host : Host) (m : Machine) : Report :=
  match request.format <|> request.input.format? with
  | none =>
      .failed s!"can't infer format of {request.input.shown}, pass --format" m
  | some format =>
      match request.config.solve host m request.input format with
      | (.finished result, m) => ⟨resultLines request.raw result, .done, m⟩
      | (.clockOverflow, m) => ⟨[], .clockOverflow, m⟩
      | (.neverEnds, m) => ⟨[], .neverEnds, m⟩

end SolveRequest

namespace DecodeRequest

def run (request : DecodeRequest) (m : Machine) : Report :=
  match m.files.readText request.input with
  | .error _ => .failed s!"failed to read {request.input.shown}" m
  | .ok text =>
      match Answer.parse request.format text with
      | .error failure => .failed failure.message m
      | .ok answer => ⟨[answerLine answer], .done, m⟩

end DecodeRequest

namespace BenchRequest

def totalLine (request : BenchRequest) (rows : List BatchRow) : String :=
  let solved := rows.countP fun row => row.status == RunStatus.success.render
  s!"BENCH: {solved}/{rows.length} solved, csv={request.report.shown}"

def run (request : BenchRequest) (host : Host) (m : Machine) : Report :=
  match Batch.run request.config host m request.folder request.report with
  | .error failure => .failed failure.message m
  | .ok batch =>
      let progress :=
        if request.progress then batch.rows.map BatchRow.progressLine else []
      match batch.outcome, batch.failure with
      | .finished (), none =>
          ⟨progress ++ [request.totalLine batch.rows], .done, batch.machine⟩
      | .finished (), some failure => ⟨progress, .failed failure.message, batch.machine⟩
      | .clockOverflow, _ => ⟨progress, .clockOverflow, batch.machine⟩
      | .neverEnds, _ => ⟨progress, .neverEnds, batch.machine⟩

end BenchRequest

def Request.run (request : Request) (host : Host) (m : Machine) : Report :=
  match request with
  | .generate request => request.run m
  | .solve request => request.run host m
  | .decode request => request.run m
  | .bench request => request.run host m

def helpLines : List String :=
  ["Builds, emits and solves satisfiability instances.",
    "",
    "Usage: [-v] gen --emit FILE [--nodes N] [--edges N] [--colors N] [--seed N]",
    "                [--minimize] [--sorted] [--check]",
    "       [-v] solve FILE --solver PROGRAM [--format cnf|wcnf] [--timeout SECONDS]",
    "                [--time-bin PROGRAM] [--working-dir FOLDER] [--raw] [-- ARGUMENTS]",
    "       [-v] decode FILE [--format cnf|wcnf]",
    "       [-v] bench FOLDER --solver PROGRAM --csv FILE [--timeout SECONDS]",
    "                [--time-bin PROGRAM] [--progress] [-- ARGUMENTS]"]

/-- Runs a command line. -/
def run (host : Host) (m : Machine) (arguments : List String) : Report :=
  match Request.read arguments with
  | .error .help => ⟨helpLines, .help, m⟩
  | .error (.misuse misuse) => ⟨[], .misused misuse, m⟩
  | .ok request => request.run host m

end Clausal.CommandLine

import Clausal.Formula.Dimacs
import Clausal.Solver.Config
import Clausal.Solver.Host
import Clausal.Solver.Result
import Clausal.Text.Utf8

/-!
# Running solvers

A solver is started on an input file and watched: its output is read until it closes, then
its end is awaited, and when the deadline passes first it is killed.  With a timing wrapper
the times come from the wrapper's report, whose file is removed whatever happens.
-/

namespace Clausal

/-- How watching a child ended. -/
inductive Watched where
  | exited (output : List UInt8) (elapsed : Duration)
  | timedOut (elapsed : Duration)
  | unreadable (message : String)

namespace Child

def isBefore (moment : Option Duration) (deadline : Duration) : Bool :=
  match moment with
  | some m => decide (m.nanoseconds < deadline.nanoseconds)
  | none => false

/-- Watches a child without a deadline, unless it never ends. -/
def await (child : Child) : Option (Watched × Guard) :=
  match child.closes with
  | none => none
  | some closed =>
      match child.output with
      | .error message => some (.unreadable message, Guard.spawned)
      | .ok output =>
          match child.exits with
          | none => none
          | some ended =>
              match child.waited with
              | .error message => some (.unreadable message, Guard.spawned.wait .failed)
              | .ok () =>
                  some (.exited output ⟨max closed.nanoseconds ended.nanoseconds⟩,
                    Guard.spawned.wait .exited)

/-- The pause between two looks at a child. -/
def pause : Duration := .ofMilliseconds 10

def next (child : Child) (moment : Duration) : Duration :=
  ⟨moment.nanoseconds + pause.nanoseconds + (child.lag moment).nanoseconds⟩

/-- Looks at a child that has closed its output, again and again, until it has ended or the
deadline has passed.  The child is asked before the clock is, so its end may still count after the
deadline. -/
def poll (child : Child) (output : List UInt8) (deadline moment : Duration) (guard : Guard) :
    Watched × Guard :=
  match child.asked moment with
  | .error message => (.unreadable message, guard.tryWait .failed)
  | .ok true => (.exited output moment, guard.tryWait .exited)
  | .ok false =>
      let guard := guard.tryWait .running
      if deadline.nanoseconds ≤ moment.nanoseconds then (.timedOut moment, guard.kill .exited)
      else child.poll output deadline (child.next moment) guard
  termination_by deadline.nanoseconds - moment.nanoseconds
  decreasing_by
    simp only [next, pause, Duration.ofMilliseconds]
    omega

/-- Watches a child up to a deadline, at which it is killed. -/
def awaitUntil (child : Child) (deadline : Duration) : Watched × Guard :=
  match child.closes with
  | some closed =>
      if isBefore (some closed) deadline then
        match child.output with
        | .error message => (.unreadable message, Guard.spawned)
        | .ok output => child.poll output deadline closed Guard.spawned
      else (.timedOut deadline, Guard.spawned.kill .exited)
  | none => (.timedOut deadline, Guard.spawned.kill .exited)

def watch (child : Child) (timeout : Option Duration) : Option (Watched × Guard) :=
  match timeout with
  | none => child.await
  | some deadline => some (child.awaitUntil deadline)

end Child

/-- What comes of work that runs solvers. -/
inductive Outcome (α : Type) where
  | finished (result : α)
  | clockOverflow
  | neverEnds
  deriving DecidableEq, Repr

namespace Outcome

def map {α β : Type} (f : α → β) : Outcome α → Outcome β
  | finished result => .finished (f result)
  | clockOverflow => .clockOverflow
  | neverEnds => .neverEnds

theorem map_eq_finished_iff {α β : Type} {f : α → β} {outcome : Outcome α} {b : β} :
    outcome.map f = .finished b ↔ ∃ a, outcome = .finished a ∧ f a = b := by
  cases outcome <;> simp [map]

end Outcome

namespace SolverConfig

/-- The file for the timing report, if there is a wrapper. -/
def timingFile (config : SolverConfig) (host : Host) (files : FileSystem) :
    Except String (Option Path) :=
  match config.timeBin with
  | none => .ok none
  | some _ =>
      if config.solver.hasParent && !files.contains config.solver then
        .error s!"could not find solver: {config.solver.shown}"
      else
        let path := config.resolve (config.timeOutput.getD host.timingName)
        if files.contains path then .error s!"time output file exists: {path.shown}"
        else .ok (some path)

def command (config : SolverConfig) (input : Path) (timing : Option Path) : Command :=
  let arguments := config.arguments.map Text.Octets.ofString
  match config.timeBin, timing with
  | some timeBin, some timing =>
      ⟨timeBin, [['-', 'p'], ['-', 'o'], timing.octets, config.solver.octets, input.octets] ++
        arguments⟩
  | _, _ => ⟨config.solver, input.octets :: arguments⟩

/-- The times of the report, or the elapsed time where there is no readable report. -/
def timesAfter (files : FileSystem) (timing : Option Path) (elapsed : Duration) : Times :=
  match timing with
  | some path =>
      match files.readText path with
      | .ok text => .parse text
      | .error _ => .wall elapsed
  | none => .wall elapsed

def removeTiming (m : Machine) (timing : Option Path) : Machine :=
  match timing with
  | some path => { m with files := m.files.removeFile path }
  | none => m

/-- Starts the command and watches the child; the timing file is still there.  Where the clock
cannot tell the deadline, the child is killed as soon as it is started. -/
def launch (config : SolverConfig) (host : Host) (m : Machine) (command : Command)
    (timing : Option Path) (format : Format) : Outcome RunResult × Machine :=
  let isCountable := (config.timeout.map host.canCount).getD true
  match host.launch m command (if isCountable then config.timeout else some ⟨0⟩) with
  | .error message => (.finished (.failed message), m)
  | .ok child =>
      let m := child.machine
      if !isCountable then (.clockOverflow, m)
      else
        match child.watch config.timeout with
        | none => (.neverEnds, m)
        | some (.exited output elapsed, _) =>
            (.finished (.ofOutput format (Text.decodeLossy output)
              (timesAfter m.files timing elapsed)), m)
        | some (.timedOut elapsed, _) => (.finished (.timedOut (.wall elapsed)), m)
        | some (.unreadable message, _) => (.finished (.failed message), m)

def solve (config : SolverConfig) (host : Host) (m : Machine) (input : Path)
    (format : Format) : Outcome RunResult × Machine :=
  let input := config.resolve input
  match config.timingFile host m.files with
  | .error message => (.finished (.failed message), m)
  | .ok timing =>
      let (outcome, m) :=
        config.launch host m (config.command input timing) timing format
      (outcome, removeTiming m timing)

end SolverConfig

inductive WriteError where
  | encoding (failure : EncodingError)
  | create (path : Path)
  | write (failure : WriteFailure)
  | flush (path : Path)
  deriving DecidableEq, Repr

namespace WriteError

def message : WriteError → String
  | encoding failure => failure.message
  | create path => s!"failed to create {path.shown}"
  | write failure => failure.message
  | flush path => s!"failed to write {path.shown}"

end WriteError

/-- Replaces a file by the formula's lines, which go through a buffer.  Only a full device refuses
them, and it is left as it was. -/
def Formula.writeFile (f : Formula) (files : FileSystem) (path : Path) (format : Format) :
    Except WriteError FileSystem := do
  let lines ← (f.dimacsLines format).mapError .encoding
  let (files, handle) ← (files.openNew path).mapError fun _ => .create path
  let buffered := BufferedWriter.ofWriter (FileWriter.mk files handle)
  match Writer.putLines (BufferedWriter.write FileWriter.put) buffered lines with
  | (_, .error failure) => throw (.write failure)
  | (buffered, .ok ()) =>
      match buffered.flush FileWriter.put with
      | (_, .error _) => throw (.flush path)
      | (flushed, .ok ()) => return flushed.inner.files

/-- Writes a formula to a file in the working directory and runs the solver on this path,
which the run takes from the working directory again. -/
def SolverConfig.solveFormula (config : SolverConfig) (host : Host) (m : Machine)
    (f : Formula) (path : Path) (format : Format) :
    Except WriteError (Outcome RunResult) × Machine :=
  let path := config.resolve path
  match f.writeFile m.files path format with
  | .error failure => (.error failure, m)
  | .ok files =>
      let (outcome, m) := config.solve host { m with files } path format
      (.ok outcome, m)

end Clausal

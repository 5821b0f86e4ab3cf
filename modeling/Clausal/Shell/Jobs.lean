import Clausal.Shell.Session

/-!
# Scripts and jobs

How a script is gone through, what a shell does when it ends or is signalled, and how it
copies itself and waits for the copies.  All of it is given how to run a command.
-/

namespace Clausal.Shell

open Machine (Action Descriptor Ended Environment Failure ProcessId Signal Task)
open Text (Octets)

structure Mode where
  tested : Bool
  exits : Bool
  deriving DecidableEq, Repr

namespace Mode

def plain : Mode := ⟨false, false⟩

def test : Mode := ⟨true, false⟩

def inner (mode : Mode) : Mode := ⟨mode.tested, false⟩

end Mode

abbrev Run := Mode → Command → Work Flow

def roundBound : Nat := 1000000000000

namespace Work

/-! ## Scripts -/

def refuse (failure : SyntaxFault) : Work α := do
  modify fun s => { s with line := failure.line }
  fault failure.complaint.toList

/-- Lines of a script that could be shown when they are read. -/
structure Listing where
  rest : Octets
  line : Nat

def Listing.before (l : Listing) (line : Nat) : Octets × Listing :=
  let (lines, rest) := go (line - l.line) l.rest []
  (lines, ⟨rest, max line l.line⟩)
where
  go : Nat → Octets → Octets → Octets × Octets
    | 0, rest, taken => (taken.reverse, rest)
    | _, [], taken => (taken.reverse, [])
    | count + 1, c :: rest, taken => go (if c = '\n' then count else count + 1) rest (c :: taken)

def showLines (listing : Option Listing) (line : Nat) : Work (Option Listing) := do
  match listing with
  | none => return none
  | some listing =>
      let (lines, listing) := listing.before line
      if (← get).options.echoes && !lines.isEmpty then
        let _ ← write 2 lines
      return some listing

/-- Runs the commands that are left of a script; the flag says whether there were any before. -/
def runScript (run : Run) (mode : Mode) : Nat → Bool → Option Listing → Reader → Work Flow
  | 0, _, _, _ => return .next
  | rounds + 1, ran, listing, reader => do
      let s ← get
      match Reader.nextCommand? { reader with aliases := s.aliases } with
      | .error failure =>
          let _ ← showLines listing (failure.line + 1)
          refuse failure
      | .ok (none, _) =>
          let _ ← showLines listing roundBound
          if !ran then setStatus 0
          return .next
      | .ok (some .nothing, reader) =>
          runScript run mode rounds ran (← showLines listing reader.line) reader
      | .ok (some command, reader) =>
          let isLast := reader.ahead matches some .end_
          let listing ← showLines listing (if isLast then roundBound else reader.line)
          match ← run { mode with exits := mode.exits && isLast } command with
          | .next => runScript run mode rounds true listing reader
          | flow => return flow

def runText (run : Run) (mode : Mode) (text : Octets) : Work Flow :=
  runScript run mode roundBound false none (Reader.ofScript text 1)

def runFile (run : Run) (mode : Mode) (text : Octets) : Work Flow :=
  runScript run mode roundBound false (some ⟨text, 1⟩) (Reader.ofScript text 1)

/-! ## Traps -/

def runTrap (run : Run) (signal : Signal) : Work Unit := do
  let s ← get
  match s.traps.lookup signal with
  | none | some [] => return
  | some text =>
      modify fun s => { s with kept := some (s.kept.getD s.status) }
      let _ ← runText run .plain text
      modify fun after => { after with kept := s.kept, status := s.status }

def runTraps (run : Run) : Work Unit := do
  let s ← get
  if !s.pending.isEmpty then
    modify fun s => { s with pending := [] }
    (s.pending.mergeSort fun a b => decide (a ≤ b)).forM (runTrap run)

/-- What a shell does at its end: it runs the command for that and exits with the status that
it had before, unless that command exits with another. -/
def finish (run : Run) (s : Session) : Task :=
  match s.traps.lookup 0 with
  | none | some [] => .exit s.status
  | some text =>
      let traps := s.traps.filter fun entry => entry.1 != 0
      let exit (s : Session) : Task := .exit (s.kept.getD s.status)
      runText run .plain text { s with traps, kept := some s.status } (fun _ s => exit s)
        (fun _ s => exit s)

/-! ## Copies -/

/-- The first number that no job has which is still of interest. -/
def freeNumber (jobs : List Job) : Nat → Nat → Nat
  | 0, number => number
  | rounds + 1, number =>
      match jobs.find? fun job => job.number = number with
      | some job => if job.isDone && job.isKnown then number else freeNumber jobs rounds (number + 1)
      | none => number

/-- The number for another job; a job that had it is forgotten. -/
def makeRoom : Work Nat := do
  let s ← get
  let number := freeNumber s.jobs (s.jobs.length + 1) 1
  modify fun s => { s with jobs := s.jobs.filter fun job => job.number != number }
  return number

def fork (run : Run) (work : Work Unit) : Work ProcessId := fun s resume _ =>
  let child := work s.copy (fun _ s => finish run s) (fun _ s => finish run s)
  .fork child fun id => resume id s

def inBackground (work : Work Unit) : Work Unit := do
  lift (Task.handle Signal.interrupt .ignored)
  lift (Task.handle Signal.quit .ignored)
  work

def emptyInput : Work Unit := do
  lift (Task.close 0)
  let _ ← lift (Task.openFile (.ofString "/dev/null") .read)

def announce (how : Ended) : Work Unit := do
  match how with
  | .signalled signal =>
      if signal != Signal.interrupt && signal != Signal.brokenPipe then
        let _ ← write 2 ((Signal.description signal).toList ++ ['\n'])
  | .exited _ => return

def noteEnded (id : ProcessId) (how : Ended) : Work Unit :=
  modify fun s => { s with jobs := s.jobs.map fun job => job.note id how }

/-- Waits until a job that only the caller knows is done. -/
def complete : Nat → Job → Work Job
  | 0, job => return job
  | rounds + 1, job => do
      match ← lift (Task.wait ⟨none, false, false⟩) with
      | .ended id how =>
          noteEnded id how
          let job := job.note id how
          if job.isDone then
            if job.processes.any fun process => process.1 = id then announce how
            return job
          else complete rounds job
      | _ => return job

def await (ids : List ProcessId) : Work Nat := do
  let job ← complete roundBound (.start 0 ids)
  pause
  return job.status

/-! ## Substituted commands -/

def substitutedText (octets : Octets) : Octets :=
  ((octets.filter (· != '\x00')).reverse.dropWhile (· = '\n')).reverse

def substitute (run : Run) (body : Command) : Work Octets := do
  match body with
  | .nothing => return []
  | body =>
      let (reading, writing) ← lift Task.pipe
      let _ ← makeRoom
      let id ← fork run do
        lift (Task.close reading)
        if writing != 1 then
          let _ ← lift (Task.duplicate writing 1)
          lift (Task.close writing)
        let _ ← run ⟨false, true⟩ body
      lift (Task.close writing)
      let octets ← lift (Action.readAll reading roundBound [])
      lift (Task.close reading)
      let status ← await [id]
      modify fun s => { s with substituted := status }
      return substitutedText octets

end Work

end Clausal.Shell

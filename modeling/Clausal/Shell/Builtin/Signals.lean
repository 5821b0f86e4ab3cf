import Clausal.Shell.Builtin.Basic
import Clausal.Text.Split

/-!
# Commands for signals and jobs
-/

namespace Clausal.Shell

open Machine (Ended Handling ProcessId Signal Task)
open Text (Octets)

namespace Builtin

/-- The signal that a number or a name stands for; 0 is the end of the shell. -/
def signal? (text : Octets) : Option Signal :=
  match Text.readDigits? text with
  | some number => if number < Signal.bound then some number else none
  | none =>
      let name := String.ofList (text.map Char.toUpper)
      if name = "EXIT" then some 0 else Signal.ofName? name

def signalName (signal : Signal) : Octets :=
  if signal = 0 then "EXIT".toList else ((Signal.name? signal).getD (toString signal)).toList

/-! ## Traps -/

/-- Sets what is done on a signal; nothing brings back what is usual. -/
def setTrap (action : Option Octets) (signal : Signal) : Work Unit := do
  Work.modify fun s =>
    let others := s.traps.filter fun entry => entry.1 != signal
    { s with traps := (action.map fun text => (signal, text)).toList ++ others }
  if signal != 0 then
    let handling : Handling :=
      match action with
      | none => .standard
      | some [] => .ignored
      | some _ => .caught
    Work.lift (Task.handle signal handling)

def setTraps (action : Option Octets) : List Octets → Work Nat
  | [] => return 0
  | name :: rest => do
      match signal? name with
      | some signal =>
          setTrap action signal
          setTraps action rest
      | none =>
          let _ ← Work.write 2 ("trap: ".toList ++ name ++ ": bad trap\n".toList)
          return 1

def trap (arguments : List Octets) : Work Nat := do
  let (_, arguments) ← takeOptions [] arguments
  match arguments with
  | [] =>
      let s ← Work.get
      let entries := s.traps.mergeSort fun a b => decide (a.1 ≤ b.1)
      print (entries.flatMap fun (signal, text) =>
        "trap -- ".toList ++ quote text ++ ' ' :: signalName signal ++ ['\n'])
  | [name] => setTraps none [name]
  | action :: names =>
      if (Text.readDigits? action).any (· < Signal.bound) then setTraps none (action :: names)
      else setTraps (if action = ['-'] then none else some action) names

/-! ## Signals -/

def killUsage : String :=
  "Usage: kill [-s sigspec | -signum | -sigspec] [pid | job]... or\nkill -l [exitstatus]"

def job? (s : Session) (name : Octets) : Except Octets Job :=
  let missing (reason : String) : Except Octets Job := .error reason.toList
  let unknown : Except Octets Job := .error ("No such job: ".toList ++ name)
  match name with
  | ['%'] | ['%', '+'] | ['%', '%'] =>
      match s.jobs.head? with
      | some job => .ok job
      | none => missing "No current job"
  | ['%', '-'] =>
      match s.jobs.tail.head? with
      | some job => .ok job
      | none => missing "No previous job"
  | '%' :: text =>
      match (Text.readDigits? text).bind fun number => s.jobs.find? fun job => job.number = number with
      | some job => .ok job
      | none => unknown
  | _ => unknown

/-- The job that a text stands for; a script fails without one. -/
def jobOf (name : Octets) : Work Job := do
  match job? (← Work.get) name with
  | .ok job => return job
  | .error complaint => Work.fault complaint

def sendTo (signal : Signal) (targets : List Octets) : Work Nat := do
  let results ← targets.mapM fun target => do
    let found ← match target with
      | '%' :: job =>
          let _ ← jobOf ('%' :: job)
          pure false
      | '-' :: group =>
          let group ← number group
          Work.lift (Task.signal (-(group : Int)) signal)
      | target =>
          let target ← number target
          Work.lift (Task.signal target signal)
    if !found then Work.complain "No such process\n".toList
    return found
  Work.pause
  return if results.all id then 0 else 1

def listSignals (arguments : List Octets) : Work Nat := do
  match arguments with
  | [] =>
      let names := "0" :: (List.range (Signal.bound - 1)).map fun n =>
        (Signal.name? (n + 1)).getD (toString (n + 1))
      print (Text.unlines names).toList
  | status :: _ =>
      let code ← number status
      let signal := if 128 < code then code - 128 else code
      if 0 < signal && signal < Signal.bound then print (signalName signal ++ ['\n'])
      else Work.fault ("invalid signal number or exit status: ".toList ++ status)

def kill (arguments : List Octets) : Work Nat := do
  match arguments with
  | [] => Work.fault killUsage.toList
  | ['-', 'l'] :: rest => listSignals rest
  | ['-', 's'] :: name :: rest => send name rest
  | ('-' :: 's' :: c :: name) :: rest =>
      match signal? ('s' :: c :: name) with
      | some signal => sendAll signal rest
      | none => send (c :: name) rest
  | ['-', '-'] :: rest => sendAll Signal.terminate rest
  | ('-' :: name) :: rest =>
      match signal? name with
      | some signal => sendAll signal (if rest.head? = some ['-', '-'] then rest.tail else rest)
      | none =>
          match name with
          | c :: _ => Work.fault ("Illegal option -".toList ++ [c])
          | [] => Work.fault killUsage.toList
  | targets => sendAll Signal.terminate targets
where
  sendAll (signal : Signal) (targets : List Octets) : Work Nat := do
    if targets.isEmpty then Work.fault killUsage.toList else sendTo signal targets
  send (name : Octets) (targets : List Octets) : Work Nat := do
    match signal? name with
    | some signal => sendAll signal targets
    | none => Work.fault ("invalid signal number or name: ".toList ++ name)

/-! ## Waiting -/

def interruption : Work Nat := do
  Work.pause
  return 128 + (((← Work.get).pending.mergeSort fun a b => decide (a ≤ b)).headD 0)

def waitForAll : Nat → Work Nat
  | 0 => return 0
  | rounds + 1 => do
      match ← Work.lift (Task.wait ⟨none, true, false⟩) with
      | .ended id how =>
          Work.noteEnded id how
          waitForAll rounds
      | .interrupted => interruption
      | _ =>
          Work.modify fun s => { s with jobs := s.jobs.map fun job => { job with isKnown := true } }
          return 0

def waitForJob (isMeant : Job → Bool) : Nat → Work Nat
  | 0 => return 127
  | rounds + 1 => do
      let s ← Work.get
      match s.jobs.find? isMeant with
      | none => return 127
      | some job =>
          if job.isDone then
            Work.modify fun s => { s with
              jobs := s.jobs.map fun job => if isMeant job then { job with isKnown := true } else job }
            return job.status
          else
            match ← Work.lift (Task.wait ⟨none, true, false⟩) with
            | .ended id how =>
                Work.noteEnded id how
                if job.id? = some id then Work.announce how
                waitForJob isMeant rounds
            | .interrupted => interruption
            | _ => return 127

def waitForEach (status : Nat) : List Octets → Work Nat
  | [] => return status
  | target :: rest => do
      let isMeant ← match target with
        | '%' :: job =>
            let job ← jobOf ('%' :: job)
            pure fun (other : Job) => other.number == job.number
        | target =>
            let id ← number target
            pure fun (job : Job) => job.id? == some id
      let status ← waitForJob isMeant roundBound
      if (← Work.get).pending.isEmpty then waitForEach status rest else return status

def wait (arguments : List Octets) : Work Nat := do
  let (_, arguments) ← takeOptions [] arguments
  if arguments.isEmpty then waitForAll roundBound else waitForEach 127 arguments

/-! ## Jobs -/

def shownEnd (how : Ended) : Octets :=
  match how with
  | .exited 0 => "Done".toList
  | .exited status => "Done(".toList ++ (toString status).toList ++ [')']
  | .signalled signal => (Signal.description signal).toList

/-- What is said of a job; the processes are told apart if their numbers are wanted. -/
def shownJob (s : Session) (withIds : Bool) (job : Job) : Octets :=
  let sign : Char :=
    if (s.jobs.head?.map Job.number) = some job.number then '+'
    else if (s.jobs.tail.head?.map Job.number) = some job.number then '-' else ' '
  let start := '[' :: (toString job.number).toList ++ [']', ' ', sign, ' ']
  let gap (used : Nat) : Octets := List.replicate (max (33 - used) 1) ' '
  let shownId (id : ProcessId) : Octets := (toString id).toList ++ [' ']
  let state := match job.processes.getLast? with
    | some (_, some how) => if job.isDone then shownEnd how else "Running".toList
    | _ => "Running".toList
  let first := start ++ (match job.processes with
    | (id, _) :: _ => if withIds then shownId id else []
    | [] => []) ++ state
  let more := job.processes.tail.flatMap fun (id, _) =>
    if withIds then
      let line := List.replicate start.length ' ' ++ shownId id
      " |\n".toList ++ line ++ gap line.length
    else " | ".toList
  first ++ gap first.length ++ more ++ ['\n']

def collect : Nat → Work Unit
  | 0 => return ()
  | rounds + 1 => do
      match ← Work.lift (Task.wait ⟨none, false, true⟩) with
      | .ended id how =>
          Work.noteEnded id how
          collect rounds
      | _ => return ()

/-- Tells about jobs; those that are done are forgotten then. -/
def showJobs (withIds onlyIds : Bool) : List Job → List Octets → Work Octets
  | [], shown => return shown.reverse.flatten
  | job :: rest, shown => do
      let s ← Work.get
      let line := if onlyIds then
          match job.processes with
          | (id, _) :: _ => (toString id).toList ++ ['\n']
          | [] => []
        else shownJob s withIds job
      if job.isDone && !onlyIds then
        Work.modify fun s => { s with jobs := s.jobs.filter fun other => other.number != job.number }
      showJobs withIds onlyIds rest (line :: shown)

def jobs (arguments : List Octets) : Work Nat := do
  let (options, arguments) ← takeOptions ['l', 'p'] arguments
  let meant ← match arguments with
    | [] => do
        collect roundBound
        pure (← Work.get).jobs
    | names => names.mapM jobOf
  let last := options.getLast?
  print (← showJobs (last = some 'l') (last = some 'p') meant [])

def resume (arguments : List Octets) : Work Nat := do
  let (_, arguments) ← takeOptions [] arguments
  let _ ← jobOf (arguments.headD ['%'])
  Work.fault ("job ".toList ++ arguments.headD "(null)".toList ++
    " not created under job control".toList)

end Builtin

end Clausal.Shell

import Clausal.FileSystem
import Clausal.Text.Utf8

/-!
# Tasks

What a process has still to do: a tree of requests to the machine, each with what follows on
every answer.  A task computes nothing between requests that the machine could see, so a
process is its task, and copying a process copies the task.
-/

/-!
## Signals

Signals are numbers with names.  A process ends on a signal that it neither ignores nor
catches, apart from a few that do nothing by themselves, stop it or let it go on.
-/

namespace Clausal.Machine

abbrev Signal := Nat

namespace Signal

def names : List String :=
  ["HUP", "INT", "QUIT", "ILL", "TRAP", "ABRT", "BUS", "FPE", "KILL", "USR1", "SEGV", "USR2",
    "PIPE", "ALRM", "TERM", "STKFLT", "CHLD", "CONT", "STOP", "TSTP", "TTIN", "TTOU", "URG",
    "XCPU", "XFSZ", "VTALRM", "PROF", "WINCH", "IO", "PWR", "SYS"]

def interrupt : Signal := 2
def quit : Signal := 3
def kill : Signal := 9
def brokenPipe : Signal := 13
def terminate : Signal := 15
def childEnded : Signal := 17
def stop : Signal := 19
def fileTooLarge : Signal := 25

def bound : Nat := 65

def ofName? (name : String) : Option Signal := (names.idxOf? name).map (· + 1)

def name? (signal : Signal) : Option String :=
  if signal = 0 then none else names[signal - 1]?

def description (signal : Signal) : String :=
  match signal with
  | 1 => "Hangup"
  | 2 => "Interrupt"
  | 3 => "Quit"
  | 4 => "Illegal instruction"
  | 5 => "Trace/breakpoint trap"
  | 6 => "Aborted"
  | 7 => "Bus error"
  | 8 => "Floating point exception"
  | 9 => "Killed"
  | 10 => "User defined signal 1"
  | 11 => "Segmentation fault"
  | 12 => "User defined signal 2"
  | 13 => "Broken pipe"
  | 14 => "Alarm clock"
  | 15 => "Terminated"
  | 16 => "Stack fault"
  | 24 => "CPU time limit exceeded"
  | 25 => "File size limit exceeded"
  | 26 => "Virtual timer expired"
  | 27 => "Profiling timer expired"
  | 29 => "I/O possible"
  | 30 => "Power failure"
  | 31 => "Bad system call"
  | _ => s!"Unknown signal {signal}"

inductive Effect where
  | ends
  | stops
  | continues
  | none
  deriving DecidableEq, Repr

def effect (signal : Signal) : Effect :=
  if signal = 17 ∨ signal = 23 ∨ signal = 28 then .none
  else if signal = 18 then .continues
  else if 19 ≤ signal ∧ signal ≤ 22 then .stops
  else .ends

def mayBeHandled (signal : Signal) : Bool := signal != kill && signal != stop

end Signal

inductive Handling where
  | standard
  | ignored
  | caught
  deriving DecidableEq, Repr

end Clausal.Machine

/-! ## Requests and tasks -/

namespace Clausal.Machine

open Text (Octets)

abbrev ProcessId := Nat

abbrev Descriptor := Nat

abbrev Environment := List (String × Octets)

inductive Failure where
  | file (failure : FileError)
  | badDescriptor
  | brokenPipe
  | deviceFull
  deriving DecidableEq, Repr

namespace Failure

def reason : Failure → String
  | file failure => failure.reason
  | badDescriptor => "Bad file descriptor"
  | brokenPipe => "Broken pipe"
  | deviceFull => "No space left on device"

end Failure

inductive Ended where
  | exited (status : Nat)
  | signalled (signal : Signal)
  deriving DecidableEq, Repr

namespace Ended

def status : Ended → Nat
  | exited status => status
  | signalled signal => 128 + signal

end Ended

/-- The most of something that a process may use, by the letter that stands for it; a capital
letter stands for the most that this can be raised to. -/
abbrev Limits := List (Char × Option Nat)

inductive OpenMode where
  | read
  | write
  | append
  | readWrite
  | create
  deriving DecidableEq, Repr

structure WaitRequest where
  child : Option ProcessId
  interruptible : Bool
  /-- Whether there is an answer at once even if the children go on. -/
  immediate : Bool
  deriving DecidableEq, Repr

inductive WaitAnswer where
  | ended (child : ProcessId) (how : Ended)
  | running
  | interrupted
  | noChild
  deriving DecidableEq, Repr

inductive Opened where
  | file (id : FileId) (offset : Nat)
  | folder
  | device (device : Device)
  | pipe
  deriving DecidableEq, Repr

inductive Task where
  | exit (status : Nat)
  /-- Computes for so many nanoseconds; the answer is the signals caught so far. -/
  | pass (span : Nat) (resume : List Signal → Task)
  | sleep (span : Nat) (resume : Unit → Task)
  | fork (child : Task) (resume : ProcessId → Task)
  | exec (program : Path) (arguments : List Octets) (environment : Environment)
      (resume : Failure → Task)
  | openFile (path : Path) (mode : OpenMode) (resume : Except Failure Descriptor → Task)
  | close (descriptor : Descriptor) (resume : Unit → Task)
  | duplicate (source target : Descriptor) (resume : Bool → Task)
  | inspect (descriptor : Descriptor) (resume : Option Opened → Task)
  | meet (descriptor : Descriptor) (resume : Unit → Task)
  | setAside (descriptor : Descriptor) (resume : Option Descriptor → Task)
  | pipe (resume : Descriptor × Descriptor → Task)
  /-- Reads at most so many bytes; none are left if there are none. -/
  | read (descriptor : Descriptor) (count : Nat) (resume : Except Failure Octets → Task)
  | readLine (descriptor : Descriptor) (resume : Except Failure Octets → Task)
  | rewind (descriptor : Descriptor) (count : Nat) (resume : Unit → Task)
  | write (descriptor : Descriptor) (octets : Octets) (resume : Except Failure Unit → Task)
  | wait (request : WaitRequest) (resume : WaitAnswer → Task)
  /-- Signals a process, or a group by its negated number; zero stands for the own group. -/
  | signal (target : Int) (signal : Signal) (resume : Bool → Task)
  | handle (signal : Signal) (handling : Handling) (resume : Unit → Task)
  | enterFolder (path : Path) (resume : Except Failure Unit → Task)
  | browse (change : FileSystem → FileSystem) (resume : FileSystem → Task)
  /-- Chooses the bits that new files do not get; the answer is the earlier choice. -/
  | mask (bits : Nat) (resume : Nat → Task)
  /-- Changes how much the process may use; the answer is how it was before. -/
  | limit (change : Limits → Limits) (resume : Limits → Task)
  | leaveGroup (resume : Unit → Task)
  | identify (resume : ProcessId × ProcessId → Task)

def Action (α : Type) : Type := (α → Task) → Task

namespace Action

@[inline] protected def pure (a : α) : Action α := fun resume => resume a

@[inline] protected def bind (first : Action α) (next : α → Action β) : Action β :=
  fun resume => first fun a => next a resume

instance : Monad Action where
  pure := Action.pure
  bind := Action.bind

def toTask (work : Action Nat) : Task := work .exit

/-- Reads up to the end; the bound is on the number of reads. -/
def readAll (descriptor : Descriptor) : Nat → List Octets → Action Octets
  | 0, parts => return parts.reverse.flatten
  | reads + 1, parts => do
      match ← (Task.read descriptor 65536 : Action _) with
      | .ok (c :: octets) => readAll descriptor reads ((c :: octets) :: parts)
      | _ => return parts.reverse.flatten

end Action

end Clausal.Machine

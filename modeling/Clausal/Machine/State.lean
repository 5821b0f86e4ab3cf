import Clausal.Machine.Task

/-!
# Machines

The state that processes share: the file system, the files that are open with the place of
the next byte in each, the pipes, and the processes themselves.  A process stands for its
open files by numbers of its own.  Moments are nanoseconds from the start.
-/

namespace Clausal.Machine

open Text (Octets)

/-- What an open file is connected to. -/
inductive Channel where
  | file (id : FileId)
  | folder
  | device (device : Device)
  | output (launch : Nat)
  | errors (launch : Nat)
  | pipe (index : Nat) (reads writes : Bool)
  deriving DecidableEq, Repr

namespace Channel

def pipe? : Channel → Option Nat
  | pipe index _ _ => some index
  | _ => none

/-- Whether this is the end of a pipe that is written to, or read from. -/
def isEnd (index : Nat) (writing : Bool) : Channel → Bool
  | pipe other reads writes => other == index && (if writing then writes else reads)
  | _ => false

end Channel

structure OpenFile where
  channel : Channel
  offset : Nat
  appends : Bool
  readable : Bool
  writable : Bool
  deriving DecidableEq, Repr

/-- How much a reader asks for. -/
inductive Amount where
  | upTo (count : Nat)
  | line
  deriving DecidableEq, Repr

/-- Bytes that were written and not yet read, in the pieces that they were written in. -/
structure Pipe where
  front : List Octets
  back : List Octets
  size : Nat

namespace Pipe

def empty : Pipe := ⟨[], [], 0⟩

def capacity : Nat := 65536

def put (p : Pipe) (added : Octets) (count : Nat) : Pipe :=
  if count = 0 then p
  else
    match p.front with
    | [] => ⟨[added], [], p.size + count⟩
    | front => ⟨front, added :: p.back, p.size + count⟩

/-- The first bytes of pieces and what is left, given the bytes before them, last first. -/
def takeFrom (amount : Amount) : Nat → Octets → List Octets → Octets × List Octets
  | _, before, [] => (before, [])
  | taken, before, piece :: rest =>
      match go amount taken before piece with
      | (taken, before, []) =>
          if isEnough amount taken before then (before, rest)
          else takeFrom amount taken before rest
      | (_, before, left) => (before, left :: rest)
where
  isEnough (amount : Amount) (taken : Nat) (before : Octets) : Bool :=
    match amount with
    | .upTo count => decide (count ≤ taken)
    | .line => before.head? = some '\n'
  go (amount : Amount) : Nat → Octets → Octets → Nat × Octets × Octets
    | taken, before, [] => (taken, before, [])
    | taken, before, c :: rest =>
        if isEnough amount taken before then (taken, before, c :: rest)
        else go amount (taken + 1) (c :: before) rest

def take (p : Pipe) (amount : Amount) : Octets × Pipe :=
  match p.front, p.back, amount with
  | [piece], [], .upTo count =>
      if p.size ≤ count then (piece, empty)
      else
        let (before, left) := piece.splitAt count
        (before, ⟨[left], [], p.size - count⟩)
  | front, back, amount =>
      let pieces := if back.isEmpty then front else front ++ back.reverse
      let (taken, left) := takeFrom amount 0 [] pieces
      (taken.reverse, ⟨left, [], p.size - taken.length⟩)

end Pipe

/-- A process's number for an open file. -/
structure Slot where
  number : Descriptor
  file : Nat
  isPrivate : Bool
  deriving DecidableEq, Repr

/-- What a process that does not go on waits for. -/
inductive Waiting where
  | nothing
  | forPipe (pipe : Nat)
  | forChild
  deriving DecidableEq, Repr

structure Process where
  id : ProcessId
  parent : ProcessId
  group : ProcessId
  command : List Octets
  task : Task
  wakes : Nat
  waiting : Waiting
  isStopped : Bool
  slots : List Slot
  folder : List Name
  mask : Nat
  limits : Limits
  handlings : List (Signal × Handling)
  caught : List Signal
  ended : List (ProcessId × Ended)

namespace Process

def handling (p : Process) (signal : Signal) : Handling :=
  (p.handlings.lookup signal).getD .standard

def slot? (p : Process) (number : Descriptor) : Option Slot :=
  p.slots.find? fun slot => slot.number == number

def freeFrom (p : Process) : Nat → Nat → Descriptor
  | 0, number => number
  | rounds + 1, number =>
      if (p.slot? number).isSome then freeFrom p rounds (number + 1) else number

def free (p : Process) (bound : Nat) : Descriptor := p.freeFrom p.slots.length bound

/-- The first number that the process may not use for an open file. -/
def slotBound (p : Process) : Nat := (p.limits.lookup 'n').join.getD 1048576

def dropSlot (p : Process) (number : Descriptor) : Process :=
  { p with slots := p.slots.filter fun slot => slot.number != number }

def putSlot (p : Process) (slot : Slot) : Process :=
  { p with slots := slot :: p.slots.filter fun other => other.number != slot.number }

def file? (p : Process) (number : Descriptor) : Option Nat := (p.slot? number).map (·.file)

end Process

end Machine

/-- The machine with everything on it. -/
structure Machine where
  files : FileSystem
  openFiles : Array Machine.OpenFile
  pipes : Array Machine.Pipe
  named : List (FileId × Nat)
  processes : List Machine.Process
  nextId : Machine.ProcessId
  launch : Nat
  output : List Text.Octets
  errors : List Text.Octets
  first : Machine.ProcessId
  exits : Option Nat
  closes : Option Nat
  clock : Nat

namespace Machine

def ofFiles (files : FileSystem) : Machine where
  files
  openFiles := #[]
  pipes := #[]
  named := []
  processes := []
  nextId := 100
  launch := 0
  output := []
  errors := []
  first := 0
  exits := none
  closes := none
  clock := 0

def errorBytes (m : Machine) : List UInt8 :=
  Text.Octets.toBytes (m.errors.foldl (fun after chunk => chunk ++ after) [])

def mapFiles (m : Machine) (change : FileSystem → FileSystem) : Machine :=
  match m with
  | ⟨files, openFiles, pipes, named, processes, nextId, launch, output, errors, first, exits,
      closes, clock⟩ =>
      ⟨change files, openFiles, pipes, named, processes, nextId, launch, output, errors, first,
        exits, closes, clock⟩

def mapPipes (m : Machine) (change : Array Pipe → Array Pipe) : Machine :=
  match m with
  | ⟨files, openFiles, pipes, named, processes, nextId, launch, output, errors, first, exits,
      closes, clock⟩ =>
      ⟨files, openFiles, change pipes, named, processes, nextId, launch, output, errors, first,
        exits, closes, clock⟩

def moveTo (m : Machine) (index offset : Nat) : Machine :=
  match m with
  | ⟨files, openFiles, pipes, named, processes, nextId, launch, output, errors, first, exits,
      closes, clock⟩ =>
      ⟨files, openFiles.modify index fun file => { file with offset }, pipes, named, processes,
        nextId, launch, output, errors, first, exits, closes, clock⟩

def holds (m : Machine) (isMeant : Channel → Bool) (p : Process) : Bool :=
  p.slots.any fun slot =>
    match m.openFiles[slot.file]? with
    | some file => isMeant file.channel
    | none => false

def isHeld (m : Machine) (isMeant : Channel → Bool) : Bool :=
  m.processes.any (m.holds isMeant)

def pipeOf? (m : Machine) (index : Nat) : Option Nat :=
  (m.openFiles[index]?).bind fun file => file.channel.pipe?

def wake (m : Machine) (now : Nat) (waiting : Waiting → Bool) : Machine :=
  { m with
    processes := m.processes.map fun p =>
      if waiting p.waiting then { p with waiting := .nothing, wakes := max p.wakes now } else p }

def isForPipe : Waiting → Bool
  | .forPipe _ => true
  | _ => false

def released (m : Machine) (now : Nat) : Machine :=
  let m := m.wake now isForPipe
  if m.closes.isNone && !m.isHeld (· == .output m.launch) then { m with closes := some now } else m

def put (m : Machine) (p : Process) : Machine := { m with processes := p :: m.processes }

def dropProcess (m : Machine) (id : ProcessId) : Machine :=
  { m with processes := m.processes.filter fun p => p.id != id }

def calendarStart : Nat := 1767225600

def tick : Nat := 4000000

def dated (now : Nat) : Int := calendarStart * 1000000000 + now / tick * tick

def filesFor (m : Machine) (p : Process) (now : Nat) : FileSystem :=
  { m.files with here := p.folder, mask := p.mask, moment := dated now }

def isDone (m : Machine) : Bool := m.exits.isSome && m.closes.isSome

end Machine

end Clausal

import Clausal.Machine.Files
import Clausal.Machine.Program

/-!
# Running machines

The process that goes on first makes its next request, until the first process has ended and
the output is closed, a moment is reached, or no process goes on any more.  Requests take
time, so that a process that never pauses reaches every moment.
-/

namespace Clausal.Machine

open Text (Octets)

/-! ## How long requests take, in nanoseconds -/

def callSpan : Nat := 200

def byteSpan : Nat := 10

def forkSpan : Nat := 100000

def startSpan : Nat := 200000

def execSpan : Nat := 400000

def launchSpan : Nat := 1000000

/-! ## Signals -/

/-- Lets a process know of a signal that it catches; some waits end on it. -/
def Process.catch (p : Process) (now : Nat) (signal : Signal) : Process :=
  let p := { p with caught := if p.caught.contains signal then p.caught else signal :: p.caught }
  match p.waiting, p.task with
  | .forChild, .wait ⟨_, true, _⟩ resume =>
      { p with waiting := .nothing, wakes := max p.wakes now, task := resume .interrupted }
  | _, _ => p

def report (m : Machine) (p : Process) (how : Ended) (now : Nat) : Machine :=
  { m with
    processes := m.processes.map fun parent =>
      if parent.id == p.parent then
        let parent := { parent with ended := parent.ended ++ [(p.id, how)] }
        let parent :=
          if parent.waiting = .forChild then
            { parent with waiting := .nothing, wakes := max parent.wakes now }
          else parent
        if parent.handling Signal.childEnded = .caught then
          parent.catch now Signal.childEnded
        else parent
      else parent }

def finish (m : Machine) (p : Process) (how : Ended) (now : Nat) : Machine :=
  let m := (m.report p how now).released now
  if p.id = m.first && m.exits.isNone then { m with exits := some now } else m

def deliver (now : Nat) (signal : Signal) (m : Machine) (p : Process) : Machine :=
  let others := m.dropProcess p.id
  let handling := if signal.mayBeHandled then p.handling signal else .standard
  match handling, signal.effect with
  | .ignored, _ => m
  | .caught, _ => others.put (p.catch now signal)
  | .standard, .ends => others.finish p (.signalled signal) now
  | .standard, .stops => others.put { p with isStopped := true }
  | .standard, .continues => others.put { p with isStopped := false, wakes := max p.wakes now }
  | .standard, .none => m

def targets (m : Machine) (p : Process) (target : Int) : List Process :=
  if 0 < target then m.processes.filter fun q => q.id == target.toNat
  else if target = -1 then m.processes.filter fun q => q.id != p.id
  else
    let group := if target = 0 then p.group else target.natAbs
    m.processes.filter fun q => q.group == group

def isUnclaimed (m : Machine) (target : Int) : Bool :=
  m.processes.any fun q => q.ended.any fun child => (child.1 : Int) == target

def send (m : Machine) (p : Process) (now : Nat) (target : Int) (signal : Signal)
    (resume : Bool → Task) : Machine :=
  let known := !((m.put p).targets p target).isEmpty || m.isUnclaimed target
  let m := m.put { p with task := resume known, wakes := now + callSpan }
  if signal = 0 then m else (m.targets p target).foldl (deliver now signal) m

/-! ## Requests -/

/-- What a wait finds at once; nothing means that it has to go on. -/
def waitAnswer? (m : Machine) (p : Process) (request : WaitRequest) : Option WaitAnswer :=
  let isMeant (id : ProcessId) : Bool := request.child.all (· == id)
  match p.ended.find? fun child => isMeant child.1 with
  | some (child, how) => some (.ended child how)
  | none =>
      if !(m.processes.any fun q => q.parent == p.id && isMeant q.id) then some .noChild
      else if request.immediate then some .running
      else if request.interruptible && !p.caught.isEmpty then some .interrupted
      else none

def Process.claim (p : Process) : WaitAnswer → Process
  | .ended child _ => { p with ended := p.ended.filter fun other => other.1 != child }
  | _ => p

/-- A copy that goes on with another task; it catches nothing. -/
def Process.copy (p : Process) (id : ProcessId) (task : Task) (wakes : Nat) : Process :=
  { p with
    id, parent := p.id, task, wakes, caught := [], ended := []
    handlings := p.handlings.filter fun handling => handling.2 = .ignored }

def Process.become (p : Process) (task : Task) (command : List Octets) : Process :=
  { p with
    task
    command
    slots := p.slots.filter fun slot => !slot.isPrivate
    handlings := p.handlings.filter fun handling => handling.2 = .ignored }

def stepRead (m : Machine) (p : Process) (number : Descriptor) (amount : Amount)
    (resume : Except Failure Octets → Task) : Machine :=
  let now := p.wakes
  match p.file? number with
  | none => m.put { p with task := resume (.error .badDescriptor), wakes := now + callSpan }
  | some index =>
      let pipe? := m.pipeOf? index
      match m.readFrom p index amount with
      | (m, none) => m.put { p with waiting := .forPipe (pipe?.getD 0) }
      | (m, some answer) =>
          let count := (answer.toOption.map List.length).getD 0
          let m := m.put { p with task := resume answer, wakes := now + callSpan + count * byteSpan }
          match pipe? with
          | some pipe => m.wake now fun waiting => waiting = .forPipe pipe
          | none => m

/-- Lets a process write, or wait until there is room.  Nobody can read what goes to a pipe
without a reader, which a signal says, as another does of a file that may not grow. -/
def stepWrite (m : Machine) (p : Process) (number : Descriptor) (octets : Octets)
    (resume : Except Failure Unit → Task) : Machine :=
  let now := p.wakes
  match p.file? number with
  | none => m.put { p with task := resume (.error .badDescriptor), wakes := now + callSpan }
  | some index =>
      let pipe? := m.pipeOf? index
      let count := octets.length
      let goOn (answer : Except Failure Unit) : Process :=
        { p with task := resume answer, wakes := now + callSpan + count * byteSpan }
      match m.writeTo p index octets count now with
      | (m, .notYet) => m.put { p with waiting := .forPipe (pipe?.getD 0) }
      | (m, .failed failure) => m.put (goOn (.error failure))
      | (m, .unread) =>
          let p := goOn (.error .brokenPipe)
          deliver now Signal.brokenPipe (m.put p) p
      | (m, .beyondLimit) =>
          let p := goOn (.error (.file .tooLarge))
          deliver now Signal.fileTooLarge (m.put p) p
      | (m, .done) =>
          let m := m.put (goOn (.ok ()))
          match pipe? with
          | some pipe => m.wake now fun waiting => waiting = .forPipe pipe
          | none => m

def stepExec (load : Load) (m : Machine) (p : Process) (path : Path) (arguments : List Octets)
    (environment : Environment) (resume : Failure → Task) : Machine :=
  let refuse (failure : FileError) : Machine :=
    m.put { p with task := resume (.file failure), wakes := p.wakes + callSpan }
  match Program.find (m.filesFor p p.wakes) Program.scriptDepth path arguments with
  | .error failure => refuse failure
  | .ok program =>
      match load program.name program.arguments environment with
      | none => refuse .notProgram
      | some task =>
          let command := path.octets :: arguments.tail
          (m.put { p.become task command with wakes := p.wakes + execSpan }).released p.wakes

def step (load : Load) (m : Machine) (p : Process) : Machine :=
  let now := p.wakes
  let goOn (m : Machine) (p : Process) (task : Task) : Machine :=
    m.put { p with task, wakes := now + callSpan }
  match p.task with
  | .exit status => m.finish p (.exited (status % 256)) now
  | .pass span resume =>
      let caught := p.caught.mergeSort fun a b => decide (a ≤ b)
      m.put { p with caught := [], task := resume caught, wakes := now + span }
  | .sleep span resume => m.put { p with task := resume (), wakes := now + span }
  | .fork child resume =>
      let copy := p.copy m.nextId child (now + startSpan)
      let m := { m with nextId := m.nextId + 1 }
      (m.put { p with task := resume copy.id, wakes := now + forkSpan }).put copy
  | .exec program arguments environment resume =>
      stepExec load m p program arguments environment resume
  | .openFile path mode resume =>
      let (m, p, answer) := m.openFor p path mode now
      let opened? := (answer.toOption.bind p.file?).bind m.pipeOf?
      match opened?, answer with
      | some _, .ok number =>
          (goOn m p (.meet number fun _ => resume answer)).wake now isForPipe
      | _, _ => goOn m p (resume answer)
  | .inspect number resume =>
      goOn m p (resume (((p.file? number).bind fun index => m.openFiles[index]?).map opened))
  | .meet number resume =>
      match (p.file? number).bind fun index => m.openFiles[index]? with
      | some ⟨.pipe pipe reads writes, _, _, _, _⟩ =>
          let isOther := Channel.isEnd pipe (!writes)
          if reads && writes || m.isHeld isOther || m.holds isOther p then goOn m p (resume ())
          else m.put { p with waiting := .forPipe pipe }
      | _ => goOn m p (resume ())
  | .close number resume => (goOn m (p.dropSlot number) (resume ())).released now
  | .duplicate source target resume =>
      match p.file? source with
      | none => goOn m p (resume false)
      | some file =>
          if p.slotBound ≤ target then goOn m p (resume true)
          else (goOn m (p.putSlot ⟨target, file, false⟩) (resume true)).released now
  | .setAside number resume =>
      match p.file? number with
      | none => goOn m p (resume none)
      | some file =>
          let copy := p.free 10
          goOn m (p.putSlot ⟨copy, file, true⟩) (resume (some copy))
  | .pipe resume =>
      let pipe := m.pipes.size
      let index := m.openFiles.size
      let reading := p.free 0
      let p := p.putSlot ⟨reading, index, false⟩
      let writing := p.free 0
      let p := p.putSlot ⟨writing, index + 1, false⟩
      let openFiles := (m.openFiles.push ⟨.pipe pipe true false, 0, false, true, false⟩).push
        ⟨.pipe pipe false true, 0, false, false, true⟩
      goOn { m with pipes := m.pipes.push .empty, openFiles } p (resume (reading, writing))
  | .read number count resume => m.stepRead p number (.upTo count) resume
  | .readLine number resume => m.stepRead p number .line resume
  | .rewind number count resume =>
      match p.file? number with
      | none => goOn m p (resume ())
      | some index =>
          let offset := ((m.openFiles[index]?).map (·.offset)).getD 0
          goOn (m.moveTo index (offset - count)) p (resume ())
  | .write number octets resume => m.stepWrite p number octets resume
  | .wait request resume =>
      match m.waitAnswer? p request with
      | none => m.put { p with waiting := .forChild }
      | some answer => goOn m (p.claim answer) (resume answer)
  | .signal target signal resume => m.send p now target signal resume
  | .handle signal handling resume =>
      let handlings := (signal, handling) :: p.handlings.filter fun other => other.1 != signal
      goOn m { p with handlings } (resume ())
  | .enterFolder path resume =>
      let files := m.filesFor p now
      match files.follow path with
      | .error failure => goOn m p (resume (.error (.file failure)))
      | .ok names =>
          match files.node? names with
          | some (.folder ..) => goOn m { p with folder := names } (resume (.ok ()))
          | none => goOn m p (resume (.error (.file .notFound)))
          | some _ => goOn m p (resume (.error (.file .notFolder)))
  | .browse change resume =>
      let files := m.filesFor p now
      goOn { m with files := change files } p (resume files)
  | .mask bits resume => goOn m { p with mask := bits } (resume p.mask)
  | .limit change resume => goOn m { p with limits := change p.limits } (resume p.limits)
  | .leaveGroup resume => goOn m { p with group := p.id } (resume ())
  | .identify resume => goOn m p (resume (p.id, p.parent))

/-! ## The order of processes -/

namespace Process

def mayGoOn (p : Process) : Bool := p.waiting = .nothing && !p.isStopped

/-- Whether a process goes on before another; the older goes first. -/
def isBefore (p q : Process) : Bool :=
  decide (p.wakes < q.wakes) || p.wakes == q.wakes && decide (p.id < q.id)

def firstOf : Option Process → List Process → Option Process
  | best, [] => best
  | best, p :: rest =>
      let isBetter :=
        match best with
        | none => p.mayGoOn
        | some q => p.mayGoOn && p.isBefore q
      firstOf (if isBetter then some p else best) rest

end Process

def takeOff (m : Machine) (p : Process) : Machine := { m.dropProcess p.id with clock := p.wakes }

def run (load : Load) (isEnough : Machine → Bool) (limit : Option Nat) : Nat → Machine → Machine
  | 0, m => m
  | steps + 1, m =>
      if isEnough m then m
      else
        match Process.firstOf none m.processes with
        | none => m
        | some p =>
            if limit.any (· ≤ p.wakes) then m
            else run load isEnough limit steps (step load (m.takeOff p) p)

/-- Starts a process from outside, whose output and errors are kept; it leads a group of its
own. -/
def start (m : Machine) (task : Task) (command : List Octets) : Machine :=
  let launch := m.launch + 1
  let index := m.openFiles.size
  let id := m.nextId
  let first : Process := {
    id, parent := 1, group := id, command, task, wakes := m.clock + launchSpan
    waiting := .nothing, isStopped := false
    slots := [⟨0, index, false⟩, ⟨1, index + 1, false⟩, ⟨2, index + 2, false⟩]
    folder := m.files.here, mask := m.files.mask, limits := [], handlings := [], caught := []
    ended := [] }
  { m with
    openFiles := ((m.openFiles.push ⟨.device .null, 0, false, true, false⟩).push
      ⟨.output launch, 0, false, false, true⟩).push ⟨.errors launch, 0, false, false, true⟩
    processes := first :: m.processes
    nextId := id + 1
    launch, output := [], first := id, exits := none, closes := none }

def killGroup (m : Machine) : Machine :=
  (m.processes.filter fun p => p.group == m.first).foldl (deliver m.clock Signal.kill) m

end Clausal.Machine

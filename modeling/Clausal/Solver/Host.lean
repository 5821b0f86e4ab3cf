import Clausal.Machine.State
import Clausal.Times

/-!
# Hosts and children

A host starts commands on a machine.  The child that it answers says what can be seen from
outside: what can be read from its output and when the output closes, when waiting for the
child is over, what asking for its end is answered meanwhile, and the machine as it is when the
child is not watched any more.
-/

namespace Clausal

/-- What asking at a moment comes to for a child that ends then, or never does. -/
def endedAt (exits : Option Duration) (waited : Except String Unit) (moment : Duration) :
    Except String Bool :=
  match exits with
  | some ended =>
      if ended.nanoseconds ≤ moment.nanoseconds then waited.map fun () => true else .ok false
  | none => .ok false

structure Child where
  /-- The bytes of the output, or the failure of reading them. -/
  output : Except String (List UInt8)
  /-- When the last process lets go of the output, if it does. -/
  closes : Option Duration
  /-- When waiting for the child is over, if it ever is. -/
  exits : Option Duration
  /-- Whether the child has ended then, or the failure of waiting for it. -/
  waited : Except String Unit := .ok ()
  /-- The machine afterwards, with everything that the child and its companions did. -/
  machine : Machine
  /-- Whether the child has ended, as the system answers it at a moment, or the failure to ask. -/
  asked : Duration → Except String Bool := endedAt exits waited
  /-- By how much a pause that begins at a moment turns out too long. -/
  lag : Duration → Duration := fun _ => ⟨0⟩

structure Command where
  program : Path
  arguments : List Text.Octets
  deriving DecidableEq, Repr

structure Host where
  /-- Starts a command, or says why it cannot be started.  The child is watched up to the
  given moment, if there is one, and then killed with its group. -/
  launch : Machine → Command → Option Duration → Except String Child
  /-- A name for a timing file that nothing else has. -/
  timingName : Path
  /-- The clock when a child is started; it counts seconds in 63 bits. -/
  clock : Duration

namespace Host

/-- The first second that the clock cannot count. -/
def clockBound : Nat := 0x8000000000000000

/-- Whether the clock can tell when this span will have passed. -/
def canCount (host : Host) (span : Duration) : Bool :=
  decide ((Duration.mk (host.clock.nanoseconds + span.nanoseconds)).seconds < clockBound)

end Host

/-!
## Guarding a child process

A guard owns a running child and keeps a log of what was done to it.  Killing signals the
child's group and then the child, and waits for it; a child that was waited for before is
left alone.  Dropping the guard kills, so no way out leaves a process behind.
-/

/-- What the operating system answers to a question about the child. -/
inductive WaitAnswer where
  | running
  | exited
  | failed
  deriving DecidableEq, Repr

inductive GuardEvent where
  | groupSignalled
  | childSignalled
  /-- A wait found that the child has ended, and took note of it. -/
  | reaped
  deriving DecidableEq, Repr

structure Guard where
  isReaped : Bool
  /-- In the order of happening. -/
  events : List GuardEvent
  deriving DecidableEq, Repr

namespace Guard

/-- The guard of a child that was just started. -/
def spawned : Guard := ⟨false, []⟩

/-- Takes note of the end of the child, if this is what a question about it was answered. -/
def note (g : Guard) (answer : WaitAnswer) : Guard :=
  match answer with
  | .exited => ⟨true, g.events ++ [.reaped]⟩
  | .running | .failed => g

/-- Asks whether the child has ended. -/
def tryWait (g : Guard) (answer : WaitAnswer) : Guard := g.note answer

/-- Waits until the child has ended; the answer is never that it is running. -/
def wait (g : Guard) (answer : WaitAnswer) : Guard := g.note answer

/-- Signals the child and waits for it, whatever the wait answers. -/
def kill (g : Guard) (answer : WaitAnswer) : Guard :=
  if g.isReaped then g
  else
    ⟨true, g.events ++ [.groupSignalled, .childSignalled] ++
      (if answer = .exited then [.reaped] else [])⟩

def drop (g : Guard) (answer : WaitAnswer) : Guard := g.kill answer

def wasKilled (g : Guard) : Bool := g.events.contains .childSignalled

@[simp] theorem kill_of_isReaped {g : Guard} (h : g.isReaped = true) (answer : WaitAnswer) :
    g.kill answer = g := by
  simp [kill, h]

@[simp] theorem isReaped_kill (g : Guard) (answer : WaitAnswer) :
    (g.kill answer).isReaped = true := by
  unfold kill
  split
  · assumption
  · rfl

end Guard

end Clausal

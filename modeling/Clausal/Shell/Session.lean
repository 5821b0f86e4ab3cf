import Clausal.Machine.Task
import Clausal.Shell.Grammar
import Clausal.Text.Numeral

/-!
# Shell sessions

What a shell keeps from one command to the next, and the work that a shell does: it goes
through requests to the machine and ends in a value or in a stop, and the session is there in
both cases.
-/

namespace Clausal.Shell

open Machine (Action Descriptor Ended Environment Failure ProcessId Signal Task)
open Text (Octets)

structure Variable where
  value : Option Octets
  exported : Bool
  fixed : Bool
  deriving DecidableEq, Repr

/-- What a shell was told about how to run commands. -/
structure Options where
  exitsOnFailure : Bool
  refusesUnset : Bool
  keepsPatterns : Bool
  traces : Bool
  keepsFiles : Bool
  exportsAll : Bool
  onlyReads : Bool
  echoes : Bool
  readsInput : Bool
  noted : List Char
  deriving DecidableEq, Repr

namespace Options

def none : Options := ⟨false, false, false, false, false, false, false, false, false, []⟩

def isEditor (letter : Char) : Bool := letter = 'V' || letter = 'E'

/-- Turns the option with a letter on or off; options without a meaning here are accepted. -/
def set? (o : Options) (letter : Char) (on : Bool) : Option Options :=
  match letter with
  | 'e' => some { o with exitsOnFailure := on }
  | 'u' => some { o with refusesUnset := on }
  | 'f' => some { o with keepsPatterns := on }
  | 'x' => some { o with traces := on }
  | 'C' => some { o with keepsFiles := on }
  | 'a' => some { o with exportsAll := on }
  | 'n' => some { o with onlyReads := on }
  | 'v' => some { o with echoes := on }
  | letter =>
      if "bmIVEip\x00\x01".toList.contains letter then
        let others := o.noted.filter fun other =>
          other != letter && !(on && isEditor letter && isEditor other)
        some { o with noted := if on then letter :: others else others }
      else Option.none

/-- The letters of the options by their long names; some have a sign that nobody can write. -/
def longNames : List (String × Char) :=
  [("errexit", 'e'), ("noglob", 'f'), ("ignoreeof", 'I'), ("interactive", 'i'),
    ("monitor", 'm'), ("noexec", 'n'), ("stdin", 's'), ("xtrace", 'x'), ("verbose", 'v'),
    ("vi", 'V'), ("emacs", 'E'), ("noclobber", 'C'), ("allexport", 'a'), ("notify", 'b'),
    ("nounset", 'u'), ("privileged", 'p'), ("nolog", '\x00'), ("debug", '\x01')]

def has (o : Options) (letter : Char) : Bool :=
  match letter with
  | 'e' => o.exitsOnFailure
  | 'u' => o.refusesUnset
  | 'f' => o.keepsPatterns
  | 'x' => o.traces
  | 'C' => o.keepsFiles
  | 'a' => o.exportsAll
  | 'n' => o.onlyReads
  | 'v' => o.echoes
  | 's' => o.readsInput
  | letter => o.noted.contains letter

def letters (o : Options) : Octets :=
  (longNames.reverse.map Prod.snd).filter fun letter => Char.isAlpha letter && o.has letter

end Options

/-- Processes that were started together, each with how it ended, if it ended. -/
structure Job where
  number : Nat
  processes : List (ProcessId × Option Ended)
  isKnown : Bool
  deriving DecidableEq, Repr

namespace Job

def start (number : Nat) (ids : List ProcessId) : Job :=
  ⟨number, ids.map fun id => (id, none), false⟩

def isDone (job : Job) : Bool := job.processes.all fun process => process.2.isSome

def id? (job : Job) : Option ProcessId := job.processes.getLast?.map Prod.fst

def status (job : Job) : Nat :=
  match job.processes.getLast? with
  | some (_, some how) => how.status
  | _ => 0

def note (job : Job) (id : ProcessId) (how : Ended) : Job :=
  { job with
    processes := job.processes.map fun process =>
      if process.1 = id then (id, some how) else process }

end Job

/-- How far the options among the arguments have been gone through. -/
structure OptionScan where
  index : Nat
  offset : Nat
  deriving DecidableEq, Repr

/-- What is left to skip after a command that jumps. -/
inductive Flow where
  | next
  | break_ (loops : Nat)
  | continue_ (loops : Nat)
  | return_
  deriving DecidableEq, Repr

/-- Why a shell stops before its script ends. -/
inductive Stop where
  | exit
  | fault
  deriving DecidableEq, Repr

structure Frame where
  bindings : List (String × Option Variable)
  options : Option Options
  deriving DecidableEq, Repr

namespace Frame

def empty : Frame := ⟨[], none⟩

end Frame

structure Session where
  name : Octets
  arguments : List Octets
  bindings : List (String × Variable)
  functions : List (String × Command)
  aliases : List (String × Octets)
  locals : List Frame
  status : Nat
  options : Options
  /-- The commands for signals; 0 stands for the end of the shell. -/
  traps : List (Signal × Octets)
  pending : List Signal
  jobs : List Job
  id : ProcessId
  folder : Octets
  lastJob : Option ProcessId
  scan : OptionScan
  line : Nat
  running : Option Octets
  loops : Nat
  calls : Nat
  /-- The status of the last command whose output was substituted. -/
  substituted : Nat
  isCopy : Bool
  kept : Option Nat

def Work (α : Type) : Type :=
  Session → (α → Session → Task) → (Stop → Session → Task) → Task

namespace Work

@[inline] protected def pure (a : α) : Work α := fun s resume _ => resume a s

@[inline] protected def bind (first : Work α) (next : α → Work β) : Work β :=
  fun s resume stop => first s (fun a s => next a s resume stop) stop

instance : Monad Work where
  pure := Work.pure
  bind := Work.bind

@[inline] def get : Work Session := fun s resume _ => resume s s

@[inline] def modify (change : Session → Session) : Work Unit :=
  fun s resume _ => resume () (change s)

@[inline] def lift (action : Action α) : Work α :=
  fun s resume _ => action fun a => resume a s

instance : MonadLift Action Work where
  monadLift := lift

/-- Stops the shell, unless somebody catches it. -/
def stop (why : Stop) : Work α := fun s _ stop => stop why s

def attempt (work : Work α) : Work (Except Stop α) :=
  fun s resume _ => work s (fun a s => resume (.ok a) s) (fun why s => resume (.error why) s)

def ofExcept : Except Stop α → Work α
  | .ok a => pure a
  | .error why => stop why

def setStatus (status : Nat) : Work Unit := modify fun s => { s with status }

end Work

namespace Session

/-! ## Variables -/

def binding? (s : Session) (name : String) : Option Variable := s.bindings.lookup name

def value? (s : Session) (name : String) : Option Octets :=
  match s.binding? name with
  | some v => v.value
  | none => none

def putVariable (name : String) (v : Variable) :
    List (String × Variable) → Option (List (String × Variable))
  | [] => none
  | (other, old) :: rest =>
      if other = name then some ((name, v) :: rest)
      else (putVariable name v rest).map ((other, old) :: ·)

def setVariable (s : Session) (name : String) (v : Variable) : Session :=
  { s with
    bindings := (putVariable name v s.bindings).getD ((name, v) :: s.bindings)
    scan := if name = "OPTIND" then
        ⟨((Text.readDigits? (v.value.getD [])).getD 1), 0⟩
      else s.scan }

def dropVariable (s : Session) (name : String) : Session :=
  { s with bindings := s.bindings.filter fun entry => entry.1 != name }

def assign (s : Session) (name : String) (value : Octets) : Session :=
  let old := (s.binding? name).getD ⟨none, false, false⟩
  s.setVariable name { old with value := some value, exported := old.exported || s.options.exportsAll }

def isFixed (s : Session) (name : String) : Bool :=
  match s.binding? name with
  | some v => v.fixed
  | none => false

def separators (s : Session) : Octets := (s.value? "IFS").getD [' ', '\t', '\n']

def environment (s : Session) : Environment :=
  s.bindings.filterMap fun (name, v) =>
    match v.value with
    | some value => if v.exported then some (name, value) else none
    | none => none

def searchPath (s : Session) : Octets := (s.value? "PATH").getD []

/-! ## Copies -/

/-- The session of a copy of the shell, which keeps only the traps that ignore a signal. -/
def copy (s : Session) : Session :=
  { s with
    isCopy := true
    traps := s.traps.filter fun entry => entry.1 != 0 && entry.2.isEmpty
    pending := []
    jobs := []
    loops := 0 }

def hasTraps (s : Session) : Bool := s.traps.any fun entry => !entry.2.isEmpty

end Session

/-! ## Requests -/

namespace Work

open Machine

def write (descriptor : Descriptor) (octets : Octets) : Work (Except Failure Unit) :=
  lift (Task.write descriptor octets)

def commandSpan : Nat := 800

def pause : Work Unit := fun s resume _ =>
  .pass commandSpan fun caught =>
    resume () (if caught.isEmpty then s else { s with pending := s.pending ++ caught })

def complaintStart (s : Session) : Octets :=
  s.name ++ ": ".toList ++ (toString s.line).toList ++ ": ".toList ++
    (match s.running with
      | some name => name ++ ": ".toList
      | none => [])

def complain (text : Octets) : Work Unit := do
  let s ← get
  let _ ← write 2 (complaintStart s ++ text ++ ['\n'])

def fault (text : Octets) : Work α := do
  complain text
  setStatus 2
  stop .fault

def badNumber (text : Octets) : Work α := fault ("Illegal number: ".toList ++ text)

def assign (name : String) (value : Octets) : Work Unit := do
  let s ← get
  if s.isFixed name then fault (name.toList ++ ": is read only".toList)
  else modify fun s => s.assign name value

def files : Work FileSystem := lift (Task.browse id)

def changeFiles (change : FileSystem → Except FileError FileSystem) : Work (Except FileError Unit) := do
  let before ← lift (Task.browse fun files => (change files).toOption.getD files)
  return (change before).map fun _ => ()

end Work

end Clausal.Shell

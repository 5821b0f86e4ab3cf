import Clausal.Shell.Builtin.Bounds
import Clausal.Shell.Builtin.Folder
import Clausal.Shell.Builtin.Variables
import Clausal.Shell.Builtin.Signals
import Clausal.Shell.Builtin.Test
import Clausal.Shell.Lookup

/-!
# Running simple commands

Functions, built-in commands and programs are run with arguments that are expanded already.
-/

namespace Clausal.Shell

open Machine (Failure Task)
open Text (Octets)

namespace Work

/-! ## Programs -/

/-- How much of a file is looked at to see whether it is a text. -/
def glanceSize : Nat := 128

def isForeign (c : Char) : Bool :=
  let n := c.toNat
  n < 9 || 16 ≤ n && n ≤ 26 || 28 ≤ n && n ≤ 31 || n = 127

/-- Whether the first line of a file shows that it is no script. -/
def isBinary (files : FileSystem) (path : Path) : Bool :=
  match files.readBytes path with
  | .ok bytes =>
      let start := Text.Octets.ofBytes (bytes.extract 0 glanceSize).toList
      (start.takeWhile (· != '\n')).any isForeign
  | .error _ => false

/-- Becomes the program at a path.  A text that is no program is read by a shell. -/
def becomeAt (path : Path) (words : List Octets) : Work FileError := do
  let s ← get
  let environment := s.environment
  match ← lift (Task.exec path words environment) with
  | .file .notProgram =>
      if isBinary (← files) path then return .notProgram
      let shell := "/bin/sh".toList
      match ← lift (Task.exec ⟨shell⟩ (shell :: path.octets :: words.tail) environment) with
      | .file failure => return failure
      | _ => return .notProgram
  | .file failure => return failure
  | _ => return .notFound

def becomeProgram (words : List Octets) : Work α := do
  let s ← get
  let name := words.headD []
  let failure ← match s.programPath (← files) name with
    | .ok path => becomeAt path words
    | .error failure => pure failure
  complain (programComplaint name failure)
  setStatus (programStatus failure)
  stop .exit

/-- Runs a program and waits for its end, unless the shell has nothing else to do. -/
def runProgram (run : Run) (mode : Mode) (words : List Octets) : Work Nat := do
  let s ← get
  let name := words.headD []
  let found ← if name.contains '/' then pure none
    else do pure (s.programPath (← files) name).toOption.isNone
  match found with
  | some true =>
      match s.programPath (← files) name with
      | .error failure => complain (programComplaint name failure)
      | .ok _ => pure ()
      return 127
  | _ =>
      if mode.exits && !s.hasTraps then becomeProgram words
      else
        let _ ← makeRoom
        let id ← fork run (becomeProgram words)
        await [id]

/-! ## Functions -/

def leaveFrame : Work Unit :=
  modify fun s =>
    match s.locals with
    | [] => s
    | frame :: frames =>
        frame.bindings.foldl (fun s entry =>
          match entry.2 with
          | some v => s.setVariable entry.1 v
          | none => s.dropVariable entry.1)
          { s with locals := frames, options := frame.options.getD s.options }

def inFrame (work : Work α) : Work α := do
  modify fun s => { s with locals := .empty :: s.locals }
  let result ← attempt work
  leaveFrame
  ofExcept result

def callBound : Nat := 1000

def callFunction (run : Run) (mode : Mode) (body : Command) (arguments : List Octets) :
    Work Unit := do
  let before ← get
  if callBound ≤ before.calls then
    fault ("Maximum function recursion depth (".toList ++ (toString callBound).toList ++
      ") reached".toList)
  modify fun s => { s with arguments, scan := ⟨1, 0⟩, loops := 0, calls := s.calls + 1 }
  let result ← attempt (run mode.inner body)
  modify fun s => { s with
    arguments := before.arguments, scan := before.scan, loops := before.loops
    calls := before.calls }
  let _ ← ofExcept result

end Work

namespace Builtin

/-! ## Commands that jump -/

/-- How many loops to leave; no more than there are. -/
def loopCount (arguments : List Octets) : Work Nat := do
  let count ← match arguments with
    | [] => pure 1
    | count :: _ => do
        let value ← number count
        if value = 0 then Work.badNumber count else pure value
  return min count (← Work.get).loops

def break_ (arguments : List Octets) : Work (Nat × Flow) := do
  let count ← loopCount arguments
  return (0, if count = 0 then .next else .break_ count)

def continue_ (arguments : List Octets) : Work (Nat × Flow) := do
  let count ← loopCount arguments
  return (0, if count = 0 then .next else .continue_ count)

def return_ (arguments : List Octets) : Work (Nat × Flow) := do
  let status ← match arguments with
    | [] => pure (← Work.get).status
    | status :: _ => number status
  return (status, .return_)

def exit (arguments : List Octets) : Work (Nat × Flow) := do
  let s ← Work.get
  let status ← match arguments with
    | [] => pure (s.kept.getD s.status)
    | status :: _ => number status
  Work.modify fun s => { s with status, kept := some status }
  Work.stop .exit

/-! ## Commands that run others -/

def eval (run : Run) (mode : Mode) (arguments : List Octets) : Work (Nat × Flow) := do
  let flow ← Work.runText run mode.inner ([' '].intercalate arguments)
  return ((← Work.get).status, flow)

def scriptPath (s : Session) (files : FileSystem) (name : Octets) : Option Path :=
  if name.contains '/' then some ⟨name⟩
  else
    let paths := (Text.split (· = ':') s.searchPath).map fun folder =>
      (⟨if folder.isEmpty then name else folder ++ '/' :: name⟩ : Path)
    paths.find? fun path => (files.bodyAt? path).isSome

def source (run : Run) (arguments : List Octets) : Work (Nat × Flow) := do
  let (_, arguments) ← takeOptions [] arguments
  match arguments with
  | [] => return (0, .next)
  | name :: _ =>
      let files ← Work.files
      match scriptPath (← Work.get) files name with
      | none => Work.fault (name ++ ": not found".toList)
      | some path =>
          match files.readBytes path with
          | .error failure =>
              let reason := if failure = .notFound || failure = .notFolder then "No such file"
                else failure.reason
              Work.fault ("cannot open ".toList ++ name ++ ": ".toList ++ reason.toList)
          | .ok bytes =>
              Work.modify fun s => { s with running := some name }
              let flow ← Work.runFile run .plain (Text.Octets.ofBytes bytes.toList)
              return ((← Work.get).status, if flow = .return_ then .next else flow)

def exec (arguments : List Octets) : Work (Nat × Flow) := do
  let (_, arguments) ← takeOptions [] arguments
  if arguments.isEmpty then return (0, .next) else Work.becomeProgram arguments

/-! ## All of them -/

def test (words : List Octets) : Work Nat := do
  match Test.evaluate (← Work.files) words with
  | .ok value => return if value then 0 else 1
  | .error complaint => Work.fault complaint

def bracket (words : List Octets) : Work Nat := do
  if words.getLast?.any fun word => word.head? = some ']' then test words.dropLast
  else Work.fault "missing ]".toList

def carryOut (run : Run) (mode : Mode) (name : String) (arguments : List Octets) :
    Work (Nat × Flow) := do
  let plain (work : Work Nat) : Work (Nat × Flow) := return (← work, .next)
  match name with
  | "[" => plain (bracket arguments)
  | "test" => plain (test arguments)
  | "echo" => plain (echo arguments)
  | "printf" => plain (printf arguments)
  | "read" => plain (read arguments)
  | "shift" => plain (shift arguments)
  | "exit" => exit arguments
  | "return" => return_ arguments
  | "break" => break_ arguments
  | "continue" => continue_ arguments
  | "set" => plain (set arguments)
  | "export" => plain (export_ arguments)
  | "readonly" => plain (readonly arguments)
  | "local" => plain (local_ arguments)
  | "unset" => plain (unset arguments)
  | "eval" => eval run mode arguments
  | "." => source run arguments
  | "exec" => exec arguments
  | "trap" => plain (trap arguments)
  | "wait" => plain (wait arguments)
  | "kill" => plain (kill arguments)
  | "jobs" => plain (jobs arguments)
  | "cd" | "chdir" => plain (cd arguments)
  | "pwd" => plain (pwd arguments)
  | "command" => plain (command arguments)
  | "type" => plain (type_ arguments)
  | "getopts" => plain (getopts arguments)
  | "alias" => plain (alias_ arguments)
  | "unalias" => plain (unalias arguments)
  | "umask" => plain (umask arguments)
  | "ulimit" => plain (ulimit arguments)
  | "times" => plain (print "0m0.000000s 0m0.000000s\n0m0.000000s 0m0.000000s\n".toList)
  | "false" => return (1, .next)
  | "bg" | "fg" => plain (resume arguments)
  | _ => return (0, .next)

def call (run : Run) (mode : Mode) (isSpecial : Bool) (name : String)
    (arguments : List Octets) : Work Flow := do
  let before ← Work.get
  Work.modify fun s => { s with running := some name.toList }
  let result ← Work.attempt (carryOut run mode name arguments)
  Work.modify fun s => { s with running := before.running }
  match result with
  | .ok (status, flow) =>
      Work.setStatus status
      return flow
  | .error .fault => if isSpecial then Work.stop .fault else return .next
  | .error .exit => Work.stop .exit

end Builtin

end Clausal.Shell

import Clausal.Shell.Evaluation

/-!
# Starting a shell

A shell reads commands from a text among its arguments, from a script or from its input, and
ends with the status of the last of them.
-/

namespace Clausal.Shell

open Machine (Action Environment ProcessId Task)
open Text (Octets)

namespace Session

/-- A session with the names that it is given and those that every shell knows. -/
def start (name : Octets) (environment : Environment) (id parent : ProcessId)
    (folder : Octets) : Session :=
  let known : List (String × Octets) :=
    [("IFS", " \t\n".toList), ("OPTIND", ['1']), ("PS1", "$ ".toList), ("PS2", "> ".toList),
      ("PS4", "+ ".toList), ("PPID", Expansion.shown parent),
      ("PATH", Machine.Program.searchPath.toList)]
  let given := environment.filter fun entry =>
    Syntax.isName entry.1.toList && entry.1 != "IFS" && entry.1 != "PPID" && entry.1 != "PWD"
  let names := given.map Prod.fst
  { name
    arguments := []
    bindings := (given.map fun entry => (entry.1, ⟨some entry.2, true, false⟩)) ++
      ("PWD", ⟨some folder, true, false⟩) ::
      (known.filter fun entry => !names.contains entry.1).map fun entry =>
        (entry.1, ⟨some entry.2, false, false⟩)
    functions := []
    aliases := []
    locals := []
    status := 0
    options := .none
    traps := []
    pending := []
    jobs := []
    id
    folder
    lastJob := none
    scan := ⟨1, 0⟩
    line := 0
    running := none
    loops := 0
    calls := 0
    substituted := 0
    isCopy := false
    kept := none }

end Session

def depthBound : Nat := 100000

def run : Run := Work.evaluateTo depthBound

namespace Work

def readScript (descriptor : Nat) : Work Octets := do
  let octets ← lift (Action.readAll descriptor roundBound [])
  return octets.filter (· != '\x00')

def openScript (name : Octets) : Work Octets := do
  match ← lift (Task.openFile ⟨name⟩ .read) with
  | .ok descriptor =>
      let script ← readScript descriptor
      lift (Task.close descriptor)
      return script
  | .error failure => fault (Connection.openComplaint name .read failure)

def start (arguments : List Octets) : Work Unit := do
  let s ← get
  let found ← Builtin.readOptions ['c', 's', 'l'] arguments ⟨s.options, [], false, arguments⟩
  modify fun s => { s with options := found.options }
  let reads := found.letters.contains 's'
  match found.letters.contains 'c', found.arguments with
  | true, [] => fault "-c requires an argument".toList
  | true, text :: rest =>
      modify fun s => { s with name := rest.headD s.name, arguments := rest.tail, line := 1 }
      let _ ← runText run ⟨false, !reads⟩ text
  | false, arguments =>
      let script ←
        match reads, arguments with
        | false, name :: arguments =>
            let script ← openScript name
            modify fun s => { s with name, arguments }
            pure script
        | _, arguments =>
            modify fun s => { s with arguments, options.readsInput := true }
            readScript 0
      modify fun s => { s with line := 1 }
      let _ ← runFile run .plain script

end Work

/-- The path of the current folder: the one that is given if it leads there, or the one
without links. -/
def startFolder (files : FileSystem) (environment : Environment) : Octets :=
  let given := (environment.lookup "PWD").filter fun path =>
    path.head? = some '/' && (files.follow ⟨path⟩).toOption = some files.here
  given.getD (Builtin.herePath files)

def shell (arguments : List Octets) (environment : Environment) : Task :=
  .identify fun (id, parent) =>
    .browse (fun files => files) fun files =>
      let s := Session.start (arguments.headD "sh".toList) environment id parent
        (startFolder files environment)
      Work.start arguments.tail s (fun _ s => Work.finish run s) (fun _ s => Work.finish run s)

end Clausal.Shell

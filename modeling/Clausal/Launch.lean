import Clausal.Machine.Run
import Clausal.Shell.Start
import Clausal.Solver.Host
import Clausal.Utility.Armoring
import Clausal.Utility.Blocks
import Clausal.Utility.Calculation
import Clausal.Utility.Calendar
import Clausal.Utility.Checksum
import Clausal.Utility.Columns
import Clausal.Utility.Comparing
import Clausal.Utility.Dump
import Clausal.Utility.Editing.Run
import Clausal.Utility.Filtering
import Clausal.Utility.Facts
import Clausal.Utility.Finding
import Clausal.Utility.Leading
import Clausal.Utility.Listing
import Clausal.Utility.Making
import Clausal.Utility.Merge
import Clausal.Utility.Order
import Clausal.Utility.Owning
import Clausal.Utility.Portion
import Clausal.Utility.Records.Run
import Clausal.Utility.Room
import Clausal.Utility.Running
import Clausal.Utility.Sequence
import Clausal.Utility.Transfer.Commands
import Clausal.Utility.Transfer.Linking
import Clausal.Utility.Translate
import Clausal.Utility.Tree
import Clausal.Utility.Whole
import Clausal.Utility.Words

/-!
# A host of its own

The host is a machine with a shell and utilities, on which the solvers of scripts run.  Time
passes there as the processes spend it.
-/

namespace Clausal.Utility

def table : List (String × Tool) :=
  [("[", test "["), ("arch", fixedLine "arch" "x86_64"), ("awk", awk "awk"),
    ("base32", armored "base32" .base32), ("base64", armored "base64" .base64),
    ("basename", basename), ("basenc", basenc), ("cat", cat),
    ("chgrp", changeOwner "chgrp"), ("chmod", chmod),
    ("chown", changeOwner "chown"), ("cksum", cksum), ("cmp", cmp), ("comm", comm),
    ("cp", cp), ("cut", cut), ("date", date), ("dd", dd), ("diff", diff), ("dirname", dirname),
    ("dir", dir), ("du", du), ("echo", echo), ("egrep", grep [['-', 'E']]), ("env", env), ("expand", expand),
    ("expr", expr), ("factor", factor), ("false", false_), ("fgrep", grep [['-', 'F']]),
    ("find", find), ("fold", fold), ("grep", grep []), ("head", head),
    ("hostname", fixedLine "hostname" "localhost"), ("id", id_), ("install", install),
    ("join", join), ("kill", kill), ("link", link), ("ln", ln), ("ls", ls), ("mawk", awk "mawk"),
    ("md5sum", checksum "md5sum" "md5"), ("mkdir", mkdir), ("mkfifo", mkfifo), ("mknod", mknod),
    ("mktemp", mktemp), ("mv", mv), ("nawk", awk "nawk"), ("nice", nice), ("nl", nl),
    ("nohup", nohup), ("nproc", fixedLine "nproc" "4"), ("od", od), ("paste", paste),
    ("printenv", printenv), ("printf", printf), ("pwd", pwd), ("readlink", readlink),
    ("realpath", realpath), ("rev", rev), ("rm", rm), ("rmdir", rmdir), ("sed", sed),
    ("seq", seq), ("setsid", setsid), ("sha1sum", checksum "sha1sum" "sha1"),
    ("sha224sum", checksum "sha224sum" "sha224"), ("sha256sum", checksum "sha256sum" "sha256"),
    ("sha384sum", checksum "sha384sum" "sha384"), ("sha512sum", checksum "sha512sum" "sha512"),
    ("shuf", shuf), ("sleep", sleep), ("sort", sort), ("split", split), ("stat", stat),
    ("stdbuf", stdbuf), ("sum", sum), ("sync", true_), ("tac", tac), ("tail", tail),
    ("tee", tee), ("test", test "test"), ("timeout", timeout), ("touch", touch), ("tr", tr),
    ("true", true_), ("truncate", truncate), ("tsort", tsort), ("tty", tty), ("uname", uname),
    ("unexpand", unexpand), ("uniq", uniq), ("unlink", unlink), ("vdir", vdir), ("wc", wc), ("which", which),
    ("whoami", fixedLine "whoami" "root"), ("xargs", xargs), ("yes", yes)]

end Clausal.Utility

namespace Clausal.Launch

open Machine (Environment Load Program Task)
open Text (Octets)

def shellNames : List String := ["sh", "dash"]

def load : Load := fun name arguments environment =>
  if shellNames.contains name then some (Shell.shell arguments environment)
  else
    (Utility.table.lookup name).map fun tool => (tool arguments.tail environment).toTask

/-- Puts the machine's programs into a file system. -/
def install (files : FileSystem) : FileSystem :=
  Program.install (shellNames ++ Utility.table.map Prod.fst) files

def environment : Environment := [("PATH", Program.searchPath.toList)]

def stepBound : Nat := 300000000

def written (chunks : List Octets) : List UInt8 :=
  chunks.foldl (fun after chunk => chunk.foldr (fun c after => UInt8.ofNat c.toNat :: after) after) []

/-- The machine at a moment, with the file system as it is seen from outside. -/
def seenFrom (m : Machine) (files : FileSystem) (clock : Nat) : Machine :=
  { m with
    clock
    files := { m.files with here := files.here, mask := files.mask, moment := Machine.dated clock } }

/-- Starts a task and watches it up to a moment. -/
def childOf (before : Machine) (task : Task) (command : List Octets) (limit : Option Duration) :
    Child :=
  let deadline := limit.map fun span => before.clock + span.nanoseconds
  let m := Machine.run load Machine.isDone deadline stepBound (before.start task command)
  let since (moment : Nat) : Duration := ⟨moment - before.clock⟩
  let after :=
    if m.isDone then seenFrom m before.files m.clock
    else (seenFrom m before.files (deadline.getD m.clock)).killGroup
  { output := .ok (written m.output)
    closes := m.closes.map since
    exits := m.exits.map since
    machine := after }

/-- Starts a command; a text that holds a zero byte cannot be passed to a program.  A name
without a slash is looked for where programs are. -/
def launch (m : Machine) (command : Command) (limit : Option Duration) :
    Except String Child :=
  let words := command.program.octets :: command.arguments
  if words.any fun word => word.contains '\x00' then
    .error "nul byte found in provided data"
  else
    let path? : Except FileError Path :=
      if command.program.octets.contains '/' then .ok command.program
      else if command.program.octets = [] then .error .notFound
      else Program.search m.files Program.searchPath.toList command.program.octets
    let found := do Program.find m.files Program.scriptDepth (← path?) words
    match found with
    | .error failure => .error failure.message
    | .ok program =>
        match load program.name program.arguments environment with
        | none => .error FileError.notProgram.message
        | some task => .ok (childOf m task words limit)

/-- Lets the processes go on that still hold the error output. -/
def settle (m : Machine) : Machine :=
  let isSilent (m : Machine) : Bool := !m.isHeld fun channel => channel matches .errors _
  let after := Machine.run load isSilent none stepBound m
  seenFrom after m.files after.clock

def host : Host where
  launch
  timingName := .ofString "time_output.out"
  clock := .ofSeconds 1

end Clausal.Launch

import Clausal.Machine.State

/-!
# Opening, reading and writing

What requests on files and pipes do to the machine.  Nothing waits here: where a process has
to wait, there is no answer yet.
-/

namespace Clausal.Machine

open Text (Octets)

def ownNumber? (names : List Name) : Option Descriptor :=
  match names.map Text.Octets.toText with
  | ["dev", "stdin"] => some 0
  | ["dev", "stdout"] => some 1
  | ["dev", "stderr"] => some 2
  | ["dev", "fd", number] | ["proc", "self", "fd", number] => number.toNat?
  | _ => none

def ownText? (p : Process) (names : List Name) : Option Octets :=
  let program := (p.command.head?.getD []).reverse.takeWhile (· != '/')
  match names.map Text.Octets.toText with
  | ["proc", "self", "comm"] => some (program.reverse.take 15 ++ ['\n'])
  | ["proc", "self", "cmdline"] => some (p.command.flatMap fun word => word ++ ['\x00'])
  | _ => none

def spelled (path : Path) : List Name :=
  if path.isAbsolute then path.parts.filter (· != []) else []

/-- What opening a path gives: the file system afterwards and the channel, or the number of
a file that is a pipe. -/
def openChannel (files : FileSystem) (path : Path) (mode : OpenMode) :
    Except FileError (FileSystem × Channel) := do
  let names ←
    match mode with
    | .read => files.follow path
    | .create => files.locate false path
    | _ => files.followToFile path
  match files.node? names, mode with
  | some _, .create => throw .alreadyThere
  | some (.link _), _ => throw .tooManyLinks
  | some (.folder ..), .read => return (files, .folder)
  | some (.folder ..), _ => throw .isFolder
  | some (.file id), mode =>
      match (files.body id).device? with
      | some device => return (files, .device device)
      | none =>
          if mode = .write then
            return (files.modifyBody id fun body => body.resized files.moment 0, .file id)
          else return (files, .file id)
  | none, .read => throw .notFound
  | none, _ => return (files.placeFile names (files.freshBody names), .file files.bodies.size)

/-- The pipe behind a file that is a pipe, made if it is not there yet. -/
def namedPipe (m : Machine) (id : FileId) : Machine × Nat :=
  match m.named.lookup id with
  | some pipe => (m, pipe)
  | none =>
      let pipe := m.pipes.size
      ({ m with pipes := m.pipes.push .empty, named := (id, pipe) :: m.named }, pipe)

def addOpen (m : Machine) (p : Process) (file : OpenFile) :
    Machine × Process × Except Failure Descriptor :=
  let number := p.free 0
  if p.slotBound ≤ number then (m, p, .error (.file .tooManyOpen))
  else
    ({ m with openFiles := m.openFiles.push file },
      p.putSlot ⟨number, m.openFiles.size, false⟩, .ok number)

def openFor (m : Machine) (p : Process) (path : Path) (mode : OpenMode) (now : Nat) :
    Machine × Process × Except Failure Descriptor :=
  let names := spelled path
  match ownNumber? names, ownText? p names with
  | some source, _ =>
      match p.slot? source with
      | some slot =>
          let number := p.free 0
          (m, p.putSlot ⟨number, slot.file, false⟩, .ok number)
      | none => (m, p, .error (.file .notFound))
  | none, some text =>
      let id := m.files.bodies.size
      let body := FileBody.ofBytes (Text.Octets.toBytes text).toArray 0o444
      let m := m.mapFiles fun files => { files with bodies := files.bodies.push body }
      m.addOpen p ⟨.file id, 0, false, true, false⟩
  | none, none =>
      match openChannel (m.filesFor p now) path mode with
      | .error failure => (m, p, .error (.file failure))
      | .ok (files, channel) =>
          let m := { m with files }
          let reads := mode = .read || mode = .readWrite
          let writes := mode != .read
          match channel with
          | .file id =>
              match (m.files.body id).content with
              | .pipe =>
                  let (m, pipe) := m.namedPipe id
                  m.addOpen p ⟨.pipe pipe reads writes, 0, false, reads, writes⟩
              | _ => m.addOpen p ⟨channel, 0, mode = .append, reads, writes⟩
          | channel => m.addOpen p ⟨channel, 0, false, reads, writes⟩

def opened (file : OpenFile) : Opened :=
  match file.channel with
  | .file id => .file id file.offset
  | .folder => .folder
  | .device device => .device device
  | .output _ | .errors _ | .pipe .. => .pipe

def lineEnd (bytes : Array UInt8) : Nat → Nat → Nat
  | 0, start => start
  | rounds + 1, start =>
      match bytes[start]? with
      | some byte => if byte = 10 then start + 1 else lineEnd bytes rounds (start + 1)
      | none => start

def Amount.stop (amount : Amount) (bytes : Array UInt8) (start : Nat) : Nat :=
  match amount with
  | .upTo count => min bytes.size (start + count)
  | .line => lineEnd bytes (bytes.size - start) start

def octetsAt (bytes : Array UInt8) (start : Nat) : Nat → Octets → Octets
  | 0, after => after
  | count + 1, after =>
      octetsAt bytes start count (Char.ofNat ((bytes[start + count]?).getD 0).toNat :: after)

def randomOctets (offset count : Nat) : Octets :=
  (List.range count).map fun index =>
    let place := offset + index + 1
    Char.ofNat (place * 2654435761 % 4294967296 / 65536 % 256)

def Device.read (device : Device) (offset : Nat) (amount : Amount) : Octets :=
  let count :=
    match amount with
    | .upTo count => count
    | .line => Pipe.capacity
  match device with
  | .null => []
  | .zeros | .full => List.replicate count '\x00'
  | .random => randomOctets offset count

/-- Lets a process read from an open file, unless there is nothing yet. -/
def readFrom (m : Machine) (p : Process) (index : Nat) (amount : Amount) :
    Machine × Option (Except Failure Octets) :=
  match m.openFiles[index]? with
  | none => (m, some (.error .badDescriptor))
  | some file =>
      if !file.readable then (m, some (.error .badDescriptor))
      else
        match file.channel with
        | .file id =>
            let contents := (m.files.body id).bytes
            let stop := max file.offset (amount.stop contents file.offset)
            (m.moveTo index stop, some (.ok (octetsAt contents file.offset (stop - file.offset) [])))
        | .folder => (m, some (.error (.file .isFolder)))
        | .device device =>
            let octets := Device.read device file.offset amount
            (m.moveTo index (file.offset + octets.length), some (.ok octets))
        | .pipe pipe _ _ =>
            match m.pipes[pipe]? with
            | none => (m, some (.ok []))
            | some queue =>
                if 0 < queue.size then
                  let (octets, queue) := queue.take amount
                  (m.mapPipes fun pipes => pipes.modify pipe fun _ => queue, some (.ok octets))
                else if m.isHeld (Channel.isEnd pipe true) || m.holds (Channel.isEnd pipe true) p then (m, none)
                else (m, some (.ok []))
        | .output _ | .errors _ => (m, some (.ok []))

/-- What writing comes to. -/
inductive Written where
  | done
  | failed (failure : Failure)
  | notYet
  | unread
  | beyondLimit

def pushOctets (bytes : Array UInt8) (octets : Octets) : Array UInt8 :=
  octets.foldl (fun bytes c => bytes.push (UInt8.ofNat c.toNat)) bytes

def writeFile (m : Machine) (p : Process) (index : Nat) (file : OpenFile) (id : FileId)
    (octets : Octets) (now : Nat) : Machine × Written :=
  let offset := if file.appends then (m.files.body id).bytes.size else file.offset
  let bytes := pushOctets #[] octets
  let room := (p.limits.lookup 'f').join.map fun blocks => blocks * 512 - offset
  let isBeyond := room.any fun room => decide (room < bytes.size)
  let bytes := if isBeyond then bytes.extract 0 (room.getD 0) else bytes
  let m := m.mapFiles fun files =>
    match files with
    | ⟨root, bodies, here, mask, _⟩ =>
        FileSystem.writeAt ⟨root, bodies, here, mask, dated now⟩ id offset bytes
  (m.moveTo index (offset + bytes.size), if isBeyond then .beyondLimit else .done)

def writeTo (m : Machine) (p : Process) (index : Nat) (octets : Octets) (count now : Nat) :
    Machine × Written :=
  match m.openFiles[index]? with
  | none => (m, .failed .badDescriptor)
  | some file =>
      if !file.writable then (m, .failed .badDescriptor)
      else
        match file.channel with
        | .file id => m.writeFile p index file id octets now
        | .output launch =>
            (if launch = m.launch then { m with output := octets :: m.output } else m, .done)
        | .errors launch =>
            (if launch = m.launch then { m with errors := octets :: m.errors } else m, .done)
        | .device .full => (m, .failed .deviceFull)
        | .pipe pipe _ _ =>
            match m.pipes[pipe]? with
            | none => (m, .unread)
            | some queue =>
                if !m.isHeld (Channel.isEnd pipe false) && !m.holds (Channel.isEnd pipe false) p then (m, .unread)
                else if Pipe.capacity ≤ queue.size then (m, .notYet)
                else (m.mapPipes fun pipes => pipes.modify pipe (·.put octets count), .done)
        | .device _ | .folder => (m, .done)

end Clausal.Machine

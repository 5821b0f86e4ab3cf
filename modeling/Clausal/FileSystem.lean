import Clausal.Path
import Clausal.Text.Utf8

/-!
# File systems

A file system is a tree of folders, files and links with a current folder.  Names lead to
files, and a table holds what the files contain, so that a file that is open can be written to
whatever becomes of its name.  A path is followed part by part: an empty part or a dot stays,
two dots go up, a name goes down, and a link on the way is replaced by the path that it holds.
Every part but the last has to lead to a folder; the last may name what is not there yet.
-/

namespace Clausal

open Text (Octets)

inductive FileError where
  | notFound
  | notFolder
  | isFolder
  | alreadyThere
  /-- A folder that has to keep its name, such as a dot. -/
  | busy
  | notEmpty
  | notAllowed
  | notPermitted
  | nameTooLong
  | tooManyLinks
  | notProgram
  | invalid
  | tooLarge
  | tooManyOpen
  | invalidText
  | invalidName
  deriving DecidableEq, Repr

namespace FileError

def number? : FileError → Option Nat
  | notPermitted => some 1
  | notFound => some 2
  | notProgram => some 8
  | notAllowed => some 13
  | busy => some 16
  | alreadyThere => some 17
  | notFolder => some 20
  | isFolder => some 21
  | invalid => some 22
  | tooManyOpen => some 24
  | tooLarge => some 27
  | nameTooLong => some 36
  | notEmpty => some 39
  | tooManyLinks => some 40
  | invalidText => none
  | invalidName => none

def reason : FileError → String
  | notPermitted => "Operation not permitted"
  | notFound => "No such file or directory"
  | notProgram => "Exec format error"
  | notAllowed => "Permission denied"
  | busy => "Device or resource busy"
  | alreadyThere => "File exists"
  | notFolder => "Not a directory"
  | isFolder => "Is a directory"
  | invalid => "Invalid argument"
  | tooManyOpen => "Too many open files"
  | tooLarge => "File too large"
  | nameTooLong => "File name too long"
  | notEmpty => "Directory not empty"
  | tooManyLinks => "Too many levels of symbolic links"
  | invalidText => "stream did not contain valid UTF-8"
  | invalidName => "file name contained an unexpected NUL byte"

def message (failure : FileError) : String :=
  match failure.number? with
  | some number => s!"{failure.reason} (os error {number})"
  | none => failure.reason

end FileError

/-- Stands for a file, whatever names lead to it. -/
abbrev FileId := Nat

/-- What is known of a file or folder apart from what it holds. -/
structure Attributes where
  /-- Twelve bits: who may read, write and run it, and how it is run. -/
  mode : Nat
  changed : Int
  owner : Nat
  group : Nat
  deriving DecidableEq, Repr

namespace Attributes

/-- The attributes of what belongs to the first user and the first group. -/
def plain (mode : Nat) (changed : Int) : Attributes := ⟨mode, changed, 0, 0⟩

/-- Whether what is made in a folder belongs to the group of the folder. -/
def passesGroup (attributes : Attributes) : Bool := attributes.mode / 0o2000 % 2 = 1

end Attributes

inductive Node where
  | file (id : FileId)
  | folder (attributes : Attributes) (entries : List (Name × Node))
  | link (target : Path)

namespace Node

def isFolder : Node → Bool
  | folder .. => true
  | _ => false

def isFile : Node → Bool
  | file _ => true
  | _ => false

def find? : List Name → Node → Option Node
  | [], node => some node
  | _ :: _, file _ => none
  | _ :: _, link _ => none
  | name :: rest, folder _ entries => (entries.lookup name).bind (find? rest)

/-- Puts a node under a name, in the place of what was there. -/
def putEntry (name : Name) (node : Node) : List (Name × Node) → List (Name × Node)
  | [] => [(name, node)]
  | (other, old) :: rest =>
      if other = name then (name, node) :: rest else (other, old) :: putEntry name node rest

def dropEntry (name : Name) (entries : List (Name × Node)) : List (Name × Node) :=
  entries.filter fun entry => entry.1 != name

/-- What a folder is like that is made on the way to something. -/
def plainFolder : Attributes := .plain 0o755 0

/-- Changes what is at these names at a moment; folders that are missing on the way are
made. -/
def update (moment : Int) (change : Option Node → Option Node) : List Name → Node → Node
  | [], node => (change (some node)).getD node
  | _ :: _, file id => file id
  | _ :: _, link target => link target
  | [name], folder attributes entries =>
      let attributes := { attributes with changed := moment }
      match change (entries.lookup name) with
      | some node => folder attributes (putEntry name node entries)
      | none => folder attributes (dropEntry name entries)
  | name :: next :: rest, folder attributes entries =>
      let inner := (entries.lookup name).getD (folder { plainFolder with changed := moment } [])
      folder attributes (putEntry name (update moment change (next :: rest) inner) entries)

theorem lookup_putEntry (name : Name) (node : Node) (entries : List (Name × Node))
    (wanted : Name) :
    (putEntry name node entries).lookup wanted =
      if wanted = name then some node else entries.lookup wanted := by
  induction entries with
  | nil =>
      by_cases h : wanted = name
      · simp [putEntry, h]
      · have hb : (wanted == name) = false := by simpa using h
        simp [putEntry, List.lookup_cons, h, hb]
  | cons entry rest ih =>
      obtain ⟨other, old⟩ := entry
      by_cases ho : other = name
      · subst ho
        by_cases h : wanted = other
        · simp [putEntry, h]
        · have hb : (wanted == other) = false := by simpa using h
          simp [putEntry, List.lookup_cons, h, hb]
      · by_cases hw : wanted = other
        · subst hw
          simp [putEntry, ho]
        · have hb : (wanted == other) = false := by simpa using hw
          simp [putEntry, ho, List.lookup_cons, hb, ih]

end Node

/-- What stands behind a name that is no stored file. -/
inductive Device where
  | null
  | zeros
  /-- Holds zeros and takes nothing. -/
  | full
  | random
  deriving DecidableEq, Repr

inductive Content where
  | bytes (bytes : Array UInt8)
  | device (device : Device)
  | pipe
  deriving DecidableEq, Repr

/-- What a file holds. -/
structure FileBody where
  content : Content
  attributes : Attributes
  deriving DecidableEq, Repr

namespace FileBody

def none : FileBody := ⟨.bytes #[], .plain 0 0⟩

def ofBytes (bytes : Array UInt8) (mode : Nat) : FileBody := ⟨.bytes bytes, .plain mode 0⟩

def bytes (body : FileBody) : Array UInt8 :=
  match body.content with
  | .bytes bytes => bytes
  | _ => #[]

def mode (body : FileBody) : Nat := body.attributes.mode

def isExecutable (body : FileBody) : Bool := body.mode &&& 0o111 != 0

def device? (body : FileBody) : Option Device :=
  match body.content with
  | .device device => some device
  | _ => Option.none

def sizeLimit : Nat := 0x8000000

def isPlain (body : FileBody) : Bool := body.content matches .bytes _

/-- Puts bytes at an offset; a gap before them is filled with zeros. -/
def splice (old : Array UInt8) (offset : Nat) (bytes : Array UInt8) : Array UInt8 :=
  if offset = old.size then old ++ bytes
  else if old.size < offset then old ++ Array.replicate (offset - old.size) 0 ++ bytes
  else old.extract 0 offset ++ bytes ++ old.extract (offset + bytes.size) old.size

@[simp] theorem splice_size (old bytes : Array UInt8) : splice old old.size bytes = old ++ bytes := by
  simp [splice]

/-- The file with other bytes at an offset, at a moment; only a stored file changes. -/
def written (body : FileBody) (moment : Int) (offset : Nat) (added : Array UInt8) : FileBody :=
  match body with
  | ⟨.bytes old, ⟨mode, _, owner, group⟩⟩ =>
      ⟨.bytes (splice old offset added), ⟨mode, moment, owner, group⟩⟩
  | body => body

/-- The file cut or filled up to a size, at a moment. -/
def resized (body : FileBody) (moment : Int) (size : Nat) : FileBody :=
  match body with
  | ⟨.bytes old, ⟨mode, _, owner, group⟩⟩ =>
      ⟨.bytes (old.extract 0 size ++ Array.replicate (size - old.size) 0),
        ⟨mode, moment, owner, group⟩⟩
  | body => body

end FileBody

structure FileSystem where
  root : Node
  bodies : Array FileBody
  here : List Name
  mask : Nat
  moment : Int

/-- A file that is being written, and the place of the next byte. -/
structure FileHandle where
  id : FileId
  offset : Nat
  deriving DecidableEq, Repr

namespace FileSystem

def node? (fs : FileSystem) (names : List Name) : Option Node := fs.root.find? names

def body (fs : FileSystem) (id : FileId) : FileBody := (fs.bodies[id]?).getD .none

/-! ## Following paths -/

def nameLimit : Nat := 255

def pathLimit : Nat := 4095

def linkLimit : Nat := 40

/-- Follows parts from the place whose names are given last first.  Where a link stands, the
parts of its path come before the rest and `jump` goes on; a link at the end is left alone
unless it is asked for. -/
def followWith (fs : FileSystem) (throughLast : Bool)
    (jump : List Name → List Octets → Except FileError (List Name)) :
    List Name → List Octets → Except FileError (List Name)
  | place, [] => .ok place.reverse
  | place, part :: rest =>
      match fs.node? place.reverse with
      | none => .error .notFound
      | some (.file _) | some (.link _) => .error .notFolder
      | some (.folder ..) =>
          if part = [] ∨ part = ['.'] then fs.followWith throughLast jump place rest
          else if part = ['.', '.'] then fs.followWith throughLast jump place.tail rest
          else if nameLimit < part.length then .error .nameTooLong
          else
            match fs.node? (part :: place).reverse with
            | some (.link target) =>
                if rest = [] ∧ !throughLast then .ok (part :: place).reverse
                else jump (if target.isAbsolute then [] else place) (target.parts ++ rest)
            | _ => fs.followWith throughLast jump (part :: place) rest

def followLinks (fs : FileSystem) (throughLast : Bool) :
    Nat → List Name → List Octets → Except FileError (List Name)
  | 0 => fs.followWith throughLast fun _ _ => .error .tooManyLinks
  | links + 1 => fs.followWith throughLast (fs.followLinks throughLast links)

/-- The names from the root to where a path leads; whether a link at its end is replaced too
can be chosen. -/
def locate (fs : FileSystem) (throughLast : Bool) (path : Path) : Except FileError (List Name) :=
  if path.octets.contains '\x00' then .error .invalidName
  else if path.octets = [] then .error .notFound
  else if pathLimit < path.octets.length then .error .nameTooLong
  else
    fs.followLinks throughLast linkLimit (if path.isAbsolute then [] else fs.here.reverse) path.parts

def follow (fs : FileSystem) (path : Path) : Except FileError (List Name) := fs.locate true path

def get (fs : FileSystem) (path : Path) : Except FileError Node := do
  match fs.node? (← fs.follow path) with
  | some node => return node
  | none => throw .notFound

def getEntry (fs : FileSystem) (path : Path) : Except FileError Node := do
  match fs.node? (← fs.locate false path) with
  | some node => return node
  | none => throw .notFound

def contains (fs : FileSystem) (path : Path) : Bool := (fs.get path).isOk

def isFolder (fs : FileSystem) (path : Path) : Bool :=
  ((fs.get path).map Node.isFolder).toOption.getD false

def bodyAt? (fs : FileSystem) (path : Path) : Option FileBody :=
  match fs.get path with
  | .ok (.file id) => some (fs.body id)
  | _ => none

def isProgram (fs : FileSystem) (path : Path) : Bool :=
  (fs.bodyAt? path).any fun body => body.isPlain && body.isExecutable

/-! ## Reading -/

def readBytes (fs : FileSystem) (path : Path) : Except FileError (Array UInt8) := do
  match ← fs.get path with
  | .file id => return (fs.body id).bytes
  | .folder .. => throw .isFolder
  | .link _ => throw .notFound

def readText (fs : FileSystem) (path : Path) : Except FileError String := do
  match Text.decode? (← fs.readBytes path).toList with
  | some text => return text
  | none => throw .invalidText

def names (fs : FileSystem) (path : Path) : Except FileError (List Name) := do
  match ← fs.get path with
  | .folder _ entries => return (entries.map Prod.fst).mergeSort Octets.le
  | _ => throw .notFolder

/-! ## Writing -/

def updateAt (fs : FileSystem) (names : List Name) (change : Option Node → Option Node) :
    FileSystem :=
  { fs with root := fs.root.update fs.moment change names }

def modifyBody (fs : FileSystem) (id : FileId) (change : FileBody → FileBody) : FileSystem :=
  match fs with
  | ⟨root, bodies, here, mask, moment⟩ => ⟨root, bodies.modify id change, here, mask, moment⟩

def place (fs : FileSystem) (names : List Name) (node : Node) : FileSystem :=
  fs.updateAt names fun _ => some node

def placeFile (fs : FileSystem) (names : List Name) (body : FileBody) : FileSystem :=
  let fs := fs.place names (.file fs.bodies.size)
  { fs with bodies := fs.bodies.push { body with attributes := { body.attributes with changed := fs.moment } } }

/-- The attributes of what is made at these names now, where a mode is asked for. -/
def fresh (fs : FileSystem) (names : List Name) (isFolder : Bool) (mode : Nat) : Attributes :=
  let plain := Attributes.plain (mode - (mode &&& fs.mask)) fs.moment
  match fs.node? names.dropLast with
  | some (.folder above _) =>
      if above.passesGroup then
        { plain with
          mode := if isFolder then plain.mode ||| 0o2000 else plain.mode
          group := above.group }
      else plain
  | _ => plain

/-- Makes a folder at these names, unless there is something. -/
def placeFolder (fs : FileSystem) (names : List Name) : FileSystem :=
  fs.updateAt names fun old => some (old.getD (.folder (fs.fresh names true 0o777) []))

def freshBody (fs : FileSystem) (names : List Name) : FileBody :=
  ⟨.bytes #[], fs.fresh names false 0o666⟩

/-- Where a path leads to that a file may be made at; a slash at its end asks for a folder. -/
def followToFile (fs : FileSystem) (path : Path) : Except FileError (List Name) :=
  if path.withoutSlashes = path then fs.follow path
  else do
    let _ ← fs.follow path.withoutSlashes
    throw .isFolder

/-- Makes an empty file, or empties the file that is there. -/
def create (fs : FileSystem) (path : Path) : Except FileError (FileSystem × FileId) := do
  let names ← fs.followToFile path
  match fs.node? names with
  | some (.folder ..) => throw .isFolder
  | some (.link _) => throw .alreadyThere
  | some (.file id) => return (fs.modifyBody id fun body => body.resized fs.moment 0, id)
  | none => return (fs.placeFile names (fs.freshBody names), fs.bodies.size)

def writeAt (fs : FileSystem) (id : FileId) (offset : Nat) (bytes : Array UInt8) : FileSystem :=
  match fs with
  | ⟨root, bodies, here, mask, moment⟩ =>
      ⟨root, bodies.modify id fun body => body.written moment offset bytes, here, mask, moment⟩

def openNew (fs : FileSystem) (path : Path) : Except FileError (FileSystem × FileHandle) := do
  let (fs, id) ← fs.create path
  return (fs, ⟨id, 0⟩)

/-- Removes a file or a link; a path that names no such thing changes nothing. -/
def removeFile (fs : FileSystem) (path : Path) : FileSystem :=
  match fs.locate false path with
  | .error _ => fs
  | .ok names =>
      match fs.node? names with
      | some (.file _) | some (.link _) => fs.updateAt names fun _ => none
      | _ => fs

/-- A file system at a moment with nothing but the folders down to the current one. -/
def empty (moment : Int) (here : List Name) : FileSystem where
  root :=
    let folder : Node := .folder { Node.plainFolder with changed := moment } []
    folder.update moment (fun _ => some folder) here
  bodies := #[]
  here
  mask := 0o022
  moment

end FileSystem

end Clausal

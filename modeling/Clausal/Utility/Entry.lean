import Clausal.Machine.Account
import Clausal.Utility.Properties

/-!
# Entries

What is known of a file that was found: its kind, its size, its mode and who it belongs to.
-/

namespace Clausal.Utility

open Text (Octets)

/-- A name with what it stands for. -/
structure Entry where
  name : Octets
  place : List Name
  node : Node

namespace Entry

def attributes (fs : FileSystem) (e : Entry) : Attributes :=
  match e.node with
  | .file id => (fs.body id).attributes
  | .folder attributes _ => attributes
  | .link _ => .plain 0o777 fs.moment

/-- The letter of the kind of a file. -/
def letter (fs : FileSystem) (e : Entry) : Char :=
  match e.node with
  | .folder .. => 'd'
  | .link _ => 'l'
  | .file id =>
      match (fs.body id).content with
      | .bytes _ => '-'
      | .device _ => 'c'
      | .pipe => 'p'

def kind (fs : FileSystem) (e : Entry) : String :=
  if e.letter fs = 'c' then "character special file" else kindName fs e.node

def kindBits (fs : FileSystem) (e : Entry) : Nat :=
  match e.letter fs with
  | 'd' => 0o040000
  | 'l' => 0o120000
  | 'c' => 0o020000
  | 'p' => 0o010000
  | _ => 0o100000

def size (fs : FileSystem) (e : Entry) : Nat :=
  match e.node with
  | .folder .. => 4096
  | .link target => target.octets.length
  | .file id => (fs.body id).bytes.size

def blocks (fs : FileSystem) (e : Entry) : Nat :=
  match e.node with
  | .link _ => 0
  | _ => (e.size fs + 4095) / 4096 * 8

def linkCount (fs : FileSystem) (e : Entry) : Nat :=
  match e.node with
  | .folder _ entries => 2 + (entries.filter fun entry => entry.2.isFolder).length
  | .link _ => 1
  | .file id => FileSystem.countNames id fs.root

def target? (e : Entry) : Option Octets :=
  match e.node with
  | .link target => some target.octets
  | _ => none

def number (e : Entry) : Nat :=
  match e.node with
  | .file id => 1000 + 2 * id
  | _ => 1001 + 2 * (e.place.flatten.foldl (fun sum c => (sum * 31 + c.toNat) % 1000003) 7)

def modeText (fs : FileSystem) (e : Entry) : Octets :=
  e.letter fs :: Mode.shown (e.attributes fs).mode

def deviceNumbers? (fs : FileSystem) (e : Entry) : Option (Nat × Nat) :=
  match e.node with
  | .file id =>
      match (fs.body id).device? with
      | some .null => some (1, 3)
      | some .zeros => some (1, 5)
      | some .full => some (1, 7)
      | some .random => some (1, if e.place.getLast? = some "urandom".toList then 9 else 8)
      | none => none
  | _ => none

end Entry

/-- What a path names, or what it leads to. -/
def entry? (fs : FileSystem) (throughLink : Bool) (path : Octets) : Except FileError Entry := do
  let place ← fs.locate throughLink ⟨path⟩
  match fs.node? place with
  | some node => return ⟨path, place, node⟩
  | none => throw .notFound

end Clausal.Utility

import Clausal.FileSystem

/-!
# Changing the tree

Making and removing folders, and removing, moving and linking what names lead to.  A name is
removed without its file: the file stays for those who have it open.
-/

namespace Clausal.FileSystem

def makeFolder (fs : FileSystem) (path : Path) (mode : Nat) : Except FileError FileSystem := do
  let names ← fs.locate false path.withoutSlashes
  match fs.node? names with
  | some _ => throw .alreadyThere
  | none => return fs.place names (.folder (fs.fresh names true mode) [])

def lastPart? (path : Path) : Option (List Char) :=
  path.parts.reverse.find? fun part => !part.isEmpty

/-- Whether the last part of a path is no name of its own. -/
def endsInDots (path : Path) : Bool :=
  match lastPart? path with
  | some part => part = ['.'] || part = ['.', '.']
  | none => path.isAbsolute

def asksForFolder (path : Path) : Bool := path.withoutSlashes != path

def removeFolder (fs : FileSystem) (path : Path) : Except FileError FileSystem := do
  let names ← fs.locate false path.withoutSlashes
  match fs.node? names, lastPart? path with
  | none, _ => throw .notFound
  | some (.file _), _ | some (.link _), _ => throw .notFolder
  | some (.folder ..), none => throw .busy
  | some (.folder ..), some ['.'] => throw .invalid
  | some (.folder ..), some ['.', '.'] => throw .notEmpty
  | some (.folder _ []), _ => return fs.updateAt names fun _ => none
  | some (.folder ..), _ => throw .notEmpty

def unlink (fs : FileSystem) (path : Path) : Except FileError FileSystem := do
  let names ← fs.locate false path.withoutSlashes
  match fs.node? names with
  | none => throw .notFound
  | some (.folder ..) => throw .isFolder
  | some (.file _) | some (.link _) =>
      if asksForFolder path then throw .notFolder else return fs.updateAt names fun _ => none

/-- Gives what is at a path another path.  A file or link replaces another if that is wanted,
and a folder replaces a folder with nothing in it. -/
def rename (fs : FileSystem) (replaces : Bool) (source target : Path) :
    Except FileError FileSystem := do
  let old ← fs.locate false source.withoutSlashes
  let new ← fs.locate false target.withoutSlashes
  if endsInDots source then throw .busy
  if endsInDots target then throw (if replaces then .busy else .alreadyThere)
  match fs.node? old, fs.node? new with
  | none, _ => throw .notFound
  | some node, found =>
      let isFolder := node.isFolder
      let moved := (fs.updateAt old fun _ => none).place new node
      if found.isSome && !replaces then throw .alreadyThere
      else if !isFolder && (asksForFolder source || asksForFolder target) then throw .notFolder
      else if isFolder && old != new && old.isPrefixOf new then throw .invalid
      else if old != new && new.isPrefixOf old then throw .notEmpty
      else if old = new then return fs
      else
        match node, found with
        | .file id, some (.file other) => if id = other then return fs else return moved
        | .folder .., some (.folder _ (_ :: _)) => throw .notEmpty
        | .folder .., some (.file _) | .folder .., some (.link _) => throw .notFolder
        | .file _, some (.folder ..) | .link _, some (.folder ..) => throw .isFolder
        | _, _ => return moved

def locateNew (fs : FileSystem) (path : Path) : Except FileError (List Name) := do
  let names ← fs.locate false path.withoutSlashes
  if (fs.node? names).isSome then throw .alreadyThere
  else if asksForFolder path then throw .notFound
  else return names

def link (fs : FileSystem) (source target : Path) : Except FileError FileSystem := do
  let node ← fs.getEntry source
  let new ← fs.locateNew target
  if node.isFolder then throw .notPermitted else return fs.place new node

def linkTo (fs : FileSystem) (target path : Path) : Except FileError FileSystem := do
  if target.octets = [] then throw .notFound
  let names ← fs.locateNew path
  return fs.place names (.link target)

/-- Makes a file that holds no bytes of its own, where nothing is. -/
def makeSpecial (fs : FileSystem) (path : Path) (content : Content) (mode : Nat) :
    Except FileError FileSystem := do
  let names ← fs.locateNew path
  return fs.placeFile names ⟨content, fs.fresh names false mode⟩

/-- What is known of the file or folder at these names. -/
def attributesAt? (fs : FileSystem) (names : List Name) : Option Attributes :=
  match fs.node? names with
  | some (.file id) => some (fs.body id).attributes
  | some (.folder attributes _) => some attributes
  | some (.link _) => some (.plain 0o777 0)
  | none => none

/-- Changes what is known of the file or folder that a path leads to. -/
def changeAttributes (fs : FileSystem) (path : Path) (change : Attributes → Attributes) :
    Except FileError FileSystem := do
  let names ← fs.follow path
  match fs.node? names with
  | none | some (.link _) => throw .notFound
  | some (.file id) =>
      return fs.modifyBody id fun body => { body with attributes := change body.attributes }
  | some (.folder ..) =>
      return fs.updateAt names fun
        | some (.folder attributes entries) => some (.folder (change attributes) entries)
        | node => node

/-- How many names lead to a file at or below a node. -/
def countNames (id : FileId) : Node → Nat
  | .file other => if other = id then 1 else 0
  | .link _ => 0
  | .folder _ entries => countEntries id entries
where
  countEntries (id : FileId) : List (Name × Node) → Nat
    | [] => 0
    | (_, node) :: rest => countNames id node + countEntries id rest

end Clausal.FileSystem

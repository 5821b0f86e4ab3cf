import Clausal.FileSystem

/-!
# Finding instances

Every entry below a folder whose extension names a format is an instance, unless it is a
folder or a link to one.  Folders are searched to any depth, through links as far as paths
lead.  The result is in path order, so the order in which folders list their entries does not
show.
-/

namespace Clausal

def Path.asInstance (path : Path) : List Path := if path.format?.isSome then [path] else []

mutual

/-- The instances at or below a node, in the order of the folders' entries; `through` finds
those below a folder that a link leads to.  A folder that its path does not lead to, as where the
path is too long, is not searched. -/
def Node.instances (fs : FileSystem) (through : Path → List Path) (path : Path) :
    Node → List Path
  | .file _ => path.asInstance
  | .link _ => if fs.isFolder path then through path else path.asInstance
  | .folder _ entries =>
      if fs.isFolder path then entriesInstances fs through path entries else path.asInstance

def entriesInstances (fs : FileSystem) (through : Path → List Path) (path : Path) :
    List (Name × Node) → List Path
  | [] => []
  | (name, node) :: rest =>
      node.instances fs through (path.join ⟨name⟩) ++ entriesInstances fs through path rest

end

/-- The instances below a folder that a path leads to, with so many more links on the way. -/
def FileSystem.instancesThrough (fs : FileSystem) : Nat → Path → List Path
  | 0, _ => []
  | links + 1, path =>
      match fs.get path with
      | .ok (.folder _ entries) =>
          entriesInstances fs (fs.instancesThrough links) path entries
      | _ => []

def FileSystem.instances (fs : FileSystem) (folder : Path) : Except FileError (List Path) := do
  match ← fs.get folder with
  | .folder _ entries =>
      let through := fs.instancesThrough FileSystem.linkLimit
      return (entriesInstances fs through folder entries).mergeSort Path.le
  | _ => throw .notFolder

end Clausal

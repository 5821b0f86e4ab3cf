import Clausal.FileSystem

/-!
# Changes between trees

What has to be written and removed to make one tree of files into another.  Folders are not
listed: a file that is written brings its folders along.  Links are left out.
-/

namespace Clausal

/-- A file and the names that lead to it. -/
structure PlacedFile where
  names : List Name
  contents : Array UInt8
  deriving DecidableEq, Repr

mutual

/-- The files at or below a node that is itself at these names. -/
def Node.files (bodies : FileSystem) (names : List Name) : Node → List PlacedFile
  | .file id => if (bodies.body id).isPlain then [⟨names, (bodies.body id).bytes⟩] else []
  | .link _ => []
  | .folder _ entries => entriesFiles bodies names entries

def entriesFiles (bodies : FileSystem) (names : List Name) :
    List (Name × Node) → List PlacedFile
  | [] => []
  | (name, node) :: rest =>
      node.files bodies (names ++ [name]) ++ entriesFiles bodies names rest

end

def FileSystem.filesHere (fs : FileSystem) : List PlacedFile :=
  match fs.node? fs.here with
  | some node => node.files fs []
  | none => []

namespace PlacedFile

/-- The files of the second list that the first does not hold in the same way. -/
def written (old new : List PlacedFile) : List PlacedFile :=
  new.filter fun file => !old.contains file

def removed (old new : List PlacedFile) : List (List Name) :=
  (old.map names).filter fun names => !(new.map PlacedFile.names).contains names

@[simp] theorem written_self (files : List PlacedFile) : written files files = [] := by
  simp [written]

@[simp] theorem removed_self (files : List PlacedFile) : removed files files = [] := by
  simp [removed]

end PlacedFile

end Clausal

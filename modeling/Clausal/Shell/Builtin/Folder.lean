import Clausal.Shell.Builtin.Variables

/-!
# The current folder
-/

namespace Clausal.Shell

open Machine (Task)
open Text (Octets)

namespace Builtin

def herePath (files : FileSystem) : Octets :=
  '/' :: ['/'].intercalate files.here

def pathRoot : Octets → Octets
  | '/' :: '/' :: '/' :: _ => ['/']
  | '/' :: '/' :: _ => ['/', '/']
  | _ => ['/']

/-- Where a path leads from a folder when nothing but the texts is looked at: a step up takes
back the step before it. -/
def pathFrom (folder path : Octets) : Octets :=
  let isAbsolute := path.head? = some '/'
  let parts (text : Octets) : List Octets :=
    (Text.split (· = '/') text).filter fun part => !part.isEmpty
  let start := if isAbsolute then [] else parts folder
  let steps := (parts path).foldl (fun steps part =>
    if part = ['.'] then steps
    else if part = ['.', '.'] then steps.dropLast
    else steps ++ [part]) start
  (if isAbsolute then pathRoot path else pathRoot folder) ++ ['/'].intercalate steps

def asksPhysical (options : List Char) : Bool := options.getLast? = some 'P'

def pwd (arguments : List Octets) : Work Nat := do
  let (options, _) ← takeOptions ['L', 'P'] arguments
  let folder ← if asksPhysical options then pure (herePath (← Work.files))
    else pure (← Work.get).folder
  print (folder ++ ['\n'])

def isAnchored : Octets → Bool
  | '/' :: _ => true
  | ['.'] | '.' :: '/' :: _ | ['.', '.'] | '.' :: '.' :: '/' :: _ => true
  | _ => false

/-- The folder that a path leads to by way of the folders where folders are looked for, and
whether it is shown. -/
def folderOnPath? (files : FileSystem) (path target : Octets) : Option (Octets × Bool) :=
  let places := (Text.split (· = ':') path).map fun place =>
    if place.isEmpty then (target, false) else (place ++ '/' :: target, true)
  places.find? fun place => files.isFolder ⟨place.1⟩

def enter (physical : Bool) (path : Octets) : Work Bool := do
  let s ← Work.get
  let given := if physical then none else some (pathFrom s.folder path)
  match ← Work.lift (Task.enterFolder ⟨given.getD path⟩) with
  | .error _ => return false
  | .ok () =>
      let folder ← match given with
        | some folder => pure folder
        | none => pure (herePath (← Work.files))
      Work.modify fun s => { s with folder }
      change ("OLDPWD=".toList ++ s.folder) fun v => { v with exported := true }
      change ("PWD=".toList ++ folder) fun v => { v with exported := true }
      return true

def cd (arguments : List Octets) : Work Nat := do
  let (options, arguments) ← takeOptions ['L', 'P'] arguments
  let s ← Work.get
  let (target, shows) :=
    match arguments with
    | [] => ((s.value? "HOME").getD [], false)
    | ['-'] :: _ => ((s.value? "OLDPWD").getD [], true)
    | target :: _ => (target, false)
  let target := if target.isEmpty then ['.'] else target
  let byPath ← match isAnchored target, s.value? "CDPATH" with
    | false, some path => do pure (folderOnPath? (← Work.files) path target)
    | _, _ => pure none
  let (goal, isElsewhere) := byPath.getD (target, false)
  if ← enter (asksPhysical options) goal then
    if shows || isElsewhere then print ((← Work.get).folder ++ ['\n']) else return 0
  else Work.fault ("can't cd to ".toList ++ target)

end Builtin

end Clausal.Shell

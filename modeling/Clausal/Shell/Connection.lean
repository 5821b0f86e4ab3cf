import Clausal.Machine.Files
import Clausal.Shell.Expansion

/-!
# Connections

Redirections open files for a command and let its descriptors stand for them.  What they stood
for before is set aside, so that it can be brought back.
-/

namespace Clausal.Shell

open Machine (Descriptor Failure OpenMode Task)
open Text (Octets)

inductive Connection where
  | file (descriptor : Descriptor) (target : Octets) (mode : OpenMode) (keeps : Bool)
  | here (descriptor : Descriptor) (text : Octets)
  | duplicate (descriptor : Descriptor) (source : Option Descriptor)
  deriving DecidableEq, Repr

structure Saved where
  descriptor : Descriptor
  copy : Option Descriptor
  deriving DecidableEq, Repr

namespace Connection

def descriptor : Connection → Descriptor
  | file descriptor .. => descriptor
  | here descriptor _ => descriptor
  | duplicate descriptor _ => descriptor

def source (text : Octets) : Work (Option Descriptor) := do
  match text with
  | ['-'] => return none
  | [c] => if c.isDigit then return some (c.toNat - '0'.toNat) else bad
  | _ => bad
where
  bad : Work (Option Descriptor) := Work.fault "Syntax error: Bad fd number".toList

def ofRedirect (substitute : Command → Work Octets) (redirect : Redirect) : Work Connection := do
  let text (word : Word) : Work Octets := Expansion.single substitute .whole word
  match redirect with
  | .read descriptor target => return .file descriptor (← text target) .read false
  | .readWrite descriptor target => return .file descriptor (← text target) .readWrite false
  | .write descriptor target always =>
      let target ← text target
      return .file descriptor target .write ((← Work.get).options.keepsFiles && !always)
  | .append descriptor target => return .file descriptor (← text target) .append false
  | .here descriptor word => return .here descriptor (← Expansion.hereText substitute word)
  | .duplicate descriptor word => return .duplicate descriptor (← source (← text word))

def openComplaint (target : Octets) (mode : OpenMode) (failure : Failure) : Octets :=
  let isMissing := failure = .file .notFound || failure = .file .notFolder
  let (verb, missing) :=
    if mode = .read then ("open", "No such file") else ("create", "Directory nonexistent")
  "cannot ".toList ++ verb.toList ++ [' '] ++ target ++ ": ".toList ++
    (if isMissing then missing else failure.reason).toList

def leadsToFile (files : FileSystem) (path : Path) : Bool :=
  (files.bodyAt? path).any FileBody.isPlain

/-- Opens what a connection asks for; there may be nothing to open. -/
def openSource (connection : Connection) : Work (Except Octets (Option Descriptor)) := do
  match connection with
  | .file _ target mode keeps =>
      let path : Path := ⟨target⟩
      let isKept ← if keeps then pure (leadsToFile (← Work.files) path) else pure false
      if isKept then
        return .error (openComplaint target mode (.file .alreadyThere))
      else
        match ← Work.lift (Task.openFile path mode) with
        | .ok descriptor => return .ok (some descriptor)
        | .error failure => return .error (openComplaint target mode failure)
  | .here _ text =>
      let (reading, writing) ← Work.lift Task.pipe
      if !text.isEmpty then
        let _ ← Work.write writing text
      Work.lift (Task.close writing)
      return .ok (some reading)
  | .duplicate .. => return .ok none

/-- Sets aside what a descriptor stands for, unless that was done already. -/
def save (descriptor : Descriptor) (opened : Option Descriptor) (saved : List Saved) :
    Work (List Saved) := do
  if saved.any fun entry => entry.descriptor = descriptor then return saved
  else if opened = some descriptor then return ⟨descriptor, none⟩ :: saved
  else
    let copy ← Work.lift (Task.setAside descriptor)
    if copy.isSome then Work.lift (Task.close descriptor)
    return ⟨descriptor, copy⟩ :: saved

/-- Makes connections in order, up to the first that cannot be made.  The flag of the answer
says whether all were made. -/
def make (saves : Bool) : List Connection → List Saved → Work (List Saved × Bool)
  | [], saved => return (saved, true)
  | connection :: rest, saved => do
      match connection with
      | .duplicate descriptor source =>
          if source = some descriptor then make saves rest saved
          else
            let saved ← if saves then save descriptor none saved else pure saved
            match source with
            | none =>
                Work.lift (Task.close descriptor)
                make saves rest saved
            | some source =>
                if ← Work.lift (Task.duplicate source descriptor) then make saves rest saved
                else
                  Work.complain (Expansion.shown source ++ ": Bad file descriptor".toList)
                  return (saved, false)
      | connection =>
          match ← openSource connection with
          | .error complaint =>
              Work.complain complaint
              return (saved, false)
          | .ok opened =>
              let descriptor := connection.descriptor
              let saved ← if saves then save descriptor opened saved else pure saved
              match opened with
              | some found =>
                  if found != descriptor then
                    let _ ← Work.lift (Task.duplicate found descriptor)
                    Work.lift (Task.close found)
              | none => pure ()
              make saves rest saved

def undo (forgets : Bool) (saved : List Saved) : Work Unit :=
  saved.forM fun entry => do
    match entry.copy with
    | none => if !forgets then Work.lift (Task.close entry.descriptor)
    | some copy =>
        if !forgets then
          let _ ← Work.lift (Task.duplicate copy entry.descriptor)
        Work.lift (Task.close copy)

end Connection

end Clausal.Shell

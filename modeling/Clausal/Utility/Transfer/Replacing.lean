import Clausal.Utility.Transfer.Aim

/-!
# Putting things in the place of others

What is copied or moved can find something at its target.  Whether that is replaced depends on
options, on an answer, and on whether source and target are the same: a file must not be lost by
being put in its own place.
-/

namespace Clausal.Utility

open Machine (Action)
open Text (Octets)

/-! ## What is at a path -/

/-- What two paths to the same thing share: the file, or the place of a folder or link. -/
inductive Identity where
  | file (id : FileId)
  | place (names : List Name)
  deriving DecidableEq, Repr

structure Sight where
  identity : Identity
  place : List Name
  node : Node

namespace Sight

def of (fs : FileSystem) (follows : Bool) (path : Octets) : Except FileError Sight := do
  let names ← fs.locate follows ⟨path⟩
  match fs.node? names with
  | none => throw .notFound
  | some (.file id) => return ⟨.file id, names, .file id⟩
  | some node => return ⟨.place names, names, node⟩

def isFolder (s : Sight) : Bool := s.node.isFolder

def isLink (s : Sight) : Bool := s.node matches .link _

def isPlain (fs : FileSystem) (s : Sight) : Bool :=
  match s.node with
  | .file id => (fs.body id).isPlain
  | _ => false

def nameCount (fs : FileSystem) (s : Sight) : Nat :=
  match s.identity with
  | .file id => FileSystem.countNames id fs.root
  | .place _ => 1

def changed (fs : FileSystem) (s : Sight) : Int :=
  ((fs.attributesAt? s.place).map Attributes.changed).getD 0

end Sight

def placeOf? (fs : FileSystem) (path : Octets) : Option (List Name) :=
  (fs.locate false (Path.withoutSlashes ⟨path⟩)).toOption

def isSamePlace (fs : FileSystem) (source target : Octets) : Bool :=
  match placeOf? fs source, placeOf? fs target with
  | some a, some b => a == b
  | _, _ => false

/-! ## Options -/

inductive Following where
  | never
  | operands
  | always
  deriving DecidableEq, Repr

/-- What is done where something is already. -/
inductive Consent where
  | replaces | asks
  | refuses
  | skips
  deriving DecidableEq, Repr

structure Manner where
  name : String
  isMove : Bool
  following : Following
  isRecursive : Bool
  copiesContents : Bool
  linksHard : Bool
  linksSoft : Bool
  keepsMode : Bool
  keepsTimes : Bool
  keepsOwner : Bool
  keepsNames : Bool
  forgetsMode : Bool
  consent : Consent
  onlyNewer : Bool
  backup : Option Backup
  removesFirst : Bool
  removesOnFailure : Bool
  copiesNothing : Bool
  tells : Bool
  mode : Option (List Mode.Change)
  owner : Option Nat
  group : Option Nat
  deriving DecidableEq, Repr

namespace Manner

/-- Says what went wrong; the answer is that it did. -/
def refuse (m : Manner) (complaint : Octets) : Action Bool := do
  complain m.name complaint
  return false

/-- Whether source and target are apart, or the same without harm: that nothing is left to do
is the second answer. -/
def mayReplace (m : Manner) (fs : FileSystem) (source target : Octets) (s t : Sight) :
    Bool × Bool :=
  let isSame := s.identity = t.identity
  if isSame && m.linksHard then (true, true)
  else if m.following = .never then
    if s.isLink && t.isLink then (!isSamePlace fs source target, false)
    else apart s s t
  else if !isSame then (true, false)
  else
    match Sight.of fs false source, Sight.of fs false target with
    | .ok a, .ok b =>
        if a.isLink && b.isLink && m.removesFirst then (true, false) else apart s a b
    | _, _ => (true, false)
where
  apart (s a b : Sight) : Bool × Bool :=
    let isSame := a.identity = b.identity
    if m.backup.isSome then
      if isSame then (!isSamePlace fs source target, false)
      else (m.isMove || m.following = .never || !a.isLink || b.isLink, false)
    else if (m.isMove || m.removesFirst) && b.isLink then (true, false)
    else if (m.isMove || m.removesFirst) && isSame && 1 < b.nameCount fs &&
        !isSamePlace fs source target then (!m.isMove, false)
    else if !a.isLink && !b.isLink && a.identity != b.identity then (true, false)
    else if m.isMove && s.isLink && 1 < b.nameCount fs then
      ((fs.follow ⟨source⟩).toOption != placeOf? fs target, false)
    else if m.linksSoft && b.isLink then (true, false)
    else if m.following = .never then
      let behind (x : Sight) (path : Octets) : Option Identity :=
        if x.isLink then ((Sight.of fs true path).map Sight.identity).toOption
        else some x.identity
      match behind a source, behind b target with
      | some x, some y =>
          if x != y then (true, false) else if m.linksHard then (true, !b.isLink) else (false, false)
      | _, _ => (true, false)
    else (false, false)

def spares (m : Manner) (fs : FileSystem) (target : Octets) (s t : Sight) :
    Action (Option Bool) := do
  if m.onlyNewer && !s.isFolder && s.changed fs ≤ t.changed fs then return some true
  else if s.isFolder && !m.isMove then return none
  else
    match m.consent with
    | .replaces => return none
    | .skips => return some true
    | .refuses =>
        complain m.name ("not replacing ".toList ++ quoted target)
        return some false
    | .asks =>
        return if ← ask m.name ("overwrite ".toList ++ quoted target) then none else some false

end Manner

/-! ## Making room -/

inductive Verdict where
  | stop (isFine : Bool)
  | go (isNew : Bool) (backup : Option Octets)

/-- Files that were met already. -/
structure Record where
  isKept : Bool
  sources : List (Identity × Option (List Name))
  targets : List (List Name)
  copies : List (Identity × Octets)

abbrev Deed := StateT Record Action

namespace Deed

def lift (action : Action α) : Deed α := fun record => do return (← action, record)

def noteTarget (target : Octets) : Deed Unit := do
  if (← get).isKept then
    match placeOf? (← lift files) target with
    | some place => modify fun record => { record with targets := place :: record.targets }
    | none => pure ()

def isOwn (target : Octets) : Deed Bool := do
  let record ← get
  return record.isKept && ((placeOf? (← lift files) target).any record.targets.contains)

end Deed

namespace Manner

def keep (m : Manner) (backup : Backup) (source target : Octets) (s : Sight) :
    Action Verdict := do
  let fs ← files
  let isRisky := backup.kind != .numbered && lastPart source = lastPart target ++ backup.suffix &&
    ((Sight.of fs true ((Path.withoutSlashes ⟨target⟩).octets ++ backup.suffix)).toOption.any
      fun other => other.identity = s.identity)
  if isRisky then
    complain m.name ("backing up ".toList ++ quoted target ++ " might destroy source;  ".toList ++
      quoted source ++ (if m.isMove then " not moved" else " not copied").toList)
    return .stop false
  else
    let place := backup.place fs target
    match ← changeFiles fun files => files.rename true ⟨target⟩ ⟨place⟩ with
    | .ok () => return .go true (some place)
    | .error .notFound => return .go true none
    | .error failure =>
        let _ ← refuse m ("cannot backup ".toList ++ quoted target ++ ": ".toList ++
          failure.reason.toList)
        return .stop false

/-- Makes room where something is already. -/
def settle (m : Manner) (isOperand : Bool) (source target : Octets) (s t : Sight) :
    Deed Verdict := do
  let fs ← Deed.lift files
  let refuse (complaint : Octets) : Deed Verdict := do
    Deed.lift (complain m.name complaint)
    return .stop false
  let (isApart, isDone) :=
    if m.consent = .refuses || m.consent = .skips then (true, false)
    else m.mayReplace fs source target s t
  if !isApart then
    refuse (quoted source ++ " and ".toList ++ quoted target ++ " are the same file".toList)
  else
    match ← Deed.lift (m.spares fs target s t) with
    | some isFine => return .stop isFine
    | none =>
        let swaps := m.isMove && m.backup.isSome
        if isDone then return .stop true
        else if s.isFolder && !t.isFolder && !swaps then
          refuse ("cannot overwrite non-directory ".toList ++ quoted target ++
            " with directory ".toList ++ quoted source)
        else if isOperand && !t.isFolder && m.backup.all (fun b => b.kind != .numbered) &&
            (← Deed.isOwn target) then
          refuse ("will not overwrite just-created ".toList ++ quoted target ++
            " with ".toList ++ quoted source)
        else if !s.isFolder && t.isFolder && !swaps then
          refuse ("cannot overwrite directory ".toList ++ quoted target ++
            " with non-directory".toList)
        else
          let last := lastPart source
          let isDots := last = ['.'] || last = ['.', '.']
          match m.backup, !isDots && (m.isMove || !t.isFolder) with
          | some backup, true => Deed.lift (m.keep backup source target s)
          | _, _ =>
              let gives := m.removesFirst ||
                !m.copiesNothing && (m.keepsNames && 1 < t.nameCount fs ||
                  m.following = .never && !s.isPlain fs)
              if !t.isFolder && !m.isMove && gives then
                match ← Deed.lift (changeFiles fun files => files.unlink ⟨target⟩) with
                | .ok () =>
                    Deed.lift (narrate m.name m.tells ("removed ".toList ++ quoted target))
                    return .go true none
                | .error failure =>
                    refuse ("cannot remove ".toList ++ quoted target ++ ": ".toList ++
                      failure.reason.toList)
              else return .go false none

def undo (m : Manner) (backup : Option Octets) (target : Octets) : Action Unit := do
  match backup with
  | none => pure ()
  | some place =>
      match ← changeFiles fun files => files.rename true ⟨place⟩ ⟨target⟩ with
      | .ok () =>
          narrate m.name m.tells (quoted place ++ " -> ".toList ++ quoted target ++
            " (unbackup)".toList)
      | .error failure =>
          complain m.name ("cannot un-backup ".toList ++ quoted target ++ ": ".toList ++
            failure.reason.toList)

def announce (m : Manner) (before source target : Octets) (backup : Option Octets) :
    Action Unit :=
  narrate m.name m.tells (before ++ quoted source ++ " -> ".toList ++ quoted target ++
    match backup with
    | some place => " (backup: ".toList ++ quoted place ++ [')']
    | none => [])

end Manner

end Clausal.Utility

import Clausal.Utility.Transfer.Replacing

/-!
# Copying

Files are copied byte by byte, or get one more name, or a link to them is made.  Folders are
copied with all that is in them; a folder that is met in its own copy ends the copy.
-/

namespace Clausal.Utility

open Machine (Action Descriptor Failure Task)
open Text (Octets)

structure Outcome where
  isFine : Bool
  isInside : Bool
  hasMade : Bool
  deriving DecidableEq, Repr

inductive PourFailure where
  | reading (failure : Failure)
  | writing (failure : Failure)

def pour (source target : Descriptor) : Nat → Action (Option PourFailure)
  | 0 => return none
  | rounds + 1 => do
      match ← (Task.read source pieceSize : Action _) with
      | .ok [] => return none
      | .error failure => return some (.reading failure)
      | .ok octets =>
          match ← (Task.write target octets : Action _) with
          | .ok () => pour source target rounds
          | .error failure => return some (.writing failure)

def addName (fs : FileSystem) (follows replaces : Bool) (source target : Octets) :
    Except FileError FileSystem := do
  let node ← if follows then fs.get ⟨source⟩ else fs.getEntry ⟨source⟩
  if node.isFolder then throw .notPermitted
  match (fs.getEntry ⟨target⟩).toOption, replaces with
  | some (.folder ..), _ => throw .alreadyThere
  | some _, true => return (← fs.unlink ⟨target⟩).place (← fs.locate false ⟨target⟩) node
  | _, _ => return fs.place (← fs.locateNew ⟨target⟩) node

def makeLinkTo (fs : FileSystem) (replaces : Bool) (written target : Octets) :
    Except FileError FileSystem := do
  if written.isEmpty then throw .notFound
  match (fs.getEntry ⟨target⟩).toOption, replaces with
  | some (.folder ..), _ => throw .alreadyThere
  | some _, true => (← fs.unlink ⟨target⟩).linkTo ⟨written⟩ ⟨target⟩
  | _, _ => fs.linkTo ⟨written⟩ ⟨target⟩

namespace Manner

def refuseFor (m : Manner) (what : String) (path : Octets) (failure : Failure) : Action Bool :=
  m.refuse (withReason (what.toList ++ quoted path) failure)

def finish (m : Manner) (old : Attributes) (isNew isFolder : Bool) (target : Octets) :
    Action Unit := do
  let _ ← changeFiles fun files => files.changeAttributes ⟨target⟩ fun there =>
    let masked (mode : Nat) : Nat := Mode.without mode files.mask
    { mode :=
        match m.mode with
        | some changes => Mode.applyAll changes false 0 0
        | none =>
            let passed := if isFolder then there.mode &&& 0o2000 else 0
            if m.keepsMode then old.mode
            else if m.forgetsMode && (isNew || isFolder) then
              masked (if isFolder then 0o777 else 0o666) ||| passed
            else if isNew then masked (old.mode &&& if isFolder then 0o1777 else 0o777) ||| passed
            else there.mode
      changed := if m.keepsTimes then old.changed else there.changed
      owner := m.owner.getD (if m.keepsOwner then old.owner else there.owner)
      group := m.group.getD (if m.keepsOwner then old.group else there.group) }

/-- Whether a file has to be made to copy bytes into; none if it cannot be. -/
def prepare (m : Manner) (isNew : Bool) (target : Octets) : Action (Option Bool) := do
  let fs ← files
  let isNew? ←
    if isNew then pure (some true)
    else
      match fs.get ⟨target⟩ with
      | .ok _ => pure (some false)
      | .error .notFound => pure (some true)
      | .error failure =>
          if !m.removesOnFailure then
            let _ ← m.refuseFor "cannot create regular file " target (.file failure)
            pure none
          else
            match ← changeFiles fun files => files.unlink ⟨target⟩ with
            | .error failure =>
                let _ ← m.refuseFor "cannot remove " target (.file failure)
                pure none
            | .ok () =>
                narrate m.name m.tells ("removed ".toList ++ quoted target)
                pure (some true)
  if isNew? != some true then return isNew?
  else
    match ((← files).getEntry ⟨target⟩).toOption with
    | none => return some true
    | some (.link _) =>
        let _ ← m.refuse ("not writing through dangling symlink ".toList ++ quoted target)
        return none
    | some _ =>
        let _ ← m.refuseFor "cannot create regular file " target (.file .alreadyThere)
        return none

def copyBytes (m : Manner) (old : Attributes) (isNew : Bool) (source target : Octets) :
    Action Bool := do
  match ← (Task.openFile ⟨source⟩ .read : Action _) with
  | .error failure =>
      m.refuse (withReason ("cannot open ".toList ++ quoted source ++ " for reading".toList)
        failure)
  | .ok input =>
      let result ← do
        match ← m.prepare isNew target with
        | none => pure false
        | some isNew =>
            let how := if m.copiesNothing && !isNew then .append else .write
            match ← (Task.openFile ⟨target⟩ how : Action _) with
            | .error failure =>
                let isSlashed := failure = .file .isFolder && target.getLast? = some '/'
                m.refuseFor "cannot create regular file " target
                  (if isSlashed then .file .notFolder else failure)
            | .ok output =>
                let failure? ← if m.copiesNothing then pure none else pour input output roundBound
                Task.close output
                m.finish old isNew false target
                match failure? with
                | none => pure true
                | some (.reading failure) => m.refuseFor "error reading " source failure
                | some (.writing failure) => m.refuseFor "error writing " target failure
      Task.close input
      return result

def isHere (fs : FileSystem) (path : Octets) : Bool :=
  match fs.follow ⟨folderPart path⟩ with
  | .ok names => names = fs.here
  | .error _ => true

def copyPlain (m : Manner) (follows isNew : Bool) (s : Sight) (source target : Octets) :
    Action Bool := do
  let fs ← files
  let made (what : Octets) (result : Except FileError Unit) : Action Bool :=
    match result with
    | .ok () => return true
    | .error failure =>
        m.refuse (withReason ("cannot create ".toList ++ what) (.file failure))
  let special (what : String) (content : Content) (mode : Nat) (attributes : Attributes) :
      Action Bool := do
    let isMade ← made (what.toList ++ quoted target)
      (← changeFiles fun files => files.makeSpecial ⟨target⟩ content mode)
    if isMade then m.finish attributes true false target
    return isMade
  let pair (what : String) : Octets :=
    what.toList ++ quoted target ++ " to ".toList ++ quoted source
  if m.linksSoft then
    if source.head? != some '/' && !isHere fs target then
      m.refuse (shownName target ++
        ": can make relative symbolic links only in current directory".toList)
    else
      made (pair "symbolic link ")
        (← changeFiles fun files => makeLinkTo files m.removesOnFailure source target)
  else if m.linksHard then
    let replaces := m.removesOnFailure || m.consent = .asks
    made (pair "hard link ")
      (← changeFiles fun files => addName files follows replaces source target)
  else
    match s.node with
    | .folder .. => return true
    | .link written =>
        made ("symbolic link ".toList ++ quoted target)
          (← changeFiles fun files => makeLinkTo files m.removesOnFailure written.octets target)
    | .file id =>
        let body := fs.body id
        match m.copiesContents, body.content with
        | false, .pipe => special "fifo " .pipe body.mode body.attributes
        | false, .device device =>
            special "special file " (.device device) body.mode body.attributes
        | _, _ => m.copyBytes body.attributes isNew source target

end Manner

namespace Deed

/-- Where something has its first copy; notes the first copy of what has none yet. -/
def remember (identity : Identity) (target : Octets) : Deed (Option Octets) := do
  match (← get).copies.lookup identity with
  | some earlier => return some earlier
  | none =>
      modify fun record => { record with copies := (identity, target) :: record.copies }
      return none

def forget (identity : Identity) : Deed Unit :=
  modify fun record =>
    { record with copies := record.copies.filter fun entry => entry.1 != identity }

end Deed

def copyEach (step : Name → Deed Outcome) : List Name → Deed Outcome
  | [] => return ⟨true, false, false⟩
  | name :: rest => do
      let first ← step name
      if first.isInside then return first
      else
        let others ← copyEach step rest
        return ⟨first.isFine && others.isFine, others.isInside, first.hasMade || others.hasMade⟩

namespace Manner

def earlier? (m : Manner) (fs : FileSystem) (isOperand : Bool) (s : Sight) (target : Octets) :
    Deed (Option Octets) := do
  if s.isFolder then
    if isOperand then Deed.remember s.identity target
    else return (← get).copies.lookup s.identity
  else if m.keepsNames && !m.linksHard && (1 < s.nameCount fs || m.following = .always ||
      isOperand && m.following = .operands) then
    Deed.remember s.identity target
  else return none

/-- Handles something that has a copy already. -/
def repeatCopy (m : Manner) (follows isOperand : Bool) (top : Octets × Octets) (s : Sight)
    (source target earlier : Octets) : Deed (Option Outcome) := do
  let fs ← Deed.lift files
  let wrong (complaint : Octets) (isInside : Bool) : Deed (Option Outcome) := do
    Deed.lift (complain m.name complaint)
    return some ⟨false, isInside, false⟩
  if !s.isFolder then
    match ← Deed.lift (changeFiles fun files => addName files follows true earlier target) with
    | .ok () => return some ⟨true, false, false⟩
    | .error failure =>
        wrong ("cannot create hard link ".toList ++ quoted target ++ " to ".toList ++
          quoted earlier ++ ": ".toList ++ failure.reason.toList) false
  else if isSamePlace fs source earlier then
    wrong ("cannot copy a directory, ".toList ++ quoted top.1 ++ ", into itself, ".toList ++
      quoted top.2) true
  else if isSamePlace fs target earlier then
    Deed.lift (complain m.name ("warning: source directory ".toList ++ quoted top.1 ++
      " specified more than once".toList))
    return some ⟨true, false, false⟩
  else if m.following = .always || isOperand && m.following = .operands then return none
  else
    wrong ("will not create hard link ".toList ++ quoted target ++ " to directory ".toList ++
      quoted earlier) false

def copyNode : Nat → Manner → Bool → Octets × Octets → List Identity → Bool → Bool →
    Octets → Octets → Deed Outcome
  | 0, _, _, _, _, _, _, _, _ => return ⟨true, false, false⟩
  | depth + 1, m, isOperand, top, above, isFresh, hasMade, source, target => do
      let fs ← Deed.lift files
      let wrong (complaint : Octets) : Deed Outcome := do
        Deed.lift (complain m.name complaint)
        return ⟨false, false, hasMade⟩
      match Sight.of fs (m.following != .never) source with
      | .error failure =>
          wrong ("cannot stat ".toList ++ quoted source ++ ": ".toList ++ failure.reason.toList)
      | .ok s =>
          let follows := m.following = .always || isOperand && m.following = .operands
          if s.isFolder && !m.isRecursive then
            wrong ((if m.mode.isSome then "" else "-r not specified; ").toList ++
              "omitting directory ".toList ++ quoted source)
          else if isOperand && (← isRepeated m s source) then
            Deed.lift (complain m.name ("warning: source file ".toList ++ quoted source ++
              " specified more than once".toList))
            return ⟨true, false, hasMade⟩
          else
            let namesEntry := !s.isPlain fs && (!m.copiesContents || s.isFolder || s.isLink) ||
              m.linksSoft || m.linksHard || m.backup.isSome || m.removesFirst
            let verdict ←
              if isFresh then pure (.go true none)
              else
                match Sight.of fs (!namesEntry) target with
                | .ok t => m.settle isOperand source target s t
                | .error .notFound => pure (.go true none)
                | .error failure =>
                    if failure = .tooManyLinks && m.removesOnFailure then pure (.go false none)
                    else
                      let _ ← wrong ("cannot stat ".toList ++ quoted target ++ ": ".toList ++
                        failure.reason.toList)
                      pure (.stop false)
            match verdict with
            | .stop isFine => return ⟨isFine, false, hasMade⟩
            | .go isNew backup =>
                if isOperand && m.backup.isNone && (← isOwnLink target) then
                  wrong ("will not copy ".toList ++ quoted source ++
                    " through just-created symlink ".toList ++ quoted target)
                else
                  if !s.isFolder then Deed.lift (m.announce [] source target backup)
                  let earlier ← m.earlier? fs isOperand s target
                  let repeated ←
                    match earlier with
                    | some earlier => m.repeatCopy follows isOperand top s source target earlier
                    | none => pure none
                  let outcome ←
                    match repeated with
                    | some outcome => pure { outcome with hasMade }
                    | none =>
                        if !s.isFolder then do
                          let isFine ← Deed.lift (m.copyPlain follows isNew s source target)
                          pure ⟨isFine, false, hasMade⟩
                        else if above.contains s.identity then
                          wrong ("cannot copy cyclic symbolic link ".toList ++ quoted source)
                        else
                          let attributes := (fs.attributesAt? s.place).getD (.plain 0o755 0)
                          let made ← if !isNew then pure (.ok ())
                            else Deed.lift (changeFiles fun files => files.makeFolder ⟨target⟩ 0o777)
                          match made with
                          | .error failure =>
                              wrong ("cannot create directory ".toList ++ quoted target ++
                                ": ".toList ++ failure.reason.toList)
                          | .ok () =>
                              let hasMade ← if isNew then openFolder m hasMade source target
                                else pure hasMade
                              let below := if m.following = .operands then
                                  { m with following := .never }
                                else m
                              let outcome ← copyEach (fun name =>
                                copyNode depth below false top (s.identity :: above) isNew hasMade
                                  (entryOf source name) (entryOf target name))
                                (← entriesOf source)
                              Deed.lift (m.finish attributes isNew true target)
                              pure { outcome with hasMade := outcome.hasMade || hasMade }
                  if !outcome.isFine && !s.isFolder then
                    if earlier.isNone then Deed.forget s.identity
                    Deed.lift (m.undo backup target)
                  else if isOperand && repeated.isNone then Deed.noteTarget target
                  return outcome
where
  isRepeated (m : Manner) (s : Sight) (source : Octets) : Deed Bool := do
    let record ← get
    if !record.isKept then return false
    else
      let key := (s.identity, placeOf? (← Deed.lift files) source)
      if !s.isFolder && m.backup.isNone && record.sources.contains key then return true
      else
        set { record with sources := key :: record.sources }
        return false
  isOwnLink (target : Octets) : Deed Bool := do
    match ((← Deed.lift files).getEntry ⟨target⟩).toOption with
    | some (.link _) => Deed.isOwn target
    | _ => return false
  openFolder (m : Manner) (hasMade : Bool) (source target : Octets) : Deed Bool := do
    if !hasMade then
      match Sight.of (← Deed.lift files) false target with
      | .ok made =>
          let _ ← Deed.remember made.identity target
      | .error _ => pure ()
    Deed.lift (m.announce [] source target none)
    return true
  entriesOf (source : Octets) : Deed (List Name) := do
    match ((← Deed.lift files).get ⟨source⟩).toOption with
    | some (.folder _ entries) => return entries.map Prod.fst
    | _ => return []

def depthBound : Nat := 5000

def copy (m : Manner) (source target : Octets) : Deed Bool := do
  let outcome ← copyNode depthBound m true (source, target) [] false false source target
  return outcome.isFine

/-- Makes the folders that an operand names below a folder; the flag says whether they are
there. -/
def makeParents (m : Manner) (folder source : Octets) : Action Bool :=
  go [] ((Path.parts ⟨source⟩).dropLast)
where
  go (before : List Octets) : List Octets → Action Bool
    | [] => return true
    | part :: rest => do
        let before := before ++ [part]
        if part.isEmpty then go before rest
        else
          let from_ := ['/'].intercalate before
          let place := concatenate folder from_
          let fs ← files
          match fs.get ⟨place⟩, fs.get ⟨from_⟩ with
          | .ok (.folder ..), _ => go before rest
          | .ok _, _ => m.refuse (quoted place ++ " exists but is not a directory".toList)
          | .error _, .error failure =>
              m.refuseFor "failed to get attributes of " from_ (.file failure)
          | .error _, .ok (.folder attributes _) =>
              match ← changeFiles fun files => files.makeFolder ⟨place⟩ 0o777 with
              | .error failure => m.refuseFor "cannot make directory " place (.file failure)
              | .ok () =>
                  narrate m.name m.tells (from_ ++ " -> ".toList ++ place)
                  m.finish attributes true true place
                  go before rest
          | .error _, .ok _ =>
              m.refuseFor "failed to get attributes of " from_ (.file .notFolder)
  concatenate (folder path : Octets) : Octets :=
    if path.head? = some '/' then folder ++ path else entryOf folder path

end Manner

end Clausal.Utility

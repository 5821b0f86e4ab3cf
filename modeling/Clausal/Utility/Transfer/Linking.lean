import Clausal.Utility.Leading
import Clausal.Utility.Transfer.Copying

/-!
# Linking

`ln` gives files more names, or makes links that stand for paths.
-/

namespace Clausal.Utility

open Machine (Action Environment)
open Text (Octets)

structure Linking where
  isSymbolic : Bool
  follows : Bool
  isRelative : Bool
  triesFolders : Bool
  isForced : Bool
  asks : Bool
  backup : Option Backup
  tells : Bool

namespace Linking

def refuse (complaint : Octets) : Action Bool := do
  complain "ln" complaint
  return false

def attempt (l : Linking) (source target : Octets) : Action (Except FileError Unit) :=
  changeFiles fun files =>
    if l.isSymbolic then files.linkTo ⟨source⟩ ⟨target⟩
    else addName files l.follows false source target

def relative (fs : FileSystem) (source target : Octets) : Octets :=
  match canonical fs .none source, canonical fs .none (folderPart target) with
  | .ok place, .ok folder => relativePath folder place
  | _, _ => source

/-- Whether what is at the target may go; a complaint if it may not. -/
def clearance (l : Linking) (source target : Octets) (t : Sight) : Deed (Except Octets Unit) := do
  let fs ← Deed.lift files
  let matters := l.isForced || !l.isSymbolic && l.backup.isSome
  let isSame :=
    match Sight.of fs (l.isSymbolic || l.follows) source with
    | .ok s =>
        s.identity = t.identity && (s.nameCount fs = 1 || isSamePlace fs source target)
    | .error _ => false
  if t.isFolder then return .error (shownName target ++ ": cannot overwrite directory".toList)
  else if ← Deed.isOwn target then
    return .error ("will not overwrite just-created ".toList ++ quoted target ++
      " with ".toList ++ quoted source)
  else if matters && (l.backup.isNone || !l.isSymbolic) && isSame then
    return .error (quoted source ++ " and ".toList ++ quoted target ++
      " are the same file".toList)
  else return .ok ()

def complaint (l : Linking) (source target : Octets) (failure : FileError) : Octets :=
  let what :=
    if l.isSymbolic then
      "failed to create symbolic link ".toList ++ quoted target ++
        (if failure = .nameTooLong || source.isEmpty then " -> ".toList ++ quoted source else [])
    else
      "failed to create hard link ".toList ++ quoted target ++
        (if failure = .alreadyThere then [] else " => ".toList ++ quoted source)
  withReason what (.file failure)

def announce (l : Linking) (source target : Octets) (backup : Option Octets) : Action Unit :=
  narrate "ln" l.tells
    ((match backup with
      | some place => quoted place ++ " ~ ".toList
      | none => []) ++ quoted target ++ (if l.isSymbolic then " -> " else " => ").toList ++
      quoted source)

/-- Makes room for a link: whether something is replaced, and its backup; nothing if no link is
to be made. -/
def makeRoom (l : Linking) (isTaken : Bool) (source target : Octets) :
    Deed (Option (Bool × Option Octets)) := do
  let fs ← Deed.lift files
  if !l.isForced && !l.asks && l.backup.isNone then return some (false, none)
  else
    match Sight.of fs false target with
    | .error .notFound => return some (false, none)
    | .error failure =>
        let _ ← Deed.lift (refuse (withReason ("failed to access ".toList ++ quoted target)
          (.file failure)))
        return none
    | .ok t =>
        match ← l.clearance source target t with
        | .error complaint =>
            let _ ← Deed.lift (refuse complaint)
            return none
        | .ok () =>
            let isAllowed ← if isTaken && l.asks then Deed.lift (ask "ln" ("replace ".toList ++ quoted target))
              else pure true
            if !isAllowed then return none
            else
              match l.backup, isTaken with
              | some backup, true =>
                  let place := backup.place fs target
                  match ← Deed.lift (changeFiles fun files => files.rename true ⟨target⟩ ⟨place⟩) with
                  | .ok () => return some (true, some place)
                  | .error .notFound => return some (false, none)
                  | .error failure =>
                      let _ ← Deed.lift (refuse (withReason ("cannot backup ".toList ++
                        quoted target) (.file failure)))
                      return none
              | _, _ => return some (true, none)

/-- Makes a link; an attempt can have been made. -/
def make (l : Linking) (tried : Option (Except FileError Unit)) (source target : Octets) :
    Deed Bool := do
  let tried ←
    match tried with
    | some result => pure (some result)
    | none =>
        if l.isSymbolic && l.isRelative then pure none
        else some <$> Deed.lift (l.attempt source target)
  let fs ← Deed.lift files
  let seen := Sight.of fs l.follows source
  match tried, l.isSymbolic, seen with
  | some (.ok ()), _, _ => finish source none
  | _, false, .error failure =>
      Deed.lift (refuse (withReason ("failed to access ".toList ++ quoted source) (.file failure)))
  | _, isSymbolic, seen =>
      if !isSymbolic && !l.triesFolders && (seen.toOption.any Sight.isFolder) then
        Deed.lift (refuse (shownName source ++ ": hard link not allowed for directory".toList))
      else
        let written := if l.isRelative then relative fs source target else source
        let isTaken := match tried with
          | none | some (.error .alreadyThere) => true
          | _ => false
        match ← l.makeRoom isTaken written target with
        | none => return false
        | some (replaces, backup) =>
            let result ←
              match tried, isTaken with
              | some (.error failure), false => pure (.error failure)
              | _, _ =>
                  Deed.lift (changeFiles fun files =>
                    if isSymbolic then makeLinkTo files replaces written target
                    else addName files l.follows replaces source target)
            match result with
            | .ok () => finish written backup
            | .error failure =>
                Deed.lift (complain "ln" (l.complaint written target failure))
                match backup with
                | some place =>
                    let _ ← Deed.lift (changeFiles fun files => files.rename true ⟨place⟩ ⟨target⟩)
                | none => pure ()
                return false
where
  finish (written : Octets) (backup : Option Octets) : Deed Bool := do
    if !l.isSymbolic then Deed.noteTarget target
    Deed.lift (l.announce written target backup)
    return true

end Linking

def lnSwitches : List Switch :=
  Backup.switches ++ Aim.switches ++
    [.flag "s" "symbolic", .flag "f" "force", .flag "n" "no-dereference", .flag "v" "verbose",
      .flag "i" "interactive", .flag "r" "relative", .flag "L" "logical", .flag "P" "physical",
      .flag "d" "directory", .flag "F" ""]

def linkAim (l : Linking) (a : Arguments) :
    Action (Except AimFailure (Aim × Option (Except FileError Unit))) := do
  let fs ← files
  let isFolder (path : Octets) : Bool :=
    fs.isFolder ⟨path⟩ &&
      !(a.has "n" && ((fs.getEntry ⟨path⟩).toOption matches some (.link _)))
  let operands := a.operands
  match a.value? "t", a.has "T", operands with
  | _, _, [] => return .error ⟨"missing file operand".toList, true⟩
  | some _, true, _ =>
      return .error ⟨("cannot combine --target-directory and --no-target-directory").toList, false⟩
  | some folder, false, sources => return .ok (.into folder sources, none)
  | none, true, [source, target] => return .ok (.exactly source target, none)
  | none, true, [source] =>
      return .error ⟨"missing destination file operand after ".toList ++ quoted source, true⟩
  | none, true, _ :: _ :: extra :: _ => return .error ⟨"extra operand ".toList ++ quoted extra, true⟩
  | none, false, [source] => return .ok (.into ['.'] [source], none)
  | none, false, [source, target] =>
      let tried ← if l.isSymbolic && l.isRelative then pure none
        else some <$> l.attempt source target
      let looks := match tried with
        | none | some (.error .alreadyThere) | some (.error .notFolder)
        | some (.error .invalid) => true
        | _ => false
      if looks && isFolder target then return .ok (.into target [source], none)
      else return .ok (.exactly source target, tried)
  | none, false, operands =>
      let target := operands.getLast?.getD []
      if isFolder target then return .ok (.into target operands.dropLast, none)
      else
        return .error ⟨"target ".toList ++ quoted target ++ ": ".toList ++
          Aim.reasonFor fs target, false⟩

def targetComplaint? (fs : FileSystem) : List Octets → Option Octets
  | [] => none
  | folder :: rest =>
      match fs.get ⟨folder⟩ with
      | .error failure =>
          some (withReason ("failed to access ".toList ++ quoted folder) (.file failure))
      | .ok (.folder ..) =>
          if rest.isEmpty then none else some "multiple target directories specified".toList
      | .ok _ => some ("target ".toList ++ quoted folder ++ " is not a directory".toList)

def ln : Tool := fun arguments environment =>
  withArguments "ln" lnSwitches 1 arguments fun a => do
    match targetComplaint? (← files) (a.values "t") with
    | some complaint => fail "ln" complaint 1
    | none =>
        let l : Linking := {
          isSymbolic := a.has "s", follows := a.last? ["L", "P"] = some "L"
          isRelative := a.has "r"
          triesFolders := a.hasAny ["d", "F"]
          isForced := a.last? ["f", "i"] = some "f"
          asks := a.last? ["f", "i"] = some "i"
          backup := none, tells := a.has "v" }
        if a.operands.isEmpty then misuse "ln" "missing file operand".toList 1
        else if l.isRelative && !l.isSymbolic then
          fail "ln" "cannot do --relative without --symbolic".toList 1
        else
          match ← linkAim l a with
          | .error failure => failure.say "ln"
          | .ok (aim, tried) =>
              match ← Backup.read "ln" a environment with
              | .error () => return 1
              | .ok backup =>
                  let l := { l with backup }
                  let (pairs, isKept) : List (Octets × Octets) × Bool :=
                    match aim with
                    | .exactly source target => ([(source, target)], false)
                    | .into folder sources =>
                        (sources.map fun source => (source, placeIn folder source),
                          1 < sources.length && l.isForced && !l.isSymbolic &&
                            backup.all fun b => b.kind != .numbered)
                  let (results, _) ← (pairs.mapM fun (source, target) =>
                    l.make tried source target).run ⟨isKept, [], [], []⟩
                  return if results.all id then 0 else 1

def link : Tool := fun arguments _ =>
  withArguments "link" [] 1 arguments fun a =>
    withOperands "link" 2 a do
      match a.operands with
      | [source, target] => do
          match ← changeFiles fun files => files.link ⟨source⟩ ⟨target⟩ with
          | .ok () => return 0
          | .error failure =>
              fail "link" (withReason ("cannot create link ".toList ++ quoted target ++
                " to ".toList ++ quoted source) (.file failure)) 1
      | operands => extraOperand "link" (operands.getD 2 []) 1

end Clausal.Utility

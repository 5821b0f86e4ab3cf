import Clausal.Machine.Account
import Clausal.Utility.Properties

/-!
# Owners

Files belong to a user and to a group.  An owner is written as a name or a number, for both of
them with a colon between.
-/

namespace Clausal.Utility

open Machine (Account Action)
open Text (Octets)

/-- An owner that files are given, with the names it was called by. -/
structure Owner where
  user : Option Nat
  group : Option Nat
  userName : Option Octets
  groupName : Option Octets
  deriving DecidableEq, Repr

namespace Owner

def numberBound : Nat := 4294967295

def number? (octets : Octets) : Option Nat :=
  let octets := octets.dropWhile fun c => c = ' ' || ('\t' ≤ c && c ≤ '\x0d')
  (Text.readUnsigned? octets).filter fun n => n < numberBound

def userNumber? (name : Octets) : Option Nat :=
  match Account.named? name with
  | some account => some account.number
  | none => number? name

def groupNumber? (name : Octets) : Option Nat := (Account.groupNamed? name).or (number? name)

def readParts (user : Octets) (group? : Option Octets) : Except String Owner := do
  let hasGroup := group?.any fun group => !group.isEmpty
  let base : Owner ←
    if user.isEmpty then pure ⟨none, none, none, none⟩
    else
      match Account.named? user, group?.isSome && !hasGroup with
      | some account, true =>
          pure ⟨some account.number, some account.group, some user,
            some (Account.shownGroup account.group)⟩
      | some account, false => pure ⟨some account.number, none, some user, none⟩
      | none, true => throw "invalid spec"
      | none, false =>
          match number? user with
          | some number => pure ⟨some number, none, some (shown number), none⟩
          | none => throw "invalid user"
  match group?, hasGroup with
  | some group, true =>
      match Account.groupNamed? group, number? group with
      | some number, _ => return { base with group := some number, groupName := some group }
      | none, some number =>
          return { base with group := some number, groupName := some (shown number) }
      | none, none => throw "invalid group"
  | _, _ => return base

def splitAt (separator : Char) (octets : Octets) : Octets × Option Octets :=
  let (user, rest) := octets.span (· != separator)
  (user, if rest.isEmpty then none else some rest.tail)

/-- Reads an owner; the flag tells whether there was a dot for the colon. -/
def read (octets : Octets) : Except String (Owner × Bool) :=
  let (user, group?) := splitAt ':' octets
  match readParts user group?, splitAt '.' octets with
  | .ok owner, _ => .ok (owner, false)
  | .error complaint, (before, some after) =>
      if group?.isSome then .error complaint
      else
        match readParts before (some after) with
        | .ok owner => .ok (owner, true)
        | .error _ => .error complaint
  | .error complaint, _ => .error complaint

def joined (user group : Option Octets) : Octets :=
  match user, group with
  | some user, some group => user ++ ':' :: group
  | some user, none => user
  | none, group => group.getD []

/-- Gives attributes another owner; programs then run for who starts them. -/
def apply (o : Owner) (isFolder : Bool) (attributes : Attributes) : Attributes :=
  let mode := attributes.mode
  let lost := if isFolder then 0
    else if mode &&& 0o010 != 0 then 0o6000 else 0o4000
  { attributes with
    mode := Mode.without mode lost
    owner := o.user.getD attributes.owner
    group := o.group.getD attributes.group }

def holds (o : Owner) (attributes : Attributes) : Bool :=
  o.user.all (· == attributes.owner) && o.group.all (· == attributes.group)

/-- What came of an attempt to change an owner. -/
inductive Outcome where
  | changed | kept | failed
  deriving DecidableEq, Repr

def note (o : Owner) (outcome : Outcome) (path : Octets) (old : Option Attributes) : Octets :=
  let spec := joined o.userName o.groupName
  let what := if o.userName.isSome then "ownership of ".toList
    else if o.groupName.isSome then "group of ".toList else "ownership of ".toList
  let isNamed := o.userName.isSome || o.groupName.isSome
  let oldSpec? : Option Octets := old.bind fun old =>
    if isNamed then
      some (joined (o.userName.map fun _ => Account.shownUser old.owner)
        (o.groupName.map fun _ => Account.shownGroup old.group))
    else none
  let ending : Octets := match outcome, oldSpec? with
    | _, none => if isNamed then " to ".toList ++ spec else []
    | .kept, some oldSpec => " retained as ".toList ++ oldSpec
    | _, some oldSpec => " from ".toList ++ oldSpec ++ " to ".toList ++ spec
  match outcome, isNamed with
  | .changed, true => "changed ".toList ++ what ++ quoted path ++ ending
  | .changed, false => "no change to ownership of ".toList ++ quoted path
  | .kept, true => what ++ quoted path ++ ending
  | .kept, false => what ++ quoted path ++ " retained".toList
  | .failed, _ => "failed to change ".toList ++ what ++ quoted path ++ ending

end Owner

structure Handover where
  name : String
  owner : Owner
  required : Owner
  isRecursive : Bool
  throughOperands : Bool
  throughLinks : Bool
  changesReferents : Bool
  isSilent : Bool
  tells : Bool
  tellsChanges : Bool
  sparesRoot : Bool
  deriving DecidableEq, Repr

namespace Handover

def tell (h : Handover) (outcome : Owner.Outcome) (path : Octets) (old : Option Attributes) :
    Action Unit :=
  narrate h.name (h.tells || h.tellsChanges && outcome = .changed) (h.owner.note outcome path old)

def change (h : Handover) (path : Octets) (node : Node) : Action Bool := do
  let fs ← files
  let target : Except FileError Node := match node with
    | .link _ => if h.changesReferents then fs.get ⟨path⟩ else .ok node
    | node => .ok node
  match target with
  | .error failure =>
      if !h.isSilent then
        let _ ← refuse h.name "cannot dereference" path failure
      h.tell .failed path none
      return false
  | .ok target =>
      let old : Attributes := match target with
        | .file id => (fs.body id).attributes
        | .folder attributes _ => attributes
        | .link _ => .plain 0o777 fs.moment
      let isMeant := h.required.holds old
      if isMeant && !(target matches .link _) then
        let _ ← changeFiles fun files =>
          files.changeAttributes ⟨path⟩ (h.owner.apply target.isFolder)
      h.tell (if isMeant && !h.owner.holds old then .changed else .kept) path (some old)
      return true

def changeOperand (h : Handover) (file : Octets) : Action Bool := do
  let fs ← files
  match fs.getEntry ⟨file⟩ with
  | .error failure =>
      if !h.isSilent then
        let _ ← refuse h.name "cannot access" file failure
      h.tell .failed file none
      return false
  | .ok node =>
      if !h.isRecursive then h.change file node
      else
        let node := match node with
          | .link _ =>
              if h.throughOperands || h.throughLinks then (fs.get ⟨file⟩).toOption.getD node
              else node
          | node => node
        if h.sparesRoot && node.isFolder && isRoot fs file then
          warnOfRoot h.name file
          return false
        else
          let results ← (walk fs h.throughLinks true deepest [] file node).mapM
            fun (path, node) => h.change path node
          return results.all id

end Handover

def owningSwitches : List Switch :=
  [.flag "R" "recursive", .flag "c" "changes", .flag "deref" "dereference",
    .setting "from" "from", .flag "h" "no-dereference", .flag "no" "no-preserve-root",
    .flag "preserve" "preserve-root", .flag "f" "quiet", .flag "f" "silent",
    .setting "reference" "reference", .flag "v" "verbose", .flag "H" "", .flag "L" "",
    .flag "P" ""]

/-- What the first operand or another file says about the owner, or the status after a
complaint. -/
def chosenOwner (name : String) (a : Arguments) : Action (Except Nat Owner) := do
  let stop (complaint : Octets) : Action (Except Nat Owner) := do
    complain name complaint
    return .error 1
  match a.value? "reference", a.operands.headD [] with
  | some file, _ =>
      let fs ← files
      let found : Except FileError Attributes := do
        match fs.attributesAt? (← fs.follow ⟨file⟩) with
        | some attributes => return attributes
        | none => throw .notFound
      match found with
      | .ok old =>
          let group := some (Account.shownGroup old.group)
          return .ok (if name = "chgrp" then ⟨none, some old.group, none, group⟩
            else ⟨some old.owner, some old.group, some (Account.shownUser old.owner), group⟩)
      | .error failure =>
          stop ("failed to get attributes of ".toList ++ quoted file ++ ": ".toList ++
            failure.reason.toList)
  | none, text =>
      if name = "chgrp" then
        if text.isEmpty then return .ok ⟨none, none, none, none⟩
        else
          match Owner.groupNumber? text with
          | some number => return .ok ⟨none, some number, none, some text⟩
          | none => stop ("invalid group: ".toList ++ quoted text)
      else
        match Owner.read text with
        | .error complaint => stop ((complaint ++ ": ").toList ++ quoted text)
        | .ok (owner, hasDot) =>
            if hasDot then
              complain name ("warning: '.' should be ':': ".toList ++ quoted text)
            let isGroupOnly := owner.user.isNone && owner.groupName.any fun name =>
              (Account.groupNamed? name).isSome
            return .ok (if isGroupOnly then { owner with userName := some [] } else owner)

def changeOwner (name : String) : Tool := fun arguments _ =>
  let table := if name = "chgrp" then owningSwitches.filter fun s => s.key != "from"
    else owningSwitches
  withArguments name table 1 arguments fun a => do
    let from? := a.value? "from"
    match from?.map Owner.read with
    | some (.error complaint) =>
        fail name ((complaint ++ ": ").toList ++ quoted (from?.getD [])) 1
    | required? =>
        let required : Owner := match required? with
          | some (.ok (owner, _)) => owner
          | _ => ⟨none, none, none, none⟩
        let following := (a.last? ["H", "L", "P"]).getD "P"
        let dereference := a.last? ["h", "deref"]
        let hasReference := a.has "reference"
        if a.has "R" && following = "P" && dereference = some "deref" then
          fail name "-R --dereference requires either -H or -L".toList 1
        else if a.operands.isEmpty then misuse name "missing operand".toList 1
        else if a.operands.length = 1 && !hasReference then
          misuse name ("missing operand after ".toList ++ quoted (a.operands.headD [])) 1
        else
          match ← chosenOwner name a with
          | .error status => return status
          | .ok owner =>
              let telling := a.last? ["v", "c"]
              let h : Handover := {
                name, owner, required
                isRecursive := a.has "R"
                throughOperands := following = "H"
                throughLinks := following = "L"
                changesReferents := dereference != some "h" && !(a.has "R" && following = "P")
                isSilent := a.has "f"
                tells := telling = some "v"
                tellsChanges := telling = some "c"
                sparesRoot := a.last? ["no", "preserve"] = some "preserve" }
              forEachOperand (if hasReference then a.operands else a.operands.tail)
                h.changeOperand

/-! ## Who is asked about -/

def idSwitches : List Switch :=
  [.flag "u" "user", .flag "g" "group", .flag "G" "groups", .flag "n" "name", .flag "r" "real",
    .flag "z" "zero", .flag "a" "", .flag "Z" "context"]

def identityText (a : Arguments) (account : Account) : Octets :=
  let user := Account.shownUser account.number
  let group := Account.shownGroup account.group
  let both (number : Nat) (name : Octets) : Octets :=
    shown number ++ (if name = shown number then [] else '(' :: name ++ [')'])
  if a.has "u" then if a.has "n" then user else shown account.number
  else if a.hasAny ["g", "G"] then if a.has "n" then group else shown account.group
  else
    "uid=".toList ++ both account.number user ++ " gid=".toList ++ both account.group group ++
      " groups=".toList ++ both account.group group

def id_ : Tool := fun arguments _ =>
  withArguments "id" idSwitches 1 arguments fun a => do
    let stop (complaint : String) : Action Nat := fail "id" complaint.toList 1
    let only := ["u", "g", "G"].filter a.has
    if a.has "Z" then
      stop "--context (-Z) works only on an SELinux-enabled kernel"
    else if 1 < only.length then stop "cannot print \"only\" of more than one choice"
    else if only.isEmpty && a.hasAny ["r", "n"] then
      stop "cannot print only names or real IDs in default format"
    else if only.isEmpty && a.has "z" then stop "option --zero not permitted in default format"
    else
      let ending : Octets :=
        if !a.has "z" then ['\n']
        else if a.has "G" && 1 < a.operands.length then ['\x00', '\x00'] else ['\x00']
      let say (account : Account) : Action Bool := do
        return (← emit "id" (identityText a account ++ ending)) = 0
      if a.operands.isEmpty then
        match Account.all with
        | account :: _ => return if ← say account then 0 else 1
        | [] => return 1
      else
        forEachOperand a.operands fun name => do
          let known? := (Account.named? name).or ((Owner.number? name).bind Account.numbered?)
          match known? with
          | some account => say account
          | none =>
              complain "id" (quoted name ++ ": no such user".toList ++
                (if name.isEmpty then ": No such file or directory".toList else []))
              return false

end Clausal.Utility

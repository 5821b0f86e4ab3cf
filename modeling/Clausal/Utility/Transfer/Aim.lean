import Clausal.Utility.Keyword
import Clausal.Utility.Tree

/-!
# Where things are brought

Sources are brought to a target.  If the target is a folder, each source gets its own name in
it.
-/

/-!
## Backups

Before something is put in the place of a file, the file can be kept under another name: its
own with a suffix, or with a number that was not used yet.
-/

namespace Clausal.Utility

open Machine (Action Environment)
open Text (Octets)

inductive BackupKind where
  | simple
  /-- With a number only if there are backups with numbers already. -/
  | existing
  | numbered
  deriving DecidableEq, Repr

structure Backup where
  kind : BackupKind
  suffix : Octets
  deriving DecidableEq, Repr

namespace Backup

def switches : List Switch :=
  [.flag "b" "", .choice "backup" "backup", .setting "S" "suffix"]

def keyword (subject : String) : Keyword :=
  ⟨subject, [["none", "off"], ["simple", "never"], ["existing", "nil"], ["numbered", "t"]]⟩

/-- How a group of words makes backups; the first makes none. -/
def kindOf? : Nat → Option BackupKind
  | 0 => none
  | 1 => some .simple
  | 2 => some .existing
  | _ => some .numbered

def isAsked (a : Arguments) : Bool := a.hasAny ["b", "backup", "S"]

def suffixOf (a : Arguments) (environment : Environment) : Octets :=
  match (a.value? "S").or (environment.lookup "SIMPLE_BACKUP_SUFFIX") with
  | some suffix => if suffix.isEmpty || suffix.contains '/' then ['~'] else suffix
  | none => ['~']

/-- Which backups options and exported names ask for; a complaint if they make no sense. -/
def read (name : String) (a : Arguments) (environment : Environment) :
    Action (Except Unit (Option Backup)) := do
  if !isAsked a then return .ok none
  else
    let given := (a.values "backup").reverse.find? fun value => !value.isEmpty
    let (subject, word) : String × Octets :=
      match given, environment.lookup "VERSION_CONTROL" with
      | some word, _ => ("backup type", word)
      | none, some word => ("$VERSION_CONTROL", if word.isEmpty then "nil".toList else word)
      | none, none => ("backup type", "nil".toList)
    match ← (keyword subject).read name word with
    | none => return .error ()
    | some number =>
        return .ok ((kindOf? number).map fun kind => ⟨kind, suffixOf a environment⟩)

def numberOf? (base name : Octets) : Option Nat :=
  let start := base ++ ['.', '~']
  match (name.drop start.length).reverse with
  | '~' :: digits =>
      if start.isPrefixOf name && digits.getLast? != some '0' then Text.readDigits? digits.reverse
      else none
  | _ => none

def highest (fs : FileSystem) (file : Octets) : Nat :=
  let names := (fs.names ⟨folderPart file⟩).toOption.getD []
  (names.filterMap (numberOf? (lastPart file))).foldl max 0

def place (b : Backup) (fs : FileSystem) (file : Octets) : Octets :=
  let bare := (Path.withoutSlashes ⟨file⟩).octets
  let plain := bare ++ b.suffix
  let numbered := bare ++ ".~".toList ++ shown (highest fs file + 1) ++ ['~']
  match b.kind with
  | .simple => plain
  | .existing => if highest fs file = 0 then plain else numbered
  | .numbered => numbered

end Backup

end Clausal.Utility

namespace Clausal.Utility

open Machine (Action)
open Text (Octets)

inductive Aim where
  | into (folder : Octets) (sources : List Octets)
  | exactly (source target : Octets)

structure AimFailure where
  complaint : Octets
  suggests : Bool

namespace Aim

def switches : List Switch :=
  [.setting "t" "target-directory", .flag "T" "no-target-directory"]

def reasonFor (fs : FileSystem) (folder : Octets) : Octets :=
  match fs.get ⟨folder⟩ with
  | .ok _ => "Not a directory".toList
  | .error failure => failure.reason.toList

def ofLast (fs : FileSystem) (operands : List Octets) : Except AimFailure Aim :=
  let target := operands.getLast?.getD []
  match operands.dropLast with
  | sources@([source]) =>
      .ok (if fs.isFolder ⟨target⟩ then .into target sources else .exactly source target)
  | sources =>
      if fs.isFolder ⟨target⟩ then .ok (.into target sources)
      else
        .error ⟨"target ".toList ++ quoted target ++ ": ".toList ++ reasonFor fs target, false⟩

/-- The aim that options and operands say; the folder that an option names may be refused. -/
def read (fs : FileSystem) (a : Arguments) (refusal : Octets → Option Octets) :
    Except AimFailure Aim := do
  if 1 < (a.values "t").length then
    throw ⟨"multiple target directories specified".toList, false⟩
  match a.value? "t", a.operands with
  | _, [] => throw ⟨"missing file operand".toList, true⟩
  | none, [only] =>
      throw ⟨"missing destination file operand after ".toList ++ quoted only, true⟩
  | some folder, operands =>
      if a.has "T" then
        throw ⟨("cannot combine --target-directory (-t) and " ++
          "--no-target-directory (-T)").toList, false⟩
      match refusal folder with
      | some complaint => throw ⟨complaint, false⟩
      | none => return .into folder operands
  | none, source :: target :: others =>
      if !a.has "T" then ofLast fs (source :: target :: others)
      else
        match others with
        | [] => return .exactly source target
        | extra :: _ => throw ⟨"extra operand ".toList ++ quoted extra, true⟩

def refusal (what : String) (fs : FileSystem) (folder : Octets) : Option Octets :=
  if fs.isFolder ⟨folder⟩ then none
  else some (what.toList ++ quoted folder ++ ": ".toList ++ reasonFor fs folder)

end Aim

def AimFailure.say (f : AimFailure) (name : String) : Action Nat :=
  if f.suggests then misuse name f.complaint 1 else fail name f.complaint 1

def placeIn (folder source : Octets) : Octets := entryOf folder (lastPart source)

end Clausal.Utility

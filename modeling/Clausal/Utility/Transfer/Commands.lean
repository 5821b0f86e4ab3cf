import Clausal.Utility.Owning
import Clausal.Utility.Transfer.Copying

/-!
# Commands that copy and move

`cp` and `mv` bring operands to a target, and `install` does so with a mode of its own.
-/

namespace Clausal.Utility

open Machine (Action Environment)
open Text (Octets)

def bring (aim : Aim) (work : Bool → Octets → Octets → Deed Bool) : Action Nat := do
  let (sources, isKept) : List (Octets × Octets) × Bool :=
    match aim with
    | .exactly source target => ([(source, target)], false)
    | .into folder sources =>
        (sources.map fun source =>
          let last := lastPart source
          (source, entryOf folder (if last = ['.', '.'] then ['.'] else last)), 1 < sources.length)
  let (results, _) ← (sources.mapM fun (source, target) => work isKept source target).run
    ⟨isKept, [], [], []⟩
  return if results.all id then 0 else 1

def updateKeyword : Keyword := ⟨"--update", [["all"], ["none"], ["older"]]⟩

/-- What an option changes about what is done where something is already. -/
def readConsent (m : Manner) (option : String × Octets) : Action (Option Manner) := do
  match option with
  | ("i", _) => return some { m with consent := .asks }
  | ("f", _) => return some (if m.isMove then { m with consent := .replaces } else m)
  | ("n", _) =>
      if m.isMove then return some { m with consent := .refuses }
      else
        complain m.name ("warning: behavior of -n is non-portable and may change in future; " ++
          "use --update=none instead").toList
        return some { m with consent := .skips }
  | ("u", []) => return some { m with onlyNewer := true }
  | ("u", value) =>
      if m.consent = .refuses then return some m
      else
        match ← updateKeyword.read m.name value with
        | none => return none
        | some 0 => return some { m with onlyNewer := false, consent := .replaces }
        | some 1 => return some { m with onlyNewer := false, consent := .skips }
        | some _ => return some { m with onlyNewer := true, consent := .replaces }
  | _ => return some m

def plainManner (name : String) : Manner where
  name := name
  isMove := false
  following := .always
  isRecursive := false
  copiesContents := true
  linksHard := false
  linksSoft := false
  keepsMode := false
  keepsTimes := false
  keepsOwner := false
  keepsNames := false
  forgetsMode := false
  consent := .replaces
  onlyNewer := false
  backup := none
  removesFirst := false
  removesOnFailure := false
  copiesNothing := false
  tells := false
  mode := none
  owner := none
  group := none

/-! ## Copying -/

def preserved (isKept : Bool) : Keyword :=
  ⟨if isKept then "--preserve" else "--no-preserve",
    [["mode"], ["timestamps"], ["ownership"], ["links"], ["context"], ["xattr"], ["all"]]⟩

def readPreserved (isKept : Bool) : List Octets → Manner → Action (Option Manner)
  | [], m => return some m
  | word :: rest, m => do
      match ← (preserved isKept).read m.name word with
      | none => return none
      | some 0 =>
          readPreserved isKept rest { m with keepsMode := isKept, forgetsMode := !isKept }
      | some 1 => readPreserved isKept rest { m with keepsTimes := isKept }
      | some 2 => readPreserved isKept rest { m with keepsOwner := isKept }
      | some 3 => readPreserved isKept rest { m with keepsNames := isKept }
      | some 4 =>
          if isKept then
            complain m.name
              "cannot preserve security context without an SELinux-enabled kernel".toList
            return none
          else readPreserved isKept rest m
      | some 6 =>
          readPreserved isKept rest { m with
            keepsMode := isKept, keepsTimes := isKept, keepsOwner := isKept
            keepsNames := isKept, forgetsMode := !isKept }
      | some _ => readPreserved isKept rest m

def cpSwitches : List Switch :=
  Backup.switches ++ Aim.switches ++
    [.flag "r" "recursive", .flag "R" "", .flag "a" "archive", .flag "f" "force", .flag "p" "",
      .choice "preserve" "preserve", .setting "nopreserve" "no-preserve", .flag "i" "interactive",
      .flag "n" "no-clobber", .flag "v" "verbose", .flag "u" "", .choice "u" "update", .flag "d" "",
      .flag "P" "no-dereference", .flag "L" "dereference", .flag "H" "", .flag "l" "link",
      .flag "s" "symbolic-link", .flag "parents" "parents",
      .flag "removefirst" "remove-destination", .flag "x" "one-file-system",
      .choice "reflink" "reflink", .setting "sparse" "sparse", .flag "debug" "debug",
      .flag "attributes" "attributes-only", .flag "contents" "copy-contents",
      .flag "strip" "strip-trailing-slashes", .flag "Z" "", .choice "context" "context"]

def readCopying (m : Manner) (option : String × Octets) : Action (Option Manner) := do
  match option with
  | ("r", _) | ("R", _) => return some { m with isRecursive := true }
  | ("a", _) =>
      return some { m with
        isRecursive := true, following := .never, keepsMode := true, keepsTimes := true
        keepsOwner := true, keepsNames := true }
  | ("p", _) | ("preserve", []) =>
      return some { m with keepsMode := true, keepsTimes := true, keepsOwner := true }
  | ("preserve", words) => readPreserved true (Text.split (· = ',') words) m
  | ("nopreserve", words) => readPreserved false (Text.split (· = ',') words) m
  | ("d", _) => return some { m with keepsNames := true, following := .never }
  | ("P", _) => return some { m with following := .never }
  | ("L", _) => return some { m with following := .always }
  | ("H", _) => return some { m with following := .operands }
  | ("l", _) => return some { m with linksHard := true }
  | ("s", _) => return some { m with linksSoft := true }
  | ("f", _) => return some { m with removesOnFailure := true }
  | ("removefirst", _) => return some { m with removesFirst := true }
  | ("attributes", _) => return some { m with copiesNothing := true }
  | ("v", _) | ("debug", _) => return some { m with tells := true }
  | ("context", _ :: _) =>
      complain m.name "warning: ignoring --context; it requires an SELinux-enabled kernel".toList
      return some m
  | ("reflink", word@(_ :: _)) =>
      let found ← (Keyword.mk "--reflink" [["auto"], ["always"], ["never"]]).read m.name word
      return found.map fun _ => m
  | ("sparse", word) =>
      let found ← (Keyword.mk "--sparse" [["never"], ["auto"], ["always"]]).read m.name word
      return found.map fun _ => m
  | option => readConsent m option

def copyOperands (m : Manner) (a : Arguments) (aim : Aim) : Action Nat := do
  let strip (source : Octets) : Octets :=
    if a.has "strip" then (Path.withoutSlashes ⟨source⟩).octets else source
  match aim with
  | .exactly source target =>
      let fs ← files
      match m.backup with
      | some backup =>
          if a.has "f" && source = target && (fs.bodyAt? ⟨target⟩).any FileBody.isPlain then
            bring (.exactly source (backup.place fs target)) fun _ source target =>
              Manner.copy { m with backup := none } source target
          else bring aim fun _ => m.copy
      | none => bring aim fun _ => m.copy
  | .into folder sources =>
      bring (.into folder (sources.map strip)) fun _ source target => do
        if !a.has "parents" then m.copy source target
        else
          let bare := (Path.withoutSlashes ⟨source⟩).octets
          if ← Deed.lift (m.makeParents folder bare) then
            m.copy source (Manner.makeParents.concatenate folder bare)
          else return false

def cp : Tool := fun arguments environment =>
  withArguments "cp" cpSwitches 1 arguments fun a => do
    match ← readOptions readCopying a.options (plainManner "cp") with
    | none => return 1
    | some m =>
        if m.linksHard && m.linksSoft then
          misuse "cp" "cannot make both hard and symbolic links".toList 1
        else if (a.value? "reflink").any (fun word => word.isEmpty || "always".toList.isPrefixOf word) &&
            (a.value? "sparse").any (fun word => !word.isPrefixOf "auto".toList) then
          misuse "cp" "--reflink can be used only with --sparse=auto".toList 1
        else
          match ← Backup.read "cp" a environment with
          | .error () => return 1
          | .ok backup =>
              let chooses := a.hasAny ["a", "d", "P", "L", "H"]
              let m := { m with
                backup
                onlyNewer := m.onlyNewer && m.consent != .skips
                following := if chooses then m.following
                  else if m.isRecursive && !m.linksHard then .never else .always
                copiesContents := !m.isRecursive || a.has "contents" }
              let fs ← files
              match Aim.read fs a (Aim.refusal "target directory " fs) with
              | .error failure => failure.say "cp"
              | .ok aim =>
                  match aim, a.has "parents" with
                  | .exactly .., true =>
                      misuse "cp" "with --parents, the destination must be a directory".toList 1
                  | aim, _ => copyOperands m a aim

/-! ## Moving -/

/-- Moves what is at a path to another; a first attempt can have been made. -/
def moveTo (m : Manner) (attempt : Option (Except FileError Unit)) (source target : Octets) :
    Deed Bool := do
  let result ←
    match attempt with
    | some result => pure result
    | none => Deed.lift (changeFiles fun files => files.rename false ⟨source⟩ ⟨target⟩)
  match result with
  | .ok () => finish m none
  | .error failure =>
      let fs ← Deed.lift files
      match Sight.of fs false source, Sight.of fs false target with
      | .error failure, _ => Deed.lift (m.refuseFor "cannot stat " source (.file failure))
      | .ok _, .error .notFound => Deed.lift (refuse m failure)
      | .ok _, .error failure => Deed.lift (m.refuseFor "cannot stat " target (.file failure))
      | .ok s, .ok t =>
          match ← m.settle true source target s t with
          | .stop isFine => return isFine
          | .go _ backup =>
              match ← Deed.lift (changeFiles fun files => files.rename true ⟨source⟩ ⟨target⟩) with
              | .ok () => finish m backup
              | .error failure => Deed.lift (refuse m failure)
where
  finish (m : Manner) (backup : Option Octets) : Deed Bool := do
    Deed.lift (m.announce "renamed ".toList source target backup)
    Deed.noteTarget target
    return true
  refuse (m : Manner) (failure : FileError) : Action Bool :=
    match failure with
    | .invalid =>
        m.refuse ("cannot move ".toList ++ quoted source ++
          " to a subdirectory of itself, ".toList ++ quoted target)
    | .alreadyThere | .isFolder | .notEmpty =>
        m.refuseFor "cannot overwrite " target (.file failure)
    | failure =>
        m.refuse (withReason ("cannot move ".toList ++ quoted source ++ " to ".toList ++
          quoted target) (.file failure))

def mvSwitches : List Switch :=
  Backup.switches ++ Aim.switches ++
    [.flag "f" "force", .flag "i" "interactive", .flag "n" "no-clobber", .flag "v" "verbose",
      .flag "u" "", .choice "u" "update", .flag "strip" "strip-trailing-slashes",
      .flag "debug" "debug", .flag "nocopy" "no-copy", .flag "Z" "context"]

def mv : Tool := fun arguments environment =>
  withArguments "mv" mvSwitches 1 arguments fun a => do
    match ← readOptions readConsent a.options { plainManner "mv" with isMove := true } with
    | none => return 1
    | some m =>
        let strip (source : Octets) : Octets :=
          if a.has "strip" then (Path.withoutSlashes ⟨source⟩).octets else source
        let attempt ←
          match a.operands, a.has "T" || a.has "t" with
          | [source, target], false => do
              let result ← changeFiles fun files => files.rename false ⟨source⟩ ⟨target⟩
              pure (some result)
          | _, _ => pure none
        let fs ← files
        let aim : Except AimFailure Aim := match attempt, a.operands with
          | some (.ok ()), [source, target] => .ok (.exactly source target)
          | _, _ => Aim.read fs a (Aim.refusal "target directory " fs)
        match aim with
        | .error failure => failure.say "mv"
        | .ok aim =>
            if Backup.isAsked a && m.consent = .refuses then
              misuse "mv" "options --backup and --no-clobber are mutually exclusive".toList 1
            else
              match ← Backup.read "mv" a environment with
              | .error () => return 1
              | .ok backup =>
                  let m := { m with
                    backup
                    following := .never
                    tells := a.hasAny ["v", "debug"]
                    onlyNewer := m.onlyNewer && m.consent != .refuses && m.consent != .skips }
                  match aim with
                  | .exactly source target =>
                      bring (.exactly (strip source) target) fun _ => moveTo m attempt
                  | .into folder sources =>
                      let (results, _) ← (sources.mapM fun source =>
                        moveTo m none (strip source) (placeIn folder source)).run
                        ⟨1 < sources.length, [], [], []⟩
                      return if results.all id then 0 else 1

/-! ## Installing -/

def installSwitches : List Switch :=
  Backup.switches ++ Aim.switches ++
    [.flag "d" "directory", .setting "m" "mode", .flag "D" "", .flag "v" "verbose",
      .flag "p" "preserve-timestamps", .flag "c" "", .flag "C" "compare", .flag "s" "strip",
      .setting "program" "strip-program", .setting "o" "owner", .setting "g" "group",
      .flag "Z" "", .choice "context" "context", .flag "debug" "debug"]

/-- Makes folders, for files if that is said, and tells so. -/
def installFolders (a : Arguments) (isForFiles : Bool) (folder : Octets) : Action Bool := do
  match ← makeFolders 0o755 0o755 folder with
  | .error (place, failure) =>
      refuse "install" "cannot create directory" place
        (if failure = .alreadyThere && isForFiles then .notFolder else failure)
  | .ok made =>
      made.forM fun place =>
        narrate "install" (a.has "v") ("install: creating directory ".toList ++ quoted place)
      return true

def isInstalled (fs : FileSystem) (mode : List Mode.Change) (source target : Octets) : Bool :=
  let wanted := Mode.applyAll mode false 0 0
  match Sight.of fs false source, Sight.of fs false target with
  | .ok s, .ok t =>
      match s.node, t.node with
      | .file a, .file b =>
          let (old, new) := (fs.body a, fs.body b)
          old.isPlain && new.isPlain && wanted < 0o1000 && old.mode < 0o1000 &&
            new.mode = wanted && old.bytes = new.bytes
      | _, _ => false
  | _, _ => false

/-- The user and the group that copies are given to, or the complaint about one that is not
known. -/
def chosenOwners (a : Arguments) : Except Octets (Option Nat × Option Nat) := do
  let chosen (key kind : String) (number? : Octets → Option Nat) :
      Except Octets (Option Nat) :=
    match a.value? key with
    | none => .ok none
    | some name =>
        match number? name with
        | some number => .ok (some number)
        | none => .error (s!"invalid {kind} ".toList ++ quoted name)
  return (← chosen "o" "user" Owner.userNumber?, ← chosen "g" "group" Owner.groupNumber?)

def installConflict? (a : Arguments) : Option (String × Bool) :=
  if a.has "d" && a.has "s" then
    some ("the strip option may not be used when installing a directory", false)
  else if a.has "d" && a.has "t" then
    some ("target directory not allowed when installing a directory", false)
  else if a.has "C" && a.has "p" then
    some ("options --compare (-C) and --preserve-timestamps are mutually exclusive", true)
  else if a.has "C" && a.has "s" then
    some ("options --compare (-C) and --strip are mutually exclusive", true)
  else none

def installOperands (m : Manner) (a : Arguments) (mode : List Mode.Change) (aim : Aim) :
    Action Nat := do
  let isReady ←
    match aim, a.has "D" with
    | .exactly _ target, true =>
        if (placeOf? (← files) (folderPart target)).isSome &&
            (← files).isFolder ⟨folderPart target⟩ then pure true
        else installFolders a true (folderPart target)
    | .into folder _, true =>
        if (← files).isFolder ⟨folder⟩ then pure true else installFolders a true folder
    | _, false => pure true
  if !isReady then return 1
  else
    bring aim fun _ source target => do
      if a.has "C" && isInstalled (← Deed.lift files) mode source target then return true
      else m.copy source target

def install : Tool := fun arguments environment =>
  withArguments "install" installSwitches 1 arguments fun a => do
    match installConflict? a with
    | some (complaint, true) => misuse "install" complaint.toList 1
    | some (complaint, false) => fail "install" complaint.toList 1
    | none =>
        match ← Backup.read "install" a environment with
        | .error () => return 1
        | .ok backup =>
            let fs ← files
            let aim : Except AimFailure Aim :=
              if !a.has "d" then
                Aim.read fs a fun folder =>
                  (Aim.refusal "failed to access " fs folder).filter fun _ =>
                    !(a.has "D" && (fs.get ⟨folder⟩ matches .error .notFound))
              else if a.operands.isEmpty then .error ⟨"missing file operand".toList, true⟩
              else .ok (.into [] [])
            match aim with
            | .error failure => failure.say "install"
            | .ok aim =>
                match ← chosenMode "install" a with
                | .error () => return 1
                | .ok chosen =>
                    let mode := chosen.getD [Mode.exactly 0o755]
                    if a.has "program" && !a.has "s" then
                      complain "install"
                        "WARNING: ignoring --strip-program option as -s option was not specified".toList
                    if a.has "C" && 0o777 < Mode.applyAll mode false 0 0 then
                      complain "install" ("the --compare (-C) option is ignored when you specify " ++
                        "a mode with non-permission bits").toList
                    match chosenOwners a with
                    | .error complaint => fail "install" complaint 1
                    | .ok (owner, group) =>
                        if a.has "d" then
                          forEachOperand a.operands fun folder => do
                            let isMade ← installFolders a false folder
                            if isMade then
                              let _ ← changeFiles fun files =>
                                files.changeAttributes ⟨folder⟩ fun old =>
                                  { old with owner := owner.getD 0, group := group.getD 0 }
                              setMode folder mode 0
                            return isMade
                        else
                          let m := { plainManner "install" with
                            keepsTimes := a.has "p", tells := a.hasAny ["v", "debug"]
                            removesFirst := true, backup, mode := some mode
                            owner, group }
                          installOperands m a mode aim

end Clausal.Utility

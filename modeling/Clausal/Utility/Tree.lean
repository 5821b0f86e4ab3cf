import Clausal.FileSystem.Edit
import Clausal.FileSystem.Mode
import Clausal.Utility.Keyword
import Clausal.Utility.Words

/-!
# Making and removing

Utilities that make folders and other files, and utilities that remove them.
-/

namespace Clausal.Utility

open Machine (Action Task)
open Text (Octets)

/-! ## The file system -/

def files : Action FileSystem := Task.browse fun files => files

def changeFiles (change : FileSystem → Except FileError FileSystem) :
    Action (Except FileError Unit) := do
  let before ← (Task.browse (fun files => (change files).toOption.getD files) : Action FileSystem)
  return (change before).map fun _ => ()

def refuse (name verb : String) (file : Octets) (failure : FileError) : Action Bool := do
  complain name ((verb ++ " ").toList ++ quoted file ++ ": ".toList ++ failure.reason.toList)
  return false

def narrate (name : String) (isAsked : Bool) (octets : Octets) : Action Unit := do
  if isAsked then
    let _ ← emit name (octets ++ ['\n'])

def entryOf (folder name : Octets) : Octets :=
  if folder.getLast? = some '/' then folder ++ name else folder ++ '/' :: name

def relativeParts : List Name → List Name → List Octets
  | a :: folder, b :: place =>
      if a = b then relativeParts folder place
      else List.replicate (folder.length + 1) ['.', '.'] ++ b :: place
  | folder, place => List.replicate folder.length ['.', '.'] ++ place

def relativePath (folder place : List Name) : Octets :=
  match relativeParts folder place with
  | [] => ['.']
  | parts => ['/'].intercalate parts

def ask (name : String) (question : Octets) : Action Bool := do
  report (name.toList ++ ": ".toList ++ question ++ "? ".toList)
  match ← (Task.readLine 0 : Action _) with
  | .ok (c :: _) => return c = 'y' || c = 'Y'
  | _ => return false

/-- Asks only if it has to be asked; otherwise the answer is yes. -/
def allows (isAsked : Bool) (name : String) (question : Octets) : Action Bool :=
  if isAsked then ask name question else return true

/-- The mode that an option says; a complaint if it says none. -/
def chosenMode (name : String) (a : Arguments) : Action (Except Unit (Option (List Mode.Change))) := do
  match a.value? "m" with
  | none => return .ok none
  | some value =>
      match Mode.read? value with
      | some changes => return .ok (some changes)
      | none =>
          let isPlain := name = "mkfifo" || name = "mknod"
          complain name ("invalid mode".toList ++ if isPlain then [] else ' ' :: quoted value)
          return .error ()

def setMode (file : Octets) (changes : List Mode.Change) (standard : Nat) : Action Unit := do
  let _ ← changeFiles fun files =>
    let isFolder := files.isFolder ⟨file⟩
    files.changeAttributes ⟨file⟩ fun attributes =>
      let standard := if isFolder then standard ||| (attributes.mode &&& 0o2000) else standard
      { attributes with mode := Mode.applyAll changes isFolder files.mask standard }

def warnOfContext (name : String) (a : Arguments) : Action Unit := do
  if (a.values "Z").any fun value => !value.isEmpty then
    complain name
      "warning: ignoring --context; it requires an SELinux/SMACK-enabled kernel".toList

def warnOfRoot (name : String) (file : Octets) : Action Unit := do
  complain name ("it is dangerous to operate recursively on ".toList ++ quoted file ++
    if file = ['/'] then [] else " (same as '/')".toList)
  complain name "use --no-preserve-root to override this failsafe".toList

/-! ## Folders -/

def makeFolder (folder : Octets) (mode : Nat) : Action (Except FileError Unit) :=
  changeFiles fun files => do
    let made ← FileSystem.makeFolder { files with mask := 0 } ⟨folder⟩ mode
    return { made with mask := files.mask }

/-- Makes a folder with the folders on the way to it, of one mode the upper, of another the
last; the folders that were made. -/
def makeFolders (upper last : Nat) (folder : Octets) :
    Action (Except (Octets × FileError) (List Octets)) :=
  let parts := (Path.parts ⟨folder⟩).filter fun part => !part.isEmpty
  if folder.isEmpty then return .error ([], .notFound)
  else go (if (⟨folder⟩ : Path).isAbsolute then ['/'] else []) [] parts
where
  go (before : Octets) (made : List Octets) : List Octets →
      Action (Except (Octets × FileError) (List Octets))
    | [] => return .ok made.reverse
    | part :: rest => do
        let place := if before.isEmpty then part else entryOf before part
        let fs ← files
        match fs.get ⟨place⟩ with
        | .ok (.folder ..) => go place made rest
        | .ok _ => return .error (place, if rest.isEmpty then .alreadyThere else .notFolder)
        | .error _ =>
            match ← makeFolder place (if rest.isEmpty then last else upper) with
            | .ok () => go place (place :: made) rest
            | .error failure => return .error (place, failure)

def mkdir : Tool := fun arguments _ =>
  withArguments "mkdir"
      [.flag "p" "parents", .setting "m" "mode", .flag "v" "verbose", .flag "Z" "",
        .choice "Z" "context"] 1
      arguments fun a =>
    withOperands "mkdir" 1 a do
      warnOfContext "mkdir" a
      match ← chosenMode "mkdir" a with
      | .error () => return 1
      | .ok mode =>
          forEachOperand a.operands fun folder => do
            let standard := Mode.without 0o777 (← files).mask
            let made ← if a.has "p" then makeFolders (standard ||| 0o300) standard folder
              else do
                match ← makeFolder folder standard with
                | .ok () => pure (.ok [folder])
                | .error failure => pure (.error (folder, failure))
            match made with
            | .error (place, failure) => refuse "mkdir" "cannot create directory" place failure
            | .ok made =>
                made.forM fun place =>
                  narrate "mkdir" (a.has "v") ("mkdir: created directory ".toList ++ quoted place)
                match mode with
                | some changes => if !made.isEmpty then setMode folder changes 0o777
                | none => pure ()
                return true

def withAncestors : Nat → Octets → List Octets
  | 0, path => [path]
  | rounds + 1, path =>
      let bare := (Path.withoutSlashes ⟨path⟩).octets
      let above := folderPart bare
      if above = ['.'] || above = ['/'] || above = bare then [path]
      else path :: withAncestors rounds above

/-- Whether a path with a slash at its end names a link that might lead to a folder. -/
def isSlashedLink (fs : FileSystem) (path : Octets) : Bool :=
  path.getLast? = some '/' &&
    ((fs.getEntry (Path.withoutSlashes ⟨path⟩)).toOption matches some (.link _))

def rmdir : Tool := fun arguments _ =>
  withArguments "rmdir"
      [.flag "p" "parents", .flag "v" "verbose", .flag "i" "ignore-fail-on-non-empty"] 1
      arguments fun a =>
    withOperands "rmdir" 1 a <| forEachOperand a.operands fun folder =>
      removeAll a (if a.has "p" then withAncestors folder.length folder else [folder])
where
  removeAll (a : Arguments) : List Octets → Action Bool
    | [] => return true
    | folder :: rest => do
        narrate "rmdir" (a.has "v") ("rmdir: removing directory, ".toList ++ quoted folder)
        match ← changeFiles fun files => files.removeFolder ⟨folder⟩ with
        | .ok () => removeAll a rest
        | .error failure =>
            let fs ← files
            let isFollowed := match fs.get ⟨folder⟩ with
              | .ok node => node.isFolder
              | .error failure => failure != .notFolder
            if failure = .notEmpty && a.has "i" then return true
            else if failure = .notFolder && isSlashedLink fs folder && isFollowed then
              complain "rmdir" ("failed to remove ".toList ++ quoted folder ++
                ": Symbolic link not followed".toList)
              return false
            else refuse "rmdir" "failed to remove" folder failure

/-! ## Removing -/

/-- When it is asked before something is removed. -/
inductive Asking where
  | never
  | once
  | always
  deriving DecidableEq, Repr

structure Removal where
  isRecursive : Bool
  takesEmpty : Bool
  isForced : Bool
  asking : Asking
  tells : Bool
  deriving DecidableEq, Repr

def kindName (fs : FileSystem) : Node → String
  | .folder .. => "directory"
  | .link _ => "symbolic link"
  | .file id =>
      match (fs.body id).content with
      | .bytes bytes => if bytes.isEmpty then "regular empty file" else "regular file"
      | .device _ => "character special file"
      | .pipe => "fifo"

mutual

def removeNode (r : Removal) (path : Octets) : Node → Action Bool
  | .folder _ entries => do
      let asks := r.asking = .always
      let enters ← allows (!entries.isEmpty && asks) "rm"
        ("descend into directory ".toList ++ quoted path)
      if !enters then return true
      let isFine ← removeEntries r path entries
      if !isFine then return false
      let goesOn ← allows asks "rm" ("remove directory ".toList ++ quoted path)
      if !goesOn then return true
      else
        match ← changeFiles fun files => files.removeFolder ⟨path⟩ with
        | .ok () =>
            narrate "rm" r.tells ("removed directory ".toList ++ quoted path)
            return true
        | .error failure => refuse "rm" "cannot remove" path failure
  | node => do
      let question := s!"remove {kindName (← files) node} ".toList ++ quoted path
      let goesOn ← allows (r.asking = .always) "rm" question
      if !goesOn then return true
      else
        match ← changeFiles fun files => files.unlink ⟨path⟩ with
        | .ok () =>
            narrate "rm" r.tells ("removed ".toList ++ quoted path)
            return true
        | .error failure => refuse "rm" "cannot remove" path failure

def removeEntries (r : Removal) (path : Octets) : List (Name × Node) → Action Bool
  | [] => return true
  | (name, node) :: rest => do
      let isFine ← removeNode r (entryOf path name) node
      let others ← removeEntries r path rest
      return isFine && others

end

def removeOperand (r : Removal) (file : Octets) : Action Bool := do
  let last := lastPart file
  let fs ← files
  let missing (failure : FileError) : Action Bool := do
    if r.isForced && (failure = .notFound || failure = .notFolder) then return true
    else refuse "rm" "cannot remove" file failure
  match fs.getEntry ⟨file⟩ with
  | .error failure => missing (if isSlashedLink fs file then .notFolder else failure)
  | .ok (.folder attributes entries) =>
      if !r.isRecursive && !r.takesEmpty then refuse "rm" "cannot remove" file .isFolder
      else if last = ['.'] || last = ['.', '.'] then
        complain "rm" ("refusing to remove '.' or '..' directory: skipping ".toList ++ quoted file)
        return false
      else if last = ['/'] then
        warnOfRoot "rm" file
        return false
      else if isSlashedLink fs file then
        if r.isRecursive then
          let _ ← removeEntries r (Path.withoutSlashes ⟨file⟩).octets entries
        missing .notFolder
      else if !r.isRecursive && !entries.isEmpty then refuse "rm" "cannot remove" file .notEmpty
      else removeNode r (Path.withoutSlashes ⟨file⟩).octets (.folder attributes entries)
  | .ok node => removeNode r file node

def interactiveKeyword : Keyword :=
  ⟨"--interactive", [["never", "no", "none"], ["once"], ["always", "yes"]]⟩

/-- What an option says about removing; nothing if it makes no sense. -/
def readRemoval (r : Removal) (option : String × Octets) : Action (Option Removal) := do
  match option with
  | ("f", _) => return some { r with isForced := true, asking := .never }
  | ("i", _) | ("interactive", []) => return some { r with isForced := false, asking := .always }
  | ("I", _) => return some { r with isForced := false, asking := .once }
  | ("interactive", word) =>
      match ← interactiveKeyword.read "rm" word with
      | none => return none
      | some 0 => return some { r with asking := .never }
      | some 1 => return some { r with isForced := false, asking := .once }
      | some _ => return some { r with isForced := false, asking := .always }
  | ("root", word) =>
      if word.isEmpty || word = "all".toList then return some r
      else
        complain "rm" ("unrecognized --preserve-root argument: ".toList ++ quoted word)
        return none
  | ("r", _) | ("R", _) => return some { r with isRecursive := true }
  | ("d", _) => return some { r with takesEmpty := true }
  | ("v", _) => return some { r with tells := true }
  | _ => return some r

/-- Goes through options in order; nothing comes of it if one of them makes no sense. -/
def readOptions (step : σ → String × Octets → Action (Option σ)) :
    List (String × Octets) → σ → Action (Option σ)
  | [], s => return some s
  | option :: rest, s => do
      match ← step s option with
      | some s => readOptions step rest s
      | none => return none

def rmSwitches : List Switch :=
  [.flag "f" "force", .flag "r" "recursive", .flag "R" "", .flag "i" "", .flag "I" "",
    .choice "interactive" "interactive", .flag "v" "verbose", .flag "d" "dir",
    .choice "root" "preserve-root", .flag "noroot" "no-preserve-root",
    .flag "one" "one-file-system"]

def suggestFile (name : String) (arguments : List Octets) : Action Unit := do
  let fs ← files
  let found := arguments.find? fun argument =>
    argument.head? = some '-' && 1 < argument.length && (fs.getEntry ⟨argument⟩).isOk
  match found with
  | some argument =>
      report (s!"Try '{name} ./".toList ++ shownName argument ++ "' to remove the file ".toList ++
        quoted argument ++ ".\n".toList)
  | none => pure ()

def rm : Tool := fun arguments _ => do
  match Arguments.read rmSwitches arguments with
  | .error wrong =>
      complain "rm" wrong.complaint
      suggestFile "rm" arguments
      suggestHelp "rm" 1
  | .ok a =>
      match ← readOptions readRemoval a.options ⟨false, false, false, .never, false⟩ with
      | none => return 1
      | some r =>
          let count := a.operands.length
          let isShort := arguments.any fun argument =>
            3 < argument.length && argument.isPrefixOf "--no-preserve-roo".toList &&
              "--no-p".toList.isPrefixOf argument
          if isShort then
            fail "rm" "you may not abbreviate the --no-preserve-root option".toList 1
          else if count = 0 && r.isForced then return 0
          else
            withOperands "rm" 1 a do
              let what := s!"remove {count} argument".toList ++ (if count = 1 then [] else ['s']) ++
                (if r.isRecursive then " recursively".toList else [])
              if r.asking = .once && (r.isRecursive || 3 < count) then
                if !(← ask "rm" what) then return 0
              forEachOperand a.operands (removeOperand r)

def unlink : Tool := fun arguments _ =>
  withArguments "unlink" [] 1 arguments fun a =>
    withOperands "unlink" 1 a do
      match a.operands with
      | _ :: extra :: _ => extraOperand "unlink" extra 1
      | operands =>
          forEachOperand operands fun file => do
            match ← changeFiles fun files => files.unlink ⟨file⟩ with
            | .ok () => return true
            | .error failure => refuse "unlink" "cannot unlink" file failure

end Clausal.Utility

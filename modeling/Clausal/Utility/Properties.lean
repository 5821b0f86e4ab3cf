import Clausal.Utility.Calendar
import Clausal.Utility.Tree

/-!
# What is known of files

Utilities that change modes, dates and sizes.
-/

namespace Clausal.Utility

open Machine (Action Failure Task)
open Text (Octets)

def attributesOf? (fs : FileSystem) (path : Octets) : Option Attributes :=
  (fs.follow ⟨path⟩).toOption.bind fs.attributesAt?

def treeOf (fs : FileSystem) (path : Octets) : List (Octets × Node) :=
  match fs.getEntry ⟨path⟩ with
  | .ok node => below path node
  | .error _ => []
where
  below (path : Octets) : Node → List (Octets × Node)
    | .folder attributes entries => (path, .folder attributes entries) :: belowAll path entries
    | node => [(path, node)]
  belowAll (path : Octets) : List (Name × Node) → List (Octets × Node)
    | [] => []
    | (name, node) :: rest => below (entryOf path name) node ++ belowAll path rest

/-- What is at a path and all that is below it, folders before or after what is in them.
Links below it are looked through if that is wanted; a folder is not entered within itself. -/
def walk (fs : FileSystem) (throughLinks isDeepFirst : Bool) :
    Nat → List (List Name) → Octets → Node → List (Octets × Node)
  | 0, _, path, node => [(path, node)]
  | depth + 1, above, path, node =>
      let place? := (fs.follow ⟨path⟩).toOption
      let node := match node with
        | .link _ => if throughLinks then (place?.bind fs.node?).getD node else node
        | node => node
      match node, place? with
      | .folder _ entries, some place =>
          if above.contains place then [(path, node)]
          else
            let inner := entries.flatMap fun (name, inner) =>
              walk fs throughLinks isDeepFirst depth (place :: above) (entryOf path name) inner
            if isDeepFirst then inner ++ [(path, node)] else (path, node) :: inner
      | _, _ => [(path, node)]

def deepest : Nat := 1000

def isRoot (fs : FileSystem) (path : Octets) : Bool := (fs.follow ⟨path⟩).toOption = some []

/-! ## Modes -/

structure Alteration where
  changes : List Mode.Change
  isRecursive : Bool
  isSilent : Bool
  tells : Bool
  tellsChanges : Bool
  saysSurprises : Bool
  sparesRoot : Bool
  deriving DecidableEq, Repr

def modeOption? (argument : Octets) : Option Octets :=
  match argument with
  | '-' :: rest =>
      let (flags, mode) := rest.span fun c => "Rcfv".toList.contains c
      if mode.head?.any fun c => "rwxXstugoa,+=01234567".toList.contains c then some flags else none
  | _ => none

def fourDigits (mode : Nat) : Octets :=
  let digits := Mode.shownOctal mode
  List.replicate (4 - digits.length) '0' ++ digits

def modeNote (path : Octets) (old new : Nat) : Octets :=
  let full (mode : Nat) : Octets := fourDigits mode ++ " (".toList ++ Mode.shown mode ++ [')']
  if old = new then "mode of ".toList ++ quoted path ++ " retained as ".toList ++ full old
  else
    "mode of ".toList ++ quoted path ++ " changed from ".toList ++ full old ++ " to ".toList ++
      full new

/-- Changes the mode of one file; a link stays as it is. -/
def changeMode (r : Alteration) (path : Octets) (node : Node) : Action Bool := do
  let fs ← files
  let old? : Option Nat := match node with
    | .file id => some (fs.body id).mode
    | .folder attributes _ => some attributes.mode
    | .link _ => none
  match old? with
  | none =>
      narrate "chmod" r.tells
        ("neither symbolic link ".toList ++ quoted path ++ " nor referent has been changed".toList)
      return true
  | some old =>
      let new := Mode.applyAll r.changes node.isFolder fs.mask old
      let _ ← changeFiles fun files =>
        files.changeAttributes ⟨path⟩ fun attributes => { attributes with mode := new }
      narrate "chmod" (r.tells || r.tellsChanges && old != new) (modeNote path old new)
      let expected := Mode.applyAll r.changes node.isFolder 0 old
      if r.saysSurprises && Mode.without new expected != 0 then
        complain "chmod" (shownName path ++ ": new permissions are ".toList ++ Mode.shown new ++
          ", not ".toList ++ Mode.shown expected)
        return false
      else return true

def alter (r : Alteration) (file : Octets) : Action Bool := do
  let fs ← files
  let leave : Action Bool := do
    narrate "chmod" r.tells (quoted file ++ " could not be accessed".toList)
    return false
  match fs.get ⟨file⟩, fs.getEntry ⟨file⟩ with
  | .error failure, .error _ =>
      if !r.isSilent then
        let _ ← refuse "chmod" "cannot access" file failure
      leave
  | .error _, .ok _ =>
      if !r.isSilent then
        complain "chmod" ("cannot operate on dangling symlink ".toList ++ quoted file)
      leave
  | .ok node, _ =>
      if r.isRecursive && r.sparesRoot && isRoot fs file then
        warnOfRoot "chmod" file
        return false
      else
        let all := if r.isRecursive then walk fs false false deepest [] file node
          else [(file, node)]
        let results ← all.mapM fun (path, node) => changeMode r path node
        return results.all id

def chmodSwitches : List Switch :=
  [.flag "R" "recursive", .flag "v" "verbose", .flag "c" "changes", .flag "f" "silent",
    .flag "f" "quiet", .setting "reference" "reference", .flag "no" "no-preserve-root",
    .flag "preserve" "preserve-root"]

def chosenChanges (mode? reference? : Option Octets) : Action (Except Nat (List Mode.Change)) := do
  match mode?, reference? with
  | _, some file =>
      let fs ← files
      match fs.follow ⟨file⟩, attributesOf? fs file with
      | .ok _, some attributes => return .ok [Mode.exactly attributes.mode]
      | result, _ =>
          let failure : FileError := match result with
            | .error failure => failure
            | .ok _ => .notFound
          let _ ← refuse "chmod" "failed to get attributes of" file failure
          return .error 1
  | some mode, none =>
      match Mode.read? mode with
      | some changes => return .ok changes
      | none => return .error (← misuse "chmod" ("invalid mode: ".toList ++ quoted mode) 1)
  | none, none => return .ok []

def chmod : Tool := fun arguments _ => do
  let beforeEnd := arguments.takeWhile (· != ['-', '-'])
  let modes := beforeEnd.filter fun argument => (modeOption? argument).isSome
  let others := beforeEnd.filterMap fun argument =>
    match modeOption? argument with
    | some [] => none
    | some flags => some ('-' :: flags)
    | none => some argument
  withArguments "chmod" chmodSwitches 1 (others ++ arguments.drop beforeEnd.length) fun a => do
    let written := [','].intercalate modes
    let (mode?, operands) : Option Octets × List Octets :=
      if !modes.isEmpty then (some written, a.operands)
      else if a.has "reference" then (none, a.operands)
      else (a.operands.head?, a.operands.tail)
    if a.has "reference" && !modes.isEmpty then
      misuse "chmod" "cannot combine mode and --reference options".toList 1
    else if operands.isEmpty then
      match a.operands with
      | [] => misuse "chmod" "missing operand".toList 1
      | mode :: _ => misuse "chmod" ("missing operand after ".toList ++ quoted mode) 1
    else
      match ← chosenChanges mode? (a.value? "reference") with
      | .error status => return status
      | .ok changes =>
          let telling := a.last? ["v", "c"]
          let r : Alteration := ⟨changes, a.has "R", a.has "f", telling = some "v",
            telling = some "c", !modes.isEmpty, a.last? ["no", "preserve"] = some "preserve"⟩
          forEachOperand operands (alter r)

/-! ## Dates -/

/-- Reads a moment that is written as digits: month, day, hour and minute, with the year
before them and the second after a point. -/
def readStamp? (now : Moment) (octets : Octets) : Option Moment :=
  let (digits, rest) := octets.span Char.isDigit
  let second? : Option Nat := match rest with
    | [] => some 0
    | ['.', a, b] => Text.readDigits? [a, b]
    | _ => none
  let year? : Option (Int × Octets) :=
    match digits.length with
    | 8 => some (now.date.year, digits)
    | 10 => (Text.readDigits? (digits.take 2)).map fun (n : Nat) =>
        ((if n < 69 then 2000 + n else 1900 + n : Nat), digits.drop 2)
    | 12 => (Text.readDigits? (digits.take 4)).map fun (n : Nat) => (n, digits.drop 4)
    | _ => none
  match year?, second? with
  | some (year, fields), some second =>
      let field (index : Nat) : Nat :=
        (Text.readDigits? ((fields.drop (2 * index)).take 2)).getD 0
      let date : Date := ⟨year, field 0, field 1⟩
      if 1 ≤ field 0 && field 0 ≤ 12 && 1 ≤ field 1 && Date.ofDays date.toDays = date &&
          field 2 < 24 && field 3 < 60 && second < 61 then
        some ⟨date.toDays * 86400 + (field 2 * 3600 + field 3 * 60 + second : Nat), 0⟩
      else none
  | _, _ => none

structure Dating where
  setsAccess : Bool
  setsChange : Bool
  makesNothing : Bool
  followsNothing : Bool
  reference : Option Octets
  text : Option Octets
  stamp : Option Moment
  deriving DecidableEq, Repr

namespace Dating

def times : Keyword := ⟨"--time", [["atime", "access", "use"], ["mtime", "modify"]]⟩

def read (now : Moment) (d : Dating) (option : String × Octets) : Action (Option Dating) := do
  match option with
  | ("a", _) => return some { d with setsAccess := true }
  | ("m", _) => return some { d with setsChange := true }
  | ("c", _) => return some { d with makesNothing := true }
  | ("h", _) => return some { d with followsNothing := true }
  | ("d", text) => return some { d with text := some text }
  | ("r", file) => return some { d with reference := some file }
  | ("t", stamp) =>
      match readStamp? now stamp with
      | some moment => return some { d with stamp := some moment }
      | none =>
          complain "touch" ("invalid date format ".toList ++ quoted stamp)
          return none
  | ("time", word) =>
      match ← times.read "touch" word with
      | none => return none
      | some 0 => return some { d with setsAccess := true }
      | some _ => return some { d with setsChange := true }
  | _ => return some d

def moment (fs : FileSystem) (d : Dating) : Except Octets (Option Moment) := do
  let base? ← match d.reference with
    | none => pure none
    | some file =>
        match entry fs file with
        | .ok attributes => pure (some (Moment.ofNanoseconds attributes.changed))
        | .error failure =>
            throw ("failed to get attributes of ".toList ++ quoted file ++ ": ".toList ++
              failure.reason.toList)
  match d.text with
  | none => return d.stamp.or base?
  | some text =>
      match Moment.read? (base?.getD (.ofNanoseconds fs.moment)) text with
      | some moment => return some moment
      | none => throw ("invalid date format ".toList ++ quoted text)
where
  entry (fs : FileSystem) (file : Octets) : Except FileError Attributes := do
    match fs.attributesAt? (← fs.locate (!d.followsNothing) ⟨file⟩) with
    | some attributes => return attributes
    | none => throw .notFound

def apply (d : Dating) (now : Int) (moment? : Option Moment) (attributes : Attributes) :
    Attributes :=
  if d.setsAccess && !d.setsChange then attributes
  else
    { attributes with
      changed := match moment? with
        | some m => m.seconds * 1000000000 + m.nanoseconds
        | none => now }

/-- Makes a file if it is missing; why that cannot be done. -/
def makeMissing (d : Dating) (file : Octets) : Action (Option Failure) := do
  if d.makesNothing || d.followsNothing then return none
  else
    match (← files).get ⟨file⟩ with
    | .ok (.file _) => return none
    | _ =>
        match ← (Task.openFile ⟨file⟩ .append : Action _) with
        | .ok descriptor =>
            Task.close descriptor
            return none
        | .error failure => return some failure

def applyToOutput (d : Dating) (moment? : Option Moment) : Action Bool := do
  match ← (Task.inspect 1 : Action _) with
  | none =>
      if d.makesNothing then return true
      else
        complain "touch" "setting times of '-': Bad file descriptor".toList
        return false
  | some (.file id _) =>
      let _ ← (Task.browse (fun files => files.modifyBody id fun body =>
        { body with attributes := d.apply files.moment moment? body.attributes }) :
          Action FileSystem)
      return true
  | some _ => return true

def applyTo (d : Dating) (moment? : Option Moment) (file : Octets) : Action Bool := do
  if file = ['-'] then d.applyToOutput moment?
  else
    let refusal? ← d.makeMissing file
    let set ← changeFiles fun files =>
      if d.followsNothing && (files.getEntry ⟨file⟩).isOk then
        return (files.changeAttributes ⟨file⟩ (d.apply files.moment moment?)).toOption.getD files
      else files.changeAttributes ⟨file⟩ (d.apply files.moment moment?)
    match set, refusal? with
    | .ok (), _ => return true
    | .error failure, none | .error failure, some (.file .isFolder) =>
        if d.makesNothing && failure = .notFound then return true
        else refuse "touch" "setting times of" file failure
    | .error _, some refusal =>
        complain "touch" (withReason ("cannot touch ".toList ++ quoted file) refusal)
        return false

end Dating

def touchSwitches : List Switch :=
  [.flag "a" "", .flag "m" "", .flag "c" "no-create", .setting "d" "date", .flag "f" "",
    .flag "h" "no-dereference", .setting "r" "reference", .setting "t" "", .setting "time" "time"]

def touch : Tool := fun arguments _ =>
  withArguments "touch" touchSwitches 1 arguments fun a => do
    let fs ← files
    let start : Dating := ⟨false, false, false, false, none, none, none⟩
    match ← readOptions (Dating.read (.ofNanoseconds fs.moment)) a.options start with
    | none => return 1
    | some d =>
        if d.stamp.isSome && (d.reference.isSome || d.text.isSome) then
          misuse "touch" "cannot specify times from more than one source".toList 1
        else
          match d.moment fs with
          | .error complaint => fail "touch" complaint 1
          | .ok moment? =>
              if a.operands.isEmpty then misuse "touch" "missing file operand".toList 1
              else forEachOperand a.operands (d.applyTo moment?)

/-! ## Sizes -/

inductive Resize where
  | exactly | by | atMost | atLeast | roundedDown | roundedUp
  deriving DecidableEq, Repr

structure SizeWish where
  how : Resize
  amount : Int
  deriving DecidableEq, Repr

namespace SizeWish

def bound : Int := 0x8000000000000000

def unit? (unit : Octets) : Option Nat :=
  match unit with
  | [] => some 1
  | letter :: rest =>
      let letter := if "gkmt".toList.contains letter then letter.toUpper else letter
      let base? := match rest with
        | [] | ['i', 'B'] => some 1024
        | ['B'] | ['D'] => some 1000
        | _ => none
      match "KMGTPEZYRQ".toList.idxOf? letter, base? with
      | some place, some base => some ((place + 1).repeat (base * ·) 1)
      | _, _ => none

/-- A number with a sign and a unit, as far as they are written; nothing if it is none. -/
def number? (octets : Octets) : Option Int :=
  let (sign, rest) := match octets with
    | '-' :: rest => ((-1 : Int), rest)
    | '+' :: rest => (1, rest)
    | octets => (1, octets)
  let (digits, unit) := rest.span Char.isDigit
  match Text.readDigits? digits, unit? unit with
  | some n, some factor => some (sign * (n * factor : Nat))
  | none, some factor => if rest.isEmpty || rest != octets then none else some factor
  | _, none => none

/-- Reads a wish, or says what is wrong; the flag tells whether the usage is wrong. -/
def read (octets : Octets) : Except (Octets × Bool) SizeWish := do
  let isSpace (c : Char) : Bool := c = ' ' || ('\t' ≤ c && c ≤ '\x0d')
  let octets := octets.dropWhile isSpace
  let how? : Option Resize := match octets.head? with
    | some '<' => some .atMost
    | some '>' => some .atLeast
    | some '/' => some .roundedDown
    | some '%' => some .roundedUp
    | _ => none
  let octets := (if how?.isSome then octets.tail else octets).dropWhile isSpace
  let isSigned := octets.head? = some '+' || octets.head? = some '-'
  if isSigned && how?.isSome then
    throw ("multiple relative modifiers specified".toList, true)
  match number? octets with
  | none => throw ("Invalid number: ".toList ++ quoted octets, false)
  | some amount =>
      if bound ≤ amount || amount < -bound then
        throw ("Invalid number: ".toList ++ quoted octets ++
          ": Value too large for defined data type".toList, false)
      else if amount = 0 && (how? = some .roundedDown || how? = some .roundedUp) then
        throw ("division by zero".toList, false)
      else return ⟨how?.getD (if isSigned then .by else .exactly), amount⟩

def apply (w : SizeWish) (old : Nat) : Int :=
  match w.how with
  | .exactly => w.amount
  | .by => old + w.amount
  | .atMost => min (old : Int) w.amount
  | .atLeast => max (old : Int) w.amount
  | .roundedDown => old / w.amount * w.amount
  | .roundedUp => (old + w.amount - 1) / w.amount * w.amount

/-- Reads the wishes of all options that say one; the last counts. -/
def readAll (values : List Octets) : Action (Except Nat (Option SizeWish)) := do
  match values.mapM read with
  | .ok wishes => return .ok wishes.getLast?
  | .error (complaint, true) => return .error (← misuse "truncate" complaint 1)
  | .error (complaint, false) => return .error (← fail "truncate" complaint 1)

end SizeWish

def resize (a : Arguments) (base : Option Nat) (wish : SizeWish) (file : Octets) :
    Action Bool := do
  let wrong (complaint : Octets) : Action Bool := do
    complain "truncate" complaint
    return false
  let fs ← files
  let found := fs.get ⟨file⟩
  let openIt : Action (Except Failure (Option FileId)) := do
    match found with
    | .ok (.file id) =>
        if (fs.body id).content matches .pipe then return .ok none else return .ok (some id)
    | _ =>
        if a.has "c" && (found matches .error .notFound) then return .error (.file .notFound)
        else
          match ← (Task.openFile ⟨file⟩ .append : Action _) with
          | .error failure => return .error failure
          | .ok descriptor =>
              let opened ← (Task.inspect descriptor : Action _)
              Task.close descriptor
              match opened with
              | some (.file id _) => return .ok (some id)
              | _ => return .ok none
  match ← openIt with
  | .error failure =>
      if a.has "c" && failure = .file .notFound then return true
      else wrong (withReason ("cannot open ".toList ++ quoted file ++ " for writing".toList) failure)
  | .ok none =>
      wrong ("cannot open ".toList ++ quoted file ++
        " for writing: No such device or address".toList)
  | .ok (some id) =>
      let body := (← files).body id
      let old := body.bytes.size
      let wish := if a.has "o" then { wish with amount := wish.amount * 4096 } else wish
      let size := wish.apply (base.getD old)
      if !(-SizeWish.bound ≤ wish.amount && wish.amount < SizeWish.bound) then
        wrong ("overflow in ".toList ++ (toString (wish.amount / 4096)).toList ++
          " * 4096 byte blocks for file ".toList ++ quoted file)
      else if SizeWish.bound ≤ size then
        wrong ("overflow extending size of file ".toList ++ quoted file)
      else if FileBody.sizeLimit < size.toNat || !body.isPlain then
        wrong ("failed to truncate ".toList ++ quoted file ++ " at ".toList ++ shown size.toNat ++
          " bytes: ".toList ++
          (if body.isPlain then FileError.tooLarge else .invalid).reason.toList)
      else
        let _ ← (Task.browse (fun files => files.modifyBody id fun body =>
          body.resized files.moment size.toNat) : Action FileSystem)
        return true

def truncate : Tool := fun arguments _ =>
  withArguments "truncate"
      [.flag "c" "no-create", .flag "o" "io-blocks", .setting "r" "reference",
        .setting "s" "size"] 1 arguments fun a => do
    match ← SizeWish.readAll (a.values "s") with
    | .error status => return status
    | .ok wish? =>
        let wrong (complaint : String) : Action Nat := misuse "truncate" complaint.toList 1
        let fs ← files
        match wish?, a.value? "r" with
        | none, none => wrong "you must specify either '--size' or '--reference'"
        | some ⟨.exactly, _⟩, some _ =>
            wrong "you must specify a relative '--size' with '--reference'"
        | wish?, reference? =>
            if a.has "o" && wish?.isNone then
              wrong "'--io-blocks' was specified but '--size' was not"
            else if a.operands.isEmpty then wrong "missing file operand"
            else
              let base? : Except (Octets × FileError) (Option Nat) := match reference? with
                | none => .ok none
                | some file =>
                    match fs.get ⟨file⟩ with
                    | .ok (.file id) => .ok (some (fs.body id).bytes.size)
                    | .ok _ => .ok (some 4096)
                    | .error failure => .error (file, failure)
              match base?, wish? with
              | .error (file, failure), _ =>
                  let _ ← refuse "truncate" "cannot stat" file failure
                  return 1
              | .ok base, some wish => forEachOperand a.operands (resize a base wish)
              | .ok base, none =>
                  forEachOperand a.operands (resize a none ⟨.exactly, (base.getD 0 : Nat)⟩)

end Clausal.Utility

import Clausal.Utility.Filtering
import Clausal.Utility.Listing
import Clausal.Utility.Running

/-!
# Finding files

A walk through folders, with an expression that is evaluated for every file on the way.  Its
conditions look at the file, and its deeds do something with it.
-/

namespace Clausal.Utility

open Machine (Account Action Descriptor Environment Task)
open Text (Octets Regex)

namespace Finding

/-- A number with what it is compared by: the sign says whether more or less is asked for. -/
structure Bound where
  sign : Option Char
  value : Nat
  deriving DecidableEq, Repr

def Bound.admits (b : Bound) (n : Nat) : Bool :=
  match b.sign with
  | some '+' => b.value < n
  | some _ => n < b.value
  | none => n = b.value

def Bound.read? (octets : Octets) : Option Bound :=
  match octets with
  | '+' :: digits => (Text.readDigits? digits).map fun n => ⟨some '+', n⟩
  | '-' :: digits => (Text.readDigits? digits).map fun n => ⟨some '-', n⟩
  | digits => (Text.readDigits? digits).map fun n => ⟨none, n⟩

/-- How the bits of a mode are compared. -/
inductive Bits where
  | exactly
  | all
  | any
  deriving DecidableEq, Repr

inductive Condition where
  | named (wholePath : Bool) (folds : Bool) (pattern : Octets)
  | pathLike (searcher : Regex.Searcher)
  | kind (letters : List Char) (throughLink : Bool)
  | size (bound : Bound) (unit : Nat)
  | empty
  | newer (moment : Int)
  /-- How many units of time ago the last change was; a part of a unit may count as one. -/
  | age (bound : Bound) (unit : Nat) (roundsUp : Bool)
  | mode (how : Bits) (bits : Nat)
  | links (bound : Bound)
  | owner (bound : Bound)
  | group (bound : Bound)
  | nameless (isGroup : Bool)
  | number (bound : Bound)
  | same (number : Nat)
  | linkNamed (folds : Bool) (pattern : Octets)
  | executable
  | constant (value : Bool)

inductive Deed where
  | print (ending : Char) (file : Option Octets)
  | format (format : Octets) (file : Option Octets)
  | list
  | delete
  | prune
  | quit
  | run (words : List Octets) (isInside asks : Bool)
  /-- Runs a program once for many files; the number tells such deeds apart. -/
  | gather (index : Nat) (words : List Octets) (isInside : Bool)

inductive Expression where
  | condition (c : Condition)
  | deed (d : Deed)
  | not (e : Expression)
  | and (a b : Expression)
  | or (a b : Expression)
  | sequence (a b : Expression)

/-! ## Reading expressions -/

/-- How a walk goes. -/
structure Manner where
  most : Option Nat
  least : Nat
  isDeepFirst : Bool
  throughLinks : Bool

structure Draft where
  rest : List Octets
  manner : Manner
  dialect : String
  gathers : Nat
  hasDeed : Bool
  outputs : List Octets

abbrev Reader := StateT Draft (Except Octets)

def refuse (complaint : String) : Reader α := throw complaint.toList

def inQuotes (octets : Octets) : Octets := '\x60' :: octets ++ ['\'']

def argument (word : Octets) : Reader Octets := do
  match (← get).rest with
  | value :: rest =>
      modifyThe Draft fun d => { d with rest }
      return value
  | [] => throw ("missing argument to ".toList ++ inQuotes word)

def bound (word : Octets) : Reader Bound := do
  let value ← argument word
  match Bound.read? value with
  | some bound => return bound
  | none => throw ("invalid argument ".toList ++ inQuotes value ++ " to ".toList ++ inQuotes word)

def depth (word : Octets) : Reader Nat := do
  let value ← argument word
  match Text.readDigits? value with
  | some n => return n
  | none =>
      throw ("Expected a positive decimal integer argument to ".toList ++ word ++
        ", but got ".toList ++ quoted value)

/-- The words of a program, up to a semicolon or a plus sign after a pair of braces. -/
def programWords (word : Octets) : Reader (List Octets × Bool) := do
  let rest := (← get).rest
  match go rest.length rest [] with
  | some (words, isMany, rest) =>
      modifyThe Draft fun d => { d with rest }
      if words.isEmpty then throw ("missing argument to ".toList ++ inQuotes word)
      else return (words, isMany)
  | none => throw ("missing argument to ".toList ++ inQuotes word)
where
  go : Nat → List Octets → List Octets → Option (List Octets × Bool × List Octets)
    | 0, _, _ => none
    | rounds + 1, rest, words =>
        match rest with
        | [] => none
        | [';'] :: rest => some (words.reverse, false, rest)
        | ['+'] :: after =>
            if words.head? = some ['\x7b', '\x7d'] then some (words.tail.reverse, true, after)
            else go rounds after (['+'] :: words)
        | word :: rest => go rounds rest (word :: words)

def dialects : List String :=
  ["findutils-default", "ed", "emacs", "gnu-awk", "grep", "posix-awk", "awk", "posix-basic",
    "posix-egrep", "egrep", "posix-extended", "posix-minimal-basic", "sed"]

def plainSigns : Octets → Octets
  | '\\' :: c :: rest =>
      if c = '+' || c = '?' then c :: plainSigns rest else '\\' :: c :: plainSigns rest
  | c :: rest => if c = '+' || c = '?' then '\\' :: c :: plainSigns rest else c :: plainSigns rest
  | [] => []

def regex (dialect : String) (folds : Bool) (pattern : Octets) : Except Octets Regex.Searcher := do
  let isExtended := dialect = "posix-extended" || dialect = "egrep" || dialect = "posix-egrep" ||
    dialect = "awk" || dialect = "posix-awk" || dialect = "gnu-awk"
  let isPlain := dialect = "emacs" || dialect = "findutils-default"
  let pattern := if isPlain then plainSigns pattern else pattern
  match Regex.parse (if isExtended then .extended_ else .basic) pattern with
  | .ok r => return .of r.asWhole folds
  | .error fault => throw fault.text.toList

def kindLetters (word value : Octets) : Reader (List Char) := do
  let parts := Text.split (· = ',') value
  parts.mapM fun part =>
    match part with
    | [c] =>
        if "bcdpflsD".toList.contains c then return c
        else throw ("Unknown argument to ".toList ++ word ++ ": ".toList ++ [c])
    | [] => throw ("Last file type in list argument to ".toList ++ word ++
        " is missing, i.e., list is ending on: ','".toList)
    | _ => throw ("Must separate multiple arguments to ".toList ++ word ++ " using: ','".toList)

def sizeCondition (word : Octets) : Reader Condition := do
  let value ← argument word
  let (digits, unit) : Octets × Char := match value.getLast? with
    | some c => if c.isDigit then (value, 'b') else (value.dropLast, c)
    | none => ([], 'b')
  let units : List (Char × Nat) :=
    [('b', 512), ('c', 1), ('w', 2), ('k', 1024), ('M', 1048576), ('G', 1073741824)]
  match units.lookup unit, Bound.read? digits with
  | none, _ => throw ("invalid -size type ".toList ++ inQuotes [unit])
  | some _, none => throw ("Invalid argument ".toList ++ inQuotes value ++ " to -size".toList)
  | some unit, some bound => return .size bound unit

def modeCondition (word : Octets) : Reader Condition := do
  let value ← argument word
  let (how, text) : Bits × Octets := match value with
    | '-' :: text => (.all, text)
    | '/' :: text => (.any, text)
    | text => (.exactly, text)
  match Mode.read? text with
  | some changes => return .mode how (Mode.applyAll changes false 0 0)
  | none => throw ("invalid mode ".toList ++ quoted value)

/-- What a word that starts with a dash says; nothing if it is unknown. -/
def primary (fs : FileSystem) (word : Octets) : Reader (Option Expression) := do
  let value := argument word
  let condition (c : Reader Condition) : Reader (Option Expression) := do
    return some (.condition (← c))
  let always : Reader (Option Expression) := return some (.condition (.constant true))
  let manner (change : Manner → Manner) : Reader (Option Expression) := do
    modifyThe Draft fun d => { d with manner := change d.manner }
    always
  let deed (d : Deed) : Reader (Option Expression) := do
    modifyThe Draft fun draft => { draft with hasDeed := true }
    return some (.deed d)
  let output : Reader Octets := do
    let file ← value
    modifyThe Draft fun d => { d with outputs := file :: d.outputs }
    return file
  let changed (file : Octets) : Reader Int := do
    match attributesOf? fs file with
    | some attributes => return attributes.changed
    | none => throw (quoted file ++ ": No such file or directory".toList)
  let run (isInside asks : Bool) : Reader (Option Expression) := do
    let (words, isMany) ← programWords word
    if isMany then
      let index := (← get).gathers
      modifyThe Draft fun d => { d with gathers := index + 1 }
      deed (.gather index words isInside)
    else deed (.run words isInside asks)
  let day := 86400000000000
  let minute := 60000000000
  match String.ofList word with
  | "-name" => condition do return .named false false (← value)
  | "-iname" => condition do return .named false true (← value)
  | "-path" | "-wholename" => condition do return .named true false (← value)
  | "-ipath" | "-iwholename" => condition do return .named true true (← value)
  | "-lname" => condition do return .linkNamed false (← value)
  | "-ilname" => condition do return .linkNamed true (← value)
  | "-regex" => condition do return .pathLike (← (regex (← get).dialect false (← value) : Except _ _))
  | "-iregex" => condition do return .pathLike (← (regex (← get).dialect true (← value) : Except _ _))
  | "-regextype" =>
      let dialect := text (← value)
      if !dialects.contains dialect then
        let known := ", ".intercalate (dialects.map fun name => s!"'{name}'")
        refuse s!"Unknown regular expression type '{dialect}'; valid types are {known}."
      modifyThe Draft fun d => { d with dialect }
      always
  | "-type" => condition do return .kind (← kindLetters word (← value)) false
  | "-xtype" => condition do return .kind (← kindLetters word (← value)) true
  | "-size" => condition (sizeCondition word)
  | "-empty" => condition (return .empty)
  | "-newer" | "-anewer" | "-cnewer" | "-newermm" => condition do return .newer (← changed (← value))
  | "-newermt" => condition do
      let given ← value
      match Moment.read? (.ofNanoseconds fs.moment) given with
      | some m => return .newer (m.seconds * 1000000000 + m.nanoseconds)
      | none => throw ("I cannot figure out how to interpret ".toList ++ quoted given ++
          " as a date or time".toList)
  | "-mtime" | "-ctime" | "-atime" => condition do return .age (← bound word) day false
  | "-mmin" | "-cmin" | "-amin" => condition do return .age (← bound word) minute true
  | "-perm" => condition (modeCondition word)
  | "-links" => condition do return .links (← bound word)
  | "-inum" => condition do return .number (← bound word)
  | "-samefile" => condition do
      let file ← value
      match entry? fs false file with
      | .ok e => return .same e.number
      | .error failure => throw (quoted file ++ ": ".toList ++ failure.reason.toList)
  | "-user" => condition do
      let name ← value
      match ((Account.named? name).map Account.number).or (Text.readDigits? name) with
      | some number => return .owner ⟨none, number⟩
      | none => throw (quoted name ++ " is not the name of a known user".toList)
  | "-group" => condition do
      let name ← value
      match (Account.groupNamed? name).or (Text.readDigits? name) with
      | some number => return .group ⟨none, number⟩
      | none => throw (quoted name ++ " is not the name of an existing group".toList)
  | "-uid" => condition do return .owner (← bound word)
  | "-gid" => condition do return .group (← bound word)
  | "-nouser" => condition (return .nameless false)
  | "-nogroup" => condition (return .nameless true)
  | "-readable" | "-writable" => always
  | "-executable" => condition (return .executable)
  | "-true" => always
  | "-false" => condition (return .constant false)
  | "-maxdepth" =>
      let most ← depth word
      manner fun m => { m with most := some most }
  | "-mindepth" =>
      let least ← depth word
      manner fun m => { m with least }
  | "-depth" | "-d" => manner fun m => { m with isDeepFirst := true }
  | "-follow" => manner fun m => { m with throughLinks := true }
  | "-daystart" | "-xdev" | "-mount" | "-noleaf" | "-warn" | "-nowarn" | "-ignore_readdir_race"
  | "-noignore_readdir_race" => always
  | "-print" => deed (.print '\n' none)
  | "-print0" => deed (.print '\x00' none)
  | "-fprint" => deed (.print '\n' (some (← output)))
  | "-fprint0" => deed (.print '\x00' (some (← output)))
  | "-printf" => deed (.format (← value) none)
  | "-fprintf" =>
      let file ← output
      deed (.format (← value) (some file))
  | "-ls" => deed .list
  | "-delete" =>
      modifyThe Draft fun d => { d with manner := { d.manner with isDeepFirst := true } }
      deed .delete
  | "-prune" => return some (.deed .prune)
  | "-quit" => deed .quit
  | "-exec" => run false false
  | "-execdir" => run true false
  | "-ok" => run false true
  | "-okdir" => run true true
  | _ => return none

def peek : Reader (Option Octets) := return (← get).rest.head?

def skip : Reader Unit := modifyThe Draft fun d => { d with rest := d.rest.tail }

def isOr (word : Octets) : Bool := word = ['-', 'o'] || word = "-or".toList

def isAnd (word : Octets) : Bool := word = ['-', 'a'] || word = "-and".toList

def isNot (word : Octets) : Bool := word = ['!'] || word = "-not".toList

def readOperand (fs : FileSystem) (whole : Reader Expression) : Nat → Reader Expression
  | 0 => refuse "invalid expression"
  | rounds + 1 => do
      match ← peek with
      | none => refuse "invalid expression"
      | some word =>
          skip
          if isNot word then
            if (← peek).isNone then
              throw ("expected an expression after ".toList ++ quoted word)
            else return .not (← readOperand fs whole rounds)
          else if word = ['('] then
            let missing := "invalid expression; expected to find a ')' but didn't see one. " ++
              "Perhaps you need an extra predicate after '('"
            match ← peek with
            | none => refuse missing
            | some [')'] => refuse "invalid expression; empty parentheses are not allowed."
            | some _ =>
                let inside ← whole
                if (← peek) = some [')'] then
                  skip
                  return inside
                else
                  refuse ("invalid expression; I was expecting to find a ')' somewhere but did " ++
                    "not see one.")
          else if isOr word || isAnd word || word = [','] then
            throw ("invalid expression; you have used a binary operator ".toList ++ quoted word ++
              " with nothing before it.".toList)
          else if word = [')'] then
            refuse "invalid expression; you have too many ')'"
          else if word.head? = some '-' && 1 < word.length then
            match ← primary fs word with
            | some e => return e
            | none => throw ("unknown predicate ".toList ++ inQuotes word)
          else throw ("paths must precede expression: ".toList ++ inQuotes word)

def readAll (fs : FileSystem) (whole : Reader Expression) : Nat → Expression → Reader Expression
  | 0, e => return e
  | rounds + 1, e => do
      match ← peek with
      | none => return e
      | some word =>
          if isOr word || word = [','] || word = [')'] then return e
          else
            if isAnd word then
              skip
              if (← peek).isNone then
                throw ("expected an expression after ".toList ++ quoted word)
            readAll fs whole rounds (.and e (← readOperand fs whole (rounds + 1)))

def readAny (fs : FileSystem) (whole : Reader Expression) (bound : Nat) :
    Nat → Expression → Reader Expression
  | 0, e => return e
  | rounds + 1, e => do
      match ← peek with
      | none => return e
      | some word =>
          if isOr word || word = [','] then
            skip
            if (← peek).isNone then
              throw ("expected an expression after ".toList ++ quoted word)
            else
              let next ← readAll fs whole bound (← readOperand fs whole bound)
              if isOr word then readAny fs whole bound rounds (.or e next)
              else return .sequence e (← readAny fs whole bound rounds next)
          else return e

/-- Reads an expression; brackets go no deeper than the bound. -/
def readExpression (fs : FileSystem) : Nat → Reader Expression
  | 0 => refuse "invalid expression"
  | depth + 1 => do
      let bound := (← get).rest.length + 1
      let whole := readExpression fs depth
      readAny fs whole bound bound (← readAll fs whole bound (← readOperand fs whole bound))

/-- Reads all words; without a deed, names are printed. -/
def readWords (fs : FileSystem) : Reader Expression := do
  let print := Expression.deed (.print '\n' none)
  if (← get).rest.isEmpty then return print
  else
    let e ← readExpression fs 200
    match (← get).rest with
    | [')'] :: _ => refuse "invalid expression; you have too many ')'"
    | word :: _ => throw ("paths must precede expression: ".toList ++ inQuotes word)
    | [] => if (← get).hasDeed then return e else return .and e print

/-! ## Walking -/

/-- A file on the way. -/
structure Visit where
  path : Octets
  start : Octets
  depth : Nat
  entry : Entry
  above : List (List Name)

/-- What a walk came to so far. -/
structure Walk where
  out : Outlet
  status : Nat
  prunes : Bool
  quits : Bool
  gathered : List (Nat × List Octets)
  outputs : List (Octets × Descriptor)

def Visit.base (v : Visit) : Octets :=
  let bare := (Path.withoutSlashes ⟨v.path⟩).octets
  if bare = ['/'] then bare else lastPart bare

def Visit.folder (v : Visit) : Octets :=
  if (Path.withoutSlashes ⟨v.path⟩).octets.contains '/' then folderPart v.path else ['.']

def matchesName (folds : Bool) (pattern name : Octets) : Bool :=
  let fold (octets : Octets) : Octets := if folds then octets.map Char.toLower else octets
  Shell.matchesPattern (Shell.Pattern.read ((fold pattern).map fun c => (c, false))) (fold name)

def Visit.letter (fs : FileSystem) (e : Entry) : Char :=
  let c := e.letter fs
  if c = '-' then 'f' else c

def Condition.holds (fs : FileSystem) (v : Visit) : Condition → Bool
  | named true folds pattern => matchesName folds pattern v.path
  | named false folds pattern => matchesName folds pattern v.base
  | pathLike searcher => searcher.matches? v.path
  | kind letters false => letters.contains (Visit.letter fs v.entry)
  | kind letters true =>
      match entry? fs true v.path with
      | .ok e => letters.contains (Visit.letter fs e)
      | .error _ => letters.contains 'l'
  | size bound unit => bound.admits ((v.entry.size fs + unit - 1) / unit)
  | empty =>
      match v.entry.node with
      | .folder _ entries => entries.isEmpty
      | .file id => (fs.body id).isPlain && (fs.body id).bytes.isEmpty
      | .link _ => false
  | newer moment => moment < (v.entry.attributes fs).changed
  | age bound unit roundsUp =>
      let span := fs.moment - (v.entry.attributes fs).changed
      let whole := (span / unit).toNat
      if roundsUp then
        match bound.sign with
        | some '+' => decide ((bound.value * unit : Nat) < span)
        | some _ => decide (span < (bound.value * unit : Nat))
        | none => whole + 1 = bound.value
      else bound.admits whole
  | mode how bits =>
      let own := (v.entry.attributes fs).mode
      match how with
      | .exactly => own = bits
      | .all => own &&& bits = bits
      | .any => bits = 0 || own &&& bits != 0
  | links bound => bound.admits (v.entry.linkCount fs)
  | owner bound => bound.admits (v.entry.attributes fs).owner
  | group bound => bound.admits (v.entry.attributes fs).group
  | nameless false => (Account.numbered? (v.entry.attributes fs).owner).isNone
  | nameless true => (Account.groupName? (v.entry.attributes fs).group).isNone
  | number bound => bound.admits v.entry.number
  | same other => v.entry.number = other
  | linkNamed folds pattern => v.entry.target?.any (matchesName folds pattern)
  | executable => v.entry.node.isFolder || (v.entry.attributes fs).mode &&& 0o111 != 0
  | constant value => value

def item (fs : FileSystem) (v : Visit) (letter : Char) : Octets :=
  let e := v.entry
  let attributes := e.attributes fs
  let moment := Moment.ofNanoseconds attributes.changed
  match letter with
  | 'p' => v.path
  | 'f' => v.base
  | 'h' => v.folder
  | 'P' => (v.path.drop v.start.length).dropWhile (· = '/')
  | 'H' => v.start
  | 'd' => shown v.depth
  | 's' => shown (e.size fs)
  | 'k' => shown (e.blocks fs / 2)
  | 'b' => shown (e.blocks fs)
  | 'y' => [Visit.letter fs e]
  | 'Y' =>
      match entry? fs true v.path with
      | .ok e => [Visit.letter fs e]
      | .error _ => ['N']
  | 'l' => e.target?.getD []
  | 'm' => Mode.shownOctal attributes.mode
  | 'M' => e.modeText fs
  | 'n' => shown (e.linkCount fs)
  | 'i' => shown e.number
  | 'u' => Account.shownUser attributes.owner
  | 'g' => Account.shownGroup attributes.group
  | 'U' => shown attributes.owner
  | 'G' => shown attributes.group
  | 't' | 'a' | 'c' => moment.format 40 "%a %b %e %H:%M:%S.%N0 %Y".toList
  | 'F' => "ext4".toList
  | 'D' => "40".toList
  | _ => ['%', letter]

def dateItem (fs : FileSystem) (v : Visit) (letter : Char) : Octets :=
  let moment := Moment.ofNanoseconds (v.entry.attributes fs).changed
  match letter with
  | '@' => moment.format 40 "%s.%N0".toList
  | '+' => moment.format 40 "%Y-%m-%d+%H:%M:%S.%N0".toList
  | 'S' => moment.format 40 "%S.%N0".toList
  | 'T' => moment.format 40 "%H:%M:%S.%N0".toList
  | letter => moment.format 40 ['%', letter]

def fill (fs : FileSystem) (v : Visit) : Nat → Octets → Octets
  | 0, _ => []
  | rounds + 1, octets =>
      match octets with
      | [] => []
      | '%' :: '%' :: rest => '%' :: fill fs v rounds rest
      | '%' :: rest =>
          let (marks, rest) := rest.span fun c => c.isDigit || c = '-' || c = '#' || c = '0' || c = '.'
          let isLeft := marks.head? = some '-'
          let width := (Text.readDigits? ((marks.dropWhile fun c => !c.isDigit).takeWhile
            Char.isDigit)).getD 0
          let (shownItem, rest) := match rest with
            | 'T' :: c :: rest | 'A' :: c :: rest | 'C' :: c :: rest => (dateItem fs v c, rest)
            | c :: rest => (item fs v c, rest)
            | [] => (['%'], [])
          (if isLeft then padRight width shownItem else padLeft width shownItem) ++
            fill fs v rounds rest
      | '\\' :: c :: rest =>
          match "nt0rabfv\\".toList.contains c, c with
          | true, 'n' => '\n' :: fill fs v rounds rest
          | true, 't' => '\t' :: fill fs v rounds rest
          | true, 'r' => '\r' :: fill fs v rounds rest
          | true, 'a' => '\x07' :: fill fs v rounds rest
          | true, 'b' => '\x08' :: fill fs v rounds rest
          | true, 'f' => '\x0c' :: fill fs v rounds rest
          | true, 'v' => '\x0b' :: fill fs v rounds rest
          | true, '\\' => '\\' :: fill fs v rounds rest
          | _, c =>
              let digits := ((c :: rest).take 3).takeWhile fun d => '0' ≤ d && d ≤ '7'
              if digits.isEmpty then '\\' :: c :: fill fs v rounds rest
              else
                let value := digits.foldl (fun n d => 8 * n + (d.toNat - '0'.toNat)) 0
                Char.ofNat (value % 256) :: fill fs v rounds ((c :: rest).drop digits.length)
      | c :: rest => c :: fill fs v rounds rest

def listRow (fs : FileSystem) (v : Visit) : Octets :=
  let e := v.entry
  let target : Octets := match e.target? with
    | some target => " -> ".toList ++ target
    | none => []
  padLeft 9 (shown e.number) ++ ' ' :: padLeft 6 (shown (e.blocks fs / 2)) ++ ' ' :: e.modeText fs ++
    ' ' :: padLeft 3 (shown (e.linkCount fs)) ++ ' ' ::
    padRight 8 (Account.shownUser (e.attributes fs).owner) ++ ' ' ::
    padRight 8 (Account.shownGroup (e.attributes fs).group) ++ ' ' ::
    padLeft 8 (shown (e.size fs)) ++ ' ' :: Listing.DateFormats.plain.write fs (e.attributes fs).changed ++
    ' ' :: v.path ++ target ++ ['\n']

def Walk.put (w : Walk) (file : Option Octets) (octets : Octets) : Action Walk := do
  match file.bind fun file => w.outputs.lookup file with
  | some descriptor =>
      let _ ← (Task.write descriptor octets : Action _)
      return w
  | none => return { w with out := ← w.out.put octets }

def Walk.complain (w : Walk) (complaint : Octets) : Action Walk := do
  let out ← w.out.flush
  Utility.complain "find" complaint
  return { w with out, status := 1 }

def withPath (path : Octets) : Octets → Octets
  | '\x7b' :: '\x7d' :: rest => path ++ withPath path rest
  | c :: rest => c :: withPath path rest
  | [] => []

def runProgram (environment : Environment) (folder : Option Octets) (words : List Octets) :
    Action Bool := do
  let child ← spawn do
    match folder with
    | some folder =>
        let _ ← (Task.enterFolder ⟨folder⟩ : Action _)
    | none => pure ()
    become "find" "" quoted words environment
  return (← waitFor child roundBound).status = 0

def Deed.apply (environment : Environment) (v : Visit) (w : Walk) : Deed → Action (Bool × Walk)
  | print ending file => return (true, ← w.put file (v.path ++ [ending]))
  | format wanted file => do
      let fs ← files
      return (true, ← w.put file (fill fs v (wanted.length + 1) wanted))
  | list => do
      let fs ← files
      return (true, ← w.put none (listRow fs v))
  | delete => do
      if v.path = ['.'] || v.base = ['.'] then return (true, w)
      else
        let change (fs : FileSystem) : Except FileError FileSystem :=
          if v.entry.node.isFolder then fs.removeFolder ⟨v.path⟩ else fs.unlink ⟨v.path⟩
        match ← changeFiles change with
        | .ok () => return (true, w)
        | .error failure =>
            return (false, ← w.complain ("cannot delete ".toList ++ quoted v.path ++
              ": ".toList ++ failure.reason.toList))
  | prune => return (true, { w with prunes := true })
  | quit => return (true, { w with quits := true })
  | run words isInside asks => do
      let out ← w.out.flush
      let w := { w with out }
      let path := if isInside then '.' :: '/' :: v.base else v.path
      let words := words.map (withPath path)
      let goesOn ← if asks then do
          report ("< ".toList ++ words.headD [] ++ " ... ".toList ++ v.path ++ " > ? ".toList)
          match ← (Task.readLine 0 : Action _) with
          | .ok (c :: _) => pure (c = 'y' || c = 'Y')
          | _ => pure false
        else pure true
      if !goesOn then return (false, w)
      else
        let isGood ← runProgram environment (if isInside then some v.folder else none) words
        return (isGood, w)
  | gather index words isInside => do
      if isInside then
        let out ← w.out.flush
        let isGood ← runProgram environment (some v.folder) (words ++ ['.' :: '/' :: v.base])
        return (true, { w with out, status := if isGood then w.status else 1 })
      else
        let earlier := (w.gathered.lookup index).getD []
        let others := w.gathered.filter fun entry => entry.1 != index
        return (true, { w with gathered := (index, v.path :: earlier) :: others })

def Expression.eval (environment : Environment) (v : Visit) : Expression → Walk → Action (Bool × Walk)
  | condition c, w => do
      let fs ← files
      return (c.holds fs v, w)
  | deed d, w => d.apply environment v w
  | not e, w => do
      let (value, w) ← e.eval environment v w
      return (!value, w)
  | and a b, w => do
      let (value, w) ← a.eval environment v w
      if value && !w.quits then b.eval environment v w else return (value, w)
  | or a b, w => do
      let (value, w) ← a.eval environment v w
      if value || w.quits then return (value, w) else b.eval environment v w
  | sequence a b, w => do
      let (value, w) ← a.eval environment v w
      if w.quits then return (value, w) else b.eval environment v w

def entryAt (fs : FileSystem) (throughLink : Bool) (path : Octets) : Except FileError Entry :=
  match throughLink, entry? fs true path with
  | true, .ok e => .ok e
  | _, _ => entry? fs false path

/-- Goes through a file and what is in it, as far down as the bound says. -/
def walk (environment : Environment) (m : Manner) (e : Expression) :
    Nat → Visit → Walk → Action Walk
  | 0, _, w => return w
  | rounds + 1, v, w => do
      let isMeant := m.least ≤ v.depth
      let w := { w with prunes := false }
      let w ← if isMeant && !m.isDeepFirst then pure (← e.eval environment v w).2 else pure w
      let enters := v.entry.node.isFolder && m.most.all (v.depth < ·) && !w.quits &&
        (m.isDeepFirst || !w.prunes) && !v.above.contains v.entry.place
      let w ← if enters then do
          let fs ← files
          let names := match fs.node? v.entry.place with
            | some (.folder _ entries) => entries.map Prod.fst
            | _ => []
          names.foldlM (fun w name => do
            if w.quits then return w
            else
              let path := entryOf v.path name
              match entryAt (← files) m.throughLinks path with
              | .error _ => return w
              | .ok entry =>
                  walk environment m e rounds
                    ⟨path, v.start, v.depth + 1, entry, v.entry.place :: v.above⟩ w) w
        else pure w
      if isMeant && m.isDeepFirst && !w.quits then return (← e.eval environment v w).2 else return w

def gathers : Expression → List (Nat × List Octets)
  | .deed (.gather index words _) => [(index, words)]
  | .condition _ | .deed _ => []
  | .not e => gathers e
  | .and a b | .or a b | .sequence a b => gathers a ++ gathers b

def startsExpression (word : Octets) : Bool :=
  word = ['('] || word = ['!'] || word.head? = some '-' && 1 < word.length

def readFront (throughLinks throughGiven : Bool) : List Octets → Bool × Bool × List Octets
  | ['-', 'L'] :: rest => readFront true true rest
  | ['-', 'P'] :: rest => readFront false false rest
  | ['-', 'H'] :: rest => readFront false true rest
  | ['-', '-'] :: rest => (throughLinks, throughGiven, rest)
  | rest => (throughLinks, throughGiven, rest)

end Finding

def find : Tool := fun arguments environment => do
  let (throughLinks, throughGiven, rest) := Finding.readFront false false arguments
  let paths := rest.takeWhile fun word => !Finding.startsExpression word
  let draft : Finding.Draft := {
    rest := rest.drop paths.length
    manner := ⟨none, 0, false, throughLinks⟩
    dialect := "emacs", gathers := 0, hasDeed := false, outputs := [] }
  match (Finding.readWords (← files)).run draft with
  | .error complaint => fail "find" complaint 1
  | .ok (e, draft) =>
      let outputs ← draft.outputs.filterMapM fun file => do
        match ← (Task.openFile ⟨file⟩ .write : Action _) with
        | .ok descriptor => return some (file, descriptor)
        | .error _ => return none
      let start : Finding.Walk := ⟨.empty, 0, false, false, [], outputs⟩
      let w ← (if paths.isEmpty then [['.']] else paths).foldlM (fun (w : Finding.Walk) path => do
        if w.quits then return w
        else
          match Finding.entryAt (← files) (draft.manner.throughLinks || throughGiven) path with
          | .error failure => w.complain (quoted path ++ ": ".toList ++ failure.reason.toList)
          | .ok entry => Finding.walk environment draft.manner e 1000 ⟨path, path, 0, entry, []⟩ w)
        start
      let out ← w.out.flush
      let results ← (Finding.gathers e).mapM fun (index, words) =>
        match w.gathered.lookup index with
        | some paths => Finding.runProgram environment none (words ++ paths.reverse)
        | none => pure true
      out.finish "find" (if results.all id then w.status else 1)

end Clausal.Utility

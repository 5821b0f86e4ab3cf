import Clausal.Shell.Pattern
import Clausal.Utility.Entry
import Clausal.Utility.Scale

/-!
# Room

A utility that says how much room trees take.  A file with several names counts once.
-/

namespace Clausal.Utility

open Machine (Action)
open Text (Octets)

namespace Room

structure Request where
  showsFiles : Bool
  isApparent : Bool
  countsAllNames : Bool
  notesAll : Bool
  throughOperands : Bool
  throughLinks : Bool
  isSeparate : Bool
  depth : Option Nat
  excluded : List Octets
  deriving DecidableEq, Repr

/-- What something takes with all that is below it. -/
structure Sum where
  bytes : Nat
  files : Nat
  latest : Int
  deriving DecidableEq, Repr

def Sum.add (a b : Sum) : Sum := ⟨a.bytes + b.bytes, a.files + b.files, max a.latest b.latest⟩

structure Row where
  sum : Sum
  path : Octets

structure Survey where
  rows : List Row
  seen : List Nat
  total : Sum
  isFine : Bool

abbrev Work := StateT Survey Action

def isExcluded (r : Request) (path : Octets) : Bool :=
  let parts := Text.split (· = '/') path
  let tails := (List.range parts.length).map fun count => ['/'].intercalate (parts.drop count)
  r.excluded.any fun pattern =>
    let pattern := Shell.Pattern.read (pattern.map fun c => (c, false))
    (tails.filter fun tail => !tail.isEmpty).any fun tail => Shell.matchesPattern pattern tail

def own (r : Request) (fs : FileSystem) (e : Entry) : Sum :=
  let bytes := if !r.isApparent then e.blocks fs * 512
    else if e.node.isFolder then 0 else e.size fs
  ⟨bytes, 1, (e.attributes fs).changed⟩

/-- Whether an entry is met for the first time; notes it. -/
def isNew (r : Request) (fs : FileSystem) (e : Entry) : Work Bool := do
  let counts := r.notesAll || (!e.node.isFolder && 1 < e.linkCount fs)
  if r.countsAllNames || !counts then return true
  else if (← get).seen.contains e.number then return false
  else
    modify fun s => { s with seen := e.number :: s.seen }
    return true

def note (r : Request) (level : Nat) (isFolder : Bool) (sum : Sum) (path : Octets) : Work Unit :=
  if level = 0 || ((isFolder || r.showsFiles) && r.depth.all fun depth => level ≤ depth) then
    modify fun s => { s with rows := ⟨sum, path⟩ :: s.rows }
  else return ()

/-- Measures what is at a path: all that it takes, and what counts for the folder around it if
folders are kept apart. -/
def measure (r : Request) (fs : FileSystem) : Nat → Nat → Octets → Work (Option (Sum × Option Sum))
  | 0, _, _ => return none
  | depth + 1, level, path => do
      if isExcluded r path then return none
      let through := r.throughLinks || (level = 0 && r.throughOperands)
      match entry? fs through path with
      | .error failure =>
          let _ ← (refuse "du" "cannot access" path failure : Action Bool)
          modify fun s => { s with isFine := false }
          return none
      | .ok e =>
          if !(← isNew r fs e) then return none
          let alone := own r fs e
          modify fun s => { s with total := s.total.add alone }
          match e.node with
          | .folder _ entries =>
              let parts ← entries.mapM fun (name, _) =>
                measure r fs depth (level + 1) (entryOf path name)
              let parts := parts.filterMap id
              let whole := parts.foldl (fun sum part => sum.add part.1) alone
              let direct := parts.foldl (fun sum part => sum.add (part.2.getD ⟨0, 0, alone.latest⟩))
                alone
              note r level true (if r.isSeparate then direct else whole) path
              return some (whole, none)
          | _ =>
              note r level false alone path
              return some (alone, some alone)

def passes (threshold : Option Int) (amount : Nat) : Bool :=
  match threshold with
  | none => true
  | some t => if t < 0 then decide ((amount : Int) ≤ -t) else decide (t ≤ amount)

def switches : List Switch :=
  [.flag "0" "null", .flag "a" "all", .flag "b" "bytes", .setting "d" "max-depth",
    .flag "c" "total", .flag "h" "human-readable", .flag "D" "dereference-args", .flag "H" "",
    .flag "k" "", .flag "l" "count-links", .flag "m" "", .flag "s" "summarize",
    .setting "t" "threshold", .flag "x" "one-file-system", .setting "B" "",
    .setting "size" "block-size", .flag "L" "dereference", .flag "P" "no-dereference",
    .flag "S" "separate-dirs", .setting "X" "exclude-from", .setting "exclude" "exclude",
    .flag "apparent" "apparent-size", .flag "inodes" "inodes", .flag "si" "si",
    .choice "time" "time", .setting "style" "time-style", .setting "from" "files0-from"]

structure Manner where
  scale : Scale
  threshold : Option Int
  depth : Option Nat
  isWrong : Bool

/-- Takes note of an option; nothing if it ends all. -/
def Manner.add (m : Manner) (option : String × Octets) : Action (Option Manner) := do
  let sized (name : String) (value : Octets) : Action (Option Manner) := do
    match Scale.read value with
    | .ok scale => return some { m with scale }
    | .error misfit =>
        complain "du" (Scale.Misfit.complaint name value misfit)
        return none
  match option with
  | ("h", _) => return some { m with scale := .byLetter 1024 }
  | ("si", _) => return some { m with scale := .byLetter 1000 }
  | ("k", _) => return some { m with scale := .byBlock 1024 [] }
  | ("m", _) => return some { m with scale := .byBlock 1048576 [] }
  | ("b", _) => return some { m with scale := .byBlock 1 [] }
  | ("B", value) => sized "-B" value
  | ("size", value) => sized "--block-size" value
  | ("d", value) =>
      match Text.readUnsigned? value with
      | some depth => return some { m with depth := some depth }
      | none =>
          complain "du" ("invalid maximum depth ".toList ++ quoted value)
          return some { m with isWrong := true }
  | ("t", value) =>
      let (isNegative, digits) := match value with
        | '-' :: rest => (true, rest)
        | rest => (false, rest)
      match count? digits with
      | some n =>
          if isNegative && n = 0 then
            complain "du" ("invalid --threshold argument ".toList ++ quoted value)
            return none
          else return some { m with threshold := some (if isNegative then -(n : Int) else n) }
      | none =>
          complain "du" ("invalid --threshold argument ".toList ++ quoted value)
          return none
  | _ => return some m

end Room

open Room in
def du : Tool := fun arguments environment =>
  withArguments "du" switches 1 arguments fun a => do
    let asked := Scale.asked? environment ["DU_BLOCK_SIZE", "BLOCK_SIZE", "BLOCKSIZE"]
    let start : Manner := ⟨asked.getD (.byBlock 1024 []), none, none, false⟩
    match ← readOptions Manner.add a.options start with
    | none => return 1
    | some m =>
        let summarizes := a.has "s"
        if m.isWrong then suggestHelp "du" 1
        else if a.has "a" && summarizes then
          misuse "du" "cannot both summarize and show all entries".toList 1
        else if summarizes && m.depth.any (· != 0) then
          misuse "du" ("warning: summarizing conflicts with --max-depth=".toList ++
            shown (m.depth.getD 0)) 1
        else
          if summarizes && m.depth = some 0 then
            complain "du" "warning: summarizing is the same as using --max-depth=0".toList
          if a.has "inodes" && a.hasAny ["b", "apparent"] then
            complain "du"
              "warning: options --apparent-size and -b are ineffective with --inodes".toList
          let lists ← (a.values "X").mapM (contents "du")
          if !(lists.all Option.isSome) then return 1
          let named? ← match a.value? "from", a.operands with
            | none, operands => pure (some (if operands.isEmpty then [['.']] else operands))
            | some _, extra :: _ => do
                complain "du" ("extra operand ".toList ++ quoted extra)
                report "file operands cannot be combined with --files0-from\n".toList
                let _ ← suggestHelp "du" 1
                pure none
            | some file, [] => do
                match ← fileContents file with
                | .ok octets => pure (some ((linesWithEnds '\x00' octets).map Prod.fst))
                | .error failure => do
                    complain "du" (withReason ("cannot open ".toList ++ quoted file ++
                      " for reading".toList) failure)
                    pure none
          match named? with
          | none => return 1
          | some operands =>
              let following := (a.last? ["L", "P", "D", "H"]).getD "P"
              let r : Request := {
                showsFiles := a.has "a"
                isApparent := a.hasAny ["b", "apparent"]
                countsAllNames := a.has "l"
                notesAll := 1 < operands.length || following = "L"
                throughOperands := following = "D" || following = "H"
                throughLinks := following = "L"
                isSeparate := a.has "S"
                depth := if summarizes then some 0 else m.depth
                excluded := a.values "exclude" ++ (lists.filterMap id).flatMap lines }
              let fs ← files
              let ending := if a.has "0" then '\x00' else '\n'
              let counted (sum : Sum) : Nat := if a.has "inodes" then sum.files else sum.bytes
              let write (row : Row) : Octets :=
                (if a.has "inodes" then shown row.sum.files else m.scale.write row.sum.bytes) ++
                  (if a.has "time" then
                    '\t' :: (Moment.ofNanoseconds row.sum.latest).format 40 "%Y-%m-%d %H:%M".toList
                  else []) ++ '\t' :: row.path ++ [ending]
              let survey : Survey := ⟨[], [], ⟨0, 0, 0⟩, true⟩
              let (_, survey) ← (operands.forM (fun operand => do
                if operand.isEmpty then
                  (complain "du" "invalid zero-length file name".toList : Action Unit)
                  modify fun s => { s with isFine := false }
                else
                  let _ ← measure r fs deepest 0 operand) : Work Unit).run survey
              let rows := survey.rows.reverse.filter fun row => passes m.threshold (counted row.sum)
              let total := if a.has "c" then write ⟨survey.total, "total".toList⟩ else []
              emitWith "du" (rows.flatMap write ++ total) (if survey.isFine then 0 else 1)

end Clausal.Utility

import Clausal.Text.Difference
import Clausal.Utility.Filtering

/-!
# Comparing files

Utilities that say where two files differ, byte by byte or line by line, and which files of two
folders do.
-/

namespace Clausal.Utility

open Machine (Action Task)
open Text (Change Octets Regex)

/-! ## Bytes -/

namespace ByteComparison

/-- How two files are compared. -/
structure Request where
  first : Octets
  second : Octets
  skipFirst : Nat
  skipSecond : Nat
  limit : Option Nat
  showsBytes : Bool
  isVerbose : Bool
  isSilent : Bool

def visible (c : Char) : Octets :=
  let low (c : Char) : Octets :=
    if c.toNat < 32 then ['^', Char.ofNat (c.toNat + 64)]
    else if c.toNat = 127 then ['^', '?'] else [c]
  if 128 ≤ c.toNat then 'M' :: '-' :: low (Char.ofNat (c.toNat - 128)) else low c

def octal (c : Char) : Octets := padLeft 3 (Mode.shownOctal c.toNat)

/-- Where two texts stop being equal: the bytes and line ends before that, whether a line ends
there, and what is left of both. -/
def common : Octets → Octets → Nat → Nat → Bool → Nat × Nat × Bool × Octets × Octets
  | a :: as, b :: bs, bytes, lines, atStart =>
      if a = b then
        common as bs (bytes + 1) (if a = '\n' then lines + 1 else lines) (a = '\n')
      else (bytes, lines, atStart, a :: as, b :: bs)
  | as, bs, bytes, lines, atStart => (bytes, lines, atStart, as, bs)

def rows (r : Request) (width : Nat) : Octets → Octets → Nat → List Octets
  | a :: as, b :: bs, place =>
      if a = b then rows r width as bs (place + 1)
      else
        let bytes := if r.showsBytes then
            octal a ++ ' ' :: padRight 4 (visible a) ++ ' ' :: octal b ++ ' ' :: visible b
          else octal a ++ ' ' :: octal b
        (padLeft width (shown (place + 1)) ++ ' ' :: bytes) :: rows r width as bs (place + 1)
  | _, _, _ => []

def sayEnd (r : Request) (isFirst : Bool) (bytes lines : Nat) (atStart : Bool) : Action Nat := do
  if !r.isSilent then
    let name := if isFirst then r.first else r.second
    let place : Octets :=
      if bytes = 0 then " which is empty".toList
      else
        let line : Octets :=
          if r.isVerbose then []
          else if atStart then ", line ".toList ++ shown lines
          else ", in line ".toList ++ shown (lines + 1)
        " after byte ".toList ++ shown bytes ++ line
    complain "cmp" ("EOF on ".toList ++ name ++ place)
  return 1

def compare (r : Request) (width : Nat) (first second : Octets) : Action Nat := do
  let cut (skip : Nat) (octets : Octets) : Octets :=
    let rest := octets.drop skip
    match r.limit with
    | some limit => rest.take limit
    | none => rest
  let first := cut r.skipFirst first
  let second := cut r.skipSecond second
  let (bytes, lines, atStart, restFirst, restSecond) := common first second 0 0 false
  match restFirst, restSecond with
  | [], [] => return 0
  | [], _ => sayEnd r true bytes lines atStart
  | _, [] => sayEnd r false bytes lines atStart
  | a :: _, b :: _ =>
      if r.isSilent then return 1
      else if r.isVerbose then
        let _ ← emit "cmp" (unlines (rows r width first second 0))
        if first.length < second.length then sayEnd r true first.length 0 false
        else if second.length < first.length then sayEnd r false second.length 0 false
        else return 1
      else
        let detail : Octets := if r.showsBytes then
            " is ".toList ++ octal a ++ ' ' :: visible a ++ ' ' :: octal b ++ ' ' :: visible b
          else []
        emitWith "cmp" (r.first ++ ' ' :: r.second ++
          (if r.showsBytes then " differ: byte " else " differ: char ").toList ++ shown (bytes + 1) ++
          ", line ".toList ++ shown (lines + 1) ++ detail ++ ['\n']) 1

end ByteComparison

def cmpSwitches : List Switch :=
  [.flag "b" "print-bytes", .flag "c" "", .setting "i" "ignore-initial", .flag "l" "verbose",
    .setting "n" "bytes", .flag "s" "quiet", .flag "s" "silent"]

def cmp : Tool := fun arguments _ => do
  let misused (complaint : Octets) : Action Nat := do
    complain "cmp" complaint
    report "cmp: Try 'cmp --help' for more information.\n".toList
    return 2
  match Arguments.read cmpSwitches arguments with
  | .error wrong => misused wrong.complaint
  | .ok a =>
      let count (text : Octets) : Option Nat := count? text
      let (skips, isFine) : (Option Nat × Option Nat) × Bool := match a.value? "i" with
        | none => ((some 0, some 0), true)
        | some value =>
            let (one, two) := value.span (· != ':')
            let two := if two.isEmpty then one else two.drop 1
            ((count one, count two), (count one).isSome && (count two).isSome)
      match a.operands with
      | [] => misused "missing operand after 'cmp'".toList
      | first :: rest =>
          let second := rest.headD ['-']
          let more := rest.drop 1
          let skipFirst := ((more[0]?).map count).getD skips.1
          let skipSecond := ((more[1]?).map count).getD skips.2
          if !isFine then
            misused ("invalid --ignore-initial value ".toList ++ quoted ((a.value? "i").getD []))
          else
            match skipFirst, skipSecond, more.drop 2 with
            | none, _, _ =>
                misused ("invalid --ignore-initial value ".toList ++ quoted (more.getD 0 []))
            | _, none, _ =>
                misused ("invalid --ignore-initial value ".toList ++ quoted (more.getD 1 []))
            | _, _, extra :: _ => misused ("extra operand ".toList ++ quoted extra)
            | some skipFirst, some skipSecond, [] =>
                if a.has "l" && a.has "s" then misused "options -l and -s are incompatible".toList
                else if (a.value? "n").any fun value => (count value).isNone then
                  misused ("invalid --bytes value ".toList ++ quoted ((a.value? "n").getD []))
                else
                  run a ⟨first, second, skipFirst, skipSecond, (a.value? "n").bind count,
                    a.hasAny ["b", "c"], a.has "l", a.has "s"⟩
where
  run (a : Arguments) (r : ByteComparison.Request) : Action Nat := do
    let one ← read a r.first
    let two ← if one.isSome then read a r.second else pure none
    match one, two with
    | some one, some two =>
        let sizes ← [r.first, r.second].filterMapM fun file => do
          let fs ← files
          return if file = ['-'] then none
            else (fs.bodyAt? ⟨file⟩).bind fun body =>
              if body.isPlain then some body.bytes.size else none
        let largest := sizes.foldl min 1000000000000000000
        ByteComparison.compare r (shown (r.limit.elim largest (min largest))).length one two
    | _, _ => return 2
  read (a : Arguments) (file : Octets) : Action (Option Octets) := do
    match ← fileContents file with
    | .ok octets => return some octets
    | .error failure =>
        if !(a.has "s" && failure = .file .notFound) then
          complain "cmp" (withReason file failure)
        return none

/-! ## Lines -/

namespace LineComparison

inductive Layout where
  | normal
  | unified (around : Nat)
  | context (around : Nat)
  | commands
  | counted
  | columns (width : Nat) (isLeftAlone hidesCommon : Bool)
  deriving DecidableEq, Repr

structure Request where
  layout : Layout
  key : Octets → Octets
  forgivesEnds : Bool
  isTrivial : Octets → Bool
  asText : Bool
  isBrief : Bool
  tellsSame : Bool
  isRecursive : Bool
  takesMissing : Bool
  excluded : List Octets
  labels : List Octets
  options : List Octets

abbrev Line := Octets × Bool

/-- A text that is compared. -/
structure Side where
  heading : Octets
  lines : Array Line

def marked (mark : Octets) (line : Line) : Octets :=
  mark ++ line.1 ++ (if line.2 then ['\n'] else "\n\\ No newline at end of file\n".toList)

def markedLines (mark : String) (s : Side) (first count : Nat) : Octets :=
  (s.lines.extract first (first + count)).toList.flatMap (marked mark.toList)

def span (first count : Nat) : Octets :=
  if count = 0 then shown first
  else if count = 1 then shown (first + 1)
  else shown (first + 1) ++ ',' :: shown (first + count)

def letter (c : Change) : Char :=
  if c.deleted = 0 then 'a' else if c.inserted = 0 then 'd' else 'c'

def normal (old new : Side) (c : Change) : Octets :=
  span c.oldPlace c.deleted ++ letter c :: span c.newPlace c.inserted ++
    '\n' :: markedLines "< " old c.oldPlace c.deleted ++
    (if letter c = 'c' then "---\n".toList else []) ++ markedLines "> " new c.newPlace c.inserted

def command (new : Side) (c : Change) : Octets :=
  span c.oldPlace c.deleted ++ letter c :: '\n' ::
    if c.inserted = 0 then [] else markedLines "" new c.newPlace c.inserted ++ ".\n".toList

def countedCommand (new : Side) (c : Change) : Octets :=
  (if c.deleted = 0 then [] else
    'd' :: shown (c.oldPlace + 1) ++ ' ' :: shown c.deleted ++ ['\n']) ++
  (if c.inserted = 0 then [] else
    'a' :: shown (c.oldPlace + c.deleted) ++ ' ' :: shown c.inserted ++
      '\n' :: markedLines "" new c.newPlace c.inserted)

/-- Changes that are shown together, because what is between them is short. -/
def grouped (around : Nat) (isTrivial : Change → Bool) : List Change → List (List Change)
  | [] => []
  | c :: rest =>
      match grouped around isTrivial rest with
      | (next :: more) :: groups =>
          let room := if isTrivial next then around else 2 * around + 1
          if next.oldPlace - (c.oldPlace + c.deleted) < room then (c :: next :: more) :: groups
          else [c] :: (next :: more) :: groups
      | groups => [c] :: groups

/-- Where a group starts and ends in both texts, with the lines around it. -/
structure Extent where
  old : Nat
  oldCount : Nat
  new : Nat
  newCount : Nat

def extent (around : Nat) (old new : Side) (group : List Change) : Extent :=
  let first := group.headD ⟨0, 0, 0, 0⟩
  let last := group.getLastD ⟨0, 0, 0, 0⟩
  let start (place : Nat) : Nat := place - around
  let stop (place size : Nat) : Nat := min (place + around) size
  let oldStop := stop (last.oldPlace + last.deleted) old.lines.size
  let newStop := stop (last.newPlace + last.inserted) new.lines.size
  ⟨start first.oldPlace, oldStop - start first.oldPlace, start first.newPlace,
    newStop - start first.newPlace⟩

def sideLines (s : Side) (place count : Change → Nat) (mark : Change → String) :
    List Change → Nat → Nat → Octets
  | [], first, stop => markedLines "  " s first (stop - first)
  | c :: rest, first, stop =>
      markedLines "  " s first (place c - first) ++ markedLines (mark c) s (place c) (count c) ++
        sideLines s place count mark rest (place c + count c) stop

def unifiedLines (old new : Side) : List Change → Nat → Nat → Octets
  | [], first, stop => markedLines " " old first (stop - first)
  | c :: rest, first, stop =>
      markedLines " " old first (c.oldPlace - first) ++ markedLines "-" old c.oldPlace c.deleted ++
        markedLines "+" new c.newPlace c.inserted ++
        unifiedLines old new rest (c.oldPlace + c.deleted) stop

def unifiedGroup (around : Nat) (old new : Side) (group : List Change) : Octets :=
  let e := extent around old new group
  let numbers (first count : Nat) : Octets :=
    if count = 1 then shown (first + 1)
    else shown (if count = 0 then first else first + 1) ++ ',' :: shown count
  "@@ -".toList ++ numbers e.old e.oldCount ++ " +".toList ++ numbers e.new e.newCount ++
    " @@\n".toList ++ unifiedLines old new group e.old (e.old + e.oldCount)

def contextGroup (around : Nat) (old new : Side) (group : List Change) : Octets :=
  let e := extent around old new group
  let mark (alone : String) (c : Change) : String := if letter c = 'c' then "! " else alone
  let oldLines := if group.any fun c => 0 < c.deleted then
      sideLines old Change.oldPlace Change.deleted (mark "- ") group e.old (e.old + e.oldCount)
    else []
  let newLines := if group.any fun c => 0 < c.inserted then
      sideLines new Change.newPlace Change.inserted (mark "+ ") group e.new (e.new + e.newCount)
    else []
  "***************\n*** ".toList ++ span e.old e.oldCount ++ " ****\n".toList ++ oldLines ++
    "--- ".toList ++ span e.new e.newCount ++ " ----\n".toList ++ newLines

/-! ### Columns -/

def advance : Nat → Nat → Nat → Octets
  | 0, _, _ => []
  | rounds + 1, start, stop =>
      let tab := start + 8 - start % 8
      if tab ≤ stop then '\t' :: advance rounds tab stop else List.replicate (stop - start) ' '

def cell (room : Nat) (line : Octets) : Octets × Nat :=
  let add := fun (s : Octets × Nat × Nat) (c : Char) =>
    let (written, place, column) := s
    if c = '\t' then
      let spaces := 8 - place % 8
      if place = column && column + spaces < room then
        (c :: written, place + spaces, column + spaces)
      else (written, place + spaces, column)
    else if place + 1 ≤ room then (c :: written, place + 1, place + 1)
    else (written, place + 1, column)
  let (written, _, column) := line.foldl add ([], 0, 0)
  (written.reverse, column)

def row (width : Nat) (left : Option Line) (sign : Char) (right : Option Line) : Octets :=
  let start := (width + 11) / 16 * 8
  let half := min (start - 3) (width - start)
  let (written, column) := match left with
    | some line => cell half line.1
    | none => ([], 0)
  let leftEnds := left.any fun line => line.2
  let rightEnds := right.any fun line => line.2
  let sign := if sign = '|' && leftEnds != rightEnds then (if leftEnds then '/' else '\\') else sign
  let place := (half + start - 1) / 2
  let (signs, column) : Octets × Nat :=
    if sign = ' ' then ([], column)
    else (advance (place + 1) column place ++ [sign], max column place + 1)
  let other := match right with
    | some line =>
        if line.1.isEmpty then []
        else advance (start + 1) column start ++ (cell half line.1).1
    | none => []
  written ++ signs ++ other ++ if leftEnds || rightEnds then ['\n'] else []

def columnRows (width : Nat) (isLeftAlone hidesCommon : Bool) (old new : Side) :
    List Change → Nat → Nat → Octets
  | [], i, j => commonRows i j (old.lines.size - i)
  | c :: rest, i, j =>
      commonRows i j (c.oldPlace - i) ++
        ((List.range (max c.deleted c.inserted)).flatMap fun k =>
          if k < min c.deleted c.inserted then
            row width old.lines[c.oldPlace + k]? '|' new.lines[c.newPlace + k]?
          else if k < c.deleted then row width old.lines[c.oldPlace + k]? '<' none
          else row width none '>' new.lines[c.newPlace + k]?) ++
        columnRows width isLeftAlone hidesCommon old new rest (c.oldPlace + c.deleted)
          (c.newPlace + c.inserted)
where
  commonRows (i j count : Nat) : Octets :=
    if hidesCommon then []
    else (List.range count).flatMap fun k =>
      if isLeftAlone then row width old.lines[i + k]? '(' none
      else row width old.lines[i + k]? ' ' new.lines[j + k]?

/-! ### Texts -/

def commonStart : List Line → List Line → Nat
  | a :: as, b :: bs => if a = b then commonStart as bs + 1 else 0
  | _, _ => 0

/-- The changes between two texts.  Equal lines at both ends are left out of the search, but for
as many as are shown around changes. -/
def changesOf (r : Request) (old new : Side) : List Change :=
  let around := match r.layout with
    | .unified n | .context n => n
    | _ => 0
  let a := old.lines.toList
  let b := new.lines.toList
  let start := commonStart a b
  let stop := commonStart (a.drop start).reverse (b.drop start).reverse
  let before := start - around
  let after := stop - around
  let inner (lines : List Line) : List Line := (lines.drop before).take (lines.length - before - after)
  let keyOf (line : Line) : Octets :=
    let key := r.key line.1
    if line.2 || r.forgivesEnds then key else '\n' :: key
  let left := inner a
  let right := inner b
  let classes := Text.Difference.classes ((left ++ right).map fun line => (keyOf line).map Char.toNat)
  let found := Text.Difference.changes (classes.extract 0 left.length)
    (classes.extract left.length classes.size)
  found.map fun c => { c with oldPlace := c.oldPlace + before, newPlace := c.newPlace + before }

def isTrivialChange (r : Request) (old new : Side) (c : Change) : Bool :=
  (old.lines.extract c.oldPlace (c.oldPlace + c.deleted)).all (fun line => r.isTrivial line.1) &&
    (new.lines.extract c.newPlace (c.newPlace + c.inserted)).all fun line => r.isTrivial line.1

/-- What is written for two texts; nothing if they do not differ. -/
def written (r : Request) (old new : Side) : Octets :=
  let changes := changesOf r old new
  let isTrivial := isTrivialChange r old new
  let shownChanges := changes.filter fun c => !isTrivial c
  let groups (around : Nat) : List (List Change) :=
    (grouped around isTrivial changes).filter fun group => !group.all isTrivial
  match r.layout with
  | .columns width isLeftAlone hidesCommon => columnRows width isLeftAlone hidesCommon old new changes 0 0
  | layout =>
      if shownChanges.isEmpty then []
      else
        match layout with
        | .unified around =>
            "--- ".toList ++ old.heading ++ "\n+++ ".toList ++ new.heading ++ ['\n'] ++
              (groups around).flatMap (unifiedGroup around old new)
        | .context around =>
            "*** ".toList ++ old.heading ++ "\n--- ".toList ++ new.heading ++ ['\n'] ++
              (groups around).flatMap (contextGroup around old new)
        | .commands => shownChanges.reverse.flatMap (command new)
        | .counted => shownChanges.flatMap (countedCommand new)
        | _ => shownChanges.flatMap (normal old new)

def differ (r : Request) (old new : Side) : Bool :=
  (changesOf r old new).any fun c => !isTrivialChange r old new c

/-! ### Files -/

/-- What is compared: a file by its path, or the input, or nothing. -/
inductive Subject where
  | path (path : Octets)
  | missing (path : Octets)

def Subject.name : Subject → Octets
  | .path place | .missing place => place

def headingOf (r : Request) (index : Nat) (s : Subject) : Action Octets := do
  match r.labels[index]? with
  | some label => return label
  | none =>
      let fs ← files
      let changed : Int := match s with
        | .missing _ => 0
        | .path path =>
            if path = ['-'] then fs.moment
            else ((attributesOf? fs path).map Attributes.changed).getD fs.moment
      let date := (Moment.ofNanoseconds changed).format 40 "%Y-%m-%d %H:%M:%S.%N %z".toList
      return s.name ++ '\t' :: date

def readSubject : Subject → Action (Option Octets)
  | .missing _ => return some []
  | .path path => do
      match ← fileContents path with
      | .ok octets => return some octets
      | .error failure =>
          complain "diff" (withReason path failure)
          return none

def sayEqual (r : Request) (one two : Subject) : Action Nat := do
  if r.tellsSame then
    emit "diff" ("Files ".toList ++ one.name ++ " and ".toList ++ two.name ++ " are identical\n".toList)
  else return 0

/-- Compares two files; in folders, the command comes first. -/
def compareFiles (r : Request) (isWithin : Bool) (one two : Subject) : Action Nat := do
  let first ← readSubject one
  let second ← readSubject two
  match first, second with
  | some first, some second =>
      let names : Octets := one.name ++ " and ".toList ++ two.name
      let isBinary := !r.asText && (first.contains '\x00' || second.contains '\x00')
      if first = second && !(r.layout matches .columns ..) then sayEqual r one two
      else if isBinary && !r.isBrief then
        emitWith "diff" ("Binary files ".toList ++ names ++ " differ\n".toList) 1
      else
        let old : Side := ⟨← headingOf r 0 one, (linesWithEnds '\n' first).toArray⟩
        let new : Side := ⟨← headingOf r 1 two, (linesWithEnds '\n' second).toArray⟩
        if r.isBrief then
          if isBinary || differ r old new then
            emitWith "diff" ("Files ".toList ++ names ++ " differ\n".toList) 1
          else sayEqual r one two
        else
          let text := written r old new
          let isSame := !differ r old new
          if text.isEmpty || isSame && !(r.layout matches .columns ..) then sayEqual r one two
          else
            let heading : Octets := if isWithin then
                "diff".toList ++ (r.options.flatMap fun option => ' ' :: option) ++ ' ' :: one.name ++
                  ' ' :: two.name ++ ['\n']
              else []
            emitWith "diff" (heading ++ text) (if isSame then 0 else 1)
  | _, _ => return 2

def isExcluded (r : Request) (name : Octets) : Bool :=
  r.excluded.any fun pattern =>
    Shell.matchesPattern (Shell.Pattern.read (pattern.map fun c => (c, false))) name

def namesOf (r : Request) (fs : FileSystem) (one two : Octets) : List Octets :=
  let names (folder : Octets) : List Octets := (fs.names ⟨folder⟩).toOption.getD []
  let all := (names one ++ names two).mergeSort Octets.le
  (all.foldr (fun name rest => if rest.head? = some name then rest else name :: rest) []).filter
    fun name => !isExcluded r name

def compareFolders (r : Request) : Nat → Octets → Octets → Action Nat
  | 0, _, _ => return 2
  | depth + 1, one, two => do
      let fs ← files
      (namesOf r fs one two).foldlM (fun status name => do
        let found ← comparePair depth one two name
        return max status found) 0
where
  only (folder name : Octets) : Action Nat :=
    emitWith "diff" ("Only in ".toList ++ folder ++ ": ".toList ++ name ++ ['\n']) 1
  kind (fs : FileSystem) (path : Octets) : String :=
    match fs.get ⟨path⟩ with
    | .ok node => kindName fs node
    | .error _ => "symbolic link"
  comparePair (depth : Nat) (one two name : Octets) : Action Nat := do
    let fs ← files
    let a := entryOf one name
    let b := entryOf two name
    let isThere (path : Octets) : Bool := (fs.getEntry ⟨path⟩).isOk
    match isThere a, isThere b with
    | true, false =>
        if !r.takesMissing then only one name
        else if fs.isFolder ⟨a⟩ then
          if r.isRecursive then compareFolders r depth a b else only one name
        else compareFiles r true (.path a) (.missing b)
    | false, true =>
        if !r.takesMissing then only two name
        else if fs.isFolder ⟨b⟩ then
          if r.isRecursive then compareFolders r depth a b else only two name
        else compareFiles r true (.missing a) (.path b)
    | _, _ =>
        match fs.isFolder ⟨a⟩, fs.isFolder ⟨b⟩ with
        | true, true =>
            if r.isRecursive then compareFolders r depth a b
            else
              emit "diff" ("Common subdirectories: ".toList ++ a ++ " and ".toList ++ b ++ ['\n'])
        | false, false => compareFiles r true (.path a) (.path b)
        | _, _ =>
            emitWith "diff" ("File ".toList ++ a ++ s!" is a {kind fs a} while file ".toList ++ b ++
              s!" is a {kind fs b}\n".toList) 1

def run (r : Request) (one two : Octets) : Action Nat := do
  let fs ← files
  let isFolder (path : Octets) : Bool := path != ['-'] && fs.isFolder ⟨path⟩
  let isThere (path : Octets) : Bool := path = ['-'] || (fs.get ⟨path⟩).isOk
  let pair : Octets × Octets :=
    if !isThere one || !isThere two then (one, two)
    else if isFolder one && !isFolder two then (entryOf one (lastPart two), two)
    else if isFolder two && !isFolder one then (one, entryOf two (lastPart one))
    else (one, two)
  let (one, two) := pair
  let reason (path : Octets) : Action Unit := do
    match fs.get ⟨path⟩ with
    | .error failure => complain "diff" (path ++ ": ".toList ++ failure.reason.toList)
    | .ok _ => pure ()
  match isThere one, isThere two with
  | true, true =>
      if isFolder one && isFolder two then compareFolders r 1000 one two
      else if one = two && !(r.layout matches .columns ..) then sayEqual r (.path one) (.path two)
      else compareFiles r false (.path one) (.path two)
  | true, false =>
      if r.takesMissing then compareFiles r false (.path one) (.missing two)
      else
        if two != ['-'] then reason two
        return 2
  | false, true =>
      if r.takesMissing then compareFiles r false (.missing one) (.path two)
      else
        reason one
        return 2
  | false, false =>
      reason one
      reason two
      return 2

end LineComparison

def diffSwitches : List Switch :=
  [.flag "normal" "normal", .flag "u" "", .setting "U" "", .choice "unified" "unified",
    .flag "c" "", .setting "C" "", .choice "context" "context", .flag "e" "ed", .flag "n" "rcs",
    .flag "y" "side-by-side", .setting "W" "width", .flag "left" "left-column",
    .flag "common" "suppress-common-lines", .flag "q" "brief", .flag "s" "report-identical-files",
    .flag "i" "ignore-case", .flag "w" "ignore-all-space", .flag "b" "ignore-space-change",
    .flag "Z" "ignore-trailing-space", .flag "E" "ignore-tab-expansion",
    .flag "B" "ignore-blank-lines", .setting "I" "ignore-matching-lines", .flag "r" "recursive",
    .flag "N" "new-file", .flag "a" "text", .setting "L" "label", .setting "x" "exclude",
    .flag "d" "minimal", .flag "H" "speed-large-files", .choice "color" "color",
    .flag "cr" "strip-trailing-cr", .flag "nolink" "no-dereference", .flag "t" "expand-tabs",
    .flag "T" "initial-tab"] ++ Switch.flags "0123456789"

def diffKey (a : Arguments) (line : Octets) : Octets :=
  let isBlank (c : Char) : Bool := c = ' ' || 9 ≤ c.toNat && c.toNat ≤ 13
  let trimmed (line : Octets) : Octets := (line.reverse.dropWhile isBlank).reverse
  let squeezed (line : Octets) : Octets :=
    (trimmed line).foldr (fun c rest =>
      if isBlank c then (if rest.head? = some ' ' then rest else ' ' :: rest) else c :: rest) []
  let line := if a.has "cr" && line.getLast? = some '\r' then line.dropLast else line
  let line := if a.has "w" then line.filter fun c => !isBlank c
    else if a.has "b" then squeezed line
    else if a.has "Z" then trimmed line
    else if a.has "E" then
      (line.foldl (fun (s : Octets × Nat) c =>
        if c = '\t' then
          let room := 8 - s.2 % 8
          (List.replicate room ' ' ++ s.1, s.2 + room)
        else (c :: s.1, s.2 + 1)) ([], 0)).1.reverse
    else line
  if a.has "i" then line.map Char.toLower else line

/-- The layout that is asked for; nothing if there are several. -/
def diffLayout? (a : Arguments) : Except Octets (Option LineComparison.Layout) := do
  let number (text : Octets) : Except Octets Nat :=
    match Text.readDigits? text with
    | some n => .ok n
    | none => .error ("invalid context length ".toList ++ quoted text)
  let digits := (a.options.filter fun option => (option.1.toList.all Char.isDigit)).flatMap
    fun option => option.1.toList
  let around : Nat := (Text.readDigits? digits).getD 3
  let counts (letters : String) (long : String) : Except Octets Nat := do
    let values ← ((a.values letters) ++ (a.values long).filter fun value => !value.isEmpty).mapM number
    return if values.isEmpty then around else values.foldl max 0
  let hasUnified := a.hasAny ["u", "U", "unified"]
  let hasContext := a.hasAny ["c", "C", "context"]
  let unified ← counts "U" "unified"
  let context ← counts "C" "context"
  let width := ((a.value? "W").bind fun text => Text.readDigits? text).getD 130
  let asked : List LineComparison.Layout :=
    (if a.has "normal" then [.normal] else []) ++
    (if hasUnified then [.unified unified] else []) ++
    (if hasContext then [.context context] else []) ++
    (if a.has "e" then [.commands] else []) ++
    (if a.has "n" then [.counted] else []) ++
    (if a.has "y" then [.columns width (a.has "left") (a.has "common")] else [])
  match asked with
  | [] => return some (if digits.isEmpty then .normal else .context around)
  | [layout] => return some layout
  | _ => return none

def diff : Tool := fun arguments _ => do
  let misused (complaint : Octets) : Action Nat := do
    complain "diff" complaint
    report "diff: Try 'diff --help' for more information.\n".toList
    return 2
  match Arguments.read diffSwitches arguments with
  | .error wrong => misused wrong.complaint
  | .ok a =>
      let last := ((a.operands.getLast?).orElse fun () => arguments.getLast?).getD "diff".toList
      match diffLayout? a, a.operands with
      | .error complaint, _ => misused complaint
      | .ok none, _ => misused "conflicting output style options".toList
      | .ok (some layout), [one, two] =>
          match (a.values "I").mapM fun pattern => Regex.parse .basic pattern with
          | .error fault => fail "diff" fault.text.toList 2
          | .ok patterns =>
              let searcher := Regex.Searcher.of (Regex.anyOf patterns) false
              let isBlank (c : Char) : Bool := c = ' ' || 9 ≤ c.toNat && c.toNat ≤ 13
              let looksEmpty (line : Octets) : Bool :=
                if a.hasAny ["w", "b", "Z"] then line.all isBlank else line.isEmpty
              LineComparison.run {
                layout, key := diffKey a, forgivesEnds := a.hasAny ["w", "b", "Z"]
                isTrivial := fun line => a.has "B" && looksEmpty line ||
                  !patterns.isEmpty && searcher.matches? line
                asText := a.has "a", isBrief := a.has "q", tellsSame := a.has "s"
                isRecursive := a.has "r", takesMissing := a.has "N"
                excluded := a.values "x", labels := a.values "L"
                options := arguments.filter fun argument => argument != one && argument != two
                } one two
      | .ok (some _), _ :: _ :: extra :: _ => misused ("extra operand ".toList ++ quoted extra)
      | .ok (some _), _ => misused ("missing operand after ".toList ++ quoted last)

end Clausal.Utility

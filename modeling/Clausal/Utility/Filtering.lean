import Clausal.Shell.Pattern
import Clausal.Text.Regex.Parse
import Clausal.Text.Regex.Search
import Clausal.Utility.Properties

/-!
# Choosing lines

Lines are chosen in which something matches, or nothing does, and shown with where they stand
and with the lines around them.
-/

namespace Clausal.Utility

open Machine (Action Descriptor Failure Task)
open Text (Octets Regex View)

namespace Choosing

/-- How the chosen lines are shown. -/
inductive Showing where
  | lines
  | parts
  | count
  /-- Only the names of files with chosen lines, or without. -/
  | names (chosen : Bool)
  | nothing
  deriving DecidableEq, Repr

structure Request where
  searcher : Regex.Searcher
  isInverted : Bool
  showing : Showing
  hasNames : Bool
  hasNumbers : Bool
  hasOffsets : Bool
  hasTabs : Bool
  endsNames : Bool
  ending : Char
  most : Option Nat
  before : Nat
  after : Nat
  separates : Bool
  asText : Bool
  skipsBinary : Bool
  isSilent : Bool

/-- A line with its number and its place. -/
structure Line where
  number : Nat
  offset : Nat
  octets : Octets

/-- What happened in a file so far. -/
structure Progress where
  number : Nat
  offset : Nat
  chosen : Nat
  earlier : List Line
  owed : Nat
  shown : Nat
  hasShown : Bool
  isBinary : Bool
  isDone : Bool
  pieces : List Octets

def Progress.start (hasShown : Bool) : Progress := ⟨0, 0, 0, [], 0, 0, hasShown, false, false, []⟩

/-- What stands before a line; the sign tells chosen lines from those around them. -/
def heading (r : Request) (name : Octets) (sign : Char) (number offset : Nat) : Octets :=
  let mark (octets : Octets) : Octets := octets ++ [sign]
  let name := if !r.hasNames then []
    else if r.endsNames then name ++ ['\x00'] else mark name
  let numbers :=
    (if r.hasNumbers then mark (if r.hasTabs then padLeft 2 (shown number) else shown number) else []) ++
      (if r.hasOffsets then mark (shown offset) else [])
  name ++ numbers ++
    (if r.hasTabs && (r.hasNames || r.hasNumbers || r.hasOffsets) then ['\t'] else [])

def partsOf (s : Regex.Searcher) : Nat → View → List Regex.Stretch → List Regex.Stretch
  | 0, _, found => found.reverse
  | rounds + 1, v, found =>
      match s.find? v with
      | none => found.reverse
      | some m =>
          let isEmpty := m.whole.start = m.whole.stop
          let found := if isEmpty then found else m.whole :: found
          let target := if isEmpty then m.whole.stop + 1 else m.whole.stop
          if v.rest.length + v.offset < target then found.reverse
          else partsOf s rounds (advance (target - v.offset) v) found
where
  advance : Nat → View → View
    | 0, v => v
    | count + 1, v => advance count v.pass

def writeLine (r : Request) (name : Octets) (sign : Char) (line : Line) : Octets :=
  heading r name sign line.number line.offset ++ line.octets ++ [r.ending]

def showLine (r : Request) (name : Octets) (p : Progress) (line : Line) (isChosen : Bool) :
    Progress :=
  let context := p.earlier.reverse.filter fun e => p.shown < e.number
  let first := (context.head?.map Line.number).getD line.number
  let gap := r.separates && p.hasShown && p.shown + 1 != first || r.separates && p.hasShown && p.shown = 0
  let gap : List Octets := if gap then ["--\n".toList] else []
  let around := context.map (writeLine r name '-')
  let own :=
    if isChosen && r.showing = .parts then
      if r.isInverted then []
      else (partsOf r.searcher (line.octets.length + 2) (.ofText line.octets) []).map fun part =>
        heading r name ':' line.number (line.offset + part.start) ++ part.of line.octets ++ [r.ending]
    else if r.showing = .parts then []
    else [writeLine r name (if isChosen then ':' else '-') line]
  { p with
    earlier := []
    shown := line.number
    hasShown := true
    pieces := own.reverse ++ (around.reverse ++ (gap ++ p.pieces)) }

def step (r : Request) (name : Octets) (p : Progress) (octets : Octets) : Progress :=
  let line : Line := ⟨p.number + 1, p.offset, octets⟩
  let size := octets.length + 1
  let isFull := r.most.any (· ≤ p.chosen)
  let isChosen := !isFull && r.searcher.matches? octets != r.isInverted
  let p := { p with number := line.number, offset := line.offset + size }
  if isChosen then
    let p := { p with chosen := p.chosen + 1 }
    let reached := r.most.any (· ≤ p.chosen)
    match r.showing with
    | .count => { p with isDone := reached }
    | .names _ | .nothing => { p with isDone := true }
    | .lines | .parts =>
        if p.isBinary || (!r.asText && octets.contains '\x00' && r.ending != '\x00') then
          { p with isBinary := true, isDone := true }
        else
          let p := showLine r name p line true
          { p with owed := r.after, isDone := reached && r.after = 0 }
  else if 0 < p.owed then
    let p := showLine r name p line false
    { p with owed := p.owed - 1, isDone := isFull && p.owed = 1 }
  else if r.before = 0 then p
  else { p with earlier := (line :: p.earlier).take r.before }

def steps (r : Request) (name : Octets) : List Octets → Progress → Progress
  | [], p => p
  | line :: rest, p =>
      if p.isDone then p
      else steps r name rest (step r name p line)

def scan (r : Request) (name : Octets) (descriptor : Descriptor) :
    Nat → Nat → Octets → Progress → Outlet → Action (Progress × Outlet × Option Failure)
  | 0, _, _, p, o => return (p, o, none)
  | rounds + 1, total, start, p, o => do
      match ← (Task.read descriptor 32768 : Action _) with
      | .error failure => return (p, o, some failure)
      | .ok [] =>
          let p := if start.isEmpty then p else steps r name [start.reverse] p
          let o ← o.put (Outlet.joined p.pieces)
          return ({ p with pieces := [] }, o, none)
      | .ok octets =>
          let total := total + octets.length
          let p := if total = octets.length && !r.asText && r.ending != '\x00' && octets.contains '\x00' then
              { p with isBinary := true } else p
          if p.isBinary && r.skipsBinary then return (p, o, none)
          else
            let (lines, start) := cutLines r.ending start octets
            let p := steps r name lines p
            let o ← o.put (Outlet.joined p.pieces)
            let p := { p with pieces := [] }
            if p.isDone then
              if p.offset < total && r.most.isSome && r.showing != .nothing then
                Task.rewind descriptor (total - p.offset)
              return (p, o, none)
            else scan r name descriptor rounds total start p o

structure Outcome where
  hasFound : Bool
  hasFailed : Bool
  hasShown : Bool
  out : Outlet

def searchFile (r : Request) (file shownAs : Octets) (s : Outcome) : Action Outcome := do
  let failed (failure : Failure) : Action Outcome := do
    let out ← s.out.flush
    if !r.isSilent then complain "grep" (shownAs ++ ": ".toList ++ failure.reason.toList)
    return { s with out, hasFailed := true }
  match ← openInput file with
  | .error failure => failed failure
  | .ok descriptor =>
      let (p, out, failure?) ← scan r shownAs descriptor roundBound 0 [] (.start s.hasShown) s.out
      closeInput descriptor
      match failure? with
      | some failure =>
          let s := { s with out }
          let flushed ← s.out.flush
          if !r.isSilent then complain "grep" (shownAs ++ ": ".toList ++ failure.reason.toList)
          return { s with out := flushed, hasFailed := true }
      | none =>
          let named (octets : Octets) : Octets :=
            if r.hasNames then shownAs ++ (if r.endsNames then '\x00' else ':') :: octets else octets
          let chosen := if p.isBinary && r.skipsBinary then 0 else p.chosen
          let written : Octets := match r.showing with
            | .count => named (shown chosen ++ ['\n'])
            | .names wanted =>
                if (0 < chosen) == wanted then shownAs ++ [if r.endsNames then '\x00' else '\n'] else []
            | _ => []
          let out ← out.put written
          let isTold := p.isBinary && 0 < chosen && (r.showing = .lines || r.showing = .parts)
          let out ← if isTold then do
              let out ← out.flush
              complain "grep" (shownAs ++ ": binary file matches".toList)
              pure out
            else pure out
          let isFound := match r.showing with
            | .names false => chosen = 0
            | _ => 0 < chosen
          return { s with out, hasFound := s.hasFound || isFound, hasShown := s.hasShown || p.hasShown }

end Choosing

/-! ## Patterns -/

def patternLines (octets : Octets) : List Octets := Text.split (· = '\n') octets

def grepDialect (a : Arguments) : Regex.Dialect :=
  match a.last? ["E", "F", "G", "P"] with
  | some "E" => .extended_
  | some "P" => { Regex.Dialect.extended_ with hasControls := true, escapesInBrackets := true }
  | _ => .basic

def grepRegex (a : Arguments) (patterns : List Octets) : Except Octets Regex := do
  let isFixed := a.last? ["E", "F", "G", "P"] = some "F"
  let parsed ← patterns.mapM fun pattern =>
    if isFixed then .ok (Regex.literally pattern)
    else (Regex.parse (grepDialect a) pattern).mapError fun fault => fault.text.toList
  let parsed := if a.has "x" then parsed.map Regex.asWhole
    else if a.has "w" then parsed.map Regex.asWord else parsed
  return Regex.anyOf parsed

def grepSwitches : List Switch :=
  [.flag "E" "extended-regexp", .flag "F" "fixed-strings", .flag "G" "basic-regexp",
    .flag "P" "perl-regexp", .setting "e" "regexp", .setting "f" "file", .flag "i" "ignore-case",
    .flag "i" "", .flag "y" "", .flag "noi" "no-ignore-case", .flag "w" "word-regexp",
    .flag "x" "line-regexp", .flag "z" "null-data", .flag "s" "no-messages",
    .flag "v" "invert-match", .setting "m" "max-count", .flag "b" "byte-offset",
    .flag "n" "line-number", .flag "line" "line-buffered", .flag "H" "with-filename",
    .flag "h" "no-filename", .setting "label" "label", .flag "o" "only-matching",
    .flag "q" "quiet", .flag "q" "silent", .setting "binary" "binary-files", .flag "a" "text",
    .flag "I" "", .setting "d" "directories", .setting "D" "devices", .flag "r" "recursive",
    .flag "R" "dereference-recursive", .setting "include" "include", .setting "exclude" "exclude",
    .setting "xfrom" "exclude-from", .setting "xdir" "exclude-dir",
    .flag "L" "files-without-match", .flag "l" "files-with-matches", .flag "c" "count",
    .flag "T" "initial-tab", .flag "Z" "null", .setting "A" "after-context",
    .setting "B" "before-context", .setting "C" "context", .choice "color" "color",
    .choice "color" "colour", .flag "U" "binary", .flag "u" "unix-byte-offsets",
    .flag "nosep" "no-group-separator", .setting "sep" "group-separator"]

def withContextLetter (arguments : List Octets) : List Octets :=
  let front := arguments.takeWhile (· != ['-', '-'])
  front.flatMap (fun argument =>
    match argument with
    | '-' :: c :: digits =>
        if (c :: digits).all Char.isDigit then [['-', 'C'], c :: digits] else [argument]
    | argument => [argument]) ++ arguments.drop front.length

def filesBelow (a : Arguments) (fs : FileSystem) (folder : Octets) : List Octets :=
  let fits (patterns : List Octets) (path : Octets) : Bool :=
    patterns.any fun pattern =>
      let parts := Shell.Pattern.read (pattern.map fun c => (c, false))
      Shell.matchesPattern parts (lastPart path) || Shell.matchesPattern parts path
  let isHidden (path : Octets) : Bool :=
    (withAncestors path.length path).any fun above =>
      above.length != folder.length && above != path && fits (a.values "xdir") above
  ((treeOf fs folder).filter fun (path, node) =>
    !isHidden path && !fits (a.values "exclude") path &&
      ((a.values "include").isEmpty || fits (a.values "include") path) &&
      match node with
      | .folder .. => false
      | .link _ => a.has "R" && !fs.isFolder ⟨path⟩
      | .file id => (fs.body id).isPlain).map Prod.fst

def grep (letters : List Octets) : Tool := fun arguments _ => do
  let usage (complaint : Octets) : Action Nat := do
    if !complaint.isEmpty then complain "grep" complaint
    report "Usage: grep [OPTION]... PATTERNS [FILE]...\n".toList
    suggestHelp "grep" 2
  match Arguments.read grepSwitches (letters ++ withContextLetter arguments) with
  | .error wrong => usage wrong.complaint
  | .ok a =>
      match a.hasAny ["e", "f"], a.operands with
      | false, [] => usage []
      | isGiven, operands => do
          let (given, operands) : List Octets × List Octets :=
            if isGiven then (a.values "e", operands) else (operands.take 1, operands.drop 1)
          let read ← (a.values "f").mapM fun file => do
            match ← fileContents file with
            | .ok octets => return Except.ok (lines octets)
            | .error failure => return Except.error (withReason file failure)
          match read.mapM id with
          | .error complaint => fail "grep" complaint 2
          | .ok read =>
              match grepRegex a (given.flatMap patternLines ++ read.flatten) with
              | .error complaint => fail "grep" complaint 2
              | .ok regex => choose a regex operands
where
  count (a : Arguments) (key : String) (complaint : Octets → Octets) :
      Except Octets (Option Nat) :=
    match a.value? key with
    | none => .ok none
    | some value =>
        match Text.readDigits? value with
        | some n => .ok (some n)
        | none => .error (complaint value)
  choose (a : Arguments) (regex : Regex) (operands : List Octets) : Action Nat := do
    let badContext (value : Octets) : Octets := value ++ ": invalid context length argument".toList
    let most : Except Octets (Option Nat) :=
      if (a.value? "m").any fun value => value.head? = some '-' then .ok none
      else count a "m" fun _ => "invalid max count".toList
    match count a "A" badContext, count a "B" badContext, count a "C" badContext, most with
    | .error complaint, _, _, _ | _, .error complaint, _, _ | _, _, .error complaint, _
    | _, _, _, .error complaint => fail "grep" complaint 2
    | .ok after, .ok before, .ok around, .ok most =>
        let isRecursive := a.hasAny ["r", "R"] || a.value? "d" = some "recurse".toList
        let isText := a.has "a" || a.value? "binary" = some "text".toList
        let showing : Choosing.Showing :=
          if a.has "q" then .nothing
          else match a.last? ["l", "L"] with
            | some "l" => .names true
            | some _ => .names false
            | none => if a.has "c" then .count else if a.has "o" then .parts else .lines
        let hasContext := showing = .lines || showing = .parts
        let bare := operands.isEmpty && isRecursive
        let operands := if bare then [['.']] else inputs operands
        let hasNames := match a.last? ["H", "h"] with
          | some key => key = "H"
          | none => isRecursive || 1 < operands.length
        let r : Choosing.Request := {
          searcher := .of regex (a.last? ["i", "y", "noi"] != some "noi" && a.hasAny ["i", "y"])
          isInverted := a.has "v"
          showing, hasNames
          hasNumbers := a.has "n", hasOffsets := a.has "b", hasTabs := a.has "T"
          endsNames := a.has "Z", ending := if a.has "z" then '\x00' else '\n', most
          before := if hasContext then (before.orElse fun () => around).getD 0 else 0
          after := if hasContext then (after.orElse fun () => around).getD 0 else 0
          separates := hasContext && !a.has "nosep" &&
            (before.isSome || after.isSome || around.isSome)
          asText := isText, skipsBinary := a.has "I" || a.value? "binary" = some "without-match".toList
          isSilent := a.has "s" }
        if most = some 0 then return 1
        else
          let s ← all a r bare isRecursive operands ⟨false, false, false, .empty⟩
          let status := if s.hasFound && (a.has "q" || !s.hasFailed) then 0
            else if s.hasFailed then 2 else 1
          s.out.finish "grep" status
  all (a : Arguments) (r : Choosing.Request) (bare isRecursive : Bool) :
      List Octets → Choosing.Outcome → Action Choosing.Outcome
    | [], s => return s
    | operand :: rest, s => do
        if s.hasFound && r.showing = .nothing then return s
        else
          let fs ← files
          let isFolder := operand != ['-'] && fs.isFolder ⟨operand⟩
          let s ←
            if isFolder && isRecursive then
              let found := filesBelow a fs operand
              found.foldlM (fun s path =>
                Choosing.searchFile r path (if bare then path.drop 2 else path) s) s
            else if isFolder && a.value? "d" = some "skip".toList then pure s
            else
              let label := (a.value? "label").getD "(standard input)".toList
              Choosing.searchFile r operand (if operand = ['-'] then label else operand) s
          all a r bare isRecursive rest s

end Clausal.Utility

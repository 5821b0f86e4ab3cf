import Clausal.Text.Regex.Parse
import Clausal.Text.Regex.Search
import Clausal.Utility.Basic

/-!
# Editing scripts

A script is a list of commands, each with the lines that it is for: one address or two, which
can be turned around.  Blocks and jumps lead to places in the list.
-/

namespace Clausal.Utility.Editing

open Text (Octets Regex)

/-- An expression that was read; nothing stands for the one used last. -/
abbrev Pattern := Option Regex.Searcher

inductive Address where
  | line (number : Nat)
  | every (first step : Nat)
  | last
  | matching (pattern : Pattern)

inductive RangeEnd where
  | line (number : Nat)
  | after (count : Nat)
  /-- At a line whose number is a multiple. -/
  | multiple (factor : Nat)
  | last
  | matching (pattern : Pattern)

structure Guard where
  first : Option Address
  second : Option RangeEnd
  isNegated : Bool

inductive LetterCase where
  | upper | lower | upperOnce | lowerOnce | unchanged
  deriving DecidableEq, Repr

/-- A piece of what is put in the place of a match. -/
inductive Piece where
  | literal (octets : Octets)
  | group (number : Nat)
  | letterCase (case_ : LetterCase)
  deriving DecidableEq, Repr

structure Substitution where
  pattern : Pattern
  pieces : List Piece
  isGlobal : Bool
  number : Nat
  prints : Bool
  file : Option Octets
  hasLines : Bool

inductive Command where
  /-- Goes on after the block unless the line is one of those meant. -/
  | block (after : Nat)
  | nothing
  | number
  | append (octets : Octets)
  | insert (octets : Octets)
  | change (octets : Octets)
  | delete
  | deleteFirst
  | fileName
  | take | takeMore | hold | holdMore | exchange
  | list (width : Option Nat)
  | next | nextMore
  | print | printFirst
  | quit (status : Nat) (silently : Bool)
  | readFile (file : Octets)
  | readLine (file : Octets)
  | substitute (s : Substitution)
  | jump (target : Option Nat)
  | jumpIfChanged (target : Option Nat)
  | jumpUnlessChanged (target : Option Nat)
  | write (file : Octets)
  | writeFirst (file : Octets)
  | translate (table : Array Char)
  | clear

structure Instruction where
  guard : Guard
  command : Command

/-! ## Reading -/

/-- A command whose jump was not resolved yet. -/
inductive Draft where
  | done (command : Command)
  | jump (letter : Char) (label : Octets)
  | label (name : Octets)
  | open_
  | close_

structure Manner where
  isExtended : Bool
  isZero : Bool

/-- What is left of a script, and how much was read. -/
structure Source where
  rest : Octets
  passed : Nat

structure Fault where
  complaint : Octets
  place : Nat

abbrev Reader := StateT Source (Except Fault)

def refuse (complaint : String) : Reader α := do
  throw ⟨complaint.toList, (← get).passed⟩

def peek : Reader (Option Char) := return (← get).rest.head?

def takeChar : Reader (Option Char) := do
  let s ← get
  match s.rest with
  | c :: rest =>
      modifyThe Source fun _ => ⟨rest, s.passed + 1⟩
      return some c
  | [] => return none

def takeWhile (isWanted : Char → Bool) : Reader Octets := do
  let s ← get
  let (taken, rest) := s.rest.span isWanted
  modifyThe Source fun _ => ⟨rest, s.passed + taken.length⟩
  return taken

def isBlank (c : Char) : Bool := c = ' ' || c = '\t'

def skipBlanks : Reader Unit := do
  let _ ← takeWhile isBlank

def readNumber : Reader Nat := do
  return (Text.readDigits? (← takeWhile Char.isDigit)).getD 0

def numbered? (letter : Char) (rest : Octets) : Option (Char × Nat) :=
  let read (base width : Nat) (digit? : Char → Option Nat) : Option (Char × Nat) :=
    let digits := (rest.takeWhile fun c => (digit? c).isSome).take width
    if digits.isEmpty then none
    else
      let value := digits.foldl (fun value c => base * value + (digit? c).getD 0) 0
      some (Char.ofNat (value % 256), digits.length)
  let decimal (c : Char) : Option Nat := if c.isDigit then some (c.toNat - '0'.toNat) else none
  let hex (c : Char) : Option Nat :=
    if c.isDigit then some (c.toNat - '0'.toNat)
    else if 'a' ≤ c && c ≤ 'f' then some (c.toNat - 'a'.toNat + 10)
    else if 'A' ≤ c && c ≤ 'F' then some (c.toNat - 'A'.toNat + 10) else none
  match letter with
  | 'd' => read 10 3 decimal
  | 'o' => read 8 3 fun c => (decimal c).filter (· < 8)
  | 'x' => read 16 2 hex
  | _ => none

/-- Reads up to a delimiter that no backslash and no bracket hides; nothing if there is none. -/
def readDelimited (delimiter : Char) (isPattern : Bool) :
    Nat → Octets → Nat → Octets → Option (Octets × Nat × Octets)
  | 0, _, _, _ => none
  | rounds + 1, taken, passed, octets =>
      let go := readDelimited delimiter isPattern rounds
      match octets with
      | [] => none
      | '\\' :: c :: rest =>
          go (if c = delimiter then c :: taken else c :: '\\' :: taken) (passed + 2) rest
      | c :: rest =>
          if c = delimiter then some (taken.reverse, passed + 1, rest)
          else if c = '\n' && isPattern then none
          else if c = '[' && isPattern then
            match bracket rest with
            | some (inside, rest) =>
                go (inside.reverse ++ c :: taken) (passed + 1 + inside.length) rest
            | none => go (c :: taken) (passed + 1) rest
          else go (c :: taken) (passed + 1) rest
where
  bracket (octets : Octets) : Option (Octets × Octets) :=
    let (start, rest) := match octets with
      | '^' :: ']' :: rest => (['^', ']'], rest)
      | '^' :: rest => (['^'], rest)
      | ']' :: rest => ([']'], rest)
      | rest => ([], rest)
    (inside (rest.length + 1) rest).map fun (taken, rest) => (start ++ taken, rest)
  inside : Nat → Octets → Option (Octets × Octets)
    | 0, _ => none
    | rounds + 1, octets =>
        match octets with
        | [] => none
        | '\n' :: _ => none
        | ']' :: rest => some ([']'], rest)
        | '[' :: c :: rest =>
            if c = ':' || c = '.' || c = '=' then
              let (name, after) := rest.span (· != ']')
              (inside rounds (after.drop 1)).map fun (taken, rest) =>
                ('[' :: c :: name ++ ']' :: taken, rest)
            else (inside rounds (c :: rest)).map fun (taken, rest) => ('[' :: taken, rest)
        | c :: rest => (inside rounds rest).map fun (taken, rest) => (c :: taken, rest)

/-- Replaces characters that are given by numbers; the flag keeps those that mean something. -/
def withoutNumbers : Nat → Octets → Octets
  | 0, octets => octets
  | rounds + 1, octets =>
      match octets with
      | '\\' :: letter :: rest =>
          match numbered? letter rest with
          | some (c, used) =>
              let written := if "*.[]^$\\/+?\x7b\x7d()|&\n".toList.contains c then ['\\', c] else [c]
              written ++ withoutNumbers rounds (rest.drop used)
          | none => '\\' :: letter :: withoutNumbers rounds rest
      | c :: rest => c :: withoutNumbers rounds rest
      | [] => []

def delimited (delimiter : Char) (isPattern : Bool) (complaint : String) : Reader Octets := do
  let s ← get
  match readDelimited delimiter isPattern (s.rest.length + 1) [] 0 s.rest with
  | some (taken, passed, rest) =>
      modifyThe Source fun _ => ⟨rest, s.passed + passed⟩
      return taken
  | none => throw ⟨complaint.toList, s.passed + s.rest.length⟩

def patternOf (m : Manner) (folds : Bool) (octets : Octets) : Reader Pattern := do
  if octets.isEmpty then return none
  else
    let dialect := if m.isExtended then
        { Regex.Dialect.extended_ with hasControls := true, isStrict := true }
      else { Regex.Dialect.basic with hasControls := true }
    match Regex.parse dialect (withoutNumbers (octets.length + 1) octets) with
    | .ok regex => return some (.of regex folds)
    | .error fault => refuse fault.text

/-! ## Addresses -/

def readPatternFlags : Nat → Bool → Reader Bool
  | 0, folds => return folds
  | rounds + 1, folds => do
      match ← peek with
      | some 'I' =>
          let _ ← takeChar
          readPatternFlags rounds true
      | some 'M' =>
          let _ ← takeChar
          readPatternFlags rounds folds
      | _ => return folds

def readPattern (m : Manner) : Reader (Option Pattern) := do
  let read (delimiter : Char) : Reader (Option Pattern) := do
    let octets ← delimited delimiter true "unterminated address regex"
    let folds ← readPatternFlags 8 false
    return some (← patternOf m folds octets)
  match ← peek with
  | some '/' =>
      let _ ← takeChar
      read '/'
  | some '\\' =>
      let _ ← takeChar
      match ← takeChar with
      | some delimiter => read delimiter
      | none => refuse "unexpected \x60,'"
  | _ => return none

def readAddress (m : Manner) : Reader (Option Address) := do
  match ← peek with
  | some '$' =>
      let _ ← takeChar
      return some .last
  | some c =>
      if c.isDigit then
        let first ← readNumber
        skipBlanks
        if (← peek) = some '~' then
          let _ ← takeChar
          let step ← readNumber
          return some (if step = 0 then .line first else .every first step)
        else return some (.line first)
      else return (← readPattern m).map .matching
  | none => return none

def readEnd (m : Manner) : Reader (Option RangeEnd) := do
  match ← peek with
  | some '$' =>
      let _ ← takeChar
      return some .last
  | some '+' =>
      let _ ← takeChar
      return some (.after (← readNumber))
  | some '~' =>
      let _ ← takeChar
      return some (.multiple (← readNumber))
  | some c =>
      if c.isDigit then return some (.line (← readNumber))
      else return (← readPattern m).map .matching
  | none => return none

def readGuard (m : Manner) : Reader Guard := do
  let first ← readAddress m
  skipBlanks
  let second ←
    if first.isSome && (← peek) = some ',' then do
      let _ ← takeChar
      skipBlanks
      match ← readEnd m with
      | some e => pure (some e)
      | none => refuse "unexpected \x60,'"
    else pure none
  match first, second with
  | some (.line 0), some (.matching _) => pure ()
  | some (.line 0), _ => refuse "invalid usage of line address 0"
  | _, _ => pure ()
  skipBlanks
  let marks ← takeWhile fun c => c = '!' || isBlank c
  if 1 < (marks.filter (· = '!')).length then refuse "multiple \x60!'s"
  return ⟨first, second, marks.contains '!'⟩

/-! ## Parts of commands -/

def readEnding : Reader Unit := do
  skipBlanks
  match ← peek with
  | none | some '\x7d' | some '#' => pure ()
  | some '\n' | some ';' =>
      let _ ← takeChar
  | some _ =>
      let _ ← takeChar
      refuse "extra characters after command"

def textOf : Nat → Octets → Octets → Octets × Nat × Octets
  | 0, taken, rest => (taken.reverse, 0, rest)
  | rounds + 1, taken, octets =>
      let more (passed : Nat) (found : Octets × Nat × Octets) : Octets × Nat × Octets :=
        (found.1, found.2.1 + passed, found.2.2)
      match octets with
      | [] => (taken.reverse, 0, [])
      | '\n' :: rest => (taken.reverse, 1, rest)
      | '\\' :: c :: rest =>
          let c := if c = 't' then '\t' else c
          more 2 (textOf rounds (c :: taken) rest)
      | ['\\'] => (taken.reverse, 1, [])
      | c :: rest => more 1 (textOf rounds (c :: taken) rest)

def readText : Reader Octets := do
  skipBlanks
  match (← get).rest with
  | [] => refuse "expected \\ after \x60a', \x60c' or \x60i'"
  | '\\' :: rest =>
      let afterBlanks := rest.dropWhile isBlank
      let start ←
        match afterBlanks with
        | '\n' :: text => pure text
        | [] => refuse "expected \\ after \x60a', \x60c' or \x60i'"
        | _ => pure rest
      let s ← get
      modifyThe Source fun _ => ⟨start, s.passed + (s.rest.length - start.length)⟩
  | _ => pure ()
  let s ← get
  let (text, passed, rest) := textOf (s.rest.length + 1) [] s.rest
  modifyThe Source fun _ => ⟨rest, s.passed + passed⟩
  return text ++ ['\n']

def readLabel : Reader Octets := do
  skipBlanks
  let label ← takeWhile fun c => c != '\n' && c != ';' && !isBlank c
  skipBlanks
  return label

def readFileName : Reader Octets := do
  skipBlanks
  let name ← takeWhile (· != '\n')
  if name.isEmpty then refuse "missing filename in r/R/w/W commands"
  return name

def piecesOf : Nat → Octets → List Piece → List Piece
  | 0, _, pieces => pieces.reverse
  | rounds + 1, octets, pieces =>
      let add (c : Char) : List Piece :=
        match pieces with
        | .literal octets :: more => .literal (octets ++ [c]) :: more
        | pieces => .literal [c] :: pieces
      match octets with
      | [] => pieces.reverse
      | '&' :: rest => piecesOf rounds rest (.group 0 :: pieces)
      | '\\' :: c :: rest =>
          match numbered? c rest with
          | some (d, used) => piecesOf rounds (rest.drop used) (add d)
          | none =>
              if c.isDigit then piecesOf rounds rest (.group (c.toNat - '0'.toNat) :: pieces)
              else
                match c with
                | 'U' => piecesOf rounds rest (.letterCase .upper :: pieces)
                | 'L' => piecesOf rounds rest (.letterCase .lower :: pieces)
                | 'u' => piecesOf rounds rest (.letterCase .upperOnce :: pieces)
                | 'l' => piecesOf rounds rest (.letterCase .lowerOnce :: pieces)
                | 'E' => piecesOf rounds rest (.letterCase .unchanged :: pieces)
                | c => piecesOf rounds rest (add ((Regex.control? c).getD c))
      | c :: rest => piecesOf rounds rest (add c)

structure Flags where
  isGlobal : Bool
  number : Option Nat
  prints : Nat
  folds : Bool
  hasLines : Bool
  file : Option Octets

def readFlags : Nat → Flags → Reader Flags
  | 0, f => return f
  | rounds + 1, f => do
      match ← takeChar with
      | none | some '\n' | some ';' => return f
      | some '\x7d' | some '#' => return f
      | some 'g' =>
          if f.isGlobal then refuse "multiple \x60g' options to \x60s' command"
          else readFlags rounds { f with isGlobal := true }
      | some 'p' =>
          if 0 < f.prints then refuse "multiple \x60p' options to \x60s' command"
          else readFlags rounds { f with prints := 1 }
      | some 'i' | some 'I' => readFlags rounds { f with folds := true }
      | some 'm' | some 'M' => readFlags rounds { f with hasLines := true }
      | some 'e' => readFlags rounds f
      | some 'w' => return { f with file := some (← readFileName) }
      | some c =>
          if c.isDigit then
            let digits := c :: (← takeWhile Char.isDigit)
            let number := (Text.readDigits? digits).getD 0
            if f.number.isSome then refuse "multiple number options to \x60s' command"
            else if number = 0 then refuse "number option to \x60s' command may not be zero"
            else readFlags rounds { f with number := some number }
          else if isBlank c then readFlags rounds f
          else refuse "unknown option to \x60s'"

def putBack (c : Char) : Reader Unit := modifyThe Source fun s => ⟨c :: s.rest, s.passed - 1⟩

/-- Reads flags; what ends a block or starts a comment is left. -/
def readAllFlags : Reader Flags := do
  let s ← get
  let f ← readFlags (s.rest.length + 1) ⟨false, none, 0, false, false, none⟩
  let used := s.rest.take ((← get).passed - s.passed)
  match f.file, used.getLast? with
  | none, some '\x7d' => putBack '\x7d'
  | none, some '#' => putBack '#'
  | _, _ => pure ()
  return f

def groupsUsed (pieces : List Piece) : List Nat :=
  pieces.filterMap fun
    | .group number => some number
    | _ => none

def readSubstitution (m : Manner) : Reader Command := do
  match ← takeChar with
  | none => refuse "unterminated \x60s' command"
  | some delimiter =>
      if delimiter = '\n' || delimiter = '\\' then refuse "unterminated \x60s' command"
      else
        let pattern ← delimited delimiter true "unterminated \x60s' command"
        let replacement ← delimited delimiter false "unterminated \x60s' command"
        let f ← readAllFlags
        let searcher ← patternOf m f.folds pattern
        let pieces := piecesOf (replacement.length + 1) replacement []
        let known := (searcher.map fun s => s.regex.groups).getD []
        match (groupsUsed pieces).find? fun n => n != 0 && searcher.isSome && !known.contains n with
        | some n => refuse s!"invalid reference \\{n} on \x60s' command's RHS"
        | none =>
            return .substitute ⟨searcher, pieces, f.isGlobal, f.number.getD 1, 0 < f.prints, f.file,
              f.hasLines⟩

def listed : Nat → Octets → Octets
  | 0, _ => []
  | rounds + 1, octets =>
      match octets with
      | '\\' :: c :: rest =>
          match numbered? c rest with
          | some (d, used) => d :: listed rounds (rest.drop used)
          | none =>
              match Regex.control? c with
              | some control => control :: listed rounds rest
              | none => if c = '\\' then '\\' :: listed rounds rest
                  else '\\' :: c :: listed rounds rest
      | c :: rest => c :: listed rounds rest
      | [] => []

def readTranslation : Reader Command := do
  match ← takeChar with
  | none => refuse "unterminated \x60y' command"
  | some delimiter =>
      let source ← delimited delimiter false "unterminated \x60y' command"
      let target ← delimited delimiter false "unterminated \x60y' command"
      let source := listed (source.length + 1) source
      let target := listed (target.length + 1) target
      if source.length != target.length then
        refuse "strings for \x60y' command are different lengths"
      else
        readEnding
        let all := (Array.range 256).map Char.ofNat
        return .translate ((source.zip target).reverse.foldl (fun table (c, d) =>
          table.setIfInBounds c.toNat d) all)

def readCommand (m : Manner) (guard : Guard) : Reader Draft := do
  let plain (command : Command) : Reader Draft := do
    readEnding
    return .done command
  let optionalNumber : Reader (Option Nat) := do
    skipBlanks
    let digits ← takeWhile Char.isDigit
    return Text.readDigits? digits
  match ← takeChar with
  | none => refuse "missing command"
  | some c =>
      match c with
      | '\x7b' => return .open_
      | '\x7d' =>
          if guard.first.isSome then refuse "unexpected \x60\x7d\x27"
          else
            readEnding
            return .close_
      | '=' => plain .number
      | 'a' => return .done (.append (← readText))
      | 'i' => return .done (.insert (← readText))
      | 'c' => return .done (.change (← readText))
      | 'd' => plain .delete
      | 'D' => plain .deleteFirst
      | 'F' => plain .fileName
      | 'g' => plain .take
      | 'G' => plain .takeMore
      | 'h' => plain .hold
      | 'H' => plain .holdMore
      | 'x' => plain .exchange
      | 'l' => do
          let width ← optionalNumber
          plain (.list width)
      | 'n' => plain .next
      | 'N' => plain .nextMore
      | 'p' => plain .print
      | 'P' => plain .printFirst
      | 'q' | 'Q' =>
          if guard.second.isSome then refuse "command only uses one address"
          else
            let status ← optionalNumber
            plain (.quit (status.getD 0) (c = 'Q'))
      | 'r' => return .done (.readFile (← readFileName))
      | 'R' => return .done (.readLine (← readFileName))
      | 'w' => return .done (.write (← readFileName))
      | 'W' => return .done (.writeFirst (← readFileName))
      | 's' => return .done (← readSubstitution m)
      | 'y' => return .done (← readTranslation)
      | 'z' => plain .clear
      | 'v' =>
          let _ ← readLabel
          plain .nothing
      | ':' =>
          if guard.first.isSome then refuse ": doesn't want any addresses"
          else
            let label ← readLabel
            if label.isEmpty then refuse "\":\" lacks a label"
            else
              readEnding
              return .label label
      | 'b' | 't' | 'T' => do
          let label ← readLabel
          readEnding
          return .jump c label
      | '#' =>
          if guard.first.isSome then refuse "comments don't accept any addresses"
          else
            let _ ← takeWhile (· != '\n')
            return .done .nothing
      | c => refuse ("unknown command: \x60" ++ String.ofList [c] ++ "'")

def readAll (m : Manner) : Nat → Nat → List (Guard × Draft) → Reader (List (Guard × Draft))
  | 0, _, drafts => return drafts
  | rounds + 1, depth, drafts => do
      let _ ← takeWhile fun c => isBlank c || c = '\n' || c = ';'
      if (← peek).isNone then
        if depth = 0 then return drafts else throw ⟨"unmatched \x60\x7b\x27".toList, 0⟩
      else
        let guard ← readGuard m
        let draft ← readCommand m guard
        let depth ← match draft, depth with
          | .open_, depth => pure (depth + 1)
          | .close_, 0 => refuse "unexpected \x60\x7d\x27"
          | .close_, depth + 1 => pure depth
          | _, depth => pure depth
        readAll m rounds depth ((guard, draft) :: drafts)

/-! ## Places -/

def blockEnd : Nat → Nat → List (Guard × Draft) → Option Nat
  | _, _, [] => none
  | depth, place, (_, .open_) :: rest => blockEnd (depth + 1) (place + 1) rest
  | depth, place, (_, .close_) :: rest =>
      if depth = 0 then some (place + 1) else blockEnd (depth - 1) (place + 1) rest
  | depth, place, _ :: rest => blockEnd depth (place + 1) rest

def labels : Nat → List (Guard × Draft) → List (Octets × Nat)
  | _, [] => []
  | place, (_, .label name) :: rest => (name, place) :: labels (place + 1) rest
  | place, _ :: rest => labels (place + 1) rest

/-- Resolves blocks and jumps; a label that is nowhere is an error. -/
def resolve (known : List (Octets × Nat)) :
    Nat → List (Guard × Draft) → Except Octets (List Instruction)
  | _, [] => .ok []
  | place, (guard, draft) :: rest => do
      let command ← match draft with
        | .done command => pure command
        | .label _ | .close_ => pure .nothing
        | .open_ => pure (.block ((blockEnd 0 (place + 1) rest).getD place))
        | .jump letter label =>
            let target ←
              if label.isEmpty then pure none
              else match known.lookup label with
                | some target => pure (some target)
                | none => throw ("can't find label for jump to \x60".toList ++ label ++ ['\''])
            pure (match letter with
              | 'b' => .jump target
              | 't' => .jumpIfChanged target
              | _ => .jumpUnlessChanged target)
      return ⟨guard, command⟩ :: (← resolve known (place + 1) rest)

/-- Reads a script; where it makes no sense, the complaint says where. -/
def read (m : Manner) (script : Octets) : Except Octets (Array Instruction) := do
  match (readAll m (script.length + 1) 0 []).run ⟨script, 0⟩ with
  | .error fault =>
      throw ("-e expression #1, char ".toList ++ shown fault.place ++ ": ".toList ++ fault.complaint)
  | .ok (drafts, _) =>
      let drafts := drafts.reverse
      return (← resolve (labels 0 drafts) 0 drafts).toArray

def filesWritten (script : Array Instruction) : List Octets :=
  (script.toList.filterMap fun i =>
    match i.command with
    | .write file | .writeFirst file => some file
    | .substitute s => s.file
    | _ => none).eraseDups

end Clausal.Utility.Editing

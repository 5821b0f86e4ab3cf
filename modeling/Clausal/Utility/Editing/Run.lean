import Clausal.Utility.Editing.Script
import Clausal.Utility.Properties

/-!
# Editing lines

A script is run on each line of the input.  The line that is worked on is shown at the end of
its round unless that is turned off; another text can be kept aside from round to round.
-/

namespace Clausal.Utility

open Machine (Action Descriptor Failure Task)
open Text (Octets Regex View)

namespace Editing

structure Settings where
  script : Array Instruction
  isSilent : Bool
  isSeparate : Bool
  inPlace : Option Octets
  ending : Char
  width : Nat

/-- What is shown at the end of a round. -/
inductive Queued where
  | octets (octets : Octets)
  | file (name : Octets)

inductive RangeState where
  | outside
  | inside (stop : Option Nat)
  deriving DecidableEq, Repr

/-- A place that is written to; whether the last line there was not ended. -/
structure Sink where
  descriptor : Descriptor
  isOpen : Bool

structure State where
  files : List Octets
  name : Octets
  intake : Option Intake
  /-- The next line, if it was read already. -/
  peeked : Option (Octets × Bool)
  line : Octets
  isEnded : Bool
  hold : Octets
  number : Nat
  queue : List Queued
  ranges : Array RangeState
  hasChanged : Bool
  pattern : Pattern
  out : Outlet
  isOpen : Bool
  pieces : List Octets
  sinks : List (Octets × Sink)
  sources : List (Octets × Intake)
  status : Nat

abbrev Work := StateT State Action

inductive Flow where
  | finished
  | deleted
  | again
  | quit (status : Nat) (silently : Bool)

def lift (action : Action α) : Work α := fun s => do return (← action, s)

/-! ## Output -/

def emitRaw (c : Settings) (octets : Octets) : Work Unit := do
  if c.inPlace.isSome then modify fun s => { s with pieces := octets :: s.pieces }
  else
    let o ← lift ((← get).out.put octets)
    modify fun s => { s with out := o }

def emit (c : Settings) (octets : Octets) : Work Unit := do
  if (← get).isOpen then emitRaw c [c.ending]
  modify fun s => { s with isOpen := false }
  emitRaw c octets

/-- Shows a line, which is ended unless it was not when it was read. -/
def emitLine (c : Settings) (octets : Octets) : Work Unit := do
  let isEnded := (← get).isEnded
  emit c (if isEnded then octets ++ [c.ending] else octets)
  modify fun s => { s with isOpen := !isEnded }

def writeTo (c : Settings) (file octets : Octets) : Work Unit := do
  if file = "/dev/stdout".toList then emitLine c octets
  else
    match (← get).sinks.lookup file with
    | none => pure ()
    | some sink =>
        let isEnded := (← get).isEnded
        let written := (if sink.isOpen then [c.ending] else []) ++ octets ++
          (if isEnded then [c.ending] else [])
        let _ ← lift (Task.write sink.descriptor written)
        modify fun s => { s with sinks := s.sinks.map fun (name, sink) =>
          if name = file then (name, { sink with isOpen := !isEnded }) else (name, sink) }

def showQueue (c : Settings) : Work Unit := do
  let queue := (← get).queue.reverse
  modify fun s => { s with queue := [] }
  queue.forM fun
    | .octets octets => emit c octets
    | .file name => do
        match ← lift (fileContents (if name = "/dev/stdin".toList then ['-'] else name)) with
        | .ok octets => if !octets.isEmpty then emit c octets
        | .error _ => pure ()

/-! ## Input -/

def finishFile (c : Settings) : Work Unit := do
  let s ← get
  match c.inPlace, s.intake with
  | some suffix, some _ =>
      let bytes := (Text.Octets.toBytes (Outlet.joined s.pieces)).toArray
      let _ ← lift (changeFiles fun files => do
        let names ← files.locate false ⟨s.name⟩
        match files.node? names with
        | some (.file id) =>
            let attributes := (files.body id).attributes
            let files ←
              if suffix.isEmpty then pure files
              else
                let kept := if suffix.contains '*' then
                    suffix.flatMap fun c => if c = '*' then s.name else [c]
                  else s.name ++ suffix
                (files.removeFile ⟨kept⟩).link ⟨s.name⟩ ⟨kept⟩
            return files.placeFile names ⟨.bytes bytes, attributes⟩
        | _ => return files.placeFile names ⟨.bytes bytes, files.fresh names false 0o666⟩)
      modify fun s => { s with pieces := [], isOpen := false }
  | _, _ => pure ()

def closeIntake (c : Settings) : Work Unit := do
  finishFile c
  match (← get).intake with
  | some intake => lift (closeInput intake.descriptor)
  | none => pure ()
  modify fun s => { s with intake := none }

def openNext (c : Settings) : Nat → Work Bool
  | 0 => return false
  | rounds + 1 => do
      match (← get).files with
      | [] => return false
      | file :: rest =>
          modify fun s => { s with files := rest }
          let fs ← lift files
          let failed (complaint : Octets) (status : Nat) : Work Bool := do
            let out ← lift ((← get).out.flush)
            modify fun s => { s with out, status := max s.status status }
            lift (complain "sed" complaint)
            openNext c rounds
          if file != ['-'] && fs.isFolder ⟨file⟩ then
            if c.inPlace.isSome then
              failed ("couldn't edit ".toList ++ file ++ ": not a regular file".toList) 4
            else failed ("read error on ".toList ++ file ++ ": Is a directory".toList) 2
          else
            match ← lift (openInput file) with
            | .error failure =>
                failed ("can't read ".toList ++ file ++ ": ".toList ++ failure.reason.toList) 2
            | .ok descriptor =>
                modify fun s => { s with
                  intake := some (.of descriptor c.ending)
                  name := file
                  number := if c.isSeparate then 0 else s.number
                  ranges := if c.isSeparate then s.ranges.map fun _ => .outside else s.ranges }
                return true

def peekLine : Work (Option (Octets × Bool)) := do
  let s ← get
  match s.peeked, s.intake with
  | some line, _ => return some line
  | none, none => return none
  | none, some intake =>
      let (line, intake) ← lift (intake.next roundBound)
      modify fun s => { s with peeked := line, intake := some intake }
      return line

def isLast (c : Settings) : Work Bool := do
  match ← peekLine with
  | some _ => return false
  | none => return c.isSeparate || (← get).files.isEmpty

/-- Takes the next line; the files are gone through one after the other. -/
def takeLine (c : Settings) : Nat → Work (Option (Octets × Bool))
  | 0 => return none
  | rounds + 1 => do
      match ← peekLine with
      | some line =>
          modify fun s => { s with peeked := none, number := s.number + 1 }
          return some line
      | none =>
          closeIntake c
          if ← openNext c ((← get).files.length + 1) then takeLine c rounds else return none

/-! ## Addresses -/

def resume (pattern : Pattern) : Work Pattern := do
  match pattern with
  | some searcher =>
      modify fun s => { s with pattern := some searcher }
      return some searcher
  | none => return (← get).pattern

def isMatch (pattern : Pattern) : Work Bool := do
  match ← resume pattern with
  | some searcher => return searcher.matches? (← get).line
  | none => return false

def meets (c : Settings) (address : Address) : Work Bool := do
  let number := (← get).number
  match address with
  | .line n => return number == n
  | .every first step => return first ≤ number && (number - first) % step = 0
  | .last => isLast c
  | .matching pattern => isMatch pattern

/-- Whether a command is for this line; ranges are followed by the place of the command. -/
def applies (c : Settings) (place : Nat) (guard : Guard) : Work Bool := do
  let wanted ← match guard.first, guard.second with
    | none, _ => pure true
    | some first, none => meets c first
    | some first, some second => do
        let s ← get
        match s.ranges.getD place .outside with
        | .inside stop => inside place first second stop
        | .outside => enter place first second
  return wanted != guard.isNegated
where
  move (place : Nat) (state : RangeState) : Work Unit :=
    modify fun s => { s with ranges := s.ranges.setIfInBounds place state }
  enter (place : Nat) (first : Address) (second : RangeEnd) : Work Bool := do
    if ← meets c first then
      let number := (← get).number
      let upTo (stop : Nat) : Work Unit :=
        if number < stop then move place (.inside (some stop)) else pure ()
      match second with
      | .line stop => upTo stop
      | .after count => upTo (number + count)
      | .multiple factor =>
          if factor != 0 then upTo ((number + factor - 1) / factor * factor)
      | .last => if !(← isLast c) then move place (.inside none)
      | .matching _ => move place (.inside none)
      return true
    else return false
  inside (place : Nat) (first : Address) (second : RangeEnd) (stop : Option Nat) : Work Bool := do
    let number := (← get).number
    match stop with
    | some stop =>
        if stop ≤ number then move place .outside
        if number ≤ stop then return true else enter place first second
    | none =>
        let ends ← match second with
          | .matching pattern => isMatch pattern
          | _ => isLast c
        if ends then move place .outside
        return true

/-! ## Substitution -/

/-- Letters changed, for all and once for the first. -/
structure Casing where
  all : LetterCase
  once : LetterCase

namespace Casing

def plain : Casing := ⟨.unchanged, .unchanged⟩

def applyTo (k : Casing) (octets : Octets) : Octets × Casing :=
  match octets with
  | [] => ([], k)
  | c :: rest =>
      let wholly (c : Char) : Char := match k.all with
        | .upper => c.toUpper
        | .lower => c.toLower
        | _ => c
      let first := match k.once with
        | .upperOnce => c.toUpper
        | .lowerOnce => c.toLower
        | _ => wholly c
      (first :: rest.map wholly, { k with once := .unchanged })

end Casing

def replaced (line : Octets) (m : Regex.Match) : Casing → List Piece → List Octets → List Octets
  | _, [], done => done
  | k, piece :: rest, done =>
      match piece with
      | .literal octets =>
          let (octets, k) := k.applyTo octets
          replaced line m k rest (octets :: done)
      | .group number =>
          let (octets, k) := k.applyTo (m.group line number)
          replaced line m k rest (octets :: done)
      | .letterCase case_ =>
          match case_ with
          | .upperOnce | .lowerOnce => replaced line m { k with once := case_ } rest done
          | case_ => replaced line m ⟨case_, .unchanged⟩ rest done

def passMany : Nat → View → View
  | 0, v => v
  | count + 1, v => passMany count v.pass

/-- Goes through the matches of a line: what was put together, the last first, and whether
anything was replaced.  An empty match right after another does not count. -/
def substituteFrom (s : Substitution) (searcher : Regex.Searcher) (line : Octets) :
    Nat → View → Nat → Option Nat → List Octets → Bool → List Octets × Bool
  | 0, v, _, _, done, changed => (v.rest :: done, changed)
  | rounds + 1, v, count, before, done, changed =>
      match searcher.find? v with
      | none => (v.rest :: done, changed)
      | some m =>
          let lead := v.rest.take (m.whole.start - v.offset)
          let size := m.whole.stop - m.whole.start
          let after := passMany (m.whole.stop - v.offset) v
          let isEmpty := size = 0
          let step (done : List Octets) (count : Nat) (changed : Bool) : List Octets × Bool :=
            if isEmpty then
              match after.rest with
              | [] => (done, changed)
              | c :: _ =>
                  substituteFrom s searcher line rounds after.pass count none ([c] :: done) changed
            else
              substituteFrom s searcher line rounds after count (some m.whole.stop) done changed
          if isEmpty && before = some m.whole.start then step (lead :: done) count changed
          else if count < s.number then
            step ((v.rest.drop lead.length).take size :: lead :: done) (count + 1) changed
          else
            let done := replaced line m .plain s.pieces (lead :: done)
            if s.isGlobal then step done (count + 1) true
            else (after.rest :: done, true)

def substitute (c : Settings) (s : Substitution) : Work Unit := do
  match ← resume s.pattern with
  | none => pure ()
  | some searcher =>
      let line := (← get).line
      let (done, changed) := substituteFrom s searcher line (line.length + 2)
        ⟨none, line, 0, s.hasLines⟩ 1 none [] false
      if changed then
        modify fun state => { state with line := Outlet.joined done, hasChanged := true }
        if s.prints then emitLine c (← get).line
        match s.file with
        | some file => writeTo c file (← get).line
        | none => pure ()

/-! ## Showing everything -/

def visible (c : Char) : Octets :=
  match c with
  | '\\' => ['\\', '\\']
  | c => if isPlain c then [c] else escapeByte c

def folded (width : Nat) : List Octets → Octets → Nat → Octets
  | [], done, _ => done.reverse
  | piece :: rest, done, column =>
      if width < 2 || column + piece.length ≤ width - 1 then
        folded width rest (piece.reverse ++ done) (column + piece.length)
      else folded width rest (piece.reverse ++ ('\n' :: '\\' :: done)) piece.length

/-! ## Commands -/

def nextOf (file : Octets) : Work (Option Octets) := do
  let source ← match (← get).sources.lookup file with
    | some intake => pure (some intake)
    | none => do
        match ← lift (openInput (if file = "/dev/stdin".toList then ['-'] else file)) with
        | .ok descriptor => pure (some (Intake.of descriptor '\n'))
        | .error _ => pure none
  match source with
  | none => return none
  | some intake =>
      let (line, intake) ← lift (intake.next roundBound)
      modify fun s => { s with
        sources := (file, intake) :: s.sources.filter fun entry => entry.1 != file }
      return line.map Prod.fst

def execute (c : Settings) : Nat → Nat → Work Flow
  | 0, _ => return .finished
  | rounds + 1, place => do
      match c.script[place]? with
      | none => return .finished
      | some ⟨guard, command⟩ =>
          let go := execute c rounds
          if !(← applies c place guard) then
            match command with
            | .block after => go after
            | _ => go (place + 1)
          else
            let s ← get
            match command with
            | .block _ | .nothing => go (place + 1)
            | .number =>
                emit c (shown s.number ++ ['\n'])
                go (place + 1)
            | .append octets =>
                modify fun s => { s with queue := .octets octets :: s.queue }
                go (place + 1)
            | .insert octets =>
                emit c octets
                go (place + 1)
            | .change octets =>
                let isInside := guard.second.isSome && !guard.isNegated &&
                  s.ranges.getD place .outside != .outside
                if !isInside then emit c octets
                return .deleted
            | .delete => return .deleted
            | .deleteFirst =>
                if s.line.contains '\n' then
                  modify fun s => { s with line := (s.line.dropWhile (· != '\n')).drop 1 }
                  return .again
                else return .deleted
            | .fileName =>
                emit c (s.name ++ ['\n'])
                go (place + 1)
            | .take =>
                modify fun s => { s with line := s.hold }
                go (place + 1)
            | .takeMore =>
                modify fun s => { s with line := s.line ++ '\n' :: s.hold }
                go (place + 1)
            | .hold =>
                modify fun s => { s with hold := s.line }
                go (place + 1)
            | .holdMore =>
                modify fun s => { s with hold := s.hold ++ '\n' :: s.line }
                go (place + 1)
            | .exchange =>
                modify fun s => { s with line := s.hold, hold := s.line }
                go (place + 1)
            | .list width =>
                emit c (folded (width.getD c.width) (s.line.map visible ++ [['$']]) [] 0 ++ ['\n'])
                go (place + 1)
            | .next =>
                if ← isLast c then return .quit 0 false
                else
                  if !c.isSilent then emitLine c s.line
                  showQueue c
                  match ← takeLine c roundBound with
                  | none => return .quit 0 true
                  | some (line, isEnded) =>
                      modify fun s => { s with line, isEnded }
                      go (place + 1)
            | .nextMore =>
                if ← isLast c then return .quit 0 false
                else
                  showQueue c
                  match ← takeLine c roundBound with
                  | none => return .quit 0 false
                  | some (line, isEnded) =>
                      modify fun s => { s with line := s.line ++ '\n' :: line, isEnded }
                      go (place + 1)
            | .print =>
                emitLine c s.line
                go (place + 1)
            | .printFirst =>
                emit c (s.line.takeWhile (· != '\n') ++ [c.ending])
                go (place + 1)
            | .quit status silently => return .quit status silently
            | .readFile file =>
                modify fun s => { s with queue := .file file :: s.queue }
                go (place + 1)
            | .readLine file =>
                match ← nextOf file with
                | some line =>
                    modify fun s => { s with queue := .octets (line ++ ['\n']) :: s.queue }
                    go (place + 1)
                | none => go (place + 1)
            | .substitute s =>
                substitute c s
                go (place + 1)
            | .jump target => go (target.getD c.script.size)
            | .jumpIfChanged target =>
                if s.hasChanged then
                  modify fun s => { s with hasChanged := false }
                  go (target.getD c.script.size)
                else go (place + 1)
            | .jumpUnlessChanged target =>
                if s.hasChanged then
                  modify fun s => { s with hasChanged := false }
                  go (place + 1)
                else go (target.getD c.script.size)
            | .write file =>
                writeTo c file s.line
                go (place + 1)
            | .writeFirst file =>
                writeTo c file (s.line.takeWhile (· != '\n'))
                go (place + 1)
            | .translate table =>
                modify fun s => { s with line := s.line.map fun c => table.getD c.toNat c }
                go (place + 1)
            | .clear =>
                modify fun s => { s with line := [] }
                go (place + 1)

def copyRest (c : Settings) : Nat → Work Unit
  | 0 => return
  | rounds + 1 => do
      match ← peekLine with
      | none => return
      | some (line, isEnded) =>
          modify fun s => { s with peeked := none, isEnded }
          emitLine c line
          copyRest c rounds

def giveBack : Work Unit := do
  let s ← get
  match s.intake with
  | some intake =>
      if intake.descriptor = 0 then
        let sizeOf_ (line : Octets × Bool) : Nat := line.1.length + (if line.2 then 1 else 0)
        let count := (s.peeked.map sizeOf_).getD 0 + intake.start.length +
          intake.known.foldl (fun sum line => sum + line.length + 1) 0
        if count != 0 then lift (Task.rewind 0 count)
  | none => pure ()

/-- Goes through the lines; the status that a command asks for. -/
def rounds (c : Settings) : Nat → Bool → Work Nat
  | 0, _ => return 0
  | bound + 1, isAgain => do
      let isReady ←
        if isAgain then pure true
        else do
          match ← takeLine c roundBound with
          | none => pure false
          | some (line, isEnded) =>
              modify fun s => { s with line, isEnded }
              pure true
      if !isReady then return 0
      else
        if !isAgain then modify fun s => { s with hasChanged := false }
        match ← execute c roundBound 0 with
        | .finished =>
            if !c.isSilent then emitLine c (← get).line
            showQueue c
            rounds c bound false
        | .deleted =>
            showQueue c
            rounds c bound false
        | .again =>
            showQueue c
            rounds c bound true
        | .quit status silently =>
            if !silently then
              if !c.isSilent then emitLine c (← get).line
              showQueue c
            if c.inPlace.isSome then copyRest c roundBound
            giveBack
            closeIntake c
            return status

def openSinks (names : List Octets) : Action (Except Octets (List (Octets × Sink))) := do
  let opened ← (names.filter fun name => name != "/dev/stdout".toList).mapM fun name => do
    if name = "/dev/stderr".toList then return Except.ok (name, (⟨2, false⟩ : Sink))
    else
      match ← (Task.openFile ⟨name⟩ .write : Action _) with
      | .ok descriptor => return Except.ok (name, (⟨descriptor, false⟩ : Sink))
      | .error failure =>
          return Except.error ("couldn't open file ".toList ++ name ++ ": ".toList ++
            failure.reason.toList)
  return opened.mapM id

def startRanges (script : Array Instruction) : Array RangeState :=
  script.map fun i =>
    match i.guard.first, i.guard.second with
    | some (.line 0), some (.matching _) => .inside none
    | _, _ => .outside

def run (c : Settings) (files : List Octets) : Action Nat := do
  match ← openSinks (filesWritten c.script) with
  | .error complaint => fail "sed" complaint 4
  | .ok sinks =>
      let start : State := {
        files, name := ['-'], intake := none, peeked := none, line := [], isEnded := true
        hold := [], number := 0, queue := [], ranges := startRanges c.script
        hasChanged := false, pattern := none, out := .empty, isOpen := false, pieces := []
        sinks, sources := [], status := 0 }
      let (status, s) ← (rounds c roundBound false).run start
      s.out.finish "sed" (if status = 0 then s.status else status)

def switches : List Switch :=
  [.flag "n" "quiet", .flag "n" "silent", .setting "e" "expression", .setting "f" "file",
    .flag "E" "regexp-extended", .flag "r" "", .flag "s" "separate", .choice "i" "in-place",
    .flag "z" "null-data", .flag "u" "unbuffered", .setting "l" "line-length",
    .flag "posix" "posix", .flag "debug" "debug", .flag "b" "binary",
    .flag "follow" "follow-symlinks", .flag "sandbox" "sandbox"]

def usage : String :=
  "Usage: sed [OPTION]... \x7bscript-only-if-no-other-script\x7d [input-file]...\n\n"

end Editing

def scriptParts (a : Arguments) : Action (Except Octets (List Octets)) := do
  let parts ← (a.options.filter fun (key, _) => key = "e" || key = "f").mapM fun (key, value) => do
    if key = "e" then return Except.ok value
    else
      match ← fileContents value with
      | .ok octets =>
          return Except.ok (if octets.getLast? = some '\n' then octets.dropLast else octets)
      | .error failure =>
          return Except.error ("couldn't open file ".toList ++ value ++ ": ".toList ++
            failure.reason.toList)
  return parts.mapM id

def sed : Tool := fun arguments _ => do
  match Arguments.read Editing.switches arguments with
  | .error wrong =>
      complain "sed" wrong.complaint
      report Editing.usage.toList
      return 1
  | .ok a =>
      let isGiven := a.hasAny ["e", "f"]
      match ← scriptParts a, isGiven, a.operands with
      | .error complaint, _, _ => fail "sed" complaint 1
      | .ok _, false, [] =>
          report Editing.usage.toList
          return 1
      | .ok parts, isGiven, operands =>
          let script := if isGiven then ['\n'].intercalate parts else operands.headD []
          let files := inputs (if isGiven then operands else operands.tail)
          let isQuiet := "#n\n".toList.isPrefixOf script || script = "#n".toList
          match Editing.read ⟨a.hasAny ["E", "r"], a.has "z"⟩ script with
          | .error complaint => fail "sed" complaint 1
          | .ok instructions =>
              Editing.run {
                script := instructions
                isSilent := a.has "n" || isQuiet
                isSeparate := a.hasAny ["s", "i"]
                inPlace := a.value? "i"
                ending := if a.has "z" then '\x00' else '\n'
                width := ((a.value? "l").bind count?).getD 70 } files

end Clausal.Utility

import Clausal.Machine.Program
import Clausal.Shell.Builtin.Basic
import Clausal.Shell.Builtin.Signals
import Clausal.Utility.Calendar
import Clausal.Utility.Words

/-!
# Running programs

Utilities that run other programs in changed surroundings, up to a deadline, or with arguments
that are read from the input.
-/

namespace Clausal.Utility

open Machine (Action Descriptor Ended Environment Failure Handling ProcessId Signal Task)
open Text (Octets)

/-- Becomes a program that is looked for by its name; comes back with the status of a failure. -/
def become (name verb : String) (shown : Octets → Octets) (words : List Octets)
    (environment : Environment) : Action Nat := do
  let program := words.headD []
  let files ← (Task.browse (fun files => files) : Action FileSystem)
  let folders := (environment.lookup "PATH").getD Machine.Program.searchPath.toList
  let found : Except FileError Path :=
    if program.isEmpty then .error .notFound
    else if program.contains '/' then .ok ⟨program⟩
    else Machine.Program.search files folders program
  let failure ← match found with
    | .error failure => pure (Failure.file failure)
    | .ok path => do
        match ← (Task.exec path words environment : Action _) with
        | .file .notProgram =>
            (Task.exec (.ofString "/bin/sh")
              ("/bin/sh".toList :: path.octets :: words.tail) environment : Action _)
        | failure => pure failure
  complain name (verb.toList ++ shown program ++ ": ".toList ++ failure.reason.toList)
  return if failure = .file .notFound then 127 else 126

def spawn (task : Action Nat) : Action ProcessId := Task.fork task.toTask

def waitFor (child : ProcessId) : Nat → Action Ended
  | 0 => return .exited 0
  | rounds + 1 => do
      match ← (Task.wait ⟨some child, false, false⟩ : Action _) with
      | .ended _ how => return how
      | .noChild => return .exited 0
      | _ => waitFor child rounds

/-! ## Surroundings -/

def splitWords : Nat → Octets → Option Octets → List Octets
  | 0, _, _ => []
  | rounds + 1, octets, word =>
      match octets with
      | [] => word.toList.map List.reverse
      | '\\' :: '_' :: rest => splitWords rounds rest (some (' ' :: word.getD []))
      | '\\' :: c :: rest =>
          let c := if c = 'n' then '\n' else if c = 't' then '\t' else c
          splitWords rounds rest (some (c :: word.getD []))
      | '\'' :: rest =>
          let (inside, rest) := rest.span (· != '\'')
          splitWords rounds (rest.drop 1) (some (inside.reverse ++ word.getD []))
      | '"' :: rest =>
          let (inside, rest) := rest.span (· != '"')
          splitWords rounds (rest.drop 1) (some (inside.reverse ++ word.getD []))
      | c :: rest =>
          if c = ' ' || c = '\t' || c = '\n' then
            word.toList.map List.reverse ++ splitWords rounds rest none
          else splitWords rounds rest (some (c :: word.getD []))

def envSwitches : List Switch :=
  [.flag "i" "ignore-environment", .setting "u" "unset", .flag "0" "null",
    .setting "C" "chdir", .setting "S" "split-string", .flag "v" "debug",
    .choice "default" "default-signal", .choice "ignore" "ignore-signal"]

def expandWords : Nat → List Octets → List Octets
  | 0, arguments => arguments
  | rounds + 1, arguments =>
      match arguments with
      | ['-', 'S'] :: text :: rest => expandWords rounds (splitWords (text.length + 1) text none ++ rest)
      | ['-', 'v', 'S'] :: text :: rest =>
          expandWords rounds (splitWords (text.length + 1) text none ++ rest)
      | ('-' :: 'S' :: c :: text) :: rest =>
          expandWords rounds (splitWords (text.length + 2) (c :: text) none ++ rest)
      | ['-', 'u'] :: name :: rest => ['-', 'u'] :: name :: expandWords rounds rest
      | ['-', 'C'] :: name :: rest => ['-', 'C'] :: name :: expandWords rounds rest
      | ('-' :: c :: letters) :: rest =>
          let split := "--split-string=".toList
          if split.isPrefixOf ('-' :: c :: letters) then
            let text := ('-' :: c :: letters).drop split.length
            expandWords rounds (splitWords (text.length + 1) text none ++ rest)
          else if c = '-' && letters.isEmpty then ('-' :: c :: letters) :: rest
          else ('-' :: c :: letters) :: expandWords rounds rest
      | arguments => arguments

def env : Tool := fun arguments environment => do
  let arguments := expandWords (arguments.length + 16) arguments
  match Arguments.readFront envSwitches arguments with
  | .error wrong => misuse "env" wrong.complaint 125
  | .ok a =>
      let (isBare, operands) := match a.operands with
        | ['-'] :: rest => (true, rest)
        | operands => (false, operands)
      let start := if isBare || a.has "i" then [] else
        environment.filter fun entry => !((a.values "u").contains (Text.Octets.ofString entry.1))
      let (start, words) := assign operands start
      let moved ← match a.value? "C" with
        | none => pure none
        | some folder => do
            match ← (Task.enterFolder ⟨folder⟩ : Action _) with
            | .ok () => pure none
            | .error failure =>
                pure (some ("cannot change directory to ".toList ++ quoted folder ++ ": ".toList ++
                  failure.reason.toList))
      match moved, words with
      | some complaint, _ => fail "env" complaint 125
      | none, [] =>
          emit "env" (unlinesWith (if a.has "0" then '\x00' else '\n')
            (start.map fun (name, value) => Text.Octets.ofString name ++ '=' :: value))
      | none, words => become "env" "" quoted words start
where
  assign : List Octets → Environment → Environment × List Octets
    | word :: rest, environment =>
        let (name, value) := word.span (· != '=')
        match value with
        | _ :: value =>
            let name := text name
            let isThere := environment.any fun entry => entry.1 = name
            assign rest
              (if isThere then
                environment.map fun entry => if entry.1 = name then (name, value) else entry
              else environment ++ [(name, value)])
        | [] => (environment, word :: rest)
    | [], environment => (environment, [])

def runCommand (name : String) : List Octets → Environment → Action Nat :=
  become name "failed to run command " quoted

def nohup : Tool := fun arguments environment => do
  match Arguments.readFront [] arguments with
  | .error wrong => misuse "nohup" wrong.complaint 125
  | .ok a =>
      if a.operands.isEmpty then misuse "nohup" "missing operand".toList 125
      else
        Task.handle 1 .ignored
        runCommand "nohup" a.operands environment

def setsid : Tool := fun arguments environment => do
  match Arguments.readFront
      [.flag "c" "ctty", .flag "f" "fork", .flag "w" "wait"] arguments with
  | .error wrong => misuse "setsid" wrong.complaint 1
  | .ok a =>
      let work : Action Nat := do
        Task.leaveGroup
        become "setsid" "failed to execute " id a.operands environment
      if a.operands.isEmpty then misuse "setsid" "no command specified".toList 1
      else if a.has "f" then
        let child ← spawn work
        if a.has "w" then return (← waitFor child roundBound).status else return 0
      else work

def nice : Tool := fun arguments environment => do
  let arguments := match arguments with
    | ('-' :: c :: digits) :: rest =>
        if (c.isDigit || c = '-' || c = '+') && digits.all Char.isDigit && (c :: digits) != ['-'] then
          ['-', 'n'] :: (c :: digits) :: rest
        else arguments
    | arguments => arguments
  match Arguments.readFront [.setting "n" "adjustment"] arguments with
  | .error wrong => misuse "nice" wrong.complaint 125
  | .ok a =>
      let value := (a.value? "n").getD ['0']
      let digits := match value with
        | '-' :: digits | '+' :: digits => digits
        | digits => digits
      match Text.readDigits? digits, a.operands with
      | none, _ => fail "nice" ("invalid adjustment ".toList ++ quoted value) 125
      | some _, [] =>
          if a.has "n" then
            misuse "nice" "a command must be given with an adjustment".toList 125
          else
            emit "nice" (((environment.lookup "NICENESS").getD ['0']) ++ ['\n'])
      | some n, words =>
          if words.head? = some "nice".toList && words.length = 1 then emit "nice" (shown (min n 19) ++ ['\n'])
          else become "nice" "" quoted words environment

def stdbuf : Tool := fun arguments environment => do
  match Arguments.readFront
      [.setting "i" "input", .setting "o" "output", .setting "e" "error"] arguments with
  | .error wrong => misuse "stdbuf" wrong.complaint 125
  | .ok a =>
      if a.operands.isEmpty then misuse "stdbuf" "missing operand".toList 125
      else if a.options.isEmpty then
        misuse "stdbuf" "you must specify a buffering mode option".toList 125
      else runCommand "stdbuf" a.operands environment

def which : Tool := fun arguments environment => do
  let files ← (Task.browse (fun files => files) : Action FileSystem)
  let folders := (environment.lookup "PATH").getD []
  let names := arguments.filter fun argument => argument != ['-', 'a'] && argument != ['-', 's']
  let found := names.map fun name =>
    if name.contains '/' then if files.isProgram ⟨name⟩ then some name else none
    else (Machine.Program.search files folders name).toOption.map Path.octets
  emitWith "which" (unlines (found.filterMap id))
    (if !names.isEmpty && found.all Option.isSome then 0 else 1)

/-! ## Deadlines -/

structure Deadline where
  signal : Signal
  killAfter : Option Nat
  keepsStatus : Bool
  /-- Only the program itself is signalled, not what it started. -/
  isAlone : Bool
  tells : Bool

def threaten (child : ProcessId) (span : Nat) (deadline : Deadline) (program : Octets) :
    Action Nat := do
  Task.handle deadline.signal .ignored
  Task.sleep span
  send deadline.signal
  match deadline.killAfter with
  | some more =>
      Task.sleep more
      send Signal.kill
  | none => pure ()
  return 0
where
  send (signal : Signal) : Action Unit := do
    if deadline.tells then
      complain "timeout" ("sending signal ".toList ++
        ((Signal.name? signal).getD (toString signal)).toList ++ " to command ".toList ++ quoted program)
    let _ ← (Task.signal child signal : Action Bool)
    if !deadline.isAlone then
      if signal != Signal.kill then
        let _ ← (Task.signal 0 signal : Action Bool)
    let _ ← (Task.signal child 18 : Action Bool)

def runUntil (deadline : Deadline) (span : Nat) (words : List Octets)
    (environment : Environment) : Action Nat := do
  if !deadline.isAlone then Task.leaveGroup
  let child ← spawn (runCommand "timeout" words environment)
  Task.handle deadline.signal .ignored
  let watch ← spawn (threaten child span deadline (words.headD []))
  let how ← waitFor child roundBound
  let early ← (Task.wait ⟨some watch, false, true⟩ : Action _)
  let _ ← (Task.signal watch Signal.kill : Action Bool)
  let passed := match early, how with
    | .ended .., _ => true
    | _, .signalled signal => signal = deadline.signal || signal = Signal.kill
    | _, _ => false
  return if passed && !deadline.keepsStatus then
      (if how = .signalled Signal.kill then 137 else 124)
    else how.status

def timeoutSwitches : List Switch :=
  [.setting "s" "signal", .setting "k" "kill-after", .flag "p" "preserve-status",
    .flag "f" "foreground", .flag "v" "verbose"]

def timeout : Tool := fun arguments environment => do
  match Arguments.readFront timeoutSwitches arguments with
  | .error wrong => misuse "timeout" wrong.complaint 125
  | .ok a =>
      let badTime (text : Octets) : Action Nat :=
        misuse "timeout" ("invalid time interval ".toList ++ quoted text) 125
      let signal? : Option Signal := match a.value? "s" with
        | none => some Signal.terminate
        | some name => Shell.Builtin.signal?
            (if "SIG".toList.isPrefixOf (name.map Char.toUpper) then name.drop 3 else name)
      let more? : Option (Option Nat) := match a.value? "k" with
        | none => some none
        | some text => span? text
      match signal?, more?, a.operands with
      | none, _, _ =>
          misuse "timeout" (quoted ((a.value? "s").getD []) ++ ": invalid signal".toList) 125
      | some _, none, _ => badTime ((a.value? "k").getD [])
      | some signal, some more, span :: word :: words =>
          match span? span with
          | none => badTime span
          | some none | some (some 0) => runCommand "timeout" (word :: words) environment
          | some (some span) =>
              runUntil ⟨signal, more, a.has "p", a.has "f", a.has "v"⟩ span (word :: words)
                environment
      | _, _, _ => suggestHelp "timeout" 125

/-! ## Arguments from the input -/

inductive Cut where
  | words
  | lines
  | at (c : Char)
  deriving DecidableEq, Repr

abbrev Item := Octets × Bool

/-- Items of a text with quotes and backslashes taken away.  A blank at the end of a line joins
it with the next. -/
def quotedItems (wholeLines : Bool) :
    Nat → Octets → Option Octets → List Item → Except Octets (List Item)
  | 0, _, _, found => .ok found.reverse
  | rounds + 1, octets, word, found =>
      let go := quotedItems wholeLines rounds
      let finished (isLast : Bool) : List Item := match word with
        | some word => (word.reverse, isLast) :: found
        | none => found
      match octets with
      | [] => .ok (finished true).reverse
      | '\\' :: c :: rest => go rest (some (c :: word.getD [])) found
      | '\n' :: rest => go rest none (finished true)
      | c :: rest =>
          if c = '\'' || c = '"' then
            let (inside, after) := rest.span fun d => d != c && d != '\n'
            if after.head? = some c then
              go (after.drop 1) (some (inside.reverse ++ word.getD [])) found
            else
              .error ((if c = '"' then "unmatched double quote" else "unmatched single quote") ++
                "; by default quotes are special to xargs unless you use the -0 option").toList
          else if c = ' ' || c = '\t' then
            if wholeLines then
              go rest (word.map fun word => c :: word) found
            else go rest none (finished false)
          else go rest (some (c :: word.getD [])) found

def itemsOf (cut : Cut) (octets : Octets) : Except Octets (List Item) :=
  match cut with
  | .words => quotedItems false (octets.length + 1) octets none []
  | .lines => quotedItems true (octets.length + 1) octets none []
  | .at c =>
      let parts := Text.split (· = c) octets
      let parts := if parts.getLast? = some [] then parts.dropLast else parts
      .ok (parts.map fun part => (part, true))

def putIn (mark item : Octets) : Nat → Octets → Octets
  | 0, _ => []
  | rounds + 1, word =>
      match word with
      | [] => []
      | c :: rest =>
          if !mark.isEmpty && mark.isPrefixOf (c :: rest) then
            item ++ putIn mark item rounds ((c :: rest).drop mark.length)
          else c :: putIn mark item rounds rest

structure Batch where
  items : Option Nat
  lines : Option Nat
  size : Nat
  deriving DecidableEq, Repr

/-- The parts that are complete, newest first, and the part that is being filled. -/
structure Parts where
  complete : List (List Octets)
  part : List Octets
  count : Nat
  lines : Nat
  size : Nat

/-- Completes the part; the next one starts at a size. -/
def Parts.close (p : Parts) (base : Nat) : Parts :=
  ⟨p.part.reverse :: p.complete, [], 0, 0, base⟩

def Parts.put (p : Parts) (b : Batch) (base : Nat) (item : Item) : Parts :=
  let p := if !p.part.isEmpty && b.size < p.size + item.1.length + 1 then p.close base else p
  let p : Parts := {
    complete := p.complete, part := item.1 :: p.part, count := p.count + 1
    lines := if item.2 then p.lines + 1 else p.lines, size := p.size + item.1.length + 1 }
  if b.items = some p.count || b.lines = some p.lines then p.close base else p

def batches (b : Batch) (base : Nat) (items : List Item) : List (List Octets) :=
  let p : Parts := items.foldl (fun p item => p.put b base item) ⟨[], [], 0, 0, base⟩
  (if p.part.isEmpty then p.complete else p.part.reverse :: p.complete).reverse

def xargsSwitches : List Switch :=
  [.flag "0" "null", .setting "d" "delimiter", .setting "E" "", .choice "e" "eof",
    .setting "I" "", .choice "i" "replace", .setting "L" "", .choice "l" "max-lines",
    .setting "n" "max-args", .setting "P" "max-procs", .flag "p" "interactive",
    .flag "r" "no-run-if-empty", .setting "s" "max-chars", .flag "t" "verbose",
    .flag "x" "exit", .setting "a" "arg-file", .flag "o" "open-tty"]

/-- How items are put into commands: in the place of a mark, or several at once. -/
structure Grouping where
  mark : Option Octets
  lines : Option Nat
  items : Option Nat
  warnings : List Octets

namespace Grouping

def warn (g : Grouping) (isWrong : Bool) (old new : String) : Grouping :=
  if isWrong then
    { g with
      warnings := g.warnings ++
        [s!"warning: options {old} and {new} are mutually exclusive, ignoring previous {old} value".toList] }
  else g

def note (g : Grouping) (option : String × Octets) : Grouping :=
  let number := Text.readUnsigned? option.2
  let byMark (mark : Octets) : Grouping :=
    let g := g.warn g.items.isSome "--max-args" "--replace/-I/-i"
    let g := g.warn g.lines.isSome "--max-lines" "--replace/-I/-i"
    { g with mark := some mark, lines := none, items := none }
  let byLines (name : String) (lines : Nat) : Grouping :=
    let g := g.warn g.mark.isSome "--replace" name
    let g := g.warn g.items.isSome "--max-args" name
    { g with mark := none, lines := some lines, items := none }
  match option.1 with
  | "I" => byMark option.2
  | "i" => byMark (if option.2.isEmpty then "\x7b\x7d".toList else option.2)
  | "L" => byLines "-L" (number.getD 1)
  | "l" => byLines "--max-lines/-l" (number.getD 1)
  | "n" =>
      if g.mark.isSome && number = some 1 then g
      else
        let g := g.warn g.mark.isSome "--replace" "--max-args/-n"
        let g := g.warn g.lines.isSome "--max-lines" "--max-args/-n"
        { g with mark := none, lines := none, items := number }
  | _ => g

end Grouping

structure Launching where
  tells : Bool
  environment : Environment
  /-- How many run at once; no limit if zero. -/
  width : Nat
  leavesInput : Bool

namespace Launching

/-- Notes how a command ended; the status so far, and whether to stop. -/
def note (words : List Octets) (how : Ended) (status : Nat) : Action (Nat × Bool) := do
  let program := words.headD []
  match how with
  | .exited 0 => return (status, false)
  | .exited 255 =>
      complain "xargs" (program ++ ": exited with status 255; aborting".toList)
      return (124, true)
  | .exited 126 => return (126, true)
  | .exited 127 => return (127, true)
  | .exited _ => return (123, false)
  | .signalled signal =>
      complain "xargs" (program ++ ": terminated by signal ".toList ++ shown signal)
      return (125, true)

def await (words : List Octets) : Nat → Nat → Nat → Nat → Action (Nat × Nat × Bool)
  | 0, under, _, status => return (under, status, false)
  | rounds + 1, under, most, status => do
      if under ≤ most then return (under, status, false)
      else
        match ← (Task.wait ⟨none, false, false⟩ : Action _) with
        | .ended _ how =>
            let (status, stops) ← note words how status
            if stops then return (under - 1, status, true)
            else await words rounds (under - 1) most status
        | .noChild => return (0, status, false)
        | _ => await words rounds under most status

def run (l : Launching) (name : List Octets) : List (List Octets) → Nat → Nat → Action Nat
  | [], under, status => do
      let (_, status, _) ← await name roundBound under 0 status
      return status
  | words :: more, under, status => do
      if l.tells then report ([' '].intercalate (words.map shownName) ++ ['\n'])
      let _ ← spawn do
        if !l.leavesInput then
          Task.close 0
          let _ ← (Task.openFile (.ofString "/dev/null") .read : Action _)
        become "xargs" "" id words l.environment
      let under := under + 1
      let (under, status, stops) ← await name roundBound under
        (if l.width = 0 then under else l.width - 1) status
      if stops then return status else run l name more under status

end Launching

def xargs : Tool := fun arguments environment => do
  match Arguments.readFront xargsSwitches arguments with
  | .error wrong => misuse "xargs" wrong.complaint 1
  | .ok a =>
      let number (key : String) : Except Octets (Option Nat) :=
        match a.value? key with
        | none => .ok none
        | some value =>
            match Text.readUnsigned? value with
            | some n => .ok (some n)
            | none => .error (s!"invalid number \"{text value}\" for -{key} option".toList)
      match number "n", number "L", number "P", number "s" with
      | .error complaint, _, _, _ | _, .error complaint, _, _ | _, _, .error complaint, _
      | _, _, _, .error complaint => misuse "xargs" complaint 1
      | .ok items, .ok lines, .ok width, .ok size =>
          if items = some 0 || lines = some 0 then
            let key := if items = some 0 then "n" else "L"
            misuse "xargs" s!"value 0 for -{key} option should be >= 1".toList 1
          else work a environment (width.getD 1) (size.getD 131072)
where
  work (a : Arguments) (environment : Environment) (width size : Nat) : Action Nat := do
    let words := if a.operands.isEmpty then ["echo".toList] else a.operands
    let g := a.options.foldl Grouping.note ⟨none, none, none, []⟩
    g.warnings.forM (complain "xargs")
    let mark? := g.mark
    let cut : Cut := if a.has "0" then .at '\x00' else match a.value? "d" with
      | some value => .at (match value with
          | '\\' :: rest => (Shell.Printf.readEscape rest).1
          | c :: _ => c
          | [] => '\n')
      | none => if mark?.isSome then .lines else .words
    let source := (a.value? "a").getD ['-']
    match ← fileContents source with
    | .error failure =>
        fail "xargs" ("Cannot open input file ".toList ++ quoted source ++ ": ".toList ++
          failure.reason.toList) 1
    | .ok octets =>
        match itemsOf cut octets with
        | .error complaint => fail "xargs" complaint 1
        | .ok found =>
            let found := match a.value? "E" with
              | some mark => if mark.isEmpty then found else found.takeWhile fun item => item.1 != mark
              | none => found
            let base := words.foldl (fun sum word => sum + word.length + 1) 0
            let commands :=
              match mark? with
              | some mark => (found.filter fun item => !item.1.isEmpty).map fun (item, _) =>
                  words.map fun word => putIn mark item (word.length + 1) word
              | none =>
                  let parts := batches ⟨g.items, g.lines, size⟩ base found
                  if parts.isEmpty && !a.has "r" then [words]
                  else parts.map fun part => words ++ part
            let launching : Launching := ⟨a.has "t", environment, width, a.has "a"⟩
            launching.run words commands 0 0

/-! ## Signals -/

def kill : Tool := fun arguments _ => do
  let (signal?, targets) :=
    match arguments with
    | ['-', 's'] :: name :: targets => (Shell.Builtin.signal? name, targets)
    | ['-', '-'] :: targets => (some Signal.terminate, targets)
    | ('-' :: name) :: targets => (Shell.Builtin.signal? name, targets)
    | targets => (some Signal.terminate, targets)
  match signal?, targets with
  | some signal, target :: more =>
      forEachOperand (target :: more) fun target => do
        let (isNegative, digits) :=
          match target with
          | '-' :: digits => (true, digits)
          | digits => (false, digits)
        match Text.readDigits? digits with
        | none =>
            complain "kill" ("failed to parse argument: ".toList ++ quoted target)
            return false
        | some id =>
            let found ← (Task.signal (if isNegative then -(id : Int) else id) signal : Action Bool)
            if !found then
              complain "kill" ("(".toList ++ target ++ "): No such process".toList)
            return found
  | _, _ => fail "kill" "not enough arguments".toList 1

end Clausal.Utility

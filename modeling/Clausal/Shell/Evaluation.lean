import Clausal.Shell.Connection
import Clausal.Shell.Execution

/-!
# Running commands

`evaluate` runs one command, given how to run the commands inside it, and `evaluateTo` ties
the knot to a bounded depth.
-/

namespace Clausal.Shell

open Machine (Descriptor ProcessId Task)
open Text (Octets)

namespace Work

/-! ## Simple commands -/

/-- A simple command whose first words are expanded. -/
structure Resolved where
  found : Found
  words : List Octets
  rest : List Word
  isSpecial : Bool

def firstFields (run : Run) : List Word → Work (List Octets × List Word)
  | [] => return ([], [])
  | word :: rest => do
      match ← Expansion.fields (substitute run) word with
      | [] => firstFields run rest
      | fields => return (fields, rest)

/-- Skips the name of a command that runs another and its options; nothing if it is asked to
describe a command. -/
def skipCommand (run : Run) : Nat → List Octets → List Word →
    Work (List Octets × Option (List Octets) × List Word)
  | 0, passed, rest => return (passed, none, rest)
  | rounds + 1, passed, rest => do
      let (fields, rest) ← firstFields run rest
      match fields with
      | [] => return (passed, none, rest)
      | first :: more =>
          if first = ['-', '-'] then
            let (next, rest) ← match more with
              | [] => firstFields run rest
              | more => pure (more, rest)
            return (passed, if next.isEmpty then none else some next, rest)
          else if first = ['-', 'p'] then
            match more with
            | [] => skipCommand run rounds (passed ++ fields) rest
            | more => return (passed ++ fields, some more, rest)
          else if first.head? = some '-' && 1 < first.length then
            return (passed ++ fields, none, rest)
          else return (passed ++ fields, some fields, rest)

def resolve (run : Run) : Nat → Bool → Option Bool → List Octets → List Word → Work Resolved
  | 0, _, _, words, rest => return ⟨.program, words, rest, false⟩
  | rounds + 1, allowsFunctions, isSpecial?, words, rest => do
      let s ← get
      match s.find allowsFunctions (words.headD []) with
      | .builtin name kind =>
          let isSpecial := isSpecial?.getD kind.isSpecial
          if name != "command" then return ⟨.builtin name kind, words, rest, isSpecial⟩
          else
            let (passed, next, rest) ← match words with
              | [name] => skipCommand run rounds [name] rest
              | words => skipWords words rest
            match next with
            | some next => resolve run rounds false (some isSpecial) next rest
            | none => return ⟨.builtin name kind, passed, rest, isSpecial⟩
      | found => return ⟨found, words, rest, isSpecial?.getD false⟩
where
  skipWords (words : List Octets) (rest : List Word) :
      Work (List Octets × Option (List Octets) × List Word) := do
    match words with
    | name :: ['-', '-'] :: next => return ([name], if next.isEmpty then none else some next, rest)
    | name :: ('-' :: c :: option) :: more => return (name :: ('-' :: c :: option) :: more, none, rest)
    | _ :: next => return (words, some next, rest)
    | [] => return (words, none, rest)

def remainingFields (run : Run) (assigns : Bool) (words : List Word) : Work (List Octets) := do
  let parts ← words.mapM fun word => do
    match if assigns then assignment? word else none with
    | some (name, value) =>
        let value ← Expansion.single (substitute run) .value value
        return [name.toList ++ '=' :: value]
    | none => Expansion.fields (substitute run) word
  return parts.flatten

def makeAssignment (run : Run) (isLocal exported : Bool) (assignment : String × Word) :
    Work Octets := do
  let value ← Expansion.single (substitute run) .value assignment.2
  let text := assignment.1.toList ++ '=' :: value
  if isLocal then Builtin.makeLocal true text
  else
    assign assignment.1 value
    if exported then
      modify fun s =>
        match s.binding? assignment.1 with
        | some v => s.setVariable assignment.1 { v with exported := true }
        | none => s
  return text

def trace (run : Run) (texts : List Octets) : Work Unit := do
  let s ← get
  if s.options.traces then
    let word := (readSubstitutions? ((s.value? "PS4").getD [])).getD []
    let start ← Expansion.single (substitute run) .plain word
    let _ ← write 2 (start ++ [' '].intercalate texts ++ ['\n'])

/-- Runs a command whose words are expanded and whose connections are made. -/
def runResolved (run : Run) (mode : Mode) (resolved : Resolved)
    (assignments : List (String × Word)) (words : List Octets) : Work Flow := do
  let isExec := resolved.found matches .builtin "exec" _
  let isLocal := !words.isEmpty && !resolved.isSpecial
  let work : Work Flow := do
    let texts ← assignments.mapM
      (makeAssignment run isLocal (isExec && 1 < words.length))
    trace run (texts ++ words)
    match words, resolved.found with
    | [], _ =>
        modify fun s => { s with status := s.substituted }
        return .next
    | _ :: arguments, .builtin name _ => Builtin.call run mode resolved.isSpecial name arguments
    | _ :: arguments, .function body =>
        callFunction run mode body arguments
        return .next
    | words, .program =>
        setStatus (← runProgram run mode words)
        return .next
  if isLocal then inFrame work else work

/-- Does work with connections and takes them back, whatever happens.  Where they cannot be
made, the status says so. -/
def connected (run : Run) (redirects : List Redirect) (forgets : Bool) (otherwise : α)
    (work : Work α) : Work α := do
  match redirects with
  | [] => work
  | redirects =>
      let connections ← redirects.mapM (Connection.ofRedirect (substitute run))
      let (saved, made) ← Connection.make true connections []
      if made then
        let result ← attempt work
        Connection.undo (forgets && result.isOk) saved
        ofExcept result
      else
        setStatus 2
        Connection.undo false saved
        return otherwise

def simple (run : Run) (mode : Mode) (assignments : List (String × Word)) (words : List Word)
    (redirects : List Redirect) : Work Flow := do
  pause
  runTraps run
  modify fun s => { s with substituted := 0 }
  let (first, rest) ← firstFields run words
  let resolved ← match first with
    | [] => pure ⟨.program, [], rest, false⟩
    | first => resolve run roundBound true none first rest
  let assigns := match resolved.found with
    | .builtin _ kind => kind.assigns
    | _ => false
  let words := resolved.words ++ (← remainingFields run assigns resolved.rest)
  let isExec := resolved.found matches .builtin "exec" _
  let work := some <$> runResolved run mode resolved assignments words
  match ← connected run redirects isExec none work with
  | some flow => return flow
  | none => if resolved.isSpecial then stop .fault else return .next

/-! ## Copies of the shell -/

def connectForGood (run : Run) (redirects : List Redirect) : Work Unit := do
  let connections ← redirects.mapM (Connection.ofRedirect (substitute run))
  let (_, made) ← Connection.make false connections []
  if !made then
    setStatus 2
    stop .fault

def subshell (run : Run) (mode : Mode) (body : Command) (redirects : List Redirect) :
    Work Nat := do
  let s ← get
  let work : Work Unit := do
    connectForGood run redirects
    let _ ← run ⟨mode.tested, true⟩ body
  if mode.exits && !s.hasTraps then
    work
    stop .exit
  else
    let _ ← makeRoom
    let id ← fork run work
    await [id]

def addJob (number : Nat) (ids : List ProcessId) : Work Unit :=
  modify fun s => { s with jobs := .start number ids :: s.jobs, lastJob := ids.getLast? }

def background (run : Run) (body : Command) (redirects : List Redirect) : Work Unit := do
  let number ← makeRoom
  let id ← fork run <| inBackground do
    emptyInput
    connectForGood run redirects
    let _ ← run ⟨false, true⟩ body
  addJob number [id]

def startPipeline (run : Run) (mode : Mode) (beside : Bool) :
    Option Descriptor → List Command → Work (List ProcessId)
  | _, [] => return []
  | input, command :: rest => do
      let isFirst := input.isNone
      let output ← if rest.isEmpty then pure none else some <$> lift Task.pipe
      let body : Work Unit := do
        if beside && isFirst then emptyInput
        if let some (reading, _) := output then lift (Task.close reading)
        if let some input := input then
          if 0 < input then
            let _ ← lift (Task.duplicate input 0)
            lift (Task.close input)
        if let some (_, writing) := output then
          if 1 < writing then
            let _ ← lift (Task.duplicate writing 1)
            lift (Task.close writing)
        let _ ← run ⟨mode.tested, true⟩ command
      let id ← fork run (if beside then inBackground body else body)
      if let some input := input then lift (Task.close input)
      if let some (_, writing) := output then lift (Task.close writing)
      return id :: (← startPipeline run mode beside (output.map Prod.fst) rest)

/-! ## Loops -/

/-- How a loop goes on after commands inside it: it goes on, ends, or leaves the loops around
it. -/
inductive Turn where
  | again
  | done (flow : Flow)
  deriving DecidableEq, Repr

def turn (flow : Flow) : Turn :=
  match flow with
  | .next => .again
  | .continue_ 1 | .continue_ 0 => .again
  | .continue_ (loops + 2) => .done (.continue_ (loops + 1))
  | .break_ 1 | .break_ 0 => .done .next
  | .break_ (loops + 2) => .done (.break_ (loops + 1))
  | .return_ => .done .return_

/-- Goes around as long as a condition has the wanted outcome; the status is that of the last
round. -/
def loopRounds (run : Run) (mode : Mode) (condition : Command) (wanted : Bool) (body : Command) :
    Nat → Nat → Work (Nat × Flow)
  | 0, status => return (status, .next)
  | rounds + 1, status => do
      match ← run .test condition with
      | .next =>
          let found := (← get).status
          if (found == 0) != wanted then return (status, .next)
          else
            let flow ← run mode.inner body
            let status := (← get).status
            match turn flow with
            | .again => loopRounds run mode condition wanted body rounds status
            | .done flow => return (status, flow)
      | flow =>
          match turn flow with
          | .again => loopRounds run mode condition wanted body rounds status
          | .done .return_ => return ((← get).status, .return_)
          | .done flow => return (status, flow)

def forRounds (run : Run) (mode : Mode) (name : String) (body : Command) :
    List Octets → Nat → Work (Nat × Flow)
  | [], status => return (status, .next)
  | value :: rest, _ => do
      assign name value
      let flow ← run mode.inner body
      let status := (← get).status
      match turn flow with
      | .again => forRounds run mode name body rest status
      | .done flow => return (status, flow)

def inLoop (work : Work (Nat × Flow)) : Work Flow := do
  modify fun s => { s with loops := s.loops + 1 }
  let result ← attempt work
  modify fun s => { s with loops := s.loops - 1 }
  let (status, flow) ← ofExcept result
  setStatus status
  return flow

/-! ## Choices -/

def matchesAny (run : Run) (text : Octets) : List Word → Work Bool
  | [] => return false
  | word :: rest => do
      let parts ← Expansion.pattern (substitute run) word
      if matchesPattern parts text then return true else matchesAny run text rest

def choose (run : Run) (mode : Mode) (text : Octets) :
    List (List Word × Option Command) → Work Flow
  | [] => do
      setStatus 0
      return .next
  | (patterns, body) :: rest => do
      if ← matchesAny run text patterns then
        match body with
        | some body => run mode body
        | none =>
            setStatus 0
            return .next
      else choose run mode text rest

/-! ## All commands -/

def atLine (line : Nat) : Work Unit := modify fun s => { s with line }

def carryOut (run : Run) (mode : Mode) : Command → Work (Flow × Bool)
  | .nothing => return (.next, false)
  | .simple line assignments words redirects => do
      atLine line
      return (← simple run mode assignments words redirects, true)
  | .subshell line body redirects => do
      atLine line
      setStatus (← subshell run mode body redirects)
      return (.next, true)
  | .background line body redirects => do
      atLine line
      background run body redirects
      setStatus 0
      return (.next, true)
  | .pipeline parts beside => do
      let number ← makeRoom
      let ids ← startPipeline run mode beside none parts
      if beside then
        addJob number ids
        setStatus 0
      else setStatus (← await ids)
      return (.next, true)
  | .redirected line body redirects => do
      atLine line
      let work : Work (Flow × Bool) := return (← run mode.inner body, false)
      connected run redirects false (.next, true) work
  | .sequence first second => do
      match ← run mode.inner first with
      | .next => return (← run mode second, false)
      | flow => return (flow, false)
  | .both first second => do
      match ← run .test first with
      | .next =>
          if (← get).status = 0 then return (← run mode second, false)
          else return (.next, false)
      | flow => return (flow, false)
  | .either first second => do
      match ← run .test first with
      | .next =>
          if (← get).status != 0 then return (← run mode second, false)
          else return (.next, false)
      | flow => return (flow, false)
  | .invert body => do
      let flow ← run .test body
      modify fun s => { s with status := if s.status = 0 then 1 else 0 }
      return (flow, false)
  | .conditional condition body otherwise => do
      match ← run .test condition with
      | .next =>
          if (← get).status = 0 then return (← run mode body, false)
          else
            match otherwise with
            | some otherwise => return (← run mode otherwise, false)
            | none =>
                setStatus 0
                return (.next, false)
      | flow => return (flow, false)
  | .loop condition wanted body =>
      return (← inLoop (loopRounds run mode condition wanted body roundBound 0), false)
  | .forEach line name words body => do
      atLine line
      let values ← words.mapM (Expansion.fields (substitute run))
      return (← inLoop (forRounds run mode name body values.flatten 0), false)
  | .choice line subject branches => do
      atLine line
      let text ← Expansion.single (substitute run) .whole subject
      return (← choose run mode text branches, false)
  | .define name body => do
      modify fun s => { s with
        functions := (name, body) :: s.functions.filter fun entry => entry.1 != name }
      setStatus 0
      return (.next, false)

def evaluate (run : Run) (mode : Mode) (command : Command) : Work Flow := do
  let before ← get
  if before.options.onlyReads then return .next
  runTraps run
  let (flow, mayEnd) ← carryOut run mode command
  runTraps run
  let s ← get
  if mayEnd && before.options.exitsOnFailure && !mode.tested && s.status != 0 then stop .exit
  else if mode.exits then stop .exit
  else return flow

def evaluateTo : Nat → Run
  | 0, _, _ => do
      setStatus 139
      stop .exit
  | depth + 1, mode, command => evaluate (evaluateTo depth) mode command

end Work

end Clausal.Shell

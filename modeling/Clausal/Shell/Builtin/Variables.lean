import Clausal.Shell.Builtin.Basic
import Clausal.Shell.Field

/-!
# Commands for variables

Commands that give variables values and properties or take them away, that read a line into
them, that replace the arguments, and that go through options among arguments.
-/

namespace Clausal.Shell

open Machine (Task)
open Text (Octets)

namespace Builtin

def splitAssignment (argument : Octets) : Octets × Option Octets :=
  let (name, rest) := argument.span (· != '=')
  match rest with
  | _ :: value => (name, some value)
  | [] => (name, none)

def variableName (name : Octets) : Work String := do
  if Syntax.isName name then return String.ofList name
  else Work.fault (name ++ ": bad variable name".toList)

def listing (s : Session) (start : String) (condition : Variable → Bool) : Octets :=
  let entries := (s.bindings.filter fun entry => condition entry.2).mergeSort fun a b =>
    decide (a.1 ≤ b.1)
  entries.flatMap fun (name, v) =>
    start.toList ++ name.toList ++
      (match v.value with
        | some value => '=' :: quote value
        | none => []) ++ ['\n']

def change (argument : Octets) (property : Variable → Variable) : Work Unit := do
  let (name, value) := splitAssignment argument
  let name ← variableName name
  if let some value := value then Work.assign name value
  Work.modify fun s =>
    s.setVariable name (property ((s.binding? name).getD ⟨none, false, false⟩))

def export_ (arguments : List Octets) : Work Nat := do
  let (options, arguments) ← takeOptions ['p'] arguments
  match options, arguments with
  | [], argument :: rest =>
      (argument :: rest).forM fun argument => change argument fun v => { v with exported := true }
      return 0
  | _, _ => print (listing (← Work.get) "export " fun v => v.exported)

def readonly (arguments : List Octets) : Work Nat := do
  let (options, arguments) ← takeOptions ['p'] arguments
  match options, arguments with
  | [], argument :: rest =>
      (argument :: rest).forM fun argument => change argument fun v => { v with fixed := true }
      return 0
  | _, _ => print (listing (← Work.get) "readonly " fun v => v.fixed)

def remember (name : String) : Work Unit :=
  Work.modify fun s =>
    match s.locals with
    | [] => s
    | frame :: frames =>
        { s with
          locals := { frame with bindings := (name, s.binding? name) :: frame.bindings } :: frames }

def rememberOptions : Work Unit :=
  Work.modify fun s =>
    match s.locals with
    | [] => s
    | frame :: frames =>
        { s with locals := { frame with options := some (frame.options.getD s.options) } :: frames }

def makeLocal (exported : Bool) (argument : Octets) : Work Unit := do
  let (name, value) := splitAssignment argument
  if argument = ['-'] then rememberOptions
  else
    let name ← variableName name
    remember name
    match value with
    | some value => Work.assign name value
    | none =>
        Work.modify fun s =>
          if (s.binding? name).isSome then s else s.setVariable name ⟨none, false, false⟩
    if exported then
      Work.modify fun s =>
        match s.binding? name with
        | some v => s.setVariable name { v with exported := true }
        | none => s

def local_ (arguments : List Octets) : Work Nat := do
  let s ← Work.get
  if s.locals.isEmpty then Work.fault "not in a function".toList
  else
    let (_, arguments) ← takeOptions [] arguments
    arguments.forM (makeLocal false)
    return 0

def unsetVariable (name : Octets) : Work Unit := do
  let name ← variableName name
  let s ← Work.get
  if s.isFixed name then Work.fault (name.toList ++ ": is read only".toList)
  else Work.modify fun s => s.dropVariable name

def unset (arguments : List Octets) : Work Nat := do
  let (options, arguments) ← takeOptions ['v', 'f'] arguments
  if options.contains 'f' then
    Work.modify fun s => { s with
      functions := s.functions.filter fun entry => !arguments.contains entry.1.toList }
  else arguments.forM unsetVariable
  return 0

def shift (arguments : List Octets) : Work Nat := do
  let count ← match arguments with
    | [] => pure 1
    | count :: _ => number count
  let s ← Work.get
  if s.arguments.length < count then Work.fault "can't shift that many".toList
  else
    Work.modify fun s => { s with arguments := s.arguments.drop count, scan := ⟨1, 0⟩ }
    return 0

/-! ## Options -/

def setLong (o : Options) (name : Octets) (on : Bool) : Work Options := do
  match (Options.longNames.lookup (String.ofList name)).bind fun letter => o.set? letter on with
  | some o => return o
  | none => Work.fault ("Illegal option -o ".toList ++ name)

def setLetters (on : Bool) : List Char → Options → Work Options
  | [], o => return o
  | letter :: rest, o => do
      match o.set? letter on with
      | some o => setLetters on rest o
      | none => Work.fault ("Illegal option -".toList ++ [letter])

/-- What the options at the start of arguments say. -/
structure OptionReading where
  options : Options
  letters : List Char
  ended : Bool
  arguments : List Octets

/-- Reads the options at the start of arguments; some letters are only taken note of. -/
def readOptions (noted : List Char) : List Octets → OptionReading → Work OptionReading
  | [], found => return found
  | argument :: rest, found => do
      match argument with
      | ['-'] => return { found with options.traces := false, arguments := rest }
      | ['-', '-'] => return { found with ended := true, arguments := rest }
      | sign :: letters =>
          if sign = '-' || sign = '+' then
            let on := decide (sign = '-')
            let (special, plain) := letters.partition fun c => c = 'o' || noted.contains c
            let options ← setLetters on plain found.options
            let found := { found with options, letters := found.letters ++ special }
            match letters.contains 'o', rest with
            | true, name :: rest =>
                readOptions noted rest
                  { found with options := ← setLong options name on, arguments := rest }
            | _, rest => readOptions noted rest { found with arguments := rest }
          else return found
      | [] => return found

def optionListing (o : Options) : Octets :=
  "Current option settings\n".toList ++ Options.longNames.flatMap fun (name, letter) =>
    name.toList ++ List.replicate (16 - name.length) ' ' ++
      (if o.has letter then "on\n" else "off\n").toList

def optionCommands (o : Options) : Octets :=
  Options.longNames.flatMap fun (name, letter) =>
    (if o.has letter then "set -o " else "set +o ").toList ++ name.toList ++ ['\n']

def set (arguments : List Octets) : Work Nat := do
  let s ← Work.get
  match arguments with
  | [] => print (listing s "" fun v => v.value.isSome)
  | [['-', 'o']] => print (optionListing s.options)
  | [['+', 'o']] => print (optionCommands s.options)
  | arguments =>
      let found ← readOptions [] arguments ⟨s.options, [], false, arguments⟩
      Work.modify fun s => { s with options := found.options }
      if found.ended || !found.arguments.isEmpty then
        Work.modify fun s => { s with arguments := found.arguments, scan := ⟨1, 0⟩ }
      return 0

/-! ## Going through options -/

def optionKind? (letter : Char) : Octets → Option Bool
  | [] => none
  | c :: rest =>
      match rest with
      | ':' :: rest => if c = letter then some true else optionKind? letter rest
      | rest => if c = letter then some false else optionKind? letter rest

def endScan (name : String) (scan : OptionScan) (found : Char) (status : Nat) : Work Nat := do
  Work.assign "OPTIND" (toString scan.index).toList
  Work.modify fun s => { s with scan }
  Work.assign name [found]
  return status

def nextOption (letters : Octets) (name : String) (arguments : List Octets) : Work Nat := do
  let s ← Work.get
  let scan : OptionScan := if arguments.length + 1 < s.scan.index then ⟨1, 0⟩ else s.scan
  let current := if scan.offset = 0 then [] else (arguments[scan.index - 2]?.getD []).drop scan.offset
  let quiet := letters.head? = some ':'
  match current with
  | letter :: rest => take quiet scan.index scan.offset letter rest
  | [] =>
      match arguments[scan.index - 1]? with
      | some ['-', '-'] => endScan name ⟨scan.index + 1, 0⟩ '?' 1
      | some ('-' :: letter :: rest) => take quiet (scan.index + 1) 1 letter rest
      | _ => endScan name ⟨scan.index, 0⟩ '?' 1
where
  take (quiet : Bool) (index offset : Nat) (letter : Char) (rest : Octets) : Work Nat := do
    let next : OptionScan := ⟨index, if rest.isEmpty then 0 else offset + 1⟩
    match if letter = ':' then none else optionKind? letter letters with
    | none =>
        if quiet then Work.assign "OPTARG" [letter]
        else
          let _ ← Work.write 2 ("Illegal option -".toList ++ [letter, '\n'])
          Work.modify fun s => s.dropVariable "OPTARG"
        endScan name next '?' 0
    | some false =>
        Work.assign "OPTARG" []
        endScan name next letter 0
    | some true =>
        match rest, arguments[index - 1]? with
        | c :: rest, _ =>
            Work.assign "OPTARG" (c :: rest)
            endScan name ⟨index, 0⟩ letter 0
        | [], some value =>
            Work.assign "OPTARG" value
            endScan name ⟨index + 1, 0⟩ letter 0
        | [], none =>
            if quiet then
              Work.assign "OPTARG" [letter]
              endScan name ⟨index, 0⟩ ':' 0
            else
              let _ ← Work.write 2 ("No arg for -".toList ++ [letter] ++ " option\n".toList)
              Work.modify fun s => s.dropVariable "OPTARG"
              endScan name ⟨index, 0⟩ '?' 0

def getopts (arguments : List Octets) : Work Nat := do
  match arguments with
  | letters :: name :: rest =>
      let s ← Work.get
      let name ← variableName name
      nextOption letters name (if rest.isEmpty then s.arguments else rest)
  | _ => Work.fault "Usage: getopts optstring var [arg...]".toList

/-! ## Aliases -/

def setAlias (name : String) (value : Octets) : List (String × Octets) → List (String × Octets)
  | [] => [(name, value)]
  | entry :: rest =>
      if entry.1 = name then (name, value) :: rest else entry :: setAlias name value rest

/-- The group in which a name is shown: names are shown by group, and within a group in the
order of their definition. -/
def aliasGroup (name : String) : Nat :=
  let numbers := name.toList.map Char.toNat
  (numbers.headD 0 * 16 + numbers.foldl (· + ·) 0) % 39

def alias_ (arguments : List Octets) : Work Nat := do
  let shown (entry : String × Octets) : Octets := entry.1.toList ++ '=' :: quote entry.2 ++ ['\n']
  match arguments with
  | [] =>
      let s ← Work.get
      print ((s.aliases.mergeSort fun a b => aliasGroup a.1 ≤ aliasGroup b.1).flatMap shown)
  | arguments =>
      let results ← arguments.mapM fun argument => do
        let (name, value) := splitAssignment argument.tail
        let name := argument.take 1 ++ name
        match value with
        | some value =>
            Work.modify fun s => { s with
              aliases := setAlias (String.ofList name) value s.aliases }
            return 0
        | none =>
            match (← Work.get).aliases.lookup (String.ofList name) with
            | some value => print (shown (String.ofList name, value))
            | none =>
                let _ ← Work.write 2 ("alias: ".toList ++ name ++ " not found\n".toList)
                return 1
      return results.foldl max 0

def unalias (arguments : List Octets) : Work Nat := do
  let (options, arguments) ← takeOptions ['a'] arguments
  if options.contains 'a' then
    Work.modify fun s => { s with aliases := [] }
    return 0
  else
    let s ← Work.get
    let known (name : Octets) : Bool := (s.aliases.lookup (String.ofList name)).isSome
    (arguments.filter fun name => !known name).forM fun name => do
      let _ ← Work.write 2 ("unalias: ".toList ++ name ++ " not found\n".toList)
    Work.modify fun s => { s with
      aliases := s.aliases.filter fun entry => !arguments.contains entry.1.toList }
    return if arguments.all known then 0 else 1

/-! ## Reading a line

A backslash hides the meaning of the character after it, and a hidden line feed joins two
lines. -/

/-- Reads up to a line feed; the flag says whether one was found. -/
def readLine : Nat → List Octets → Work (Octets × Bool)
  | 0, parts => return (parts.reverse.flatten, false)
  | rounds + 1, parts => do
      match ← Work.lift (Task.readLine 0) with
      | .ok [] | .error _ => return (parts.reverse.flatten, false)
      | .ok octets =>
          if octets.getLast? = some '\n' then
            return ((octets.dropLast :: parts).reverse.flatten, true)
          else readLine rounds (octets :: parts)

/-- The stretches of a line, given the plain characters that were passed, newest first.  The
flag says whether the next line belongs to it. -/
def lineStretches : Octets → Octets → List Stretch × Bool
  | passed, [] => ([plain passed], false)
  | passed, ['\\'] => ([plain passed], true)
  | passed, '\\' :: c :: rest =>
      let (stretches, continues) := lineStretches [] rest
      (plain passed :: ⟨.nowhere, [.char c true]⟩ :: stretches, continues)
  | passed, c :: rest => lineStretches (c :: passed) rest
where
  plain (passed : Octets) : Stretch := ⟨.atSeparators, Glyph.ofOctets passed.reverse false⟩

/-- Reads a line with the lines that it goes on in; the flag says whether it was ended. -/
def readStretches (raw : Bool) : Nat → List Stretch → Work (List Stretch × Bool)
  | 0, stretches => return (stretches, false)
  | rounds + 1, stretches => do
      let (line, ended) ← readLine roundBound []
      let line := line.filter (· != '\x00')
      if raw then return (stretches ++ [⟨.atSeparators, Glyph.ofOctets line false⟩], ended)
      else
        let (more, continues) := lineStretches [] line
        if continues && ended then readStretches raw rounds (stretches ++ more)
        else return (stretches ++ more, ended)

/-- Gives variables the fields of a line; those that are left over get nothing. -/
def assignFields : List String → List (List Glyph) → Work Unit
  | [], _ => return
  | name :: names, fields => do
      Work.assign name (Glyph.toOctets (fields.headD []))
      assignFields names fields.tail

def read (arguments : List Octets) : Work Nat := do
  let (raw, arguments) ← readFlags arguments
  match arguments with
  | [] => Work.fault "arg count".toList
  | arguments =>
      let (stretches, ended) ← readStretches raw roundBound []
      let names ← arguments.mapM variableName
      let s ← Work.get
      assignFields names (Field.split s.separators (some names.length) stretches)
      return if ended then 0 else 1
where
  readFlags : List Octets → Work (Bool × List Octets)
    | ['-', 'p'] :: _ :: rest => readFlags rest
    | ['-', 'r'] :: rest => do return (true, (← readFlags rest).2)
    | arguments => do
        let (options, arguments) ← takeOptions ['r'] arguments
        return (options.contains 'r', arguments)

end Builtin

end Clausal.Shell

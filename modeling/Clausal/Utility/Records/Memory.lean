import Clausal.Text.Regex.Search
import Clausal.Utility.Records.Reading
import Clausal.Utility.Records.Table
import Clausal.Utility.Running

/-!
# Records and names

What a program for records keeps: its names and tables, the record with its fields, which is cut
only when a field is asked for, and the files and commands that it reads from and writes to.
-/

namespace Clausal.Utility.Records

open Machine (Action Descriptor Environment Failure ProcessId Task)
open Text (Octets Regex View)

/-- What a name stands for. -/
inductive Cell where
  | nothing
  | value (v : Value)
  | table (index : Nat)
  deriving Inhabited

/-- What is read from, and what was read of it already. -/
structure Source where
  descriptor : Descriptor
  child : Option ProcessId
  rest : Octets
  isAtEnd : Bool
  failure : Option Failure

/-- What is written to, and what was not written yet, the last pieces first. -/
structure Sink where
  descriptor : Descriptor
  child : Option ProcessId
  pieces : List Octets
  size : Nat
  failure : Option Failure

structure Memory where
  shared : Array Cell
  own : Array Cell
  tables : Array Table
  record : Octets
  isStale : Bool
  fields : Array Value
  isWhole : Bool
  out : Outlet
  sinks : List (Octets × Sink)
  sources : List (Octets × Source)
  current : Option Source
  argument : Nat
  hasRead : Bool
  isAtEnd : Bool
  searchers : Std.HashMap Octets Regex.Searcher
  within : Array Bool
  seed : Float
  random : Nat

/-- Why a program stops. -/
inductive Halt where
  | exit (status : Option Nat)
  | failure (complaint : Octets)

abbrev Work := ExceptT Halt (StateT Memory Action)

namespace Work

def act (action : Action α) : Work α := fun m => do return (.ok (← action), m)

def memory : Work Memory := fun m => pure (.ok m, m)

def change (f : Memory → Memory) : Work Unit := fun m => pure (.ok (), f m)

def fail (complaint : Octets) : Work α := throw (.failure complaint)

def failHere (complaint : Octets) : Work α := do
  let m ← memory
  let known (index : Nat) : Octets := match m.shared.getD index .nothing with
    | .value v => v.toText "%.6g".toList
    | _ => []
  fail ("run time error: ".toList ++ complaint ++ "\n\tFILENAME=\"".toList ++ known Known.fileName ++
    "\" FNR=".toList ++ known Known.fileRecordCount ++ " NR=".toList ++ known Known.recordCount)

/-! ## Names -/

def cell (v : Variable) : Work Cell := do
  let m ← memory
  match v with
  | .shared index => return m.shared.getD index .nothing
  | .own index => return m.own.getD index .nothing

def setCell (v : Variable) (c : Cell) : Work Unit :=
  match v with
  | .shared index => change fun m => { m with shared := m.shared.setIfInBounds index c }
  | .own index => change fun m => { m with own := m.own.setIfInBounds index c }

def known (index : Nat) : Work Value := do
  match (← memory).shared.getD index .nothing with
  | .value v => return v
  | _ => return .unset

def setKnown (index : Nat) (v : Value) : Work Unit := setCell (.shared index) (.value v)

def conversion : Work Octets := return (← known Known.conversionFormat).toText []

def textOf (v : Value) : Work Octets := do
  match v with
  | .text t | .field t => return t
  | .unset => return []
  | .number x =>
      match integral? x with
      | some n => return (toString n).toList
      | none => return byDirective (← conversion) x

/-- The table that a name stands for, which may be a new one. -/
def tableOf (v : Variable) : Work Nat := do
  match ← cell v with
  | .table index => return index
  | .value _ => failHere "illegal reference to variable".toList
  | .nothing =>
      let index := (← memory).tables.size
      change fun m => { m with tables := m.tables.push .empty }
      setCell v (.table index)
      return index

def table (index : Nat) : Work Table := return (← memory).tables.getD index .empty

def changeTable (index : Nat) (f : Table → Table) : Work Unit :=
  change fun m => { m with tables := m.tables.modify index f }

def keyOf (v : Value) : Work Table.Key := do
  match v with
  | .number x =>
      match integral? x with
      | some n =>
          if -2147483648 ≤ n && n < 2147483648 then return .whole n else return .text (← textOf v)
      | none => return .text (← textOf v)
  | v => return .text (← textOf v)

/-! ## Patterns -/

def searcher (pattern : Octets) : Work Regex.Searcher := do
  match (← memory).searchers[pattern]? with
  | some s => return s
  | none =>
      match Reader.searcher? pattern with
      | .error complaint => failHere complaint
      | .ok s =>
          change fun m => { m with searchers := m.searchers.insert pattern s }
          return s

def advance : Nat → View → View
  | 0, v => v
  | count + 1, v => advance count v.pass

def cut (s : Regex.Searcher) : Nat → View → Octets → List Octets → List Octets
  | 0, v, piece, pieces => ((piece.reverse ++ v.rest) :: pieces).reverse
  | rounds + 1, v, piece, pieces =>
      match s.find? v with
      | none => ((piece.reverse ++ v.rest) :: pieces).reverse
      | some found =>
          let skipped := found.whole.start - v.offset
          if found.whole.stop = found.whole.start then
            match v.rest.drop skipped with
            | [] => ((piece.reverse ++ v.rest) :: pieces).reverse
            | c :: _ =>
                cut s rounds (advance (skipped + 1) v)
                  (c :: (v.rest.take skipped).reverse ++ piece) pieces
          else
            cut s rounds (advance (found.whole.stop - v.offset) v) []
              ((piece.reverse ++ v.rest.take skipped) :: pieces)

def parts (separator : Octets) (octets : Octets) : Work (List Octets) := do
  if octets.isEmpty then return []
  else
    match separator with
    | [' '] => return (Text.split isBlank octets).filter fun part => !part.isEmpty
    | [] => return octets.map fun c => [c]
    | [c] => return Text.split (· = c) octets
    | pattern => return cut (← searcher pattern) (octets.length + 1) (.ofText octets) [] []

/-! ## The record -/

def splitRecord : Work Unit := do
  let m ← memory
  if m.isWhole then
    let separator := (← known Known.fieldSeparator).toText []
    let found ← parts separator m.record
    let fields := (found.map Value.field).toArray
    change fun m => { m with fields, isWhole := false }
    setKnown Known.fieldCount (.ofNat fields.size)

def wholeRecord : Work Octets := do
  let m ← memory
  if m.isStale then
    let separator ← textOf (← known Known.outputFieldSeparator)
    let texts ← m.fields.toList.mapM textOf
    let record := separator.intercalate texts
    change fun m => { m with record, isStale := false }
    return record
  else return m.record

def keepFields (v : Variable) : Work Unit :=
  if v = .shared Known.fieldSeparator then splitRecord else pure ()

def setRecord (record : Octets) : Work Unit :=
  change fun m => { m with record, isStale := false, isWhole := true, fields := #[] }

def setFieldCount (count : Nat) : Work Unit := do
  splitRecord
  change fun m =>
    let fields := m.fields.extract 0 count
    { m with
      fields := fields ++ Array.replicate (count - fields.size) (Value.field [])
      isStale := true }
  setKnown Known.fieldCount (.ofNat count)

def fieldBound : Nat := 1000000

/-- The number of a field; there are no negative ones. -/
def fieldNumber (v : Value) : Work Nat := do
  let x := v.toFloat
  if x < 0 then failHere ("negative field index $".toList ++ shownNumber "%.6g".toList x)
  else return min x.toUInt64.toNat fieldBound

def field (index : Nat) : Work Value := do
  if index = 0 then return .field (← wholeRecord)
  else
    splitRecord
    return (← memory).fields.getD (index - 1) .unset

def setField (index : Nat) (v : Value) : Work Unit := do
  if index = 0 then setRecord (← textOf v)
  else
    splitRecord
    if (← memory).fields.size < index then setFieldCount index
    change fun m => { m with fields := m.fields.setIfInBounds (index - 1) v, isStale := true }

/-! ## Output -/

def Sink.flush (s : Sink) : Action (Sink × Option Failure) := do
  if s.pieces.isEmpty then return (s, s.failure)
  else
    match ← (Task.write s.descriptor (Outlet.joined s.pieces) : Action _) with
    | .ok () => return ({ s with pieces := [], size := 0 }, s.failure)
    | .error failure =>
        return ({ s with pieces := [], size := 0, failure := some failure }, some failure)

def Sink.put (s : Sink) (octets : Octets) : Action Sink := do
  let s := { s with pieces := octets :: s.pieces, size := s.size + octets.length }
  if Outlet.room ≤ s.size then return (← Sink.flush s).1 else return s

def flushAll : Work Unit := do
  let m ← memory
  let out ← act m.out.flush
  let sinks ← act (m.sinks.mapM fun (name, s) => do return (name, (← Sink.flush s).1))
  change fun m => { m with out, sinks }

/-- Starts a shell with a command; the descriptor stands for its input or its output. -/
def startCommand (environment : Environment) (reads : Bool) (own : List Descriptor) (command : Octets) :
    Action (Descriptor × ProcessId) := do
  let (reading, writing) ← (Task.pipe : Action (Descriptor × Descriptor))
  let (mine, other, number) := if reads then (writing, reading, 0) else (reading, writing, 1)
  let child ← spawn do
    let _ ← (Task.duplicate other number : Action Bool)
    (mine :: other :: own).forM fun descriptor => do
      if 2 < descriptor then Task.close descriptor
    become "sh" "" quoted ["/bin/sh".toList, "-c".toList, command]
      environment
  Task.close other
  return (mine, child)

/-- Where output of a name goes. -/
inductive Way where
  | file
  | fileEnd
  | command
  deriving DecidableEq, Repr

/-- Writes to what a name stands for, which is opened when it is used first. -/
def write (environment : Environment) (way : Way) (name octets : Octets) : Work Unit := do
  let m ← memory
  if way != .command && (name = "/dev/stdout".toList || name = ['-']) then
    let out ← act (m.out.put octets)
    change fun m => { m with out }
  else if way != .command && name = "/dev/stderr".toList then
    let _ ← act (Task.write 2 octets : Action _)
  else
    match m.sinks.lookup name with
    | some s =>
        let s ← act (Sink.put s octets)
        change fun m =>
          { m with sinks := m.sinks.map fun entry => if entry.1 = name then (name, s) else entry }
    | none =>
        if way = .command then
          flushAll
          let held := m.sinks.map (fun entry => entry.2.descriptor) ++
            m.sources.map fun entry => entry.2.descriptor
          let (descriptor, child) ← act (startCommand environment true held name)
          let s ← act (Sink.put ⟨descriptor, some child, [], 0, none⟩ octets)
          change fun m => { m with sinks := (name, s) :: m.sinks }
        else
          match ← act (Task.openFile ⟨name⟩ (if way = .fileEnd then .append else .write) : Action _) with
          | .error failure =>
              fail ("cannot open \"".toList ++ name ++ "\" for output (".toList ++
                failure.reason.toList ++ [')'])
          | .ok descriptor =>
              let s ← act (Sink.put ⟨descriptor, none, [], 0, none⟩ octets)
              change fun m => { m with sinks := (name, s) :: m.sinks }

def statusOf : Machine.Ended → Nat
  | .exited status => status
  | .signalled signal => 256 + signal

/-- Ends because something could not be written. -/
def failToClose (name : Octets) (failure : Failure) : Work α :=
  fail ("close failed on file \"".toList ++ name ++ "\" (".toList ++ failure.reason.toList ++ [')'])

def closeSink (name : Octets) (s : Sink) : Work Float := do
  match ← act (Sink.flush s) with
  | (s, some failure) =>
      if s.child.isNone then failToClose name failure
  | _ => pure ()
  act (Task.close s.descriptor)
  match s.child with
  | some child => return Float.ofNat (statusOf (← act (waitFor child roundBound)))
  | none => return 0

/-- Ends reading; a command gets a moment to finish first. -/
def closeSource (s : Source) : Action Float := do
  if s.child.isSome then Task.sleep 1000000
  if s.descriptor != 0 then Task.close s.descriptor
  match s.child with
  | some child => return Float.ofNat (statusOf (← waitFor child roundBound))
  | none => return 0

def close (name : Octets) : Work Value := do
  let m ← memory
  match m.sinks.lookup name, m.sources.lookup name with
  | some s, _ =>
      flushAll
      let s := ((← memory).sinks.lookup name).getD s
      change fun m => { m with sinks := m.sinks.filter fun entry => entry.1 != name }
      return .number (← closeSink name s)
  | none, some s =>
      change fun m => { m with sources := m.sources.filter fun entry => entry.1 != name }
      return .number (← act (closeSource s))
  | none, none => return .number (-1)

def closeAll : Work Unit := do
  (← memory).sinks.forM fun (name, s) => do
    let _ ← closeSink name s
  flushAll
  match (← memory).out.failure with
  | some failure => failToClose "/dev/stdout".toList failure
  | none => return ()

/-! ## Input -/

def Source.more (s : Source) : Action Source := do
  match ← (Task.read s.descriptor pieceSize : Action _) with
  | .ok (c :: octets) => return { s with rest := s.rest ++ c :: octets }
  | .ok [] => return { s with isAtEnd := true }
  | .error failure => return { s with isAtEnd := true, failure := some failure }

def Source.all (s : Source) : Action Source := do
  if s.isAtEnd then return s
  else
    match ← (readPieces s.descriptor roundBound [] : Action _) with
    | .ok pieces => return { s with rest := s.rest ++ Outlet.joined pieces, isAtEnd := true }
    | .error failure => return { s with isAtEnd := true, failure := some failure }

def Source.upTo (c : Char) : Nat → Source → Action (Option Octets × Source)
  | 0, s => return (none, s)
  | rounds + 1, s => do
      let (record, rest) := s.rest.span (· != c)
      match rest with
      | _ :: rest => return (some record, { s with rest })
      | [] =>
          if s.isAtEnd then
            return (if record.isEmpty then none else some record, { s with rest := [] })
          else upTo c rounds (← Source.more s)

def paragraph (s : Source) : Option Octets × Source :=
  let start := s.rest.dropWhile (· = '\n')
  if start.isEmpty then (none, { s with rest := [] })
  else
    let (record, rest) := go start.length start []
    (some record, { s with rest })
where
  go : Nat → Octets → Octets → Octets × Octets
    | 0, rest, record => (record.reverse, rest)
    | rounds + 1, rest, record =>
        match rest with
        | ['\n'] => (record.reverse, [])
        | '\n' :: '\n' :: rest => (record.reverse, rest)
        | c :: rest => go rounds rest (c :: record)
        | [] => (record.reverse, [])

def cutRecord (s : Source) : Work (Option Octets × Source) := do
  let separator ← textOf (← known Known.recordSeparator)
  match separator with
  | [c] => act (Source.upTo c roundBound s)
  | [] => return paragraph (← act (Source.all s))
  | pattern =>
      let s ← act (Source.all s)
      if s.rest.isEmpty then return (none, s)
      else
        let searcher ← searcher pattern
        match searcher.find? (.ofText s.rest) with
        | some found =>
            if found.whole.stop = found.whole.start then return (some s.rest, { s with rest := [] })
            else
              return (some (s.rest.take found.whole.start),
                { s with rest := s.rest.drop found.whole.stop })
        | none =>
            return (some s.rest, { s with rest := [] })

/-- The next record of a source; everything ends if it cannot be read. -/
def nextRecord (s : Source) : Work (Option Octets × Source) := do
  match ← cutRecord s with
  | (none, s) =>
      match s.failure with
      | some failure => fail ("read error (".toList ++ failure.reason.toList ++ [')'])
      | none => return (none, s)
  | found => return found

def assignGiven (names : List Octets) (name value : Octets) : Work Unit := do
  match names.idxOf? name with
  | some index =>
      if index = Known.fieldCount then setFieldCount (numberOf value).toUInt64.toNat
      else
        keepFields (.shared index)
        setKnown index (.field (Token.unescaped value))
  | none => return ()

def assignment? (argument : Octets) : Option (Octets × Octets) :=
  let (name, rest) := argument.span Token.isNameChar
  match rest with
  | '=' :: value => if name.head?.any Token.isNameStart then some (name, value) else none
  | _ => none

def openNext (names : List Octets) : Nat → Work Bool
  | 0 => return false
  | rounds + 1 => do
      let m ← memory
      let count := (← known Known.argumentCount).toFloat.toUInt64.toNat
      if count ≤ m.argument then
        if m.hasRead then
          change fun m => { m with isAtEnd := true }
          return false
        else
          change fun m => { m with hasRead := true, current := some ⟨0, none, [], false, none⟩ }
          setKnown Known.fileName (.field ['-'])
          return true
      else
        change fun m => { m with argument := m.argument + 1 }
        let index ← tableOf (.shared Known.arguments)
        let given ← textOf ((← table index).get (.whole m.argument))
        match given, assignment? given with
        | [], _ => openNext names rounds
        | _, some (name, value) =>
            assignGiven names name value
            openNext names rounds
        | given, none =>
            change fun m => { m with hasRead := true }
            setKnown Known.fileName (.field given)
            setKnown Known.fileRecordCount (.number 0)
            match ← act (openInput given) with
            | .ok descriptor =>
                change fun m => { m with current := some ⟨descriptor, none, [], false, none⟩ }
                return true
            | .error failure =>
                throw (.failure ("cannot open \"".toList ++ given ++ "\" (".toList ++
                  failure.reason.toList ++ [')']))

def nextInput (names : List Octets) : Nat → Work (Option Octets)
  | 0 => return none
  | rounds + 1 => do
      let m ← memory
      if m.isAtEnd then return none
      else
        match m.current with
        | none => if ← openNext names roundBound then nextInput names rounds else return none
        | some s =>
            match ← nextRecord s with
            | (some record, s) =>
                change fun m => { m with current := some s }
                return some record
            | (none, s) =>
                let _ ← act (closeSource s)
                change fun m => { m with current := none }
                nextInput names rounds

def countUp (index : Nat) : Work Unit := do
  setKnown index (.number ((← known index).toFloat + 1))

def sourceFor (environment : Environment) (isFile : Bool) (name : Octets) : Work (Option Source) := do
  let m ← memory
  match m.sources.lookup name with
  | some s => return some s
  | none =>
      if isFile then
        match ← act (openInput (if name = "/dev/stdin".toList then ['-'] else name)) with
        | .ok descriptor => return some ⟨descriptor, none, [], false, none⟩
        | .error _ => return none
      else
        flushAll
        let held := m.sinks.map fun entry => entry.2.descriptor
        let (descriptor, child) ← act (startCommand environment false held name)
        return some ⟨descriptor, some child, [], false, none⟩

def keepSource (name : Octets) (s : Source) : Work Unit :=
  change fun m =>
    { m with sources := (name, s) :: m.sources.filter fun entry => entry.1 != name }

end Work

end Clausal.Utility.Records

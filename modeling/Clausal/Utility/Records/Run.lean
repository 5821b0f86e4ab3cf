import Clausal.Utility.Records.Memory

/-!
# Running programs for records

Expressions have values and statements have a way in which they end.  A function that is given a
name without a value may make a table of it; the name stands for that table afterwards.
-/

namespace Clausal.Utility.Records

open Machine (Action Environment Ended Failure Task)
open Text (Octets Regex View)

inductive Flow where
  | normal
  | breaks
  | continues
  | next
  | nextFile
  | leaves (value : Value)

inductive Slot where
  | name (v : Variable)
  | element (table : Nat) (key : Table.Key)
  | field (index : Nat)

structure Session where
  program : Program
  environment : Environment
  waiting : Nat
  calls : Nat

def Session.deeper (s : Session) (count : Nat) : Session := { s with waiting := s.waiting + count }

def waitingBound : Nat := 1006

def callBound : Nat := 40000

/-! ## Formats -/

def clampedInt (x : Float) : Int :=
  if x.isNaN then -9223372036854775808
  else if x < -9223372036854775808.0 then -9223372036854775807
  else if 18446744073709551616.0 ≤ x then 18446744073709551615
  else (integral? (if x < 0 then x.ceil else x.floor)).getD 0

def characterOf (v : Value) : Octets :=
  let byte (x : Float) : Octets := [Char.ofNat (clampedInt x % 256).toNat]
  match v with
  | .unset => byte 0
  | .number x => byte x
  | .text t => [t.headD '\x00']
  | .field t => match wholeNumber? t with
    | some x => byte x
    | none => [t.headD '\x00']

/-- The number of a value; a text that says it is none has the sign that is written. -/
def numberFor (v : Value) : Shell.Printf.Number :=
  let ofText (t : Octets) : Shell.Printf.Number :=
    let n := toNumber (numberOf t)
    { n with negative := if (numberOf t).isNaN then t.contains '-' else n.negative }
  match v with
  | .text t | .field t => ofText t
  | v => toNumber v.toFloat

def takeAmount (amount : Shell.Printf.Amount) (arguments : List Value) :
    Option Int × List Value :=
  match amount, arguments with
  | .absent, arguments => (none, arguments)
  | .fixed n, arguments => (some n, arguments)
  | .argument, v :: arguments => (some (clampedInt v.toFloat), arguments)
  | .argument, [] => (none, [])

/-- Texts by a format; the complaint if it does not fit the values. -/
def formatted (format conversion : Octets) (arguments : List Value) : Octets × Option Octets :=
  go (format.length + 1) 1 format arguments []
where
  go : Nat → Nat → Octets → List Value → List Octets → Octets × Option Octets
    | 0, _, _, _, pieces => (Outlet.joined pieces, none)
    | rounds + 1, number, rest, arguments, pieces =>
        let (plain, rest) := rest.span (· != '%')
        let pieces := plain :: pieces
        match rest with
        | [] => (Outlet.joined pieces, none)
        | _ :: '%' :: rest => go rounds number rest arguments (['%'] :: pieces)
        | _ :: rest =>
            let (amounts, rest) := rest.span fun c => c.isDigit || "#-+ .*".toList.contains c
            let rest := rest.dropWhile fun c => c = 'l' || c = 'h' || c = 'L' || c = 'q'
            let missing := (Outlet.joined pieces,
              some ("not enough arguments passed to ".toList))
            match arguments, Shell.Printf.readDirective (amounts ++ rest) with
            | [], _ => missing
            | _, (.directive flags width precision c, rest) =>
                let (width, arguments) := takeAmount width arguments
                let (precision, arguments) := takeAmount precision arguments
                match arguments with
                | [] => missing
                | v :: arguments =>
                    let layout : Shell.Printf.Layout :=
                      ⟨{ flags with left := flags.left || (width.getD 0) < 0 },
                        (width.getD 0).natAbs,
                        precision.bind fun n => if n < 0 then none else some n.toNat⟩
                    match convert layout c v with
                    | some octets => go rounds (number + 1) rest arguments (octets :: pieces)
                    | none => wrong pieces number
            | _, _ => wrong pieces number
  wrong (pieces : List Octets) (number : Nat) : Octets × Option Octets :=
    (Outlet.joined pieces,
      some ("improper conversion(number ".toList ++ shown number ++ ") in ".toList))
  padded (layout : Shell.Printf.Layout) (octets : Octets) : Octets :=
    if layout.flags.left then padRight layout.width octets else padLeft layout.width octets
  convert (layout : Shell.Printf.Layout) (c : Char) (v : Value) : Option Octets :=
    if c = 'c' then some (padded layout (characterOf v))
    else if c = 's' then
      let octets := v.toText conversion
      some (padded layout (match layout.precision with
        | some n => octets.take n
        | none => octets))
    else if "diouxX".toList.contains c then
      let n := clampedInt v.toFloat
      let n := if c = 'd' || c = 'i' then n else n % 0x10000000000000000
      some (Shell.Printf.convertInteger layout c n)
    else if "eEfFgG".toList.contains c then
      some (Shell.Printf.convertNumber layout c (numberFor v))
    else none

/-! ## Replacing -/

def replacement (found : Octets) : Octets → Octets
  | '\\' :: '\\' :: '&' :: rest => '\\' :: (found ++ replacement found rest)
  | '\\' :: '&' :: rest => '&' :: replacement found rest
  | '&' :: rest => found ++ replacement found rest
  | c :: rest => c :: replacement found rest
  | [] => []

/-- Replaces matches up to some number; an empty one right after another does not count. -/
def replaceMatches (s : Regex.Searcher) (by_ : Octets) :
    Nat → Nat → Option Nat → View → Nat → List Octets → Octets × Nat
  | 0, _, _, v, count, pieces => (Outlet.joined (v.rest :: pieces), count)
  | rounds + 1, limit, last, v, count, pieces =>
      if count = limit then (Outlet.joined (v.rest :: pieces), count)
      else
        match s.find? v with
        | none => (Outlet.joined (v.rest :: pieces), count)
        | some found =>
            let skipped := found.whole.start - v.offset
            let before := v.rest.take skipped
            let v := Work.advance skipped v
            if found.whole.stop = found.whole.start then
              let isNew := last != some found.whole.start
              let pieces := before :: pieces
              let pieces := if isNew then replacement [] by_ :: pieces else pieces
              let count := if isNew then count + 1 else count
              match v.rest with
              | [] => (Outlet.joined pieces, count)
              | c :: _ =>
                  replaceMatches s by_ rounds limit last (Work.advance 1 v) count ([c] :: pieces)
            else
              let length := found.whole.stop - found.whole.start
              replaceMatches s by_ rounds limit (some found.whole.stop) (Work.advance length v)
                (count + 1) (replacement (v.rest.take length) by_ :: before :: pieces)

/-! ## Numbers -/

def remainder (x y : Float) : Float :=
  match toNumber x, toNumber y with
  | ⟨isNegative, .finite a e⟩, ⟨_, .finite b f⟩ =>
      if b = 0 then 0.0 / 0.0
      else
        let least := min e f
        let scaled (mantissa : Nat) (exponent : Int) : Nat :=
          mantissa * 1 <<< (exponent - least).toNat
        let rest := ofMagnitude (.finite (scaled a e % scaled b f) least)
        if isNegative then -rest else rest
  | ⟨_, .finite ..⟩, ⟨_, .infinite⟩ => x
  | _, _ => 0.0 / 0.0

def truncated (x : Float) : Float := if x < 0 then x.ceil else x.floor

def calculated (o : Operator) (x y : Float) : Float :=
  match o with
  | .plus => x + y
  | .minus => x - y
  | .times => x * y
  | .over => x / y
  | .modulo => remainder x y
  | .power => x.pow y

def nextRandom (n : Nat) : Nat := (n * 6364136223846793005 + 1442695040888963407) % 0x10000000000000000

/-- The part of a text from a place on; places before the start count. -/
def substring (octets : Octets) (start : Float) (length : Option Float) : Octets :=
  let first := clampedInt start
  let count : Option Int := length.map clampedInt
  match count with
  | none => octets.drop (first - 1).toNat
  | some count =>
      let count := if first < 0 then count - first else count
      (octets.drop (first - 1).toNat).take count.toNat

/-- Where a text is in another, counted from one; zero if it is not there. -/
def indexOf (octets part : Octets) : Nat := go octets 1
where
  go : Octets → Nat → Nat
    | [], place => if part.isEmpty then min place 1 else 0
    | c :: rest, place => if part.isPrefixOf (c :: rest) then place else go rest (place + 1)

namespace Work

def isRelated (r : Relation) (format : Octets) (a b : Value) : Bool :=
  match r with
  | .less => Value.related format (· < ·) (· == .lt) a b
  | .lessEqual => Value.related format (· ≤ ·) (· != .gt) a b
  | .equal => Value.related format (· == ·) (· == .eq) a b
  | .unequal => Value.related format (· != ·) (· != .eq) a b
  | .greater => Value.related format (· > ·) (· == .gt) a b
  | .greaterEqual => Value.related format (· ≥ ·) (· != .lt) a b

/-- The value in a place; an element is made if it was not there. -/
def readSlot (slot : Slot) : Work Value := do
  match slot with
  | .field index => field index
  | .element index key =>
      let found := (← table index).get key
      changeTable index fun t => t.make key
      return found
  | .name v =>
      if v = .shared Known.fieldCount then splitRecord
      match ← cell v with
      | .value v => return v
      | .nothing => return .unset
      | .table _ => failHere "illegal reference to array".toList

def writeSlot (slot : Slot) (v : Value) : Work Unit := do
  match slot with
  | .field index => setField index v
  | .element index key => changeTable index fun t => (t.make key).set key v
  | .name name =>
      if name = .shared Known.fieldCount then setFieldCount (min v.toFloat.toUInt64.toNat fieldBound)
      else
        keepFields name
        match ← cell name with
        | .table _ => failHere "illegal reference to array".toList
        | _ => setCell name (.value v)

/-- Runs a command and waits for it; the answer is its status. -/
def runSystem (s : Session) (command : Octets) : Work Value := do
  flushAll
  let held := (← memory).sinks.map fun entry => entry.2.descriptor
  let how ← act do
    let child ← spawn do
      held.forM fun descriptor => Task.close descriptor
      become "sh" "" quoted ["/bin/sh".toList, "-c".toList, command] s.environment
    waitFor child roundBound
  return .ofNat (statusOf how)

def flushOne (name : Octets) : Work Value := do
  if (← memory).sinks.any fun entry => entry.1 = name then
    flushAll
    return .number 0
  else return .number (-1)

/-- Puts a format and values together; what is there already is written if there is a
complaint. -/
def format (write? : Octets → Work Unit) (values : List Value) : Work Octets := do
  match values with
  | [] => failHere "no arguments in call to printf".toList
  | first :: values =>
      let format ← textOf first
      match formatted format (← conversion) values with
      | (octets, none) => return octets
      | (octets, some complaint) =>
          write? octets
          failHere (complaint ++ "printf(\"".toList ++ format ++ "\")".toList)

def turn : Nat := 1024

def tick (fuel : Nat) : Work Unit := do
  if fuel % turn < 2 then
    let _ ← act (Task.pass 100000 : Action _)

mutual

/-- The value of an expression; the bound is on how long that may take. -/
def evaluate (s : Session) : Nat → Expression → Work Value
  | 0, _ => fail "out of time".toList
  | fuel + 1, e => do
      match e with
      | .number x => return .number x
      | .text t => return .text t
      | .regex r => return .ofBool (r.matches? (← wholeRecord))
      | .place p => readSlot (← slot s fuel p)
      | .assign p none value =>
          let target ← slot s fuel p
          let v ← evaluate s fuel value
          writeSlot target v
          return v
      | .assign p (some o) value =>
          let target ← slot s fuel p
          let y := (← evaluate s fuel value).toFloat
          let x := (← readSlot target).toFloat
          let v := Value.number (calculated o x y)
          writeSlot target v
          return v
      | .step p isBefore amount =>
          let target ← slot s fuel p
          let x := (← readSlot target).toFloat
          writeSlot target (.number (x + amount))
          return .number (if isBefore then x + amount else x)
      | .negate e => return .number (-(← evaluate s fuel e).toFloat)
      | .asNumber e => return .number (← evaluate s fuel e).toFloat
      | .not e => return .ofBool (!(← evaluate s fuel e).isTrue)
      | .calculate o a b =>
          let x := (← evaluate s fuel a).toFloat
          let y := (← evaluate (s.deeper 1) fuel b).toFloat
          return .number (calculated o x y)
      | .compare r a b =>
          let x ← evaluate s fuel a
          let y ← evaluate (s.deeper 1) fuel b
          return .ofBool (isRelated r (← conversion) x y)
      | .and a b =>
          if (← evaluate s fuel a).isTrue then return .ofBool (← evaluate s fuel b).isTrue
          else return .number 0
      | .or a b =>
          if (← evaluate s fuel a).isTrue then return .number 1
          else return .ofBool (← evaluate s fuel b).isTrue
      | .choose condition a b =>
          if (← evaluate s fuel condition).isTrue then evaluate s fuel a else evaluate s fuel b
      | .fits isNegated e pattern =>
          let octets ← textOf (← evaluate s fuel e)
          let r ← pattern? s fuel pattern
          return .ofBool (r.matches? octets != isNegated)
      | .isIn keys v =>
          let key ← key s fuel keys
          let index ← tableOf v
          let isThere := (← table index).has key
          changeTable index fun t => t.note key
          return .ofBool isThere
      | .join a b =>
          let x ← textOf (← evaluate s fuel a)
          let y ← textOf (← evaluate (s.deeper 1) fuel b)
          return .text (x ++ y)
      | .call function arguments => call s fuel function arguments
      | .builtin b arguments => builtin s fuel b arguments
      | .readLine source target => readLine s fuel source target

def pattern? (s : Session) : Nat → Expression → Work Regex.Searcher
  | 0, _ => fail "out of time".toList
  | fuel + 1, e => do
      match e with
      | .regex r => return r
      | e => searcher (← textOf (← evaluate s fuel e))

def values (s : Session) : Nat → List Expression → Work (List Value)
  | 0, _ => fail "out of time".toList
  | _ + 1, [] => return []
  | fuel + 1, e :: rest => do
      let v ← evaluate s fuel e
      return v :: (← values s fuel rest)

def key (s : Session) : Nat → List Expression → Work Table.Key
  | 0, _ => fail "out of time".toList
  | fuel + 1, keys => do
      match keys with
      | [e] => keyOf (← evaluate s fuel e)
      | keys =>
          let texts ← (← values s fuel keys).mapM textOf
          let separator ← textOf (← known Known.keySeparator)
          return .text (separator.intercalate texts)

def slot (s : Session) : Nat → Place → Work Slot
  | 0, _ => fail "out of time".toList
  | fuel + 1, p => do
      match p with
      | .name v => return .name v
      | .element v keys =>
          let key ← key s fuel keys
          return .element (← tableOf v) key
      | .field index => return .field (← fieldNumber (← evaluate s fuel index))

def call (s : Session) : Nat → Nat → List Expression → Work Value
  | 0, _, _ => fail "out of time".toList
  | fuel + 1, function, arguments => do
      tick fuel
      let f := s.program.functions.getD function default
      let s := { s with waiting := s.waiting + f.parameters, calls := s.calls + 1 }
      if waitingBound < s.waiting then
        fail "program limit exceeded: eval stack size=1024".toList
      if callBound < s.calls then
        let (self, _) ← act (Task.identify : Action _)
        let _ ← act (Task.signal self 11 : Action Bool)
      let cells ← cells s fuel arguments
      let saved := (← memory).own
      change fun m =>
        { m with own := (cells ++ List.replicate (f.parameters - cells.length) Cell.nothing).toArray }
      let flow ← execute s fuel f.body
      let after := (← memory).own
      change fun m => { m with own := saved }
      share (arguments.zip (cells.zip after.toList))
      match flow with
      | .leaves v => return v
      | _ => return .unset

def cells (s : Session) : Nat → List Expression → Work (List Cell)
  | 0, _ => fail "out of time".toList
  | _ + 1, [] => return []
  | fuel + 1, e :: rest => do
      let first ← match e with
        | .place (.name v) =>
            if v = .shared Known.fieldCount then splitRecord
            cell v
        | e => pure (Cell.value (← evaluate s fuel e))
      return first :: (← cells s fuel rest)

def share : List (Expression × Cell × Cell) → Work Unit
  | [] => return ()
  | (.place (.name v), .nothing, .table index) :: rest => do
      setCell v (.table index)
      share rest
  | _ :: rest => share rest

def builtin (s : Session) : Nat → Builtin → List Expression → Work Value
  | 0, _, _ => fail "out of time".toList
  | fuel + 1, b, arguments => do
      let number (f : Float → Float) (e : Expression) : Work Value := do
        return .number (f (← evaluate s fuel e).toFloat)
      let octets (e : Expression) : Work Octets := do textOf (← evaluate s fuel e)
      match b, arguments with
      | .length, [] => return .ofNat (← wholeRecord).length
      | .length, [.place (.name v)] =>
          match ← cell v with
          | .table index => return .ofNat (← table index).size
          | _ => return .ofNat (← octets (.place (.name v))).length
      | .length, e :: _ => return .ofNat (← octets e).length
      | .substr, [e, start] =>
          let whole ← octets e
          return .text (substring whole (← evaluate s fuel start).toFloat none)
      | .substr, [e, start, length] =>
          let whole ← octets e
          let start := (← evaluate s fuel start).toFloat
          return .text (substring whole start (some (← evaluate s fuel length).toFloat))
      | .index, [e, part] =>
          let whole ← octets e
          return .ofNat (indexOf whole (← octets part))
      | .split, e :: .place (.name v) :: separator =>
          let whole ← octets e
          let found ← match separator with
            | .regex r :: _ =>
                pure (if whole.isEmpty then [] else cut r (whole.length + 1) (.ofText whole) [] [])
            | separator :: _ => parts (← octets separator) whole
            | [] => parts ((← known Known.fieldSeparator).toText []) whole
          let index ← tableOf v
          changeTable index fun _ => .ofList (found.map .field)
          return .ofNat found.length
      | .sub, pattern :: by_ :: target => replace s fuel 1 pattern by_ target
      | .gsub, pattern :: by_ :: target => replace s fuel roundBound pattern by_ target
      | .match_, [e, pattern] =>
          let whole ← octets e
          let r ← pattern? s fuel pattern
          let (start, length) : Nat × Float := match r.find? (.ofText whole) with
            | some found => (found.whole.start + 1, Float.ofNat (found.whole.stop - found.whole.start))
            | none => (0, -1)
          setKnown Known.matchStart (.ofNat start)
          setKnown Known.matchLength (.number length)
          return .ofNat start
      | .sprintf, arguments =>
          return .text (← format (fun _ => pure ()) (← values s fuel arguments))
      | .sin, [e] => number Float.sin e
      | .cos, [e] => number Float.cos e
      | .atan2, [y, x] =>
          let y := (← evaluate s fuel y).toFloat
          return .number (Float.atan2 y (← evaluate s fuel x).toFloat)
      | .exp, [e] => number Float.exp e
      | .log, [e] => number Float.log e
      | .sqrt, [e] => number Float.sqrt e
      | .int, [e] => number truncated e
      | .rand, _ =>
          let n := nextRandom (← memory).random
          change fun m => { m with random := n }
          return .number (Float.ofNat (n >>> 11) / 9007199254740992.0)
      | .srand, seeds =>
          let before := (← memory).seed
          let seed ← match seeds with
            | e :: _ => pure (← evaluate s fuel e).toFloat
            | [] => pure (Float.ofInt ((← act (Task.browse id : Action FileSystem)).moment / 1000000000))
          change fun m => { m with seed, random := nextRandom (seed.toBits.toNat) }
          return .number before
      | .tolower, [e] => return .text ((← octets e).map Char.toLower)
      | .toupper, [e] => return .text ((← octets e).map Char.toUpper)
      | .system, [e] => runSystem s (← octets e)
      | .close, [e] => close (← octets e)
      | .fflush, [] =>
          flushAll
          return .number 0
      | .fflush, e :: _ => flushOne (← octets e)
      | .systime, _ =>
          let files ← act (Task.browse id : Action FileSystem)
          return .number (Float.ofInt (files.moment / 1000000000))
      | _, _ => failHere "wrong number of arguments".toList

/-- Replaces matches in a place; the answer is their number. -/
def replace (s : Session) : Nat → Nat → Expression → Expression → List Expression → Work Value
  | 0, _, _, _, _ => fail "out of time".toList
  | fuel + 1, limit, pattern, by_, target => do
      let r ← pattern? s fuel pattern
      let by_ ← textOf (← evaluate s fuel by_)
      let target? : Option Slot ← match target with
        | [] => pure (some (.field 0))
        | .place p :: _ => pure (some (← slot s fuel p))
        | _ => pure none
      let octets ← match target?, target with
        | some target, _ => textOf (← readSlot target)
        | none, e :: _ => textOf (← evaluate s fuel e)
        | none, [] => pure []
      let (after, count) :=
        replaceMatches r by_ (2 * octets.length + 2) limit none (.ofText octets) 0 []
      match target?, count with
      | some target, _ + 1 => writeSlot target (.text after)
      | _, _ => pure ()
      return .ofNat count

def readLine (s : Session) :
    Nat → Option (Bool × Expression) → Option Place → Work Value
  | 0, _, _ => fail "out of time".toList
  | fuel + 1, source, target => do
      let store (record : Octets) : Work Unit := do
        match target with
        | some p => writeSlot (← slot s fuel p) (.field record)
        | none => setRecord record
      match source with
      | none =>
          match ← nextInput s.program.names roundBound with
          | some record =>
              countUp Known.recordCount
              countUp Known.fileRecordCount
              store record
              return .number 1
          | none => return .number 0
      | some (isFile, e) =>
          let name ← textOf (← evaluate s fuel e)
          match ← sourceFor s.environment isFile name with
          | none => return .number (-1)
          | some source =>
              match ← nextRecord source with
              | (some record, source) =>
                  keepSource name source
                  store record
                  return .number 1
              | (none, source) =>
                  keepSource name source
                  return .number 0

def put (s : Session) : Nat → Option Target → Octets → Work Unit
  | 0, _, _ => fail "out of time".toList
  | fuel + 1, target, octets => do
      match target with
      | none => write s.environment .file ['-'] octets
      | some (.file e) => write s.environment .file (← textOf (← evaluate s fuel e)) octets
      | some (.fileEnd e) => write s.environment .fileEnd (← textOf (← evaluate s fuel e)) octets
      | some (.command e) => write s.environment .command (← textOf (← evaluate s fuel e)) octets

def execute (s : Session) : Nat → Statement → Work Flow
  | 0, _ => fail "out of time".toList
  | fuel + 1, statement => do
      match statement with
      | .skip => return .normal
      | .expression e =>
          let _ ← evaluate s fuel e
          return .normal
      | .print arguments target =>
          let vs ← values s fuel arguments
          let format := (← known Known.outputFormat).toText []
          let separator ← textOf (← known Known.outputFieldSeparator)
          let ending ← textOf (← known Known.outputRecordSeparator)
          let line ← match vs with
            | [] => wholeRecord
            | vs => pure (separator.intercalate (vs.map fun v => v.toText format))
          put s fuel target (line ++ ending)
          return .normal
      | .format arguments target =>
          let octets ← format (put s fuel target) (← values s fuel arguments)
          put s fuel target octets
          return .normal
      | .choose condition a b =>
          if (← evaluate s fuel condition).isTrue then execute s fuel a else execute s fuel b
      | .while_ condition body =>
          tick fuel
          if (← evaluate s fuel condition).isTrue then
            afterRound s fuel (← execute s fuel body) (.while_ condition body)
          else return .normal
      | .doWhile body condition =>
          afterRound s fuel (← execute s fuel body) (.while_ condition body)
      | .for_ start condition step body =>
          let _ ← execute s fuel start
          rounds s fuel condition step body
      | .forIn p v body =>
          let index ← tableOf v
          let keys := (← table index).keys
          changeTable index fun t => t.withTexts
          forKeys s fuel p keys body
      | .block statements => executeAll s fuel statements
      | .next => return .next
      | .nextFile => return .nextFile
      | .exit none => throw (.exit none)
      | .exit (some e) =>
          let n := clampedInt (← evaluate s fuel e).toFloat
          throw (.exit (some (n % 256).toNat))
      | .leave none => return .leaves .unset
      | .leave (some e) => return .leaves (← evaluate s fuel e)
      | .break_ => return .breaks
      | .continue_ => return .continues
      | .delete v keys =>
          let key ← key s fuel keys
          changeTable (← tableOf v) fun t => t.erase key
          return .normal
      | .deleteAll v =>
          changeTable (← tableOf v) fun _ => .empty
          return .normal

def afterRound (s : Session) : Nat → Flow → Statement → Work Flow
  | 0, _, _ => fail "out of time".toList
  | fuel + 1, flow, more => do
      match flow with
      | .normal | .continues => execute s fuel more
      | .breaks => return .normal
      | flow => return flow

def rounds (s : Session) : Nat → Option Expression → Statement → Statement → Work Flow
  | 0, _, _, _ => fail "out of time".toList
  | fuel + 1, condition, step, body => do
      tick fuel
      let goes ← match condition with
        | some e => pure (← evaluate s fuel e).isTrue
        | none => pure true
      if goes then
        match ← execute s fuel body with
        | .normal | .continues =>
            let _ ← execute s fuel step
            rounds s fuel condition step body
        | .breaks => return .normal
        | flow => return flow
      else return .normal

def forKeys (s : Session) : Nat → Place → List Octets → Statement → Work Flow
  | 0, _, _, _ => fail "out of time".toList
  | _ + 1, _, [], _ => return .normal
  | fuel + 1, p, key :: keys, body => do
      writeSlot (← slot s fuel p) (.text key)
      match ← execute s fuel body with
      | .normal | .continues => forKeys s fuel p keys body
      | .breaks => return .normal
      | flow => return flow

def executeAll (s : Session) : Nat → List Statement → Work Flow
  | 0, _ => fail "out of time".toList
  | _ + 1, [] => return .normal
  | fuel + 1, statement :: rest => do
      match ← execute s fuel statement with
      | .normal => executeAll s fuel rest
      | flow => return flow

end

def stepBound : Nat := 1000000000000000

/-! ## Records -/

def holds (s : Session) : Condition → Work Bool
  | .always => return true
  | .when e => return (← evaluate s stepBound e).isTrue
  | .range index start stop => do
      let isWithin ← if (← memory).within.getD index false then pure true
        else pure (← evaluate s stepBound start).isTrue
      if isWithin then
        let isLast := (← evaluate s stepBound stop).isTrue
        change fun m => { m with within := m.within.setIfInBounds index !isLast }
        return true
      else return false

def handle (s : Session) : List (Condition × Statement) → Work Flow
  | [] => return .normal
  | (condition, statement) :: rest => do
      let isMeant ← holds s condition
      let flow ← if isMeant then execute s stepBound statement else pure .normal
      match flow with
      | .next | .nextFile => return flow
      | _ => handle s rest

def leaveFile : Work Unit := do
  match (← memory).current with
  | some source =>
      let _ ← act (closeSource source)
      change fun m => { m with current := none }
  | none => pure ()

def handleAll (s : Session) : Nat → Work Unit
  | 0 => return ()
  | count + 1 => do
      match ← nextInput s.program.names roundBound with
      | none => return ()
      | some record =>
          countUp Known.recordCount
          countUp Known.fileRecordCount
          setRecord record
          match ← handle s s.program.items with
          | .nextFile => leaveFile
          | _ => pure ()
          handleAll s count

def doAll (s : Session) : List Statement → Work Unit
  | [] => return ()
  | statement :: rest => do
      let _ ← execute s stepBound statement
      doAll s rest

/-- Runs something; the answer is the status if the program stopped there. -/
def stopped (work : Work Unit) : Work (Option (Option Nat)) := fun m => do
  match ← work m with
  | (.ok (), m) => return (.ok none, m)
  | (.error (.exit status), m) => return (.ok (some status), m)
  | (.error failure, m) => return (.error failure, m)

def runProgram (s : Session) : Work Nat := do
  let p := s.program
  let early ← stopped do
    doAll s p.begins
    if !(p.items.isEmpty && p.ends.isEmpty) then handleAll s roundBound
  let late ← stopped (doAll s p.ends)
  closeAll
  return match early, late with
    | _, some (some status) => status
    | some (some status), _ => status
    | _, _ => 0

end Work

/-! ## The command -/

structure Request where
  separator : Option Octets
  assignments : List (Octets × Octets)
  files : List Octets
  operands : List Octets

/-- Reads the arguments; what is wrong with them if they make no sense. -/
def Request.read (r : Request) : Nat → List Octets → Except Octets Request
  | 0, _ => .ok r
  | rounds + 1, arguments =>
      let assign (text : Octets) (rest : List Octets) : Except Octets Request :=
        match Work.assignment? text with
        | some assignment => read { r with assignments := r.assignments ++ [assignment] } rounds rest
        | none => .error ("improper assignment: -v ".toList ++ text)
      match arguments with
      | ['-', '-'] :: operands => .ok { r with operands }
      | ['-', 'F'] :: text :: rest => read { r with separator := some text } rounds rest
      | ('-' :: 'F' :: c :: text) :: rest => read { r with separator := some (c :: text) } rounds rest
      | ['-', 'v'] :: text :: rest => assign text rest
      | ('-' :: 'v' :: c :: text) :: rest => assign (c :: text) rest
      | ['-', 'f'] :: file :: rest => read { r with files := r.files ++ [file] } rounds rest
      | ('-' :: 'f' :: c :: file) :: rest => read { r with files := r.files ++ [c :: file] } rounds rest
      | ['-', 'W'] :: _ :: rest => read r rounds rest
      | ('-' :: 'W' :: _) :: rest => read r rounds rest
      | ('-' :: c :: letters) :: rest =>
          if "Fvf".toList.contains c && letters.isEmpty && rest.isEmpty then
            .error ("option requires an argument -- ".toList ++ [c])
          else .error ("not an option: -".toList ++ c :: letters)
      | operands => .ok { r with operands }

def usage : Octets := ("Usage: mawk [Options] [Program] [file ...]\n" ++
  "\n" ++
  "Program:\n" ++
  "    The -f option value is the name of a file containing program text.\n" ++
  "    If no -f option is given, a \"--\" ends option processing; the following\n" ++
  "    parameters are the program text.\n" ++
  "\n" ++
  "Options:\n" ++
  "    -f program-file  Program  text is read from file instead of from the\n" ++
  "                     command-line.  Multiple -f options are accepted.\n" ++
  "    -F value         sets the field separator, FS, to value.\n" ++
  "    -v var=value     assigns value to program variable var.\n" ++
  "    --               unambiguous end of options.\n" ++
  "\n" ++
  "    Implementation-specific options are prefixed with \"-W\".  They can be\n" ++
  "    abbreviated:\n" ++
  "\n" ++
  "    -W version       show version information and exit.\n" ++
  "    -W compat        pre-POSIX 2001.\n" ++
  "    -W dump          show assembler-like listing of program and exit.\n" ++
  "    -W help          show this message and exit.\n" ++
  "    -W interactive   set unbuffered output, line-buffered input.\n" ++
  "    -W exec file     use file as program as well as last option.\n" ++
  "    -W posix         stricter POSIX checking.\n" ++
  "    -W random=number set initial random seed.\n" ++
  "    -W sprintf=number adjust size of sprintf buffer.\n" ++
  "    -W usage         show this message and exit.\n").toList

def startMemory (p : Program) (r : Request) (environment : Environment) (name : Octets) : Memory :=
  let text (s : String) : Cell := .value (.text s.toList)
  let number (n : Nat) : Cell := .value (.ofNat n)
  let arguments := ((name :: r.operands).foldl (fun (t, (i : Nat)) argument =>
    (((t : Table).make (.whole i)).set (.whole i) (.field argument), i + 1)) (Table.empty, 0)).1
  let surroundings := environment.foldl (fun (t : Table) (name, value) =>
    let key := Table.Key.text (Text.Octets.ofString name)
    (t.make key).set key (.field value)) Table.empty
  let separator : Cell := match r.separator with
    | some octets => .value (.text (Token.unescaped octets))
    | none => text " "
  let first : List Cell :=
    [number 0, number 0, number 0, separator, text " ", text "\n", text "\n", .value (.field []),
      text "\x1c", number 0, .value (.number (-1)), text "%.6g", text "%.6g", .table 0,
      number (r.operands.length + 1), .table 1]
  { shared := (first ++ List.replicate (p.names.length - first.length) Cell.nothing).toArray
    own := #[], tables := #[surroundings, arguments], record := [], isStale := false, fields := #[]
    isWhole := true, out := .empty, sinks := [], sources := [], current := none, argument := 1
    hasRead := false, isAtEnd := false, searchers := ∅
    within := Array.replicate p.ranges false, seed := 0, random := 88172645463325252 }

def programText (name : String) : List Octets → List Octets → Action (Option Octets)
  | [], pieces => return some (Outlet.joined pieces)
  | file :: rest, pieces => do
      match ← fileContents file with
      | .ok octets => programText name rest (octets :: pieces)
      | .error failure =>
          complain name ("cannot open \"".toList ++ file ++ "\" (".toList ++ failure.reason.toList ++ [')'])
          return none

end Clausal.Utility.Records

namespace Clausal.Utility

open Machine (Action Task)
open Text (Octets)
open Records

def awk (name : String) : Tool := fun arguments environment => do
  match Request.read ⟨none, [], [], []⟩ (arguments.length + 1) arguments with
  | .error complaint => fail name complaint 2
  | .ok r =>
      let found ← match r.files, r.operands with
        | [], [] => pure none
        | [], text :: operands => pure (some (some (text, { r with operands })))
        | files, _ => do
            let text ← programText name files []
            pure (some (text.map fun text => (text, r)))
      match found with
      | none => emit name usage
      | some none => return 2
      | some (some (text, r)) =>
          match Program.read text with
          | .error complaint =>
              let place : Octets := match r.files with
                | file :: _ => file ++ ": ".toList
                | [] => []
              fail name (place ++ complaint) 2
          | .ok program =>
              let s : Session := ⟨program, environment, 0, 0⟩
              let work : Work Nat := do
                r.assignments.forM fun (name, value) => Work.assignGiven program.names name value
                Work.runProgram s
              let (result, m) ← work (startMemory program r environment name.toList)
              match result with
              | .ok status => return status
              | .error (.exit status) => return status.getD 0
              | .error (.failure complaint) =>
                  complain name complaint
                  let _ ← (Work.closeAll : Work Unit) m
                  return 2

end Clausal.Utility

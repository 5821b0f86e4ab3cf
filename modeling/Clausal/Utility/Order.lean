import Clausal.Text.ByteClass
import Clausal.Text.Floating
import Clausal.Text.Version
import Clausal.Utility.Basic

/-!
# Utilities that put lines in order

Lines are compared by keys, one after the other, and in the end byte by byte.
-/

namespace Clausal.Utility

open Machine (Action Descriptor Environment Failure Task)
open Text (Octets Magnitude)

namespace Order

/-! ## What is compared -/

/-- A decimal number with its sign; zeros at the ends are left out. -/
structure Decimal where
  negative : Bool
  whole : Nat
  places : Octets
  deriving DecidableEq, Repr

namespace Decimal

def isZero (d : Decimal) : Bool := d.whole = 0 && d.places.isEmpty

def sizeLt (a b : Decimal) : Bool :=
  decide (a.whole < b.whole) || a.whole = b.whole && decide (a.places < b.places)

def lt (a b : Decimal) : Bool :=
  match a.negative && !a.isZero, b.negative && !b.isZero with
  | true, true => sizeLt b a
  | true, false => true
  | false, true => false
  | false, false => sizeLt a b

def read (octets : Octets) : Decimal × Octets :=
  let bare := octets.dropWhile fun c => c = ' ' || c = '\t'
  let (negative, digits) :=
    match bare with
    | '-' :: rest => (true, rest)
    | rest => (false, rest)
  let (whole, rest) := digits.span Char.isDigit
  let (places, rest) :=
    match rest with
    | '.' :: more => more.span Char.isDigit
    | rest => ([], rest)
  (⟨negative, (Text.readDigits? whole).getD 0, (places.reverse.dropWhile (· = '0')).reverse⟩, rest)

end Decimal

inductive Value where
  | text (octets : Octets)
  | decimal (d : Decimal)
  | sized (unit : Int) (d : Decimal)
  /-- A number in any notation; what is no number comes first. -/
  | general (rank : Nat) (negative : Bool) (numerator denominator : Nat)
  | month (number : Nat)
  | version (octets : Octets)
  deriving DecidableEq, Repr

def valueLt : Value → Value → Bool
  | .text a, .text b => decide (a < b)
  | .decimal a, .decimal b => a.lt b
  | .sized u a, .sized v b => decide (u < v) || u = v && a.lt b
  | .general r s n d, .general r' s' n' d' =>
      decide (r < r') || r = r' &&
        (match s, s' with
        | true, false => n != 0 || n' != 0
        | false, true => false
        | false, false => decide (n * d' < n' * d)
        | true, true => decide (n' * d < n * d'))
  | .month a, .month b => decide (a < b)
  | .version a, .version b => (Text.Version.compare? a b).getD false
  | _, _ => false

/-! ## Keys -/

structure Rule where
  letters : Octets
  skipsAtStart : Bool
  skipsAtEnd : Bool
  deriving DecidableEq, Repr

namespace Rule

def has (r : Rule) (letter : Char) : Bool := r.letters.contains letter

def isReversed (r : Rule) : Bool := r.has 'r'

def isPlain (r : Rule) : Bool := r.letters.isEmpty && !r.skipsAtStart && !r.skipsAtEnd

def months : List String :=
  ["JAN", "FEB", "MAR", "APR", "MAY", "JUN", "JUL", "AUG", "SEP", "OCT", "NOV", "DEC"]

def value (r : Rule) (octets : Octets) : Value :=
  let isBlank (c : Char) : Bool := c = ' ' || c = '\t'
  if r.has 'n' then .decimal (Decimal.read octets).1
  else if r.has 'h' then
    let (d, rest) := Decimal.read octets
    let unit : Nat :=
      match rest with
      | c :: _ =>
          if d.isZero then 0
          else (("KMGTPEZYRQ".toList.idxOf? (if c = 'k' then 'K' else c)).map (· + 1)).getD 0
      | [] => 0
    .sized (if d.negative then -unit else unit) d
  else if r.has 'g' then
    let bare := octets.dropWhile fun c => isBlank c || 9 ≤ c.toNat && c.toNat ≤ 13
    let (negative, digits) :=
      match bare with
      | '-' :: rest => (true, rest)
      | '+' :: rest => (false, rest)
      | rest => (false, rest)
    match Magnitude.read? digits with
    | none => .general 0 false 0 1
    | some (.notNumber, _) => .general 1 false 0 1
    | some (.infinite, _) => .general (if negative then 2 else 4) false 0 1
    | some (.finite mantissa exponent, _) =>
        let (n, d) := Magnitude.fraction mantissa exponent
        .general 3 negative n d
  else if r.has 'M' then
    let bare := (octets.dropWhile isBlank).take 3
    .month (((months.idxOf? (String.ofList (bare.map Char.toUpper))).map (· + 1)).getD 0)
  else if r.has 'V' then .version octets
  else
    let octets := if r.has 'd' then octets.filter fun c => isBlank c || c.isAlphanum
      else if r.has 'i' then octets.filter Utility.isPlain else octets
    .text (if r.has 'f' then octets.map Char.toUpper else octets)

end Rule

/-- A part of a line that is compared: from a field and a character on, up to the end of a
field or of the line. -/
structure Key where
  field : Nat
  char : Nat
  lastField : Option Nat
  lastChar : Nat
  rule : Rule
  deriving DecidableEq, Repr

def isBlank (c : Char) : Bool := c = ' ' || c = '\t' || c = '\n'

def afterFields (separator : Option Char) : Nat → Octets → Octets
  | 0, octets => octets
  | count + 1, octets =>
      match separator with
      | some c => afterFields separator count ((octets.dropWhile (· != c)).drop 1)
      | none =>
          afterFields separator count ((octets.dropWhile isBlank).dropWhile fun c => !isBlank c)

/-- What follows the last wanted field; its separator is left over. -/
def afterLast (separator : Option Char) : Nat → Octets → Octets
  | 0, octets => octets
  | 1, octets =>
      match separator with
      | some c => octets.dropWhile (· != c)
      | none => (octets.dropWhile isBlank).dropWhile fun c => !isBlank c
  | count + 2, octets =>
      match separator with
      | some c => afterLast separator (count + 1) ((octets.dropWhile (· != c)).drop 1)
      | none =>
          afterLast separator (count + 1)
            ((octets.dropWhile isBlank).dropWhile fun c => !isBlank c)

namespace Key

def pick (k : Key) (separator : Option Char) (line : Octets) : Octets :=
  let start := afterFields separator (k.field - 1) line
  let start := if k.rule.skipsAtStart then start.dropWhile isBlank else start
  let start := start.drop (k.char - 1)
  match k.lastField with
  | none => start
  | some lastField =>
      let rest :=
        if k.lastChar = 0 then afterLast separator lastField line
        else
          let field := afterFields separator (lastField - 1) line
          let field := if k.rule.skipsAtEnd then field.dropWhile isBlank else field
          field.drop k.lastChar
      start.take (start.length - rest.length)

def readPlace (octets : Octets) : Except Octets (Nat × Option Nat × Octets) := do
  let (field, rest) := octets.span Char.isDigit
  match Text.readDigits? field, rest with
  | none, _ =>
      throw ("invalid number at field start: invalid count at start of ".toList ++ quoted octets)
  | some 0, _ => throw ("field number is zero: invalid field specification ".toList ++ quoted octets)
  | some field, '.' :: rest =>
      let (char, rest) := rest.span Char.isDigit
      match Text.readDigits? char with
      | none => throw ("invalid number after '.': invalid count at start of ".toList ++ quoted rest)
      | some char => return (field, some char, rest)
  | some field, rest => return (field, none, rest)

def read (octets : Octets) : Except Octets Key := do
  let known : Octets := "bdfghiMnRrV".toList
  let (field, char, rest) ← readPlace octets
  if char = some 0 then
    throw ("character offset is zero: invalid field specification ".toList ++ quoted octets)
  let (letters, rest) := rest.span known.contains
  let stray : Except Octets Key :=
    .error ("stray character in field spec: invalid field specification ".toList ++ quoted octets)
  let start := letters.filter (· != 'b')
  match rest with
  | [] =>
      return ⟨field, char.getD 1, none, 0, ⟨start, letters.contains 'b', false⟩⟩
  | ',' :: rest =>
      let (lastField, lastChar, rest) ← readPlace rest
      let (more, rest) := rest.span known.contains
      if !rest.isEmpty then stray
      else
        return ⟨field, char.getD 1, some lastField, lastChar.getD 0,
          ⟨start ++ more.filter (· != 'b'), letters.contains 'b', more.contains 'b'⟩⟩
  | _ => stray

end Key

/-! ## Lines with their keys -/

/-- A line and the values of its keys, each with whether it is compared backwards. -/
structure Entry where
  line : Octets
  values : List (Bool × Value)

/-- Compares by keys in order: whether the first comes before the second, unless they are the
same. -/
def byValues : List (Bool × Value) → List (Bool × Value) → Option Bool
  | (isReversed, a) :: as, (_, b) :: bs =>
      if valueLt a b then some (!isReversed)
      else if valueLt b a then some isReversed
      else byValues as bs
  | _, _ => none

structure Request where
  keys : List Key
  separator : Option Char
  isStable : Bool
  isReversed : Bool

namespace Request

def entry (r : Request) (line : Octets) : Entry :=
  ⟨line, r.keys.map fun k => (k.rule.isReversed, k.rule.value (k.pick r.separator line))⟩

def le (r : Request) (a b : Entry) : Bool :=
  match byValues a.values b.values with
  | some before => before
  | none =>
      if r.isStable then true
      else if r.isReversed then Octets.le b.line a.line else Octets.le a.line b.line

end Request

def sameKeys (a b : Entry) : Bool := (byValues a.values b.values).isNone

def dropSame : List Entry → List Entry → List Entry
  | kept, [] => kept.reverse
  | [], e :: rest => dropSame [e] rest
  | last :: kept, e :: rest =>
      dropSame (if sameKeys last e then last :: kept else e :: last :: kept) rest

def merge (le : Entry → Entry → Bool) : Nat → List Entry → List Entry → List Entry → List Entry
  | 0, taken, _, _ => taken.reverse
  | _ + 1, taken, [], rest => taken.reverseAux rest
  | _ + 1, taken, rest, [] => taken.reverseAux rest
  | rounds + 1, taken, a :: as, b :: bs =>
      if le a b then merge le rounds (a :: taken) as (b :: bs)
      else merge le rounds (b :: taken) (a :: as) bs

def disorder? (isFine : Entry → Entry → Bool) : Nat → List Entry → Option (Nat × Octets)
  | number, a :: b :: rest =>
      if isFine a b then disorder? isFine (number + 1) (b :: rest) else some (number + 1, b.line)
  | _, _ => none

end Order

def sortSwitches : List Switch :=
  [.flag "b" "ignore-leading-blanks", .flag "d" "dictionary-order", .flag "f" "ignore-case",
    .flag "g" "general-numeric-sort", .flag "h" "human-numeric-sort",
    .flag "i" "ignore-nonprinting", .flag "M" "month-sort", .flag "n" "numeric-sort",
    .flag "R" "random-sort", .flag "r" "reverse", .flag "V" "version-sort",
    .setting "sort" "sort", .flag "c" "", .choice "c" "check", .flag "C" "",
    .flag "m" "merge", .setting "k" "key", .setting "o" "output", .flag "s" "stable",
    .setting "t" "field-separator", .flag "u" "unique", .flag "z" "zero-terminated",
    .setting "S" "buffer-size", .setting "T" "temporary-directory", .setting "parallel" "parallel",
    .setting "batch-size" "batch-size", .setting "random-source" "random-source",
    .flag "debug" "debug"]

/-- Reads everything that is to be sorted; nothing if something cannot be read. -/
def sortInputs (files : List Octets) : Action (Option (List Octets)) := do
  let found ← (inputs files).mapM fun file => do
    match ← fileContents file with
    | .ok octets => return some octets
    | .error failure =>
        complain "sort" ("cannot read: ".toList ++ withReason (shownName file) failure)
        return none
  return found.mapM id

def orderRequest (a : Arguments) : Except Octets Order.Request := do
  let letters := "dfghiMnRrV".toList.filter fun c => a.has (String.ofList [c])
  let named : Octets :=
    match (a.value? "sort").map String.ofList with
    | some "general-numeric" => ['g']
    | some "human-numeric" => ['h']
    | some "month" => ['M']
    | some "numeric" => ['n']
    | some "random" => ['R']
    | some "version" => ['V']
    | _ => []
  let rule : Order.Rule := ⟨letters ++ named, a.has "b", a.has "b"⟩
  let given ← (a.values "k").mapM Order.Key.read
  let keys := given.map fun k => if k.rule.isPlain then { k with rule } else k
  let keys := if keys.isEmpty && !rule.letters.all (· = 'r') || keys.isEmpty && rule.skipsAtStart then
      [⟨1, 1, none, 0, rule⟩]
    else keys
  let separator ← match a.value? "t" with
    | none => pure none
    | some [c] => pure (some c)
    | some ['\\', '0'] => pure (some '\x00')
    | some [] => throw "empty tab".toList
    | some text => throw ("multi-character tab ".toList ++ quoted text)
  return ⟨keys, separator, !keys.isEmpty && (a.has "s" || a.has "u"), a.has "r"⟩

def sort : Tool := fun arguments _ =>
  withArguments "sort" sortSwitches 2 arguments fun a => do
    match orderRequest a with
    | .error complaint => fail "sort" complaint 2
    | .ok request =>
        match ← sortInputs a.operands with
        | none => return 2
        | some texts =>
            let ending := if a.has "z" then '\x00' else '\n'
            let entries := texts.map fun octets =>
              (linesWithEnds ending octets).map fun line => request.entry line.1
            let same (x y : Order.Entry) : Bool :=
              if request.keys.isEmpty then x.line == y.line else Order.sameKeys x y
            if a.hasAny ["c", "C"] then
              let isFine (x y : Order.Entry) : Bool :=
                if a.has "u" then request.le x y && !same x y else request.le x y
              match Order.disorder? isFine 1 entries.flatten with
              | none => return 0
              | some (number, line) =>
                  if !(a.has "C" || a.value? "c" = some "quiet".toList || a.value? "c" = some "silent".toList) then
                    complain "sort" (a.operands.headD ['-'] ++ ':' :: shown number ++
                      ": disorder: ".toList ++ line)
                  return 1
            else
              let sorted :=
                if a.has "m" then
                  entries.foldl (fun merged more =>
                    Order.merge request.le (merged.length + more.length + 1) [] merged more) []
                else entries.flatten.mergeSort request.le
              let sorted :=
                if !a.has "u" then sorted
                else if request.keys.isEmpty then dropRepeated [] sorted
                else Order.dropSame [] sorted
              let output := unlinesWith ending (sorted.map Order.Entry.line)
              match a.value? "o" with
              | none => emitSorted output
              | some file =>
                  match ← (Task.openFile ⟨file⟩ .write : Action _) with
                  | .ok descriptor =>
                      let _ ← (Task.write descriptor output : Action _)
                      Task.close descriptor
                      return 0
                  | .error failure =>
                      fail "sort" ("open failed: ".toList ++ withReason (shownName file) failure) 2
where
  emitSorted (output : Octets) : Action Nat := do
    match ← emit "sort" output with
    | 0 => return 0
    | _ => return 2
  dropRepeated : List Order.Entry → List Order.Entry → List Order.Entry
    | kept, [] => kept.reverse
    | [], e :: rest => dropRepeated [e] rest
    | last :: kept, e :: rest =>
        dropRepeated (if last.line == e.line then last :: kept else e :: last :: kept) rest

/-! ## Repeated lines -/

structure Repeats where
  counts : Bool
  onlyRepeated : Bool
  onlySingle : Bool
  allRepeated : Option String
  grouped : Option String
  foldsCase : Bool
  skippedFields : Nat
  skippedChars : Nat
  width : Option Nat
  ending : Char

/-- Lines that are the same so far, the last first. -/
structure RepeatState where
  key : Octets
  lines : List Octets
  count : Nat
  hasShown : Bool

namespace Repeats

def key (r : Repeats) (line : Octets) : Octets :=
  let line := Order.afterFields none r.skippedFields line
  let line := line.drop r.skippedChars
  let line := match r.width with
    | some width => line.take width
    | none => line
  if r.foldsCase then line.map Char.toLower else line

def shownGroup (r : Repeats) (s : RepeatState) : Octets :=
  let first := s.lines.getLast?.getD []
  let isRepeated := 1 < s.count
  let all := unlinesWith r.ending s.lines.reverse
  match r.grouped, r.allRepeated with
  | some manner, _ =>
      let before := manner = "prepend" || manner = "both"
      let after := manner = "append" || manner = "both"
      let between := s.hasShown && manner = "separate"
      (if between || before && !(s.hasShown && manner = "both") then [r.ending] else []) ++ all ++
        (if after then [r.ending] else [])
  | none, some manner =>
      if !isRepeated then []
      else if manner = "prepend" || manner = "separate" && s.hasShown then r.ending :: all
      else all
  | none, none =>
      if r.onlyRepeated && !isRepeated || r.onlySingle && isRepeated then []
      else
        (if r.counts then padLeft 7 (shown s.count) ++ [' '] else []) ++ first ++ [r.ending]

def finish (r : Repeats) (s : RepeatState) : Octets := if s.count = 0 then [] else r.shownGroup s

def line (r : Repeats) (s : RepeatState) (line : Octets) : RepeatState × Octets :=
  let key := r.key line
  let keepsAll := r.grouped.isSome || r.allRepeated.isSome
  if s.count != 0 && key = s.key then
    ({ s with lines := if keepsAll then line :: s.lines else s.lines, count := s.count + 1 }, [])
  else
    let shown := r.finish s
    (⟨key, [line], 1, s.hasShown || !shown.isEmpty⟩, shown)

end Repeats

def uniq : Tool := fun arguments _ =>
  withArguments "uniq"
      [.flag "c" "count", .flag "d" "repeated", .flag "D" "", .choice "D" "all-repeated",
        .setting "f" "skip-fields", .choice "group" "group", .flag "i" "ignore-case",
        .setting "s" "skip-chars", .flag "u" "unique", .flag "z" "zero-terminated",
        .setting "w" "check-chars"] 1 arguments fun a => do
    let manner (key fallback : String) : Option String :=
      (a.value? key).map fun text => if text.isEmpty then fallback else String.ofList text
    let number (key : String) : Option Nat := (a.value? key).bind Text.readDigits?
    let r : Repeats := {
      counts := a.has "c", onlyRepeated := a.has "d", onlySingle := a.has "u"
      allRepeated := manner "D" "none", grouped := manner "group" "separate"
      foldsCase := a.has "i", skippedFields := (number "f").getD 0
      skippedChars := (number "s").getD 0, width := number "w"
      ending := if a.has "z" then '\x00' else '\n' }
    match a.operands with
    | _ :: _ :: third :: _ => extraOperand "uniq" third 1
    | operands =>
        let f : Filter (RepeatState × Octets) := ⟨fun (s, start) octets =>
          let (finished, start) := cutLines r.ending start octets
          let (s, pieces) := takeAll r s [] finished
          ((s, start), Outlet.joined pieces), fun _ => false⟩
        let isReady ← match operands[1]? with
          | none | some ['-'] => pure true
          | some file => do
              match ← (Task.openFile ⟨file⟩ .write : Action _) with
              | .ok descriptor =>
                  let _ ← (Task.duplicate descriptor 1 : Action _)
                  pure true
              | .error failure =>
                  complainOf "uniq" file failure
                  pure false
        if !isReady then return 1
        else
          f.run "uniq" (operands.take 1) (⟨[], [], 0, false⟩, []) fun (s, start) =>
            if start.isEmpty then r.finish s
            else
              let (s, shown) := r.line s start.reverse
              shown ++ r.finish s
where
  takeAll (r : Repeats) (s : RepeatState) (pieces : List Octets) :
      List Octets → RepeatState × List Octets
    | [] => (s, pieces)
    | first :: rest =>
        let (s, piece) := r.line s first
        takeAll r s (if piece.isEmpty then pieces else piece :: pieces) rest

/-! ## Any order -/

def chance (index : Nat) : Nat := (index + 1) * 2654435761 % 4294967296

def shuf : Tool := fun arguments _ =>
  withArguments "shuf"
      [.flag "e" "echo", .setting "i" "input-range", .setting "n" "head-count",
        .setting "o" "output", .setting "random-source" "random-source", .flag "r" "repeat",
        .flag "z" "zero-terminated"] 1 arguments fun a => do
    let ending := if a.has "z" then '\x00' else '\n'
    let range? := (a.value? "i").map fun text =>
      let (low, rest) := text.span (· != '-')
      (text, Text.readDigits? low, Text.readDigits? (rest.drop 1))
    let found : Except Octets (Option (List Octets)) :=
      match range? with
      | some (text, some low, some high) =>
          if high + 1 < low then .error ("invalid input range: ".toList ++ quoted text)
          else .ok (some ((List.range (high + 1 - low)).map fun n => shown (low + n)))
      | some (text, _, _) => .error ("invalid input range: ".toList ++ quoted text)
      | none => .ok (if a.has "e" then some a.operands else none)
    match found with
    | .error complaint => fail "shuf" complaint 1
    | .ok given =>
        let items ← match given with
          | some items => pure (some items)
          | none => do
              let octets? ← contents "shuf" (a.operands.headD ['-'])
              pure (octets?.map fun octets => (linesWithEnds ending octets).map Prod.fst)
        match items with
        | none => return 1
        | some items =>
            let count? := (a.value? "n").bind Text.readDigits?
            let mixed := (items.zipIdx.mergeSort fun x y => chance x.2 ≤ chance y.2).map Prod.fst
            let chosen :=
              if a.has "r" then
                (List.range (count?.getD 0)).map fun n => (items[chance n % items.length]?).getD []
              else mixed.take (count?.getD mixed.length)
            emit "shuf" (unlinesWith ending chosen)

/-! ## Orders from pairs -/

/-- An item with how many others come before it, and those that come after it, the last
first. -/
structure Ranked where
  name : Octets
  before : Nat
  after : List Octets

namespace Ranked

/-- Puts an item at its place among sorted ones, unless it is there. -/
def insert (name : Octets) : List Ranked → List Ranked
  | [] => [⟨name, 0, []⟩]
  | r :: rest =>
      if name = r.name then r :: rest
      else if name < r.name then ⟨name, 0, []⟩ :: r :: rest
      else r :: insert name rest

def change (name : Octets) (f : Ranked → Ranked) (all : List Ranked) : List Ranked :=
  all.map fun r => if r.name = name then f r else r

def relate (first second : Octets) (all : List Ranked) : List Ranked :=
  let all := insert second (insert first all)
  if first = second then all
  else
    change first (fun r => { r with after := second :: r.after })
      (change second (fun r => { r with before := r.before + 1 }) all)

def unwind : Nat → List Octets → List Ranked → List Octets → List Octets × List Ranked
  | 0, _, all, done => (done.reverse, all)
  | rounds + 1, ready, all, done =>
      match ready with
      | [] => (done.reverse, all)
      | name :: ready =>
          match all.find? fun r => r.name = name with
          | none => unwind rounds ready all done
          | some r =>
              let (all, freed) := r.after.foldl (fun (state : List Ranked × List Octets) next =>
                let all := change next (fun r => { r with before := r.before - 1 }) state.1
                let isFree := all.any fun r => r.name = next && r.before = 0
                (all, if isFree then state.2 ++ [next] else state.2)) (all, [])
              unwind rounds (ready ++ freed) (all.filter fun r => r.name != name) (name :: done)

end Ranked

def tsort : Tool := fun arguments _ =>
  withArguments "tsort" [] 1 arguments fun a => do
    match ← contents "tsort" (a.operands.headD ['-']) with
    | none => return 1
    | some octets =>
        let words := (Text.split (fun c => c = ' ' || c = '\t' || c = '\n') octets).filter fun word =>
          !word.isEmpty
        let file := a.operands.headD ['-']
        if words.length % 2 = 1 then
          fail "tsort" (shownName file ++ ": input contains an odd number of tokens".toList) 1
        else
          let all := pairs words []
          go file (all.length + 1) all 0
where
  pairs : List Octets → List Ranked → List Ranked
    | first :: second :: rest, all => pairs rest (Ranked.relate first second all)
    | _, all => all
  go (file : Octets) : Nat → List Ranked → Nat → Action Nat
    | 0, _, status => return status
    | rounds + 1, all, status => do
        let ready := (all.filter fun r => r.before = 0).map Ranked.name
        let (done, left) := Ranked.unwind (all.length + 1) ready all []
        let status := max status (← emit "tsort" (unlines done))
        match left with
        | [] => return status
        | first :: _ =>
            complain "tsort" (shownName file ++ ": input contains a loop:".toList)
            let loop := loopFrom left (left.length + 1) first.name []
            loop.forM fun name => complain "tsort" name
            go file rounds (Ranked.change (loop.headD first.name) (fun r => { r with before := 0 }) left) 1
  loopFrom (all : List Ranked) : Nat → Octets → List Octets → List Octets
    | 0, _, path => path.reverse
    | rounds + 1, name, path =>
        if path.contains name then (path.reverse.dropWhile (· != name))
        else
          match all.find? fun r => r.after.contains name with
          | some r => loopFrom all rounds r.name (name :: path)
          | none => path.reverse

end Clausal.Utility

import Clausal.Utility.Basic

/-!
# Utilities for whole files

They pass on what they read, in another order of lines or characters or with marks at most.
-/

namespace Clausal.Utility

open Machine (Action Descriptor Environment Failure Opened Task)
open Text (Octets)

/-! ## One file after the other -/

/-- What is shown besides the characters themselves. -/
structure Marks where
  numbersAll : Bool
  numbersFull : Bool
  squeezes : Bool
  showsEnds : Bool
  showsTabs : Bool
  showsControls : Bool

/-- Where a text with marks has got to. -/
structure MarkState where
  number : Nat
  isAtStart : Bool
  blanks : Nat
  hasReturn : Bool

namespace Marks

def isNone (m : Marks) : Bool :=
  !(m.numbersAll || m.numbersFull || m.squeezes || m.showsEnds || m.showsTabs || m.showsControls)

def shownByte (m : Marks) (c : Char) : Octets :=
  if c = '\t' then (if m.showsTabs then ['^', 'I'] else [c])
  else if !m.showsControls then [c]
  else
    let n := c.toNat
    let (mark, n) : Octets × Nat := if 128 ≤ n then (['M', '-'], n - 128) else ([], n)
    if n < 32 then mark ++ ['^', Char.ofNat (n + 64)]
    else if n = 127 then mark ++ ['^', '?']
    else mark ++ [Char.ofNat n]

def numberText (number : Nat) : Octets := padLeft 6 (shown number) ++ ['\t']

def addEnd (m : Marks) (s : MarkState) (written : Octets) : MarkState × Octets :=
  let blanks := if s.isAtStart && !s.hasReturn then s.blanks + 1 else 0
  if m.squeezes && 1 < blanks then ({ s with blanks }, written)
  else
    let numbered := s.isAtStart && m.numbersAll && !m.numbersFull && !s.hasReturn
    let written := if numbered then (numberText s.number).reverseAux written else written
    let written := if s.hasReturn then 'M' :: '^' :: written else written
    ({ number := if numbered then s.number + 1 else s.number, isAtStart := true, blanks,
       hasReturn := false },
      '\n' :: (if m.showsEnds then '$' :: written else written))

def add (m : Marks) (s : MarkState) (written : Octets) (c : Char) : MarkState × Octets :=
  if c = '\n' then m.addEnd s written
  else
    let written := if s.hasReturn then '\r' :: written else written
    let numbered := s.isAtStart && !s.hasReturn && (m.numbersAll || m.numbersFull)
    let written := if numbered then (numberText s.number).reverseAux written else written
    let number := if numbered then s.number + 1 else s.number
    if c = '\r' && m.showsEnds && !m.showsControls then
      (⟨number, s.isAtStart && !numbered, s.blanks, true⟩, written)
    else
      (⟨number, false, 0, false⟩,
        if isPlain c then c :: written else (m.shownByte c).reverseAux written)

def addAll (m : Marks) : MarkState → Octets → Octets → MarkState × Octets
  | s, written, [] => (s, written.reverse)
  | s, written, c :: rest =>
      let (s, written) := m.add s written c
      m.addAll s written rest

end Marks

def isOwnOutput (descriptor : Descriptor) : Action Bool := do
  match ← (Task.inspect descriptor : Action _), ← (Task.inspect 1 : Action _) with
  | some (.file id offset), some (.file other _) =>
      if id != other then return false
      else
        let files ← (Task.browse fun files => files : Action FileSystem)
        return decide (offset < (files.body id).bytes.size)
  | _, _ => return false

def passOn (name : String) (descriptor : Descriptor) : Nat → Action (Option Failure × Nat)
  | 0 => return (none, 0)
  | rounds + 1 => do
      match ← (Task.read descriptor pieceSize : Action _) with
      | .ok [] => return (none, 0)
      | .ok octets =>
          match ← emit name octets with
          | 0 => passOn name descriptor rounds
          | status => return (none, status)
      | .error failure => return (some failure, 1)

def withInputs (name : String) (files : List Octets)
    (work : Descriptor → Action (Option Failure × Nat)) : Action Nat := do
  let statuses ← (inputs files).mapM fun file => do
    match ← openInput file with
    | .error failure =>
        complainOf name file failure
        return 1
    | .ok descriptor =>
        if ← isOwnOutput descriptor then
          closeInput descriptor
          complain name (shownName file ++ ": input file is output file".toList)
          return 1
        else
          let (failure?, status) ← work descriptor
          closeInput descriptor
          if let some failure := failure? then complainOf name file failure
          return status
  return statuses.foldl max 0

def cat : Tool := fun arguments _ =>
  withArguments "cat"
      [.flag "A" "show-all", .flag "b" "number-nonblank", .flag "e" "", .flag "E" "show-ends",
        .flag "n" "number", .flag "s" "squeeze-blank", .flag "t" "", .flag "T" "show-tabs",
        .flag "u" "", .flag "v" "show-nonprinting"] 1 arguments fun a => do
    let m : Marks := {
      numbersAll := a.has "n"
      numbersFull := a.has "b"
      squeezes := a.has "s"
      showsEnds := a.hasAny ["A", "e", "E"]
      showsTabs := a.hasAny ["A", "t", "T"]
      showsControls := a.hasAny ["A", "e", "t", "v"] }
    if m.isNone then withInputs "cat" a.operands fun descriptor => passOn "cat" descriptor roundBound
    else
      let f : Filter MarkState := ⟨fun s octets => m.addAll s [] octets, fun _ => false⟩
      f.run "cat" a.operands ⟨1, true, 0, false⟩ fun s => if s.hasReturn then ['\r'] else []

def tee : Tool := fun arguments _ =>
  withArguments "tee"
      [.flag "a" "append", .flag "i" "ignore-interrupts", .flag "p" "",
        .choice "output-error" "output-error"] 1 arguments fun a => do
    let opened ← a.operands.mapM fun file => do
      match ← (Task.openFile ⟨file⟩ (if a.has "a" then .append else .write) : Action _) with
      | .ok descriptor => return some (file, descriptor)
      | .error failure =>
          complainOf "tee" file failure
          return none
    let status ← go (opened.filterMap fun file => file) roundBound 0
    return if opened.all Option.isSome then status else 1
where
  go (files : List (Octets × Descriptor)) : Nat → Nat → Action Nat
    | 0, status => return status
    | rounds + 1, status => do
        match ← (Task.read 0 pieceSize : Action _) with
        | .ok (c :: octets) =>
            let results ← ((['-'], 1) :: files).mapM fun file => do
              match ← (Task.write file.2 (c :: octets) : Action _) with
              | .ok () => return true
              | .error failure =>
                  complainOf "tee" (if file.2 = 1 then "standard output".toList else file.1) failure
                  return false
            go files rounds (if results.all id then status else 1)
        | _ => return status

/-! ## Backwards -/

def backwards (separator : Octets) (isBefore : Bool) : Nat → Octets → Octets → List Octets →
    List Octets
  | 0, _, _, parts => parts
  | rounds + 1, [], current, parts =>
      if current.isEmpty then parts else backwards separator isBefore rounds [] [] (current.reverse :: parts)
  | rounds + 1, c :: rest, current, parts =>
      if separator.isPrefixOf (c :: rest) then
        let rest := (c :: rest).drop separator.length
        if isBefore then
          backwards separator isBefore rounds rest separator.reverse
            (if current.isEmpty then parts else current.reverse :: parts)
        else
          backwards separator isBefore rounds rest [] ((separator.reverse ++ current).reverse :: parts)
      else backwards separator isBefore rounds rest (c :: current) parts

def tac : Tool := fun arguments _ =>
  withArguments "tac"
      [.flag "b" "before", .flag "r" "regex", .setting "s" "separator"] 1 arguments fun a => do
    let separator := (a.value? "s").getD ['\n']
    let results ← (inputs a.operands).mapM fun file => do
      match ← openInput file with
      | .error failure =>
          complain "tac" ("failed to open ".toList ++ quoted file ++
            withReason " for reading".toList failure)
          return 1
      | .ok descriptor =>
          let pieces ← readPieces descriptor roundBound []
          closeInput descriptor
          match pieces with
          | .error _ =>
              complain "tac" (shownName file ++ ": read error: Invalid argument".toList)
              return 1
          | .ok pieces =>
              let octets := Outlet.joined pieces
              let parts := backwards separator (a.has "b") (2 * octets.length + 2) octets [] []
              emit "tac" (Outlet.joined parts.reverse)
    return results.foldl max 0

def rev : Tool := fun arguments _ =>
  withArguments "rev" [] 1 arguments fun a => do
    let opened ← a.operands.mapM fun file => do
      match ← (Task.openFile ⟨file⟩ .read : Action _) with
      | .ok descriptor =>
          Task.close descriptor
          return true
      | .error failure =>
          complain "rev" ("cannot open ".toList ++ withReason file failure)
          return false
    let files := (a.operands.zip opened).filterMap fun (file, isFine) =>
      if isFine then some file else none
    if !a.operands.isEmpty && files.isEmpty then return 1
    else
      let status ← Filter.runLines "rev" files
        (fun _ line ended => ((), if ended then line.reverse ++ ['\n'] else line.reverse)) ()
      return if opened.all id then status else 1

/-! ## Without end -/

def repeated (octets : Octets) : Octets :=
  (List.replicate (8192 / (octets.length + 1) + 1) octets).flatten

def yes : Tool := fun arguments _ => do
  let words := if arguments.head? = some ['-', '-'] then arguments.tail else arguments
  let line := if words.isEmpty then ['y'] else [' '].intercalate words
  go (repeated (line ++ ['\n'])) roundBound
where
  go (block : Octets) : Nat → Action Nat
    | 0 => return 0
    | rounds + 1 => do
        match ← emit "yes" block with
        | 0 => go block rounds
        | status => return status

/-! ## Counting -/

/-- How much there is of what can be counted. -/
structure Tally where
  lines : Nat
  words : Nat
  bytes : Nat
  widest : Nat
  column : Nat
  isInWord : Bool

namespace Tally

def zero : Tally := ⟨0, 0, 0, 0, 0, false⟩

def add (t : Tally) (c : Char) : Tally :=
  match t with
  | ⟨lines, words, bytes, widest, column, isInWord⟩ =>
      if c = '\n' then ⟨lines + 1, words, bytes + 1, max widest column, 0, false⟩
      else if c = ' ' then ⟨lines, words, bytes + 1, widest, column + 1, false⟩
      else if c = '\t' then ⟨lines, words, bytes + 1, widest, column + 8 - column % 8, false⟩
      else if c = '\r' || c = '\x0c' then ⟨lines, words, bytes + 1, max widest column, 0, false⟩
      else if c = '\x0b' then ⟨lines, words, bytes + 1, widest, column, false⟩
      else if isPlain c then
        ⟨lines, if isInWord then words else words + 1, bytes + 1, widest, column + 1, true⟩
      else ⟨lines, words, bytes + 1, widest, column, isInWord⟩

def sum (a b : Tally) : Tally :=
  ⟨a.lines + b.lines, a.words + b.words, a.bytes + b.bytes, max a.widest b.widest, 0, false⟩

def chosen (t : Tally) (a : Arguments) : List Nat :=
  let all := !a.hasAny ["l", "w", "m", "c", "L"]
  (if all || a.has "l" then [t.lines] else []) ++ (if all || a.has "w" then [t.words] else []) ++
    (if a.has "m" then [t.bytes] else []) ++ (if all || a.has "c" then [t.bytes] else []) ++
    (if a.has "L" then [max t.widest t.column] else [])

def row (t : Tally) (a : Arguments) (width : Nat) (name : Octets) : Octets :=
  [' '].intercalate ((t.chosen a).map fun count => padLeft width (shown count)) ++
    (if name.isEmpty then [] else ' ' :: name) ++ ['\n']

end Tally

/-- The size of what is counted, if that is a stored file that is there. -/
def storedSize? (file : Octets) : Action (Option (Option Nat)) := do
  let files ← (Task.browse fun files => files : Action FileSystem)
  if file.isEmpty || file = ['-'] then
    match ← (Task.inspect 0 : Action _) with
    | some (.file id _) => return some (some (files.body id).bytes.size)
    | some _ => return some none
    | none => return none
  else
    match files.get ⟨file⟩ with
    | .error _ => return none
    | .ok (.file id) =>
        let body := files.body id
        return some (if body.isPlain then some body.bytes.size else none)
    | .ok _ => return some none

/-- How wide counts are shown, so that they stand below each other. -/
def tallyWidth (sizes : List (Option (Option Nat))) : Nat :=
  match sizes with
  | [] | none :: _ => 1
  | sizes =>
      let found := sizes.filterMap fun size => size
      let total := (found.map fun size => size.getD 0).foldl (· + ·) 0
      max (shown total).length (if found.any Option.isNone then 7 else 1)

def wc : Tool := fun arguments _ =>
  withArguments "wc"
      [.flag "c" "bytes", .flag "m" "chars", .flag "l" "lines", .flag "w" "words",
        .flag "L" "max-line-length", .setting "total" "total",
        .setting "files0-from" "files0-from"] 1 arguments fun a => do
    let files := if a.operands.isEmpty then [[]] else a.operands
    let sizes ← files.mapM storedSize?
    let isSingle := files.length = 1 && (Tally.zero.chosen a).length = 1
    let width := if isSingle then 1 else tallyWidth sizes
    let manner := String.ofList ((a.value? "total").getD "auto".toList)
    let isOnly := manner = "only"
    let (total, status) ← count a (if isOnly then none else some width) .zero 0 files
    if manner = "always" || isOnly || manner = "auto" && 1 < files.length then
      emitWith "wc"
        (total.row a (if isOnly then 1 else width) (if isOnly then [] else "total".toList)) status
    else return status
where
  /-- Counts what is in files; rows are shown if there is a width for them. -/
  count (a : Arguments) (width? : Option Nat) (total : Tally) (status : Nat) :
      List Octets → Action (Tally × Nat)
    | [] => return (total, status)
    | file :: rest => do
        match ← openInput (if file.isEmpty then ['-'] else file) with
        | .error failure =>
            complainOf "wc" file failure
            count a width? total 1 rest
        | .ok descriptor =>
            let f : Filter Tally := ⟨fun t octets => (octets.foldl Tally.add t, []), fun _ => false⟩
            let (t, _, failure?) ← f.pump descriptor roundBound .zero .empty
            closeInput descriptor
            if let some failure := failure? then complainOf "wc" file failure
            let written ← match width? with
              | some width => emit "wc" (t.row a width file)
              | none => pure 0
            count a width? (total.sum t) (max status (max written (if failure?.isSome then 1 else 0)))
              rest

end Clausal.Utility

import Clausal.Machine.Task
import Clausal.Text.Numeral
import Clausal.Utility.Switch

/-!
# Utilities

Programs for files and texts that scripts use.  A utility gets its arguments and the exported
names; what it does ends in its status.
-/

namespace Clausal.Utility

open Machine (Action Descriptor Environment Failure Task)
open Text (Octets)

abbrev Tool := List Octets → Environment → Action Nat

def roundBound : Nat := 1000000000000

def text (octets : Octets) : String := Text.Octets.toText octets

/-! ## Complaints -/

def report (octets : Octets) : Action Unit := do
  let _ ← (Task.write 2 octets : Action _)

def complain (name : String) (complaint : Octets) : Action Unit :=
  report (name.toList ++ ": ".toList ++ complaint ++ ['\n'])

def fail (name : String) (complaint : Octets) (status : Nat) : Action Nat := do
  complain name complaint
  return status

def suggestHelp (name : String) (status : Nat) : Action Nat := do
  report s!"Try '{name} --help' for more information.\n".toList
  return status

def misuse (name : String) (complaint : Octets) (status : Nat) : Action Nat := do
  complain name complaint
  suggestHelp name status

def isPlain (c : Char) : Bool := ' ' ≤ c && c ≤ '~'

def escapeByte (c : Char) : Octets :=
  match c with
  | '\n' => ['\\', 'n']
  | '\t' => ['\\', 't']
  | '\r' => ['\\', 'r']
  | '\x07' => ['\\', 'a']
  | '\x08' => ['\\', 'b']
  | '\x0b' => ['\\', 'v']
  | '\x0c' => ['\\', 'f']
  | c =>
      let digit (n : Nat) : Char := Char.ofNat ('0'.toNat + n)
      ['\\', digit (c.toNat / 64 % 8), digit (c.toNat / 8 % 8), digit (c.toNat % 8)]

/-- Quotes a text by single quotes; what is no plain character is escaped between quotes of
its own. -/
def quoteMixed : Nat → Octets → Octets
  | 0, _ => []
  | rounds + 1, octets =>
      match octets with
      | [] => []
      | c :: _ =>
          if isPlain c then
            let (plain, rest) := octets.span isPlain
            '\'' :: plain.flatMap (fun c => if c = '\'' then "'\\''".toList else [c]) ++
              '\'' :: quoteMixed rounds rest
          else
            let (special, rest) := octets.span fun c => !isPlain c
            "$'".toList ++ special.flatMap escapeByte ++ '\'' :: quoteMixed rounds rest

/-- Whether a text cannot be put in double quotes, because a shell would misread it. -/
def staysSingle (octets : Octets) : Bool :=
  octets.any (fun c => "!\"$&()*;<=>?[\\^\x60\x7b|\x7d".toList.contains c) ||
    octets.tail.any fun c => c = '#' || c = '~'

def quoted (octets : Octets) : Octets :=
  if octets.any fun c => !isPlain c then
    let body := quoteMixed (octets.length + 1) octets
    if body.head? = some '$' then '\'' :: '\'' :: body else body
  else if !octets.contains '\'' then '\'' :: octets ++ ['\'']
  else if staysSingle octets then quoteMixed (octets.length + 1) octets
  else '"' :: octets ++ ['"']

/-- Characters because of which a name is put in quotes. -/
def asksForQuotes (c : Char) : Bool :=
  !isPlain c || " !\"$&'()*:;<=>?[\\^\x60|".toList.contains c

/-- A name, in quotes only if it would be misread. -/
def shownName (octets : Octets) : Octets :=
  let startsSpecial := octets.head?.any (fun c => c = '#' || c = '~') ||
    octets = ['\x7b'] || octets = ['\x7d']
  if octets.isEmpty || startsSpecial || octets.any asksForQuotes then quoted octets else octets

def withReason (octets : Octets) (failure : Failure) : Octets :=
  octets ++ ": ".toList ++ failure.reason.toList

def complainOf (name : String) (file : Octets) (failure : Failure) : Action Unit :=
  complain name (withReason (shownName file) failure)

/-! ## Output -/

def emit (name : String) (octets : Octets) : Action Nat := do
  if octets.isEmpty then return 0
  else
    match ← (Task.write 1 octets : Action _) with
    | .ok () => return 0
    | .error failure => fail name (withReason "write error".toList failure) 1

def emitWith (name : String) (octets : Octets) (status : Nat) : Action Nat :=
  return max status (← emit name octets)

structure Outlet where
  pieces : List Octets
  size : Nat
  failure : Option Failure

namespace Outlet

def empty : Outlet := ⟨[], 0, none⟩

def room : Nat := 4096

def joined (pieces : List Octets) : Octets := pieces.foldl (fun after piece => piece ++ after) []

def flush (o : Outlet) : Action Outlet := do
  if o.pieces.isEmpty then return o
  else
    match ← (Task.write 1 (joined o.pieces) : Action _) with
    | .ok () => return { o with pieces := [], size := 0 }
    | .error failure => return ⟨[], 0, o.failure.orElse fun () => some failure⟩

def put (o : Outlet) (octets : Octets) : Action Outlet :=
  match octets with
  | [] => return o
  | octets =>
      let o := { o with pieces := octets :: o.pieces, size := o.size + octets.length }
      if room ≤ o.size then o.flush else return o

def finish (o : Outlet) (name : String) (status : Nat) : Action Nat := do
  let o ← o.flush
  match o.failure with
  | some failure => fail name (withReason "write error".toList failure) (max status 1)
  | none => return status

end Outlet

/-! ## Input -/

/-- Opens a file to read from; a dash stands for the input. -/
def openInput (file : Octets) : Action (Except Failure Descriptor) := do
  if file = ['-'] then return .ok 0 else Task.openFile ⟨file⟩ .read

def closeInput (descriptor : Descriptor) : Action Unit := do
  if descriptor != 0 then Task.close descriptor

def pieceSize : Nat := 65536

def readPieces (descriptor : Descriptor) :
    Nat → List Octets → Action (Except Failure (List Octets))
  | 0, pieces => return .ok pieces
  | rounds + 1, pieces => do
      match ← (Task.read descriptor pieceSize : Action _) with
      | .ok [] => return .ok pieces
      | .ok piece => readPieces descriptor rounds (piece :: pieces)
      | .error failure => return .error failure

def fileContents (file : Octets) : Action (Except Failure Octets) := do
  match ← openInput file with
  | .error failure => return .error failure
  | .ok descriptor =>
      let pieces ← readPieces descriptor roundBound []
      closeInput descriptor
      return pieces.map Outlet.joined

/-- Everything in a file; nothing if there is a complaint. -/
def contents (name : String) (file : Octets) : Action (Option Octets) := do
  match ← fileContents file with
  | .ok octets => return some octets
  | .error failure =>
      complainOf name file failure
      return none

/-- A dash if there are no files, because the input is read then. -/
def inputs (files : List Octets) : List Octets := if files.isEmpty then [['-']] else files

/-- The contents of files one after the other, or of the input if there are none, and whether
all could be read. -/
def allContents (name : String) (files : List Octets) : Action (Octets × Bool) := do
  let found ← (inputs files).mapM (contents name)
  return (Outlet.joined (found.reverse.map fun octets => octets.getD []), found.all Option.isSome)

/-! ## Lines -/

/-- Cuts a text at a character: the finished lines without it, and what follows the last of
them in reverse, given the start of the first line in reverse. -/
def cutLines (ending : Char) (start octets : Octets) : List Octets × Octets := go octets start []
where
  go : Octets → Octets → List Octets → List Octets × Octets
    | [], current, lines => (lines.reverse, current)
    | c :: rest, current, lines =>
        if c = ending then go rest [] (current.reverse :: lines) else go rest (c :: current) lines

def lines (octets : Octets) : List Octets :=
  match cutLines '\n' [] octets with
  | (lines, []) => lines
  | (lines, last) => lines ++ [last.reverse]

def linesWithEnds (ending : Char) (octets : Octets) : List (Octets × Bool) :=
  match cutLines ending [] octets with
  | (lines, []) => lines.map fun line => (line, true)
  | (lines, last) => lines.map (fun line => (line, true)) ++ [(last.reverse, false)]

def unlinesWith (ending : Char) (lines : List Octets) : Octets :=
  lines.reverse.foldl (fun after line => line ++ ending :: after) []

def unlines (lines : List Octets) : Octets := unlinesWith '\n' lines

structure Intake where
  descriptor : Descriptor
  known : List Octets
  start : Octets
  isAtEnd : Bool
  ending : Char

namespace Intake

def of (descriptor : Descriptor) (ending : Char) : Intake := ⟨descriptor, [], [], false, ending⟩

def next (i : Intake) : Nat → Action (Option (Octets × Bool) × Intake)
  | 0 => return (none, i)
  | rounds + 1 =>
      match i.known with
      | line :: known => return (some (line, true), { i with known })
      | [] =>
          if i.isAtEnd then
            if i.start.isEmpty then return (none, i)
            else return (some (i.start.reverse, false), { i with start := [] })
          else do
            match ← (Task.read i.descriptor pieceSize : Action _) with
            | .ok (c :: octets) =>
                let (known, start) := cutLines i.ending i.start (c :: octets)
                next { i with known, start } rounds
            | _ => next { i with isAtEnd := true } rounds

end Intake

/-! ## Passing texts on -/

structure Filter (σ : Type) where
  piece : σ → Octets → σ × Octets
  isDone : σ → Bool

namespace Filter

/-- A filter that handles a text line by line; the flag says whether a line was ended.  The
state keeps the start of a line that was not read to its end, in reverse. -/
def ofLines (line : σ → Octets → Bool → σ × Octets) (isDone : σ → Bool) :
    Filter (σ × Octets) where
  piece := fun (s, start) octets =>
    let (finished, start) := cutLines '\n' start octets
    let (s, pieces) := go s [] finished
    ((s, start), Outlet.joined pieces)
  isDone := fun (s, _) => isDone s
where
  go (s : σ) (pieces : List Octets) : List Octets → σ × List Octets
    | [] => (s, pieces)
    | first :: rest =>
        if isDone s then (s, pieces)
        else
          let (s, piece) := line s first true
          go s (if piece.isEmpty then pieces else piece :: pieces) rest

def pump (f : Filter σ) (descriptor : Descriptor) :
    Nat → σ → Outlet → Action (σ × Outlet × Option Failure)
  | 0, s, o => return (s, o, none)
  | rounds + 1, s, o => do
      if f.isDone s then return (s, o, none)
      else
        match ← (Task.read descriptor pieceSize : Action _) with
        | .ok [] => return (s, o, none)
        | .error failure => return (s, o, some failure)
        | .ok octets =>
            let (s, written) := f.piece s octets
            pump f descriptor rounds s (← o.put written)

/-- Passes files through a filter one after the other; the flag says whether all could be
read. -/
def pumpFiles (f : Filter σ) (name : String) :
    List Octets → σ → Outlet → Bool → Action (σ × Outlet × Bool)
  | [], s, o, isFine => return (s, o, isFine)
  | file :: rest, s, o, isFine => do
      match ← openInput file with
      | .error failure =>
          let o ← o.flush
          complainOf name file failure
          pumpFiles f name rest s o false
      | .ok descriptor =>
          let (s, o, failure?) ← pump f descriptor roundBound s o
          closeInput descriptor
          match failure? with
          | some failure =>
              let o ← o.flush
              complainOf name file failure
              pumpFiles f name rest s o false
          | none => pumpFiles f name rest s o isFine

def run (f : Filter σ) (name : String) (files : List Octets) (start : σ) (finish : σ → Octets) :
    Action Nat := do
  let (s, o, isFine) ← pumpFiles f name (inputs files) start .empty true
  let o ← o.put (finish s)
  o.finish name (if isFine then 0 else 1)

def runLines (name : String) (files : List Octets) (line : σ → Octets → Bool → σ × Octets)
    (start : σ) : Action Nat :=
  (ofLines line fun _ => false).run name files (start, []) fun (s, rest) =>
    if rest.isEmpty then [] else (line s rest.reverse false).2

end Filter

/-! ## Arguments -/

def withArguments (name : String) (table : List Switch) (status : Nat) (arguments : List Octets)
    (work : Arguments → Action Nat) : Action Nat := do
  match Arguments.read table arguments with
  | .ok arguments => work arguments
  | .error wrong => misuse name wrong.complaint status

def withOperands (name : String) (least : Nat) (a : Arguments) (work : Action Nat) :
    Action Nat := do
  match least - a.operands.length, a.operands.getLast? with
  | 0, _ => work
  | _, none => misuse name "missing operand".toList 1
  | _, some last => misuse name ("missing operand after ".toList ++ quoted last) 1

def extraOperand (name : String) (operand : Octets) (status : Nat) : Action Nat :=
  misuse name ("extra operand ".toList ++ quoted operand) status

/-- Does something with each operand; the status says whether all went well. -/
def forEachOperand (operands : List Octets) (work : Octets → Action Bool) : Action Nat := do
  let results ← operands.mapM work
  return if results.all id then 0 else 1

def unitFactor? (base : Nat) (letter : Char) : Option Nat :=
  ("KMGTPEZYRQ".toList.idxOf? (if letter = 'k' then 'K' else letter)).map fun place =>
    (place + 1).repeat (base * ·) 1

def factor? (unit : Octets) : Option Nat :=
  match unit with
  | [] => some 1
  | ['b'] => some 512
  | [letter] => unitFactor? 1024 letter
  | [letter, 'B'] => unitFactor? 1000 letter
  | [letter, 'i', 'B'] => unitFactor? 1024 letter
  | _ => none

def count? (octets : Octets) : Option Nat :=
  let (digits, unit) := octets.span Char.isDigit
  match Text.readDigits? digits, factor? unit with
  | some count, some factor => some (count * factor)
  | none, some factor => if unit.isEmpty then none else some factor
  | _, _ => none

def shown (n : Nat) : Octets := Nat.toDigits 10 n

def padLeft (width : Nat) (octets : Octets) : Octets :=
  List.replicate (width - octets.length) ' ' ++ octets

def padRight (width : Nat) (octets : Octets) : Octets :=
  octets ++ List.replicate (width - octets.length) ' '

end Clausal.Utility

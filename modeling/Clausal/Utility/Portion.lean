import Clausal.Utility.Basic

/-!
# Utilities for parts of files

The first or the last lines or bytes of a file, and files cut into several.
-/

namespace Clausal.Utility

open Machine (Action Descriptor Environment Failure Opened Task)
open Text (Octets)

/-! ## What is asked for -/

/-- What is counted, and which part is wanted. -/
structure Portion where
  countsBytes : Bool
  count : Nat
  isOpposite : Bool
  ending : Char
  deriving DecidableEq, Repr

def takeLines (ending : Char) : Nat → Octets → Octets → Octets × Octets × Nat
  | 0, taken, rest => (taken.reverse, rest, 0)
  | count, taken, [] => (taken.reverse, [], count)
  | count + 1, taken, c :: rest =>
      takeLines ending (if c = ending then count else count + 1) (c :: taken) rest

def lineCount (ending : Char) (octets : Octets) : Nat :=
  octets.count ending + (if octets.getLast?.getD ending = ending then 0 else 1)

def signedCount? (octets : Octets) : Option (Option Char × Nat) :=
  match octets with
  | '-' :: rest => (count? rest).map fun count => (some '-', count)
  | '+' :: rest => (count? rest).map fun count => (some '+', count)
  | rest => (count? rest).map fun count => (none, count)

def heading (isFirst : Bool) (file : Octets) : Octets :=
  (if isFirst then [] else ['\n']) ++ "==> ".toList ++
    (if file = ['-'] then "standard input".toList else file) ++ " <==\n".toList

/-- How it went to show a part of a file. -/
inductive Shown where
  | done
  | unreadable (failure : Failure)
  | unwritten

def showPortions (name : String) (a : Arguments) (show_ : Octets → Descriptor → Action Shown) :
    Action Nat := do
  let files := inputs a.operands
  let hasHeadings :=
    match a.last? ["q", "v"] with
    | some "v" => true
    | some _ => false
    | none => decide (1 < files.length)
  go hasHeadings true 0 files
where
  go (hasHeadings isFirst : Bool) (status : Nat) : List Octets → Action Nat
    | [] => return status
    | file :: rest => do
        match ← openInput file with
        | .error failure =>
            complain name ("cannot open ".toList ++ quoted file ++
              withReason " for reading".toList failure)
            go hasHeadings isFirst 1 rest
        | .ok descriptor =>
            let written ← if hasHeadings then emit name (heading isFirst file) else pure 0
            let shown ← show_ file descriptor
            closeInput descriptor
            match shown with
            | .unwritten => return 1
            | .unreadable failure =>
                complain name ("error reading ".toList ++
                  withReason (quoted (if file = ['-'] then "standard input".toList else file)) failure)
                go hasHeadings false 1 rest
            | .done => go hasHeadings false (max status written) rest

/-! ## Starts -/

def startPieceSize : Nat := 8192

def showFirstLines (name : String) (ending : Char) (descriptor : Descriptor) :
    Nat → Nat → Action Shown
  | 0, _ => return .done
  | rounds + 1, count => do
      if count = 0 then return .done
      else
        match ← (Task.read descriptor startPieceSize : Action _) with
        | .ok [] => return .done
        | .error failure => return .unreadable failure
        | .ok octets =>
            let (taken, rest, left) := takeLines ending count [] octets
            if !rest.isEmpty then Task.rewind descriptor rest.length
            match ← emit name taken with
            | 0 => showFirstLines name ending descriptor rounds left
            | _ => return .unwritten

def showFirstBytes (name : String) (descriptor : Descriptor) :
    Nat → Nat → Action Shown
  | 0, _ => return .done
  | rounds + 1, count => do
      if count = 0 then return .done
      else
        match ← (Task.read descriptor (min count startPieceSize) : Action _) with
        | .ok [] => return .done
        | .error failure => return .unreadable failure
        | .ok octets =>
            match ← emit name octets with
            | 0 => showFirstBytes name descriptor rounds (count - octets.length)
            | _ => return .unwritten

def showFound (name : String) (octets : Octets) : Action Shown := do
  match ← emit name octets with
  | 0 => return .done
  | _ => return .unwritten

def showStart (name : String) (p : Portion) (descriptor : Descriptor) : Action Shown := do
  if p.isOpposite then
    match ← readPieces descriptor roundBound [] with
    | .error failure => return .unreadable failure
    | .ok pieces =>
        let octets := Outlet.joined pieces
        showFound name
          (if p.countsBytes then octets.take (octets.length - p.count)
          else (takeLines p.ending (lineCount p.ending octets - p.count) [] octets).1)
  else if p.countsBytes then showFirstBytes name descriptor roundBound p.count
  else showFirstLines name p.ending descriptor roundBound p.count

/-- The old way to ask for a start: a count right after the dash, and letters after it. -/
def oldStart (arguments : List Octets) : List Octets :=
  match arguments with
  | ('-' :: c :: text) :: rest =>
      if !c.isDigit then arguments
      else
        let (digits, letters) := (c :: text).span Char.isDigit
        let unit := letters.filter fun c => "bkm".toList.contains c
        let unit := unit.map fun c => if c = 'm' then 'M' else c
        let flags := (letters.filter fun c => "qvz".toList.contains c).map fun c => ['-', c]
        let counts : Octets := if letters.contains 'c' || !unit.isEmpty then "-c".toList else "-n".toList
        (counts ++ digits ++ unit.take 1) :: flags ++ rest
  | arguments => arguments

def head : Tool := fun arguments _ =>
  withArguments "head"
      [.setting "n" "lines", .setting "c" "bytes", .flag "q" "quiet", .flag "q" "silent",
        .flag "v" "verbose", .flag "z" "zero-terminated"] 1 (oldStart arguments) fun a => do
    let unit := (a.last? ["n", "c"]).getD "n"
    let text := (a.value? unit).getD ['1', '0']
    match signedCount? text with
    | none =>
        let digits := if text.head? = some '-' then text.drop 1 else text
        let what := if unit = "c" then "invalid number of bytes: " else "invalid number of lines: "
        fail "head" (what.toList ++ quoted digits) 1
    | some (sign, count) =>
        let p : Portion := ⟨unit = "c", count, sign = some '-', if a.has "z" then '\x00' else '\n'⟩
        showPortions "head" a fun _ descriptor => showStart "head" p descriptor

/-! ## Ends -/

def lastBytes : Nat → List Octets → Octets → Octets
  | _, [], after => after
  | count, piece :: pieces, after =>
      let size := piece.length
      if count ≤ size then piece.drop (size - count) ++ after
      else lastBytes (count - size) pieces (piece ++ after)

def afterEnds (ending : Char) : Nat → Octets → Octets → Nat × Octets
  | count, [], after => (count, after)
  | count, c :: rest, after =>
      if c = ending then
        match count with
        | 0 | 1 => (0, after)
        | count + 2 => afterEnds ending (count + 1) rest (c :: after)
      else afterEnds ending count rest (c :: after)

def lastLines (ending : Char) : Nat → List Octets → Octets → Octets
  | _, [], after => after
  | count, piece :: pieces, after =>
      match afterEnds ending count piece.reverse after with
      | (0, found) => found
      | (count, found) => lastLines ending count pieces found

def endOf (p : Portion) (pieces : List Octets) : Octets :=
  if p.isOpposite then
    let octets := Outlet.joined pieces
    if p.countsBytes then octets.drop (p.count - 1)
    else (takeLines p.ending (p.count - 1) [] octets).2.1
  else if p.count = 0 then []
  else if p.countsBytes then lastBytes p.count pieces []
  else
    let isEnded := (pieces.head?.bind List.getLast?) == some p.ending
    lastLines p.ending (if isEnded then p.count + 1 else p.count) pieces []

def watch (descriptor : Descriptor) (span : Nat) : Nat → Action Shown
  | 0 => return .done
  | rounds + 1 => do
      match ← readPieces descriptor roundBound [] with
      | .error failure => return .unreadable failure
      | .ok [] => Task.sleep span
      | .ok pieces =>
          let _ ← emit "tail" (Outlet.joined pieces)
      watch descriptor span rounds

def showEnd (p : Portion) (descriptor : Descriptor) : Action Shown := do
  match ← readPieces descriptor roundBound [] with
  | .error failure => return .unreadable failure
  | .ok pieces => showFound "tail" (endOf p pieces)

/-- The old way to ask for an end: a count right after the sign, and letters after it. -/
def oldEnd (arguments : List Octets) : List Octets :=
  match arguments with
  | (sign :: c :: text) :: rest =>
      let (digits, letters) := (c :: text).span Char.isDigit
      let isOld := (sign = '+' || sign = '-' && c.isDigit) &&
        letters.all (fun c => "bclf".toList.contains c) && (c.isDigit || sign = '+') &&
        decide (rest.length ≤ 1)
      if !isOld then arguments
      else
        let start : Octets := if sign = '+' then ['+'] else []
        let digits := if digits.isEmpty then ['1', '0'] else digits
        let counts : Octets := if letters.contains 'c' || letters.contains 'b' then "-c".toList else "-n".toList
        (counts ++ start ++ digits ++ (if letters.contains 'b' then ['b'] else [])) ::
          (if letters.contains 'f' then ["-f".toList] else []) ++ rest
  | arguments => arguments

def tail : Tool := fun arguments _ =>
  withArguments "tail"
      [.setting "n" "lines", .setting "c" "bytes", .flag "q" "quiet", .flag "q" "silent",
        .flag "v" "verbose", .flag "z" "zero-terminated", .flag "f" "", .choice "f" "follow",
        .flag "F" "", .flag "retry" "retry", .setting "s" "sleep-interval", .setting "pid" "pid",
        .setting "max-unchanged-stats" "max-unchanged-stats"] 1 (oldEnd arguments) fun a => do
    let unit := (a.last? ["n", "c"]).getD "n"
    let text := (a.value? unit).getD ['1', '0']
    match signedCount? text with
    | none =>
        let what := if unit = "c" then "invalid number of bytes: " else "invalid number of lines: "
        fail "tail" (what.toList ++ quoted text) 1
    | some (sign, count) =>
        let p : Portion := ⟨unit = "c", count, sign = some '+', if a.has "z" then '\x00' else '\n'⟩
        showPortions "tail" a fun file descriptor => do
          match ← showEnd p descriptor with
          | .done =>
              if a.hasAny ["f", "F"] && !(file = ['-']) then
                watch descriptor 1000000000 roundBound
              else return .done
          | shown => return shown

/-! ## Cutting files -/

/-- The ending of the name of one of many files.  Without a fixed width the last character
starts wider endings. -/
def splitSuffix? (signs : Octets) (width : Option Nat) (number : Nat) : Option Octets :=
  let base := signs.length
  let sign (digit : Nat) : Char := signs[digit]?.getD '?'
  let write (count number : Nat) : Octets :=
    ((List.range count).foldl (fun (state : Octets × Nat) _ =>
      (sign (state.2 % base) :: state.1, state.2 / base)) ([], number)).1
  match width with
  | some width => if number < width.repeat (base * ·) 1 then some (write width number) else none
  | none => go sign write base 0 8 number
where
  go (sign : Nat → Char) (write : Nat → Nat → Octets) (base : Nat) (level : Nat) :
      Nat → Nat → Option Octets
    | 0, _ => none
    | rounds + 1, number =>
        let size := (base - 1) * (level + 1).repeat (base * ·) 1
        if number < size then
          some (List.replicate level (sign (base - 1)) ++ write (level + 2) number)
        else go sign write base (level + 1) rounds (number - size)

/-- How a file is cut. -/
inductive Cutting where
  | lines (count : Nat)
  | bytes (count : Nat)
  | lineBytes (count : Nat)
  | chunks (count : Nat)
  | lineChunks (count : Nat)
  | turns (count : Nat)

def chunksOf (size : Nat) : Nat → List α → List (List α)
  | 0, _ => []
  | rounds + 1, list =>
      if list.isEmpty then [] else list.take size :: chunksOf size rounds (list.drop size)

def endedLines (ending : Char) (octets : Octets) : List Octets :=
  (linesWithEnds ending octets).map fun (line, ended) => if ended then line ++ [ending] else line

def packLines (size : Nat) : Octets → List Octets → List Octets
  | current, [] => if current.isEmpty then [] else [current]
  | current, line :: rest =>
      if current.length + line.length ≤ size then packLines size (current ++ line) rest
      else
        let before := if current.isEmpty then [] else [current]
        let whole := line.length / size * size
        let parts := chunksOf size (line.length + 1) (line.take whole)
        before ++ parts ++ packLines size (line.drop whole) rest

def lineChunksOf (octets : Octets) (ending : Char) (count : Nat) : List Octets :=
  let size := max (octets.length / count) 1
  let placed := (endedLines ending octets).foldl (fun (state : List (Nat × Octets) × Nat) line =>
    ((min (state.2 / size) (count - 1), line) :: state.1, state.2 + line.length)) ([], 0)
  (List.range count).map fun index =>
    Outlet.joined ((placed.1.filter fun entry => entry.1 = index).map Prod.snd)

def Cutting.parts (cutting : Cutting) (ending : Char) (octets : Octets) : List Octets :=
  let length := octets.length
  match cutting with
  | lines count => (chunksOf count (length + 1) (endedLines ending octets)).map List.flatten
  | bytes count => chunksOf count (length + 1) octets
  | lineBytes count => packLines count [] (endedLines ending octets)
  | chunks count =>
      let size := length / count
      (List.range count).map fun index =>
        let start := index * size
        if index + 1 = count then octets.drop start else (octets.drop start).take size
  | lineChunks count => lineChunksOf octets ending count
  | turns count =>
      let all := endedLines ending octets
      (List.range count).map fun index =>
        ((all.zipIdx.filter fun entry => entry.2 % count = index).map Prod.fst).flatten

/-- Reads how a file is to be cut into a number of chunks: one of them may be asked for. -/
def chunkRequest? (text : Octets) : Option (Cutting × Option Nat) :=
  let parts := Text.split (· = '/') text
  let make (kind : Nat → Cutting) (parts : List Octets) : Option (Cutting × Option Nat) :=
    match parts.map Text.readDigits? with
    | [some count] => if 0 < count then some (kind count, none) else none
    | [some index, some count] =>
        if 0 < index && index ≤ count then some (kind count, some index) else none
    | _ => none
  match parts with
  | ['l'] :: rest => make .lineChunks rest
  | ['r'] :: rest => make .turns rest
  | rest => make .chunks rest

def split : Tool := fun arguments _ =>
  withArguments "split"
      [.setting "a" "suffix-length", .setting "additional-suffix" "additional-suffix",
        .setting "b" "bytes", .setting "C" "line-bytes", .flag "d" "",
        .choice "d" "numeric-suffixes", .flag "x" "", .choice "x" "hex-suffixes",
        .flag "e" "elide-empty-files", .setting "l" "lines", .setting "n" "number",
        .setting "t" "separator", .flag "u" "unbuffered", .flag "verbose" "verbose",
        .setting "filter" "filter"] 1 (old arguments) fun a => do
    let ending := match a.value? "t" with
      | some ['\\', '0'] => '\x00'
      | some (c :: _) => c
      | _ => '\n'
    let sized (what : String) (kind : Nat → Cutting) (text : Octets) :
        Except Octets (Cutting × Option Nat) :=
      match (count? text).filter (0 < ·) with
      | some count => .ok (kind count, none)
      | none => .error (("invalid number of " ++ what ++ ": ").toList ++ quoted text)
    let cutting? : Except Octets (Cutting × Option Nat) :=
      match (a.last? ["l", "b", "C", "n"]).getD "" with
      | "b" => sized "bytes" .bytes ((a.value? "b").getD [])
      | "C" => sized "lines" .lineBytes ((a.value? "C").getD [])
      | "l" => sized "lines" .lines ((a.value? "l").getD [])
      | "n" =>
          let text := (a.value? "n").getD []
          match chunkRequest? text with
          | some found => .ok found
          | none => .error ("invalid number of chunks: ".toList ++ quoted text)
      | _ => .ok (.lines 1000, none)
    match cutting? with
    | .error complaint => fail "split" complaint 1
    | .ok (cutting, index?) =>
        let file := a.operands.headD ['-']
        match ← fileContents file with
        | .error failure =>
            fail "split" ("cannot open ".toList ++ quoted file ++
              withReason " for reading".toList failure) 1
        | .ok octets =>
            let parts := cutting.parts ending octets
            match index? with
            | some index => emit "split" (parts[index - 1]?.getD [])
            | none =>
                let parts := if a.has "e" then parts.filter fun part => !part.isEmpty else parts
                let (signs, first) :=
                  if a.has "x" then ("0123456789abcdef".toList, a.value? "x")
                  else if a.has "d" then ("0123456789".toList, a.value? "d")
                  else ("abcdefghijklmnopqrstuvwxyz".toList, none)
                let start := (first.bind Text.readDigits?).getD 0
                let width :=
                  match (a.value? "a").bind Text.readDigits? with
                  | some width => if width = 0 then none else some width
                  | none => if start = 0 && !a.has "n" then none else some (max 2 (shown parts.length).length)
                write a signs width start parts
where
  old (arguments : List Octets) : List Octets :=
    match arguments with
    | ('-' :: c :: digits) :: rest =>
        if (c :: digits).all Char.isDigit then "-l".toList :: (c :: digits) :: rest else arguments
    | arguments => arguments
  write (a : Arguments) (signs : Octets) (width : Option Nat) : Nat → List Octets → Action Nat
    | _, [] => return 0
    | number, part :: rest => do
        match splitSuffix? signs width number with
        | none => fail "split" "output file suffixes exhausted".toList 1
        | some suffix =>
            let name := (a.operands[1]?).getD ['x'] ++ suffix ++
              (a.value? "additional-suffix").getD []
            if a.has "verbose" then
              let _ ← emit "split" ("creating file ".toList ++ quoted name ++ ['\n'])
            match ← (Task.openFile ⟨name⟩ .write : Action _) with
            | .error failure => fail "split" (withReason (shownName name) failure) 1
            | .ok descriptor =>
                if !part.isEmpty then
                  let _ ← (Task.write descriptor part : Action _)
                Task.close descriptor
                write a signs width (number + 1) rest

end Clausal.Utility

import Clausal.FileSystem.Edit
import Clausal.Utility.Basic

/-!
# Copying blocks

A copy reads blocks of a size, changes them if that is asked for, and writes blocks of another
size; at the end it says how many blocks were whole and how many were not.
-/

namespace Clausal.Utility.Blocks

open Machine (Action Descriptor Failure Opened Task)
open Text (Octets)

/-- What a copy is told, word by word. -/
structure Request where
  input : Option Octets
  output : Option Octets
  inputSize : Nat
  outputSize : Nat
  isDirect : Bool
  recordSize : Nat
  count : Option Nat
  skipped : Nat
  passed : Nat
  conversions : List Octets
  inputFlags : List Octets
  outputFlags : List Octets
  status : Octets

def Request.start : Request where
  input := none
  output := none
  inputSize := 512
  outputSize := 512
  isDirect := false
  recordSize := 0
  count := none
  skipped := 0
  passed := 0
  conversions := []
  inputFlags := []
  outputFlags := []
  status := []

def size? (octets : Octets) : Option Nat :=
  (Text.split (· = 'x') octets).foldl (fun product part => do
    let (digits, unit) := part.span Char.isDigit
    let factor ← match unit with
      | ['c'] | ['B'] => some 1
      | ['w'] => some 2
      | unit => factor? unit
    return (← product) * (← Text.readDigits? digits) * factor) (some 1)

def names (value : Octets) : List Octets := Text.split (· = ',') value

def Request.add (r : Request) (word : Octets) : Except Octets Request := do
  let (key, rest) := word.span (· != '=')
  let value := rest.drop 1
  let unknown : Except Octets Request :=
    .error ("unrecognized operand ".toList ++ quoted word)
  let number (isPositive : Bool) : Except Octets Nat :=
    match size? value with
    | some n => if isPositive && n = 0 then bad else .ok n
    | none => bad
  if rest.isEmpty then unknown
  else
    match String.ofList key with
    | "if" => return { r with input := some value }
    | "of" => return { r with output := some value }
    | "bs" =>
        let n ← number true
        return { r with inputSize := n, outputSize := n, isDirect := true }
    | "ibs" => return { r with inputSize := ← number true }
    | "obs" => return { r with outputSize := ← number true }
    | "cbs" => return { r with recordSize := ← number true }
    | "count" =>
        let n ← number false
        return { r with count := some n, inputFlags := if value.getLast? = some 'B' then "count_bytes".toList :: r.inputFlags else r.inputFlags }
    | "skip" | "iseek" =>
        let n ← number false
        return { r with skipped := n, inputFlags := if value.getLast? = some 'B' then "skip_bytes".toList :: r.inputFlags else r.inputFlags }
    | "seek" | "oseek" =>
        let n ← number false
        return { r with passed := n, outputFlags := if value.getLast? = some 'B' then "seek_bytes".toList :: r.outputFlags else r.outputFlags }
    | "conv" => return { r with conversions := r.conversions ++ names value }
    | "iflag" => return { r with inputFlags := r.inputFlags ++ names value }
    | "oflag" => return { r with outputFlags := r.outputFlags ++ names value }
    | "status" => return { r with status := value }
    | _ => unknown
where
  bad : Except Octets Nat :=
    .error ("invalid number: ".toList ++ quoted ((word.dropWhile (· != '=')).drop 1))

namespace Request

def converts (r : Request) (name : String) : Bool := r.conversions.contains name.toList

def hasInputFlag (r : Request) (name : String) : Bool := r.inputFlags.contains name.toList

def hasOutputFlag (r : Request) (name : String) : Bool := r.outputFlags.contains name.toList

def outputStart (r : Request) : Nat :=
  if r.hasOutputFlag "seek_bytes" then r.passed else r.passed * r.outputSize

end Request

/-! ## Conversions -/

def swapped : Octets → Octets
  | a :: b :: rest => b :: a :: swapped rest
  | rest => rest

def toRecords (size : Nat) (octets : Octets) : Octets :=
  (lines octets).flatMap fun line => padRight size (line.take size)

def toLines (size : Nat) : Nat → Octets → Octets
  | 0, _ => []
  | rounds + 1, octets =>
      if octets.isEmpty || size = 0 then []
      else
        let line := ((octets.take size).reverse.dropWhile (· = ' ')).reverse
        line ++ '\n' :: toLines size rounds (octets.drop size)

def Request.convert (r : Request) (block : Octets) : Octets :=
  let block := if r.converts "sync" then
      block ++ List.replicate (r.inputSize - block.length)
        (if r.converts "block" || r.converts "unblock" then ' ' else '\x00')
    else block
  let block := if r.converts "swab" then swapped block else block
  let block := if r.converts "ucase" then block.map Char.toUpper
    else if r.converts "lcase" then block.map Char.toLower else block
  if r.converts "block" then toRecords r.recordSize block
  else if r.converts "unblock" then toLines r.recordSize (block.length + 1) block
  else block

/-! ## Copying -/

/-- How many blocks were whole, and how many were not. -/
structure Counts where
  wholeIn : Nat
  partIn : Nat
  wholeOut : Nat
  partOut : Nat
  bytes : Nat
  failure : Option Failure

/-- Where blocks go: to a number, and for a file also to a place in it. -/
structure Target where
  descriptor : Descriptor
  file : Option (FileId × Nat)

def put (r : Request) (t : Target) (c : Counts) (block : Octets) : Action (Target × Counts) := do
  if block.isEmpty || c.failure.isSome then return (t, c)
  else
    let size := block.length
    let c := { c with bytes := c.bytes + size }
    let c := if size = r.outputSize then { c with wholeOut := c.wholeOut + 1 }
      else { c with partOut := c.partOut + 1 }
    match t.file with
    | some (id, offset) =>
        let bytes := (Octets.toBytes block).toArray
        let _ ← (Task.browse (fun files => files.writeAt id offset bytes) : Action FileSystem)
        return ({ t with file := some (id, offset + size) }, c)
    | none =>
        match ← (Task.write t.descriptor block : Action _) with
        | .ok () => return (t, c)
        | .error failure => return (t, { c with failure := some failure })

def putWhole (r : Request) : Nat → Target → Counts → Octets → Action (Target × Counts × Octets)
  | 0, t, c, waiting => return (t, c, waiting)
  | rounds + 1, t, c, waiting => do
      if waiting.length < r.outputSize then return (t, c, waiting)
      else
        let (t, c) ← put r t c (waiting.take r.outputSize)
        putWhole r rounds t c (waiting.drop r.outputSize)

def readBlock (isFull : Bool) (descriptor : Descriptor) (size : Nat) :
    Nat → Octets → Action (Except Failure Octets)
  | 0, taken => return .ok taken
  | rounds + 1, taken => do
      match ← (Task.read descriptor (size - taken.length) : Action _) with
      | .error failure => return .error failure
      | .ok [] => return .ok taken
      | .ok octets =>
          let taken := taken ++ octets
          if isFull && taken.length < size then readBlock isFull descriptor size rounds taken
          else return .ok taken

/-- Copies blocks up to the end, or as many as are asked for. -/
def copy (r : Request) (descriptor : Descriptor) :
    Nat → Target → Counts → Octets → Nat → Nat → Action (Target × Counts)
  | 0, t, c, _, _, _ => return (t, c)
  | rounds + 1, t, c, waiting, blocks, bytes => do
      let isByBytes := r.hasInputFlag "count_bytes"
      let isOver := c.failure.isSome || r.count.any fun count =>
        decide (count ≤ if isByBytes then bytes else blocks)
      let size :=
        match r.count, isByBytes with
        | some count, true => min r.inputSize (count - bytes)
        | _, _ => r.inputSize
      let found ← if isOver then pure (.ok [])
        else readBlock (r.hasInputFlag "fullblock") descriptor size roundBound []
      match found with
      | .error failure => return (t, { c with failure := some failure })
      | .ok [] =>
          let (t, c, waiting) ← putWhole r roundBound t c waiting
          put r t c waiting
      | .ok block =>
          let length := block.length
          let c := if length = r.inputSize then { c with wholeIn := c.wholeIn + 1 }
            else { c with partIn := c.partIn + 1 }
          let block := r.convert block
          if r.isDirect && r.conversions.all (fun name => name != "block".toList && name != "unblock".toList) then
            let (t, c) ← put r t c block
            copy r descriptor rounds t c [] (blocks + 1) (bytes + length)
          else
            let (t, c, waiting) ← putWhole r roundBound t c (waiting ++ block)
            copy r descriptor rounds t c waiting (blocks + 1) (bytes + length)

/-- Passes over the start of the input; the flag says whether there was so much. -/
def skip (descriptor : Descriptor) : Nat → Nat → Action Bool
  | 0, _ => return true
  | rounds + 1, count => do
      if count = 0 then return true
      else
        match ← (Task.read descriptor (min count pieceSize) : Action _) with
        | .ok (_ :: octets) => skip descriptor rounds (count - (octets.length + 1))
        | _ => return false

/-! ## What is said at the end -/

def sizeText (base : Nat) (units : List String) (bytes : Nat) : Octets :=
  go 10 1 (units.map String.toList)
where
  go : Nat → Nat → List Octets → Octets
    | 0, _, _ => []
    | rounds + 1, power, units =>
        match units with
        | [] => []
        | unit :: more =>
            let tenths := (bytes * 10 + power / 2) / power
            if more.isEmpty || tenths < base * 10 then
              (if tenths < 100 && power != 1 then shown (tenths / 10) ++ '.' :: shown (tenths % 10)
              else shown ((bytes + power / 2) / power)) ++ unit
            else go rounds (power * base) more

def summary (r : Request) (c : Counts) : Octets :=
  let records := s!"{c.wholeIn}+{c.partIn} records in\n{c.wholeOut}+{c.partOut} records out\n".toList
  let plain := if c.bytes = 1 then "1 byte".toList else shown c.bytes ++ " bytes".toList
  let sizes :=
    if c.bytes < 1000 then []
    else
      " (".toList ++ sizeText 1000 [" B", " kB", " MB", " GB", " TB"] c.bytes ++
        (if c.bytes < 1024 then []
        else ", ".toList ++ sizeText 1024 [" B", " KiB", " MiB", " GiB", " TiB"] c.bytes) ++ [')']
  if r.status = "none".toList then []
  else if r.status = "noxfer".toList then records
  else records ++ plain ++ sizes ++ " copied, 0.0001 s, ".toList ++
    sizeText 1000 [" B/s", " kB/s", " MB/s", " GB/s", " TB/s"] (c.bytes * 10000) ++ ['\n']

/-! ## All of it -/

/-- Opens the output and makes it as long as what is passed over. -/
def openOutput (r : Request) (file : Octets) : Action (Except Failure Target) := do
  let isThere := ((← (Task.browse fun files => files : Action FileSystem)).get ⟨file⟩).isOk
  if r.converts "excl" && isThere then return .error (.file .alreadyThere)
  else if r.converts "nocreat" && !isThere then return .error (.file .notFound)
  else
    match ← (Task.openFile ⟨file⟩ (if r.hasOutputFlag "append" then .append else .readWrite) : Action _) with
    | .error failure => return .error failure
    | .ok descriptor =>
        match ← (Task.inspect descriptor : Action _) with
        | some (.file id _) =>
            let start := r.outputStart
            if !r.converts "notrunc" && !r.hasOutputFlag "append" then
              let _ ← (Task.browse (fun files =>
                files.modifyBody id fun body => body.resized files.moment start) : Action FileSystem)
            if r.hasOutputFlag "append" then return .ok ⟨descriptor, none⟩
            else return .ok ⟨descriptor, some (id, start)⟩
        | _ => return .ok ⟨descriptor, none⟩

def memoryText (bytes : Nat) : Octets :=
  shown bytes ++ " bytes (".toList ++
    sizeText 1024 [" B", " KiB", " MiB", " GiB", " TiB", " PiB", " EiB"] bytes ++ [')']

def copyFiles (r : Request) : Action Nat := do
  if FileBody.sizeLimit < r.inputSize then
    return ← fail "dd" ("memory exhausted by input buffer of size ".toList ++
      memoryText r.inputSize) 1
  if FileBody.sizeLimit < r.outputSize then
    return ← fail "dd" ("memory exhausted by output buffer of size ".toList ++
      memoryText r.outputSize) 1
  if FileBody.sizeLimit < r.outputStart && r.output.isSome then
    let _ ← openOutput { r with passed := 0 } (r.output.getD [])
    return ← fail "dd" ("failed to truncate to ".toList ++ shown r.outputStart ++
      " bytes in output file ".toList ++ quoted (r.output.getD []) ++ ": ".toList ++
      FileError.tooLarge.reason.toList) 1
  let opened ← match r.input with
    | none => pure (.ok 0)
    | some file => (Task.openFile ⟨file⟩ .read : Action _)
  match opened with
  | .error failure =>
      fail "dd" ("failed to open ".toList ++ withReason (quoted (r.input.getD [])) failure) 1
  | .ok input =>
      let target ← match r.output with
        | none => pure (.ok ⟨1, none⟩)
        | some file => openOutput r file
      match target with
      | .error failure =>
          fail "dd" ("failed to open ".toList ++ withReason (quoted (r.output.getD [])) failure) 1
      | .ok target =>
          let toSkip := if r.hasInputFlag "skip_bytes" then r.skipped else r.skipped * r.inputSize
          if !(← skip input roundBound toSkip) then
            complain "dd" (shownName (r.input.getD "standard input".toList) ++
              ": cannot skip to specified offset".toList)
          let (_, c) ← copy r input roundBound target ⟨0, 0, 0, 0, 0, none⟩ [] 0 0
          if let some failure := c.failure then
            complain "dd" (match failure with
              | .file .isFolder => withReason ("error reading ".toList ++ quoted (r.input.getD [])) failure
              | failure => withReason ("error writing ".toList ++
                  quoted (r.output.getD "standard output".toList)) failure)
          report (summary r c)
          return if c.failure.isSome then 1 else 0

end Blocks

open Text (Octets) in
def dd : Tool := fun arguments _ => do
  let arguments := arguments.filter (· != ['-', '-'])
  let found : Except Octets Blocks.Request :=
    arguments.foldlM Blocks.Request.add Blocks.Request.start
  match found with
  | .ok request => Blocks.copyFiles request
  | .error complaint =>
      if "unrecognized".toList.isPrefixOf complaint then misuse "dd" complaint 1
      else fail "dd" complaint 1

end Clausal.Utility

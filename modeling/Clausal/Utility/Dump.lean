import Clausal.Text.Floating
import Clausal.Utility.Basic

/-!
# Showing bytes

Bytes are shown in blocks, each after its place.  A block is shown once in each format that is
asked for; the columns of all formats are lined up.
-/

namespace Clausal.Utility

open Machine (Action Descriptor Task)
open Text (Octets)

namespace Dump

inductive Kind where
  | named
  | printed
  | signed
  | unsigned
  | octal
  | hex
  | floating
  deriving DecidableEq, Repr

structure Form where
  kind : Kind
  size : Nat
  hasText : Bool
  deriving DecidableEq, Repr

def digitsTo (base : Nat) : Nat → Nat → Octets → Octets
  | 0, _, digits => digits
  | rounds + 1, n, digits =>
      let digit := n % base
      let c := if digit < 10 then Char.ofNat ('0'.toNat + digit)
        else Char.ofNat ('a'.toNat + digit - 10)
      if n < base then c :: digits else digitsTo base rounds (n / base) (c :: digits)

def inBase (base n : Nat) : Octets := digitsTo base 70 n []

def zeroPad (width : Nat) (digits : Octets) : Octets :=
  List.replicate (width - digits.length) '0' ++ digits

def Form.width (f : Form) : Nat :=
  match f.kind with
  | .named | .printed => 3
  | .octal => (8 * f.size + 2) / 3
  | .hex => 2 * f.size
  | .unsigned => match f.size with
    | 1 => 3
    | 2 => 5
    | 4 => 10
    | _ => 20
  | .signed => match f.size with
    | 1 => 4
    | 2 => 6
    | 4 => 11
    | _ => 20
  | .floating => match f.size with
    | 4 => 15
    | 8 => 24
    | _ => 29

def controlNames : List String :=
  ["nul", "soh", "stx", "etx", "eot", "enq", "ack", "bel", "bs", "ht", "nl", "vt", "ff", "cr",
    "so", "si", "dle", "dc1", "dc2", "dc3", "dc4", "nak", "syn", "etb", "can", "em", "sub",
    "esc", "fs", "gs", "rs", "us", "sp"]

def namedChar (n : Nat) : Octets :=
  let n := n % 128
  if n = 127 then "del".toList
  else match controlNames[n]? with
    | some name => name.toList
    | none => [Char.ofNat n]

def printedChar (n : Nat) : Octets :=
  match n with
  | 0 => ['\\', '0']
  | 7 => ['\\', 'a']
  | 8 => ['\\', 'b']
  | 9 => ['\\', 't']
  | 10 => ['\\', 'n']
  | 11 => ['\\', 'v']
  | 12 => ['\\', 'f']
  | 13 => ['\\', 'r']
  | n => if isPlain (Char.ofNat n) then [Char.ofNat n] else zeroPad 3 (inBase 8 n)

/-- How numbers with a mantissa and an exponent of two are stored. -/
structure Layout where
  precision : Nat
  /-- Whether the first bit of the mantissa is stored although it is always the same. -/
  isExplicit : Bool
  exponentBits : Nat
  digits : Nat

namespace Layout

def single : Layout := ⟨24, false, 8, 6⟩

def double : Layout := ⟨53, false, 11, 15⟩

def extended : Layout := ⟨64, true, 15, 18⟩

def powerOfTwo (exponent : Nat) : Nat := exponent.repeat (2 * ·) 1

def leastExponent (l : Layout) : Int :=
  3 - (powerOfTwo (l.exponentBits - 1) : Int) - l.precision

def nearest (l : Layout) (n d : Nat) : Nat × Nat :=
  let guess := max ((n.log2 : Int) - d.log2 - l.precision) l.leastExponent
  let (n₁, d₁) := Text.Magnitude.scale n d (-guess)
  let exponent := if n₁ / d₁ < powerOfTwo l.precision then guess else guess + 1
  let (n₂, d₂) := Text.Magnitude.scale n d (-exponent)
  Text.Magnitude.scale (Text.Magnitude.roundDiv n₂ d₂) 1 exponent

def cutDigits (count n d : Nat) : Nat × Nat :=
  let (digits, exponent) := Text.Magnitude.leading (count - 1) n d
  let exponent := exponent - (count - 1 : Nat)
  if 0 ≤ exponent then (digits * Text.Magnitude.powerOfTen exponent.toNat, 1)
  else (digits, Text.Magnitude.powerOfTen exponent.natAbs)

def shortestFrom (l : Layout) (n d : Nat) : Nat → Nat → Octets
  | 0, count => Text.Magnitude.general count false n d
  | rounds + 1, count =>
      let (n₁, d₁) := cutDigits count n d
      let (n₂, d₂) := l.nearest n₁ d₁
      if n₂ * d = n * d₂ then Text.Magnitude.general count false n d
      else shortestFrom l n d rounds (count + 1)

def written (l : Layout) (bits : Nat) : Octets :=
  let storedBits := if l.isExplicit then l.precision else l.precision - 1
  let stored := powerOfTwo storedBits
  let one := powerOfTwo (l.precision - 1)
  let largest := powerOfTwo l.exponentBits
  let sign : Octets := if bits / (stored * largest) % 2 = 1 then ['-'] else []
  let exponent := bits / stored % largest
  let low := bits % stored
  let isOdd := l.isExplicit && exponent != 0 && low < one
  if exponent = largest - 1 || isOdd then
    sign ++ (if low % one = 0 && !isOdd then "inf" else "nan").toList
  else
    let mantissa := if l.isExplicit || exponent = 0 then low else low + one
    let (n, d) := Text.Magnitude.fraction mantissa ((max exponent 1 : Nat) - 1 + l.leastExponent)
    if mantissa = 0 then sign ++ ['0']
    else sign ++ l.shortestFrom n d 20 (if mantissa < one then 1 else l.digits)

end Layout

def Form.written (f : Form) (n : Nat) : Octets :=
  match f.kind with
  | .named => namedChar n
  | .printed => printedChar n
  | .octal => zeroPad f.width (inBase 8 n)
  | .hex => zeroPad f.width (inBase 16 n)
  | .unsigned => shown n
  | .signed =>
      let half := 8 * f.size - 1 |>.repeat (2 * ·) 1
      if n < half then shown n else '-' :: shown (2 * half - n)
  | .floating => match f.size with
    | 4 => Layout.single.written n
    | 8 => Layout.double.written n
    | _ => Layout.extended.written n

def valueOf (bigFirst : Bool) (bytes : Octets) : Nat :=
  (if bigFirst then bytes else bytes.reverse).foldl (fun value c => 256 * value + c.toNat) 0

structure Request where
  forms : List Form
  /-- The base of the places; nothing if they are not shown. -/
  base : Option Nat
  blockSize : Nat
  showsAll : Bool
  bigFirst : Bool
  label : Option Nat
  deriving DecidableEq, Repr

namespace Request

def place (r : Request) (offset : Nat) : Octets :=
  let text (base offset : Nat) : Octets :=
    zeroPad (if base = 16 then 6 else 7) (inBase base offset)
  match r.base, r.label with
  | none, none => []
  | some base, none => text base offset
  | none, some _ => '(' :: text 8 offset ++ [')']
  | some base, some label => text base offset ++ " (".toList ++ text base (offset + label) ++ [')']

def margin (r : Request) : Octets :=
  match r.base, r.label with
  | none, none => []
  | some 16, _ => List.replicate 6 ' '
  | _, _ => List.replicate 7 ' '

def blockWidth (r : Request) : Nat :=
  r.forms.foldl (fun widest f => max widest ((f.width + 1) * (r.blockSize / f.size))) 0

/-- The columns of a block; those that are left are counted down. -/
def columns (r : Request) (f : Form) (pad : Nat) : Nat → Octets → Octets
  | 0, _ => []
  | left + 1, bytes =>
      if bytes.isEmpty then []
      else
        let count := r.blockSize / f.size
        let width := pad * (left + 1) / count - pad * left / count + f.width
        let value := bytes.take f.size
        let value := value ++ List.replicate (f.size - value.length) '\x00'
        padLeft width (f.written (valueOf r.bigFirst value)) ++
          columns r f pad left (bytes.drop f.size)

def row (r : Request) (f : Form) (block : Octets) : Octets :=
  let count := r.blockSize / f.size
  let pad := r.blockWidth - f.width * count
  let columns := r.columns f pad count block
  if !f.hasText then columns
  else
    padRight r.blockWidth columns ++ "  >".toList ++
      block.map (fun c => if isPlain c then c else '.') ++ ['<']

def rows (r : Request) (offset : Nat) (block : Octets) : Octets :=
  let place := r.place offset
  (r.forms.mapIdx fun index f =>
    (if index = 0 then place else r.margin) ++ r.row f block ++ ['\n']).flatten

/-- All blocks, the last first, where they end, and the last of them; a star stands for
blocks that are the same as the one before. -/
def blocks (r : Request) :
    Nat → Nat → Option (Octets × Bool) → Octets → List Octets →
      List Octets × Nat × Option (Octets × Bool)
  | 0, offset, before, _, done => (done, offset, before)
  | rounds + 1, offset, before, bytes, done =>
      if bytes.isEmpty then (done, offset, before)
      else
        let block := bytes.take r.blockSize
        let rest := bytes.drop r.blockSize
        let next := offset + block.length
        let isSame := !r.showsAll && block.length = r.blockSize &&
          (before.map Prod.fst) = some block
        if isSame then
          let wasSame := before.any Prod.snd
          blocks r rounds next (some (block, true)) rest
            (if wasSame then done else ['*', '\n'] :: done)
        else blocks r rounds next (some (block, false)) rest (r.rows offset block :: done)

end Request

def letterSize? : Char → Option Nat
  | 'C' => some 1
  | 'S' => some 2
  | 'I' => some 4
  | 'L' => some 8
  | _ => none

def floatSize? : Char → Option Nat
  | 'F' => some 4
  | 'D' => some 8
  | 'L' => some 16
  | _ => none

def readForms (whole : Octets) : Nat → Octets → Except Octets (List Form)
  | 0, _ => return []
  | rounds + 1, octets =>
      match octets with
      | [] => return []
      | letter :: rest => do
          let kind ← match letter with
            | 'a' => pure Kind.named
            | 'c' => pure Kind.printed
            | 'd' => pure Kind.signed
            | 'u' => pure Kind.unsigned
            | 'o' => pure Kind.octal
            | 'x' => pure Kind.hex
            | 'f' => pure Kind.floating
            | letter =>
                throw ("invalid character '".toList ++ letter :: "' in type string ".toList ++
                  quoted whole)
          let (size, rest) ←
            if kind = .named || kind = .printed then pure (1, rest)
            else
              let isFloating := kind = .floating
              let standard := if isFloating then 8 else 4
              let (digits, more) := rest.span Char.isDigit
              match Text.readDigits? digits, more with
              | some size, more =>
                  let sizes := if isFloating then [4, 8, 16] else [1, 2, 4, 8]
                  if sizes.contains size then pure (size, more)
                  else throw ("invalid type string ".toList ++ quoted whole ++
                    ";\nthis system doesn't provide a ".toList ++ digits ++
                    (if isFloating then "-byte floating point type" else "-byte integral type").toList)
              | none, c :: more =>
                  match if isFloating then floatSize? c else letterSize? c with
                  | some size => pure (size, more)
                  | none => pure (standard, c :: more)
              | none, [] => pure (standard, [])
          let (hasText, rest) := match rest with
            | 'z' :: rest => (true, rest)
            | rest => (false, rest)
          return ⟨kind, size, hasText⟩ :: (← readForms whole rounds rest)

def shortForms : List (String × String) :=
  [("a", "a"), ("b", "o1"), ("c", "c"), ("d", "u2"), ("f", "fF"), ("i", "dI"), ("l", "dL"),
    ("o", "o2"), ("s", "d2"), ("x", "x2"), ("B", "o2"), ("D", "u4"), ("H", "x4"), ("h", "x2"),
    ("O", "o4"), ("X", "x4"), ("F", "fD"), ("e", "fD"), ("I", "dL"), ("L", "dL")]

/-! ## Counts -/

def unit? : Octets → Option Nat
  | [] => some 1
  | ['b'] => some 512
  | [letter] => if letter = 'B' then none else unitFactor? 1024 letter
  | [letter, 'B'] | [letter, 'D'] => unitFactor? 1000 letter
  | [letter, 'i', 'B'] => unitFactor? 1024 letter
  | _ => none

/-- The digits at the start of a count, to the base that its first characters tell, and what
follows. -/
def readStart (anyBase : Bool) (octets : Octets) : Option Nat × Octets :=
  let read (base : Nat) (octets : Octets) : Option Nat × Octets :=
    let isDigit (c : Char) : Bool :=
      (Text.Magnitude.digit? (base = 16) c.toLower).any fun digit => decide (digit < base)
    let (digits, rest) := octets.span isDigit
    if digits.isEmpty then (none, octets)
    else
      (some (digits.foldl (fun value c =>
        base * value + (Text.Magnitude.digit? true c.toLower).getD 0) 0), rest)
  let octets := octets.dropWhile fun c => c = ' ' || ('\t' ≤ c && c ≤ '\x0d')
  let octets := if octets.head? = some '+' then octets.tail else octets
  if !anyBase then read 10 octets
  else
    match octets with
    | '0' :: x :: rest =>
        if x = 'x' || x = 'X' then
          match read 16 rest with
          | (none, _) => (some 0, x :: rest)
          | found => found
        else read 8 octets
    | octets => read 10 octets

def readCount (anyBase hasUnits : Bool) (option : String) (octets : Octets) :
    Except Octets Nat :=
  let argument := option.toList ++ " argument ".toList ++ quoted octets
  let (start, rest) := readStart anyBase octets
  let value := start.getD 1
  let factor := if hasUnits then unit? rest else if rest.isEmpty then some 1 else none
  if octets.head? = some '-' || start.isNone && (rest.isEmpty || factor.isNone) then
    .error ("invalid ".toList ++ argument)
  else
    match factor with
    | none => .error ("invalid suffix in ".toList ++ argument)
    | some factor =>
        if 18446744073709551615 < value * factor then .error (argument ++ " too large".toList)
        else .ok (value * factor)

def oldOffset? (octets : Octets) : Option Nat :=
  match octets with
  | [] => none
  | octets =>
      let octets := if octets.head? = some '+' then octets.tail else octets
      let isHex := octets.take 2 = ['0', 'x'] || octets.take 2 = ['0', 'X']
      let digits := if isHex then octets.drop 2 else octets
      let base := if isHex then 16 else 8
      let (number, rest) := digits.span fun c =>
        (Text.Magnitude.digit? isHex c.toLower).any fun digit => decide (digit < base)
      let value := number.foldl (fun value c =>
        base * value + (Text.Magnitude.digit? true c.toLower).getD 0) 0
      match number, rest with
      | [], _ => none
      | _, [] => some value
      | _, ['b'] => some (value * 512)
      | _, ['B'] => some (value * 1024)
      | _, _ => none

/-! ## Requests -/

def start (forms : List Form) : Request where
  forms
  base := some 8
  blockSize := 16
  showsAll := false
  bigFirst := false
  label := none

/-- What options ask for: the request, how much is passed over, how much is shown at most, and
how long texts are at least if texts are looked for. -/
structure Order where
  request : Request
  skipped : Nat
  limit : Option Nat
  texts : Option Nat
  warning : Octets

def order (name : String → String) (a : Arguments) : Except Octets Order := do
  let forms ← a.options.mapM fun (key, value) =>
    if key = "t" then readForms value (value.length + 1) value
    else match shortForms.lookup key with
      | some form => readForms form.toList (form.length + 1) form.toList
      | none => .ok []
  let base ← match a.value? "A" with
    | none => pure (some 8)
    | some ('o' :: _) => pure (some 8)
    | some ('d' :: _) => pure (some 10)
    | some ('x' :: _) => pure (some 16)
    | some ('n' :: _) => pure none
    | some other =>
        throw ("invalid output address radix '".toList ++ [other.headD '\x00'] ++
          "'; it must be one character from [doxn]".toList)
  let forms := forms.flatten
  let skipped ← match a.value? "j" with
    | none => pure 0
    | some value => readCount true true (name "j") value
  let limit ← match a.value? "N" with
    | none => pure none
    | some value => some <$> readCount true true (name "N") value
  let texts ← match a.last? ["S", "strings"] with
    | none => pure none
    | some key =>
        match a.value? key with
        | none | some [] => pure (some 3)
        | some value => some <$> readCount true true (name key) value
  let width ← match a.value? "w" with
    | none => pure none
    | some [] => pure (some 32)
    | some value => some <$> readCount false false (name "w") value
  if texts.isSome && !forms.isEmpty then
    throw "no type may be specified when dumping strings".toList
  let forms := if forms.isEmpty then [⟨.octal, 2, false⟩] else forms
  let unit := forms.foldl (fun unit f => max unit f.size) 1
  let fits := width.all fun width => width % unit = 0 && width != 0
  return {
    request := { start forms with
      base
      blockSize := if fits then width.getD 16 else unit
      showsAll := a.has "v"
      bigFirst := (a.value? "endian").any fun value => value.head? = some 'b' }
    skipped
    limit
    texts
    warning := if fits then [] else
      "warning: invalid width ".toList ++ shown (width.getD 0) ++ "; using ".toList ++
        shown unit ++ " instead".toList }

/-! ## Reading -/

/-- What is left to read of the inputs, which follow each other. -/
structure Reading where
  inputs : List Octets
  descriptor : Option (Descriptor × Octets)
  isFine : Bool

namespace Reading

def ready : Nat → Reading → Action Reading
  | 0, r => return r
  | rounds + 1, r => do
      match r.descriptor, r.inputs with
      | some _, _ | none, [] => return r
      | none, file :: rest =>
          match ← openInput file with
          | .ok descriptor => return ⟨rest, some (descriptor, file), r.isFine⟩
          | .error failure =>
              complainOf "od" file failure
              ready rounds ⟨rest, none, false⟩

/-- Up to so many bytes from the inputs; nothing at their end. -/
def next (count : Nat) : Nat → Reading → Action (Octets × Reading)
  | 0, r => return ([], r)
  | rounds + 1, r => do
      let r ← ready (r.inputs.length + 1) r
      match r.descriptor with
      | none => return ([], r)
      | some (descriptor, file) =>
          match ← (Task.read descriptor (min count pieceSize) : Action _) with
          | .ok (c :: octets) => return (c :: octets, r)
          | .ok [] =>
              closeInput descriptor
              next count rounds { r with descriptor := none }
          | .error failure =>
              complainOf "od" file failure
              closeInput descriptor
              next count rounds { r with descriptor := none, isFine := false }

def advance (count : Nat) (r : Reading) : Action (Octets × Reading) :=
  if count = 0 then return ([], r) else next count (r.inputs.length + 2) r

def passOver : Nat → Nat → Reading → Action (Nat × Reading)
  | 0, count, r => return (count, r)
  | rounds + 1, count, r => do
      let (octets, r) ← r.advance count
      if octets.isEmpty then return (count, r) else passOver rounds (count - octets.length) r

end Reading

def textsOf (least : Nat) :
    Octets → Nat → Octets → Nat → List (Nat × Octets) → List (Nat × Octets)
  | [], _, _, _, found => found.reverse
  | c :: rest, place, text, size, found =>
      if isPlain c then textsOf least rest (place + 1) (c :: text) (size + 1) found
      else if c = '\x00' && least ≤ size then
        textsOf least rest (place + 1) [] 0 ((place - size, text.reverse) :: found)
      else textsOf least rest (place + 1) [] 0 found

/-- What was shown so far, and what was read but not shown. -/
structure Progress where
  offset : Nat
  before : Option (Octets × Bool)
  waiting : Octets
  left : Option Nat

def showAll (request : Request) : Nat → Reading → Progress → Action Nat
  | 0, _, _ => return 1
  | rounds + 1, reading, p => do
      let (octets, reading) ← reading.advance (min pieceSize (p.left.getD pieceSize))
      let waiting := p.waiting ++ octets
      let isLast := octets.isEmpty
      let whole := if isLast then waiting.length
        else waiting.length / request.blockSize * request.blockSize
      let (shown, offset, before) :=
        request.blocks (whole + 1) p.offset p.before (waiting.take whole) []
      let ending := if isLast && (request.base.isSome || request.label.isSome) then
          request.place offset ++ ['\n']
        else []
      let status ← emit "od" (Outlet.joined (ending :: shown))
      if status != 0 || isLast then return if reading.isFine then status else 1
      else
        showAll request rounds reading
          ⟨offset, before, waiting.drop whole, p.left.map (· - octets.length)⟩

def gather : Nat → Option Nat → List Octets → Reading → Action (List Octets × Reading)
  | 0, _, pieces, r => return (pieces, r)
  | rounds + 1, left, pieces, r => do
      let (octets, r) ← r.advance (min pieceSize (left.getD pieceSize))
      if octets.isEmpty then return (pieces, r)
      else gather rounds (left.map (· - octets.length)) (octets :: pieces) r

/-- What operands ask for in the older form: how much is passed over, the label, and the
files that are left. -/
def oldOperands (traditional : Bool) (operands : List Octets) :
    Option Nat × Option Nat × List Octets :=
  let starts (text : Octets) : Bool := traditional || text.head? = some '+'
  match operands with
  | [a] => match starts a, oldOffset? a with
    | true, some offset => (some offset, none, [])
    | _, _ => (none, none, operands)
  | [a, b] => match starts b || b.head?.any Char.isDigit, oldOffset? b, oldOffset? a with
    | true, some label, some offset =>
        if traditional then (some offset, some label, []) else (some label, none, [a])
    | true, some offset, none => (some offset, none, [a])
    | _, _, _ => (none, none, operands)
  | [a, b, c] => match traditional, oldOffset? b, oldOffset? c with
    | true, some offset, some label => (some offset, some label, [a])
    | _, _, _ => (none, none, operands)
  | operands => (none, none, operands)

def carryOut (o : Order) (files : List Octets) : Action Nat := do
  let reading ← Reading.ready (files.length + 1) ⟨inputs files, none, true⟩
  if reading.descriptor.isNone then return 1
  else
    let (missing, reading) ← reading.passOver roundBound o.skipped
    if missing != 0 then
      fail "od" "cannot skip past end of combined input".toList 1
    else
      if !o.warning.isEmpty then complain "od" o.warning
      match o.texts with
      | none => showAll o.request roundBound reading ⟨o.skipped, none, [], o.limit⟩
      | some least =>
          let (pieces, reading) ← gather roundBound o.limit [] reading
          let texts := textsOf least (Outlet.joined pieces) o.skipped [] 0 []
          let line (text : Nat × Octets) : Octets :=
            (match o.request.base with
              | none => []
              | some _ => o.request.place text.1 ++ [' ']) ++ text.2 ++ ['\n']
          emitWith "od" (texts.flatMap line) (if reading.isFine then 0 else 1)

end Dump

def odSwitches : List Switch :=
  [.setting "A" "address-radix", .setting "j" "skip-bytes", .setting "N" "read-bytes",
    .setting "t" "format", .flag "v" "output-duplicates", .choice "w" "width",
    .setting "S" "", .choice "strings" "strings", .setting "endian" "endian", .flag "traditional" "traditional"] ++
    Dump.shortForms.map fun (key, _) => .flag key ""

def od : Tool := fun arguments _ =>
  withArguments "od" odSwitches 1 arguments fun a => do
    let byName (key : String) : String :=
      match odSwitches.find? fun s => s.key = key with
      | none => key
      | some s =>
          let isNamed := arguments.any fun argument =>
            match argument with
            | '-' :: '-' :: c :: rest =>
                ((c :: rest).takeWhile (· != '=')).isPrefixOf s.name.toList
            | _ => false
          if isNamed then s!"--{s.name}" else s!"-{key}"
    match (a.value? "endian").filter fun value =>
        value.isEmpty || !(value.isPrefixOf "little".toList || value.isPrefixOf "big".toList) with
    | some value =>
        complain "od" ("invalid argument ".toList ++ quoted value ++ " for '--endian'".toList)
        let _ ← (Task.write 2 ("Valid arguments are:\n  - 'little'\n  - 'big'\n" ++
          "Try 'od --help' for more information.\n").toList : Action _)
        return 1
    | none =>
        match Dump.order byName a with
        | .error complaint => fail "od" complaint 1
        | .ok order =>
            let isModern := a.hasAny ["A", "j", "N", "S", "strings", "t", "v", "w"]
            let traditional := a.has "traditional"
            let (offset?, label?, files) :=
              if isModern && !traditional then (none, none, a.operands)
              else Dump.oldOperands traditional a.operands
            if traditional && 1 < files.length then
              complain "od" ("extra operand ".toList ++ quoted (files.getD 1 []))
              misuse "od" "compatibility mode supports at most one file".toList 1
            else
              let skipped := offset?.getD order.skipped
              let label := label?.map fun label =>
                (label + 18446744073709551616 - skipped) % 18446744073709551616
              Dump.carryOut { order with skipped, request := { order.request with label } } files

end Clausal.Utility

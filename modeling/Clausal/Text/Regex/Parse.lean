import Clausal.Text.Regex.Basic
import Clausal.Text.Numeral

/-!
# Reading regular expressions

There are two ways to write them: in the basic one, operators are written with a backslash
before them, in the extended one without.
-/

namespace Clausal.Text.Regex

/-- How expressions are written. -/
structure Dialect where
  extended : Bool
  hasControls : Bool
  escapesInBrackets : Bool
  hasShorthands : Bool
  isStrict : Bool
  deriving DecidableEq, Repr

namespace Dialect

def basic : Dialect := ⟨false, false, false, true, false⟩

def extended_ : Dialect := ⟨true, false, false, true, false⟩

end Dialect

/-- Why a text is no expression. -/
inductive Fault where
  | openBracket | openGroup | closedGroup | openCount | badCount | nothingToRepeat
  | noSuchGroup | lastBackslash | badClass | badRange | tooBig
  deriving DecidableEq, Repr

def Fault.text : Fault → String
  | openBracket => "Unmatched [, [^, [:, [., or [="
  | openGroup => "Unmatched ( or \\("
  | closedGroup => "Unmatched ) or \\)"
  | openCount => "Unmatched \\\x7b"
  | badCount => "Invalid content of \\\x7b\\\x7d"
  | nothingToRepeat => "Invalid preceding regular expression"
  | noSuchGroup => "Invalid back reference"
  | lastBackslash => "Trailing backslash"
  | badClass => "Invalid character class name"
  | badRange => "Invalid range end"
  | tooBig => "Regular expression too big"

/-- What is left of an expression, how many groups were opened, and which were closed. -/
structure Draft where
  rest : Octets
  opened : Nat
  closed : List Nat

abbrev Parser := StateT Draft (Except Fault)

/-! ## Brackets -/

def control? : Char → Option Char
  | 'n' => some '\n'
  | 't' => some '\t'
  | 'f' => some '\x0c'
  | 'v' => some '\x0b'
  | 'a' => some '\x07'
  | 'r' => some '\r'
  | _ => none

/-- Reads the name of a class up to the sign and the bracket that end it. -/
def readName (sign : Char) : Octets → Octets → Option (Octets × Octets)
  | taken, c :: ']' :: rest =>
      if c = sign then some (taken.reverse, rest) else readName sign (c :: taken) (']' :: rest)
  | taken, c :: rest => readName sign (c :: taken) rest
  | _, [] => none

def readElement (dialect : Dialect) (text : Octets) : Except Fault (Char × Octets) :=
  match text with
  | [] => .error .openBracket
  | '[' :: sign :: rest =>
      if sign = '.' || sign = '=' then
        match readName sign [] rest with
        | some ([c], rest) => .ok (c, rest)
        | some _ => .error .badClass
        | none => .error .openBracket
      else .ok ('[', sign :: rest)
  | '\\' :: c :: rest =>
      if dialect.escapesInBrackets then .ok ((control? c).getD c, rest)
      else if dialect.hasControls then
        match control? c with
        | some control => .ok (control, rest)
        | none => .ok ('\\', c :: rest)
      else .ok ('\\', c :: rest)
  | c :: rest => .ok (c, rest)

def readMembers (dialect : Dialect) : Nat → Bool → ByteSet → Octets → Except Fault (ByteSet × Octets)
  | 0, _, _, _ => .error .openBracket
  | rounds + 1, isFirst, set, text =>
      match text with
      | [] => .error .openBracket
      | ']' :: rest =>
          if isFirst then readRange rounds set text else .ok (set, rest)
      | '[' :: ':' :: rest =>
          match readName ':' [] rest with
          | none => .error .openBracket
          | some (name, rest) =>
              match classMember? (String.ofList name) with
              | none => .error .badClass
              | some isMember => readMembers dialect rounds false (set.union (.ofPredicate isMember)) rest
      | text => readRange rounds set text
where
  readRange (rounds : Nat) (set : ByteSet) (text : Octets) : Except Fault (ByteSet × Octets) := do
    let (low, rest) ← readElement dialect text
    match rest with
    | '-' :: ']' :: _ => readMembers dialect rounds false (set.union (.ofPredicate (· == low))) rest
    | '-' :: more =>
        let (high, rest) ← readElement dialect more
        if high < low then .error .badRange
        else readMembers dialect rounds false (set.union (.ofPredicate fun c => low ≤ c && c ≤ high)) rest
    | rest => readMembers dialect rounds false (set.union (.ofPredicate (· == low))) rest

def readBracket (dialect : Dialect) : Parser Regex := do
  let d ← get
  let (isNegated, text) :=
    match d.rest with
    | '^' :: rest => (true, rest)
    | rest => (false, rest)
  let (members, rest) ← readMembers dialect (2 * text.length + 2) true .empty text
  set { d with rest }
  return .oneOf (if isNegated then members.complement else members)

/-! ## Repetition -/

def countBound : Nat := 32767

def readCount? (dialect : Dialect) (text : Octets) : Option (Nat × Option Nat × Octets) :=
  let (least, rest) := text.span Char.isDigit
  let finish (most : Option Nat) (least : Nat) (rest : Octets) : Option (Nat × Option Nat × Octets) :=
    match dialect.extended, rest with
    | true, '\x7d' :: rest => some (least, most, rest)
    | false, '\\' :: '\x7d' :: rest => some (least, most, rest)
    | _, _ => none
  match Text.readDigits? least, rest with
  | least?, ',' :: rest =>
      let (most, rest) := rest.span Char.isDigit
      match least?, Text.readDigits? most with
      | none, none => if most.isEmpty then finish none 0 rest else none
      | least?, most? => finish most? (least?.getD 0) rest
  | some least, rest => finish (some least) least rest
  | none, _ => none

def readRepeat? (dialect : Dialect) (text : Octets) :
    Except Fault (Option (Nat × Option Nat × Octets)) :=
  let counted (after : Octets) : Except Fault (Option (Nat × Option Nat × Octets)) :=
    match readCount? dialect after with
    | some (least, most, rest) =>
        if most.any (· < least) then .error .badCount
        else if countBound < least || most.any (countBound < ·) then .error .tooBig
        else .ok (some (least, most, rest))
    | none =>
        if dialect.extended && !dialect.isStrict then .ok none
        else if after.any (· = '\x7d') then .error .badCount
        else .error .openCount
  match text with
  | '*' :: rest => .ok (some (0, none, rest))
  | '+' :: rest => .ok (if dialect.extended then some (1, none, rest) else none)
  | '?' :: rest => .ok (if dialect.extended then some (0, some 1, rest) else none)
  | '\x7b' :: rest => if dialect.extended then counted rest else .ok none
  | '\\' :: '+' :: rest =>
      .ok (if !dialect.extended && dialect.hasShorthands then some (1, none, rest) else none)
  | '\\' :: '?' :: rest =>
      .ok (if !dialect.extended && dialect.hasShorthands then some (0, some 1, rest) else none)
  | '\\' :: '\x7b' :: rest => if dialect.extended then .ok none else counted rest
  | _ => .ok none

def readRepeats (dialect : Dialect) : Nat → Regex → Parser Regex
  | 0, inner => return inner
  | rounds + 1, inner => do
      match ← readRepeat? dialect (← get).rest with
      | none => return inner
      | some (least, most, rest) =>
          modify fun d => { d with rest }
          readRepeats dialect rounds
            (if least = 0 && most = some 1 then .optional inner else inner.repeated least most)

/-! ## Expressions -/

def endsBranch (dialect : Dialect) (isInGroup : Bool) (text : Octets) : Bool :=
  match text with
  | [] => true
  | '|' :: _ => dialect.extended
  | ')' :: _ => dialect.extended && (isInGroup || dialect.isStrict)
  | '\\' :: '|' :: _ => !dialect.extended && dialect.hasShorthands
  | '\\' :: ')' :: _ => !dialect.extended
  | _ => false

def shorthand? (dialect : Dialect) (c : Char) : Option Regex :=
  let isSpace (c : Char) : Bool := c = ' ' || 9 ≤ c.toNat && c.toNat ≤ 13
  if dialect.hasShorthands then
    match c with
    | 'w' => some (.oneOf (.ofPredicate isWordChar))
    | 'W' => some (.oneOf (.ofPredicate fun c => !isWordChar c))
    | 's' => some (.oneOf (.ofPredicate isSpace))
    | 'S' => some (.oneOf (.ofPredicate fun c => !isSpace c))
    | 'b' => some (.anchor .wordEdge)
    | 'B' => some (.anchor .wordInside)
    | '<' => some (.anchor .wordStart)
    | '>' => some (.anchor .wordEnd)
    | '\x60' => some (.anchor .textStart)
    | '\'' => some (.anchor .textEnd)
    | c => if dialect.hasControls then (control? c).map exactly else none
  else if dialect.hasControls then (control? c).map exactly
  else none

def readEscaped (dialect : Dialect) : Parser Regex := do
  let d ← get
  match d.rest with
  | [] => throw .lastBackslash
  | c :: rest =>
      set { d with rest }
      if '1' ≤ c && c ≤ '9' && dialect.hasShorthands then
        let number := c.toNat - '0'.toNat
        if d.closed.contains number then return .again number else throw .noSuchGroup
      else return (shorthand? dialect c).getD (exactly c)

def take (text : Octets) (fault : Fault) : Parser Unit := do
  let d ← get
  if text.isPrefixOf d.rest then set { d with rest := d.rest.drop text.length }
  else throw fault

/-- Whether an anchor at the end of a line is meant by a dollar sign before this. -/
def endsLine (dialect : Dialect) (rest : Octets) : Bool :=
  dialect.extended ||
    match rest with
    | [] => true
    | '\\' :: ')' :: _ => true
    | '\\' :: '|' :: _ => dialect.hasShorthands
    | _ => false

mutual

def readBranches (dialect : Dialect) (isInGroup : Bool) : Nat → Parser Regex
  | 0 => throw .tooBig
  | depth + 1 => do
      let first ← readBranch dialect isInGroup true depth
      let d ← get
      match d.rest with
      | '|' :: rest =>
          if dialect.extended then
            set { d with rest }
            return .either first (← readBranches dialect isInGroup depth)
          else return first
      | '\\' :: '|' :: rest =>
          if !dialect.extended && dialect.hasShorthands then
            set { d with rest }
            return .either first (← readBranches dialect isInGroup depth)
          else return first
      | _ => return first

/-- Reads a branch; the second flag says whether it starts here. -/
def readBranch (dialect : Dialect) (isInGroup isStart : Bool) : Nat → Parser Regex
  | 0 => throw .tooBig
  | depth + 1 => do
      let d ← get
      if endsBranch dialect isInGroup d.rest then return .empty
      else
        match d.rest with
        | '^' :: rest =>
            if dialect.extended || isStart then
              set { d with rest }
              let next ← readBranch dialect isInGroup true depth
              return .sequence (.anchor .lineStart) next
            else
              let first ← readRepeated dialect depth
              return .sequence first (← readBranch dialect isInGroup false depth)
        | '*' :: rest =>
            if !isStart then
              let first ← readRepeated dialect depth
              return .sequence first (← readBranch dialect isInGroup false depth)
            else
              set { d with rest }
              if dialect.extended && dialect.isStrict then throw .nothingToRepeat
              else if dialect.extended then readBranch dialect isInGroup true depth
              else
                let first ← readRepeats dialect rest.length (exactly '*')
                return .sequence first (← readBranch dialect isInGroup false depth)
        | _ =>
            let first ← readRepeated dialect depth
            return .sequence first (← readBranch dialect isInGroup false depth)

def readRepeated (dialect : Dialect) : Nat → Parser Regex
  | 0 => throw .tooBig
  | depth + 1 => do
      let d ← get
      match d.rest with
      | '$' :: rest =>
          set { d with rest }
          if endsLine dialect rest then return .anchor .lineEnd
          else readRepeats dialect rest.length (exactly '$')
      | _ =>
          let inner ← readPart dialect depth
          readRepeats dialect ((← get).rest.length + 1) inner

def readPart (dialect : Dialect) : Nat → Parser Regex
  | 0 => throw .tooBig
  | depth + 1 => do
      let d ← get
      match d.rest with
      | [] => return .empty
      | '[' :: rest =>
          set { d with rest }
          readBracket dialect
      | '.' :: rest =>
          set { d with rest }
          return .oneOf .all
      | '(' :: rest =>
          if dialect.extended then
            set { d with rest }
            readGroup dialect [')'] depth
          else
            set { d with rest }
            return exactly '('
      | '\\' :: '(' :: rest =>
          if dialect.extended then
            set { d with rest }
            return exactly '('
          else
            set { d with rest }
            readGroup dialect ['\\', ')'] depth
      | '\\' :: rest =>
          set { d with rest }
          readEscaped dialect
      | c :: rest =>
          if dialect.extended && (c = '+' || c = '?') then
            if dialect.isStrict then throw .nothingToRepeat
            set { d with rest }
            return .empty
          else
            set { d with rest }
            return exactly c

def readGroup (dialect : Dialect) (closing : Octets) : Nat → Parser Regex
  | 0 => throw .tooBig
  | depth + 1 => do
      let number := (← get).opened + 1
      modify fun d => { d with opened := number }
      let inner ← readBranches dialect true depth
      take closing .openGroup
      modify fun d => { d with closed := number :: d.closed }
      return .group number inner

end

def parse (dialect : Dialect) (text : Octets) : Except Fault Regex := do
  let (found, d) ← (readBranches dialect false (6 * text.length + 6)).run ⟨text, 0, []⟩
  match d.rest with
  | [] => return found
  | _ => throw .closedGroup

end Clausal.Text.Regex

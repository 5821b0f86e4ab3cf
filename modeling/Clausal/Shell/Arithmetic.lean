import Clausal.Text.Utf8

/-!
# Shell arithmetic

Expressions over 64-bit words in two's complement, with the operators of the C language and
variables by name.  Operands that a condition leaves out are read but neither divide nor
assign.  The work on an expression ends in a value and in assignments, or in a complaint.
-/

namespace Clausal.Shell.Arithmetic

open Text (Octets)

/-- Operators with two operands, which can also be joined to an assignment. -/
inductive Binary where
  | times | divided | modulo | plus | minus | shiftLeft | shiftRight
  | less | lessEqual | greater | greaterEqual | equal | unequal
  | bitAnd | bitXor | bitOr
  deriving DecidableEq, Repr

def Binary.rank : Binary → Nat
  | times | divided | modulo => 0
  | plus | minus => 1
  | shiftLeft | shiftRight => 2
  | less | lessEqual | greater | greaterEqual => 3
  | equal | unequal => 4
  | bitAnd => 5
  | bitXor => 6
  | bitOr => 7

def rankBound : Nat := 8

inductive Token where
  | number (value : Int)
  | name (name : String)
  | binary (operator : Binary)
  /-- Assigns; with an operator, what that makes of the old value. -/
  | assign (operator : Option Binary)
  | not | complement | open_ | close_ | question | colon | both | either
  | end_
  | unknown
  deriving DecidableEq, Repr

/-! ## Numbers -/

def largest : Int := 0x7fffffffffffffff

def smallest : Int := -largest - 1

def wrap (value : Int) : Int := Int.bmod value 0x10000000000000000

def digit? (base : Nat) (c : Char) : Option Nat :=
  let value :=
    if c.isDigit then c.toNat - '0'.toNat
    else if 'a' ≤ c ∧ c ≤ 'z' then c.toNat - 'a'.toNat + 10
    else if 'A' ≤ c ∧ c ≤ 'Z' then c.toNat - 'A'.toNat + 10
    else base
  if value < base then some value else none

def readDigits (base : Nat) : Nat → Octets → Nat × Octets
  | value, [] => (value, [])
  | value, c :: rest =>
      match digit? base c with
      | some d => readDigits base (base * value + d) rest
      | none => (value, c :: rest)

/-- Reads a number to the base that its first digits tell: 16 after `0x`, 8 after a zero. -/
def readBased (text : Octets) : Nat × Octets :=
  match text with
  | '0' :: x :: c :: rest =>
      if (x = 'x' ∨ x = 'X') ∧ (digit? 16 c).isSome then readDigits 16 0 (c :: rest)
      else readDigits 8 0 text
  | '0' :: _ => readDigits 8 0 text
  | _ => readDigits 10 0 text

def isBlank (c : Char) : Bool := c = ' ' || 9 ≤ c.toNat && c.toNat ≤ 13

/-- A number with an optional sign at the start of a text and what comes after it.  The flag
says whether it fits a word. -/
def readInteger (text : Octets) : Int × Bool × Octets :=
  let (negative, digits) :=
    match text.dropWhile isBlank with
    | '-' :: rest => (true, rest)
    | '+' :: rest => (false, rest)
    | rest => (false, rest)
  if !(digits.head?.any Char.isDigit) then (0, true, text)
  else
    let (size, rest) := readBased digits
    let value : Int := if negative then -size else size
    (max smallest (min largest value), decide (smallest ≤ value ∧ value ≤ largest), rest)

/-- The number that a text is; an empty one is zero. -/
def integer? (text : Octets) : Option Int :=
  let (value, fits, rest) := readInteger text
  if fits && rest.all isBlank then some value else none

def decimal? (text : Octets) : Option Int :=
  let (negative, digits) :=
    match text.dropWhile isBlank with
    | '-' :: rest => (true, rest)
    | '+' :: rest => (false, rest)
    | rest => (false, rest)
  if !(digits.head?.any Char.isDigit) then none
  else
    let (size, rest) := readDigits 10 0 digits
    let value : Int := if negative then -size else size
    if smallest ≤ value ∧ value ≤ largest ∧ rest.all isBlank then some value else none

/-! ## Tokens -/

def symbols : List (String × Token) :=
  [("<<=", .assign (some .shiftLeft)), (">>=", .assign (some .shiftRight)),
    ("<<", .binary .shiftLeft), (">>", .binary .shiftRight), ("<=", .binary .lessEqual),
    (">=", .binary .greaterEqual), ("==", .binary .equal), ("!=", .binary .unequal),
    ("&&", .both), ("||", .either), ("*=", .assign (some .times)),
    ("/=", .assign (some .divided)), ("%=", .assign (some .modulo)),
    ("+=", .assign (some .plus)), ("-=", .assign (some .minus)),
    ("&=", .assign (some .bitAnd)), ("^=", .assign (some .bitXor)),
    ("|=", .assign (some .bitOr)), ("=", .assign none), ("<", .binary .less),
    (">", .binary .greater), ("*", .binary .times), ("/", .binary .divided),
    ("%", .binary .modulo), ("+", .binary .plus), ("-", .binary .minus),
    ("&", .binary .bitAnd), ("^", .binary .bitXor), ("|", .binary .bitOr), ("!", .not),
    ("~", .complement), ("(", .open_), (")", .close_), ("?", .question), (":", .colon)]

def spellings : List (Octets × Token) := symbols.map fun (symbol, token) => (symbol.toList, token)

def token (text : Octets) : Token × Octets :=
  match text.dropWhile fun c => c = ' ' || c = '\t' || c = '\n' with
  | [] => (.end_, [])
  | c :: rest =>
      if c.isDigit then
        let (value, rest) := readBased (c :: rest)
        (.number (min largest value), rest)
      else if c.isAlpha || c = '_' then
        let (name, rest) := (c :: rest).span fun c => c.isAlphanum || c = '_'
        (.name (String.ofList name), rest)
      else
        match spellings.find? fun symbol => symbol.1.isPrefixOf (c :: rest) with
        | some (spelling, token) => (token, (c :: rest).drop spelling.length)
        | none => (.unknown, c :: rest)

def tokens : Nat → Octets → List Token
  | 0, _ => []
  | rounds + 1, text =>
      match token text with
      | (.end_, _) => []
      | (.unknown, _) => [.unknown]
      | (token, rest) => token :: tokens rounds rest

/-! ## Evaluation -/

def ofBool (b : Bool) : Int := if b then 1 else 0

def word (value : Int) : UInt64 := UInt64.ofNat (value % 0x10000000000000000).toNat

def value (word : UInt64) : Int := wrap word.toNat

def result? (operator : Binary) (a b : Int) : Option Int :=
  match operator with
  | .times => some (wrap (a * b))
  | .divided => if b = 0 then none else some (wrap (a.tdiv b))
  | .modulo => if b = 0 then none else some (a.tmod b)
  | .plus => some (wrap (a + b))
  | .minus => some (wrap (a - b))
  | .shiftLeft => some (value (word a <<< word b))
  | .shiftRight => some (a >>> (word b % 64).toNat)
  | .less => some (ofBool (a < b))
  | .lessEqual => some (ofBool (a ≤ b))
  | .greater => some (ofBool (b < a))
  | .greaterEqual => some (ofBool (b ≤ a))
  | .equal => some (ofBool (a = b))
  | .unequal => some (ofBool (a != b))
  | .bitAnd => some (value (word a &&& word b))
  | .bitXor => some (value (word a ^^^ word b))
  | .bitOr => some (value (word a ||| word b))

inductive Fault where
  | complaint (text : String)
  | badNumber (text : Octets)
  deriving DecidableEq, Repr

/-- What is left of an expression, and the assignments so far, the last first. -/
structure Progress where
  tokens : List Token
  assigned : List (String × Octets)

abbrev Work := ExceptT Fault (StateM Progress)

def peek : Work Token := return (← get).tokens.headD .end_

def advance : Work Unit := modify fun p => { p with tokens := p.tokens.tail }

def fail (text : String) : Work α := throw (.complaint text)

def shown (value : Int) : Octets :=
  if value < 0 then '-' :: Nat.toDigits 10 value.natAbs else Nat.toDigits 10 value.natAbs

def valueOf (lookup : String → Octets) (name : String) : Work Int := do
  let text := ((← get).assigned.lookup name).getD (lookup name)
  match integer? text with
  | some value => return value
  | none => throw (.badNumber text)

def compute (skips : Bool) (operator : Binary) (a b : Int) : Work Int :=
  if skips then return b
  else
    match result? operator a b with
    | some value => return value
    | none => fail "division by zero"

mutual

/-- A value that is not the operand of a stronger operator: a name that is assigned to, or a
condition. -/
def assignment (lookup : String → Octets) : Nat → Bool → Work Int
  | 0, _ => fail "too deeply nested"
  | depth + 1, skips => do
      match (← get).tokens with
      | .name name :: .assign operator :: rest =>
          modify fun p => { p with tokens := rest }
          let right ← assignment lookup depth skips
          if skips then return right
          else
            let result ← match operator with
              | none => pure right
              | some operator => compute false operator (← valueOf lookup name) right
            modify fun p => { p with assigned := (name, shown result) :: p.assigned }
            return result
      | _ => condition lookup depth skips

def condition (lookup : String → Octets) : Nat → Bool → Work Int
  | 0, _ => fail "too deeply nested"
  | depth + 1, skips => do
      let test ← disjunction lookup depth skips
      match ← peek with
      | .question =>
          advance
          let first ← assignment lookup depth (skips || test = 0)
          match ← peek with
          | .colon =>
              advance
              let second ← condition lookup depth (skips || test != 0)
              return if test = 0 then second else first
          | _ => fail "expecting ':'"
      | _ => return test

def disjunction (lookup : String → Octets) : Nat → Bool → Work Int
  | 0, _ => fail "too deeply nested"
  | depth + 1, skips => do
      let first ← conjunction lookup depth skips
      match ← peek with
      | .either =>
          advance
          let second ← disjunction lookup depth (skips || first != 0)
          return ofBool (first != 0 || second != 0)
      | _ => return first

def conjunction (lookup : String → Octets) : Nat → Bool → Work Int
  | 0, _ => fail "too deeply nested"
  | depth + 1, skips => do
      let first ← primary lookup depth skips
      let first ← operations lookup depth skips first rankBound
      match ← peek with
      | .both =>
          advance
          let second ← conjunction lookup depth (skips || first = 0)
          return ofBool (first != 0 && second != 0)
      | _ => return first

def operations (lookup : String → Octets) : Nat → Bool → Int → Nat → Work Int
  | 0, _, _, _ => fail "too deeply nested"
  | depth + 1, skips, first, bound => do
      match ← peek with
      | .binary operator =>
          if operator.rank < bound then
            advance
            let second ← primary lookup depth skips
            let second ← operations lookup depth skips second operator.rank
            let result ← compute skips operator first second
            operations lookup depth skips result bound
          else return first
      | _ => return first

def primary (lookup : String → Octets) : Nat → Bool → Work Int
  | 0, _ => fail "too deeply nested"
  | depth + 1, skips => do
      let found ← peek
      if found != .end_ then advance
      match found with
      | .open_ =>
          let result ← assignment lookup depth skips
          match ← peek with
          | .close_ =>
              advance
              return result
          | _ => fail "expecting ')'"
      | .number value => return value
      | .name name => if skips then return 0 else valueOf lookup name
      | .binary .plus => primary lookup depth skips
      | .binary .minus => return wrap (-(← primary lookup depth skips))
      | .not => return ofBool ((← primary lookup depth skips) = 0)
      | .complement => return -(← primary lookup depth skips) - 1
      | _ => fail "expecting primary"

end

/-- The value of an expression and the assignments it makes, in order. -/
def evaluate (lookup : String → Octets) (text : Octets) :
    Except Fault Int × List (String × Octets) :=
  let found := tokens (text.length + 1) text
  let work : Work Int := do
    let result ← assignment lookup (16 * found.length + 16) false
    match ← peek with
    | .end_ => return result
    | _ => fail "expecting EOF"
  let (result, progress) := work.run ⟨found, []⟩
  (result, progress.assigned.reverse)

end Clausal.Shell.Arithmetic

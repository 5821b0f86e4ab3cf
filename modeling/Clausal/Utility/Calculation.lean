import Clausal.Text.Regex.Parse
import Clausal.Text.Regex.Search
import Clausal.Utility.Basic

/-!
# Calculating

Expressions over whole numbers and texts, written as one word for each sign, and the prime
factors of numbers.  A text that is written like a whole number counts as one.
-/

namespace Clausal.Utility

open Machine (Action)
open Text (Octets)

namespace Expression

/-- Why an expression has no value. -/
structure Fault where
  complaint : Octets
  status : Nat

/-- What is left to be read, and the word before it. -/
structure Draft where
  rest : List Octets
  before : Octets

abbrev Reader := StateT Draft (Except Fault)

def refuse (complaint : Octets) : Reader α := throw ⟨complaint, 2⟩

def takeSign (sign : String) : Reader Bool := do
  match (← get).rest with
  | word :: rest =>
      if word = sign.toList then
        modifyThe Draft fun _ => ⟨rest, word⟩
        return true
      else return false
  | [] => return false

def takeAny : List String → Reader (Option String)
  | [] => return none
  | sign :: more => do
      if ← takeSign sign then return some sign else takeAny more

/-- Takes the next word, whatever it says. -/
def takeWord : Reader Octets := do
  match (← get).rest with
  | word :: rest =>
      modifyThe Draft fun _ => ⟨rest, word⟩
      return word
  | [] => refuse ("syntax error: missing argument after ".toList ++ quoted (← get).before)

def integer? (octets : Octets) : Option Int :=
  match octets with
  | '-' :: digits => (Text.readDigits? digits).map fun (n : Nat) => -(n : Int)
  | digits => (Text.readDigits? digits).map Int.ofNat

def ofInt (value : Int) : Octets := (toString value).toList

def isNull (value : Octets) : Bool := value.isEmpty || integer? value = some 0

def number (value : Octets) : Reader Int :=
  match integer? value with
  | some value => return value
  | none => refuse "non-integer argument".toList

/-- The part of a text that an expression matches at its start: the first group, or else how
long it is. -/
def matched (value pattern : Octets) : Reader Octets := do
  match Text.Regex.parse .basic pattern with
  | .error fault => refuse fault.text.toList
  | .ok regex =>
      let searcher := Text.Regex.Searcher.of (.sequence (.anchor .textStart) regex) false
      let found := searcher.find? (.ofText value)
      if regex.groups.isEmpty then
        let size : Nat := (found.map fun m => m.whole.stop - m.whole.start).getD 0
        return ofInt size
      else return (found.map fun m => m.group value 1).getD []

def part (value start length : Octets) : Octets :=
  match integer? start, integer? length with
  | some start, some length =>
      if 0 < start && 0 < length then (value.drop (start.toNat - 1)).take length.toNat else []
  | _, _ => []

def calculate (sign : String) (a b : Octets) : Reader Octets := do
  let x ← number a
  let y ← number b
  match sign with
  | "+" => return ofInt (x + y)
  | "-" => return ofInt (x - y)
  | "*" => return ofInt (x * y)
  | sign =>
      if y = 0 then refuse "division by zero".toList
      else return ofInt (if sign = "/" then x.tdiv y else x.tmod y)

def compares (sign : String) (a b : Octets) : Bool :=
  let order : Ordering :=
    match integer? a, integer? b with
    | some x, some y => compare x y
    | _, _ => compare a b
  match sign with
  | "<" => order = .lt
  | "<=" => order != .gt
  | "=" | "==" => order = .eq
  | "!=" => order != .eq
  | ">=" => order != .lt
  | _ => order = .gt

def signs : Nat → List String
  | 0 => ["|"]
  | 1 => ["&"]
  | 2 => ["<=", "<", "==", "=", "!=", ">=", ">"]
  | 3 => ["+", "-"]
  | 4 => ["*", "/", "%"]
  | _ => [":"]

def tightest : Nat := 5

/-- The value of two operands; nothing is worked out if only the words are to be read. -/
def apply (isLive : Bool) (level : Nat) (sign : String) (a b : Octets) : Reader Octets := do
  match level with
  | 0 => return if !isNull a then a else if isNull b then ['0'] else b
  | 1 => return if isNull a || isNull b then ['0'] else a
  | level =>
      if !isLive then return a
      else if level = 2 then return if compares sign a b then ['1'] else ['0']
      else if level = tightest then matched a b
      else calculate sign a b

mutual

def operands (isLive : Bool) (level : Nat) : Nat → Reader Octets
  | 0 => return []
  | rounds + 1 => do
      let first ←
        if level < tightest then operands isLive (level + 1) rounds else operand isLive rounds
      continue_ isLive level first rounds

def continue_ (isLive : Bool) (level : Nat) (value : Octets) : Nat → Reader Octets
  | 0 => return value
  | rounds + 1 => do
      match ← takeAny (signs level) with
      | none => return value
      | some sign =>
          let isLiveNext := match level with
            | 0 => isLive && isNull value
            | 1 => isLive && !isNull value
            | _ => isLive
          let next ←
            if level < tightest then operands isLiveNext (level + 1) rounds
            else operand isLiveNext rounds
          continue_ isLive level (← apply isLive level sign value next) rounds

def operand (isLive : Bool) : Nat → Reader Octets
  | 0 => return []
  | rounds + 1 => do
      match ← takeAny ["+", "length", "match", "index", "substr", "(", ")"] with
      | some "+" => takeWord
      | some "length" => return ofInt (← operand isLive rounds).length
      | some "match" =>
          let value ← operand isLive rounds
          let pattern ← operand isLive rounds
          if isLive then matched value pattern else return value
      | some "index" =>
          let value ← operand isLive rounds
          let wanted ← operand isLive rounds
          return ofInt ((value.findIdx? fun c => wanted.contains c).elim 0 (· + 1))
      | some "substr" =>
          let value ← operand isLive rounds
          let start ← operand isLive rounds
          let length ← operand isLive rounds
          return part value start length
      | some "(" =>
          let value ← operands isLive 0 rounds
          if ← takeSign ")" then return value
          else
            match (← get).rest with
            | [] => refuse ("syntax error: expecting ')' after ".toList ++ quoted (← get).before)
            | word :: _ =>
                refuse ("syntax error: expecting ')' instead of ".toList ++ quoted word)
      | some _ => refuse "syntax error: unexpected ')'".toList
      | none => takeWord

end

def evaluate (words : List Octets) : Except Fault Octets := do
  let (value, draft) ← (operands true 0 (16 * words.length + 16)).run ⟨words, []⟩
  match draft.rest with
  | [] => return value
  | word :: _ => throw ⟨"syntax error: unexpected argument ".toList ++ quoted word, 2⟩

end Expression

def expr : Tool := fun arguments _ => do
  let words := if arguments.head? = some ['-', '-'] then arguments.tail else arguments
  if words.isEmpty then misuse "expr" "missing operand".toList 2
  else
    match Expression.evaluate words with
    | .error fault => fail "expr" fault.complaint fault.status
    | .ok value =>
        let status := if Expression.isNull value then 1 else 0
        match ← emit "expr" (value ++ ['\n']) with
        | 0 => return status
        | _ => return 3

/-! ## Prime factors -/

/-- The prime factors of a number from a divisor on, the last first. -/
def factorsFrom : Nat → Nat → Nat → List Nat → List Nat
  | 0, n, _, found => if 1 < n then n :: found else found
  | rounds + 1, n, divisor, found =>
      if n < divisor * divisor then if 1 < n then n :: found else found
      else if n % divisor = 0 then factorsFrom rounds (n / divisor) divisor (divisor :: found)
      else factorsFrom rounds n (if divisor = 2 then 3 else divisor + 2) found

def primeFactors (n : Nat) : List Nat := (factorsFrom 100000000 n 2 []).reverse

def powers : List Nat → List (Nat × Nat)
  | [] => []
  | p :: rest =>
      match powers rest with
      | (q, count) :: more => if p = q then (q, count + 1) :: more else (p, 1) :: (q, count) :: more
      | [] => [(p, 1)]

def factor : Tool := fun arguments _ =>
  withArguments "factor" [.flag "h" "exponents"] 1 arguments fun a => do
    let words? ← if a.operands.isEmpty then
        (·.map fun octets => (Text.split (fun c => c = ' ' || c = '\n' || c = '\t') octets).filter
          fun word => !word.isEmpty) <$> contents "factor" ['-']
      else pure (some a.operands)
    match words? with
    | none => return 1
    | some words =>
        forEachOperand words fun word => do
          let bare := word.dropWhile (· = ' ')
          match Text.readUnsigned? bare with
          | none =>
              complain "factor" (quoted word ++ " is not a valid positive integer".toList)
              return false
          | some n =>
              let found := primeFactors n
              let shownPower (p : Nat × Nat) : Octets :=
                if p.2 = 1 then shown p.1 else shown p.1 ++ '^' :: shown p.2
              let list := if a.has "h" then (powers found).map shownPower else found.map shown
              return (← emit "factor" (shown n ++ ':' ::
                (list.flatMap fun text => ' ' :: text) ++ ['\n'])) = 0

end Clausal.Utility

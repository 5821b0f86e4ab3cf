import Clausal.FileSystem.Edit
import Clausal.Shell.Arithmetic

/-!
# Tests

Conditions on texts, numbers and files, joined by `-a` and `-o` and turned around by an
exclamation mark.  A word counts as an operator only where one makes sense, which depends on
how many words follow.
-/

namespace Clausal.Shell.Test

open Text (Octets)

inductive Operator where
  | unary (letter : Char)
  | binary (name : String)
  | not | both | either | open_ | close_
  deriving DecidableEq, Repr

def binaryNames : List String :=
  ["=", "!=", "<", ">", "-eq", "-ne", "-ge", "-gt", "-le", "-lt", "-nt", "-ot", "-ef"]

def operator? (text : Octets) : Option Operator :=
  match text with
  | ['!'] => some .not
  | ['('] => some .open_
  | [')'] => some .close_
  | ['-', 'a'] => some .both
  | ['-', 'o'] => some .either
  | text =>
      match text with
      | ['-', letter] =>
          if "rwxefdcbpugkstznhLOGS".toList.contains letter then some (.unary letter) else none
      | text =>
          let name := String.ofList text
          if binaryNames.contains name then some (.binary name) else none

def isUnary : Option Operator → Bool
  | some (.unary _) => true
  | _ => false

def isBinary : Option Operator → Bool
  | some (.binary _) => true
  | _ => false

/-- Whether the first word is an operand in spite of what it says. -/
def isOperand (words : List Octets) : Bool :=
  match words with
  | _ :: next :: _ :: _ => isBinary (operator? next)
  | [_, _] => false
  | _ => true

inductive Token where
  | end_
  | operand
  | operator (operator : Operator)
  deriving DecidableEq, Repr

def token (words : List Octets) : Token :=
  match words with
  | [] => .end_
  | word :: rest =>
      match operator? word with
      | none => .operand
      | some operator =>
          if isUnary (some operator) && isOperand words then .operand
          else if operator = .open_ && rest.isEmpty then .operand
          else .operator operator

/-- Work on the words that are left, which can end in a complaint. -/
abbrev Work := StateT (List Octets) (Except Octets)

def complain (word : Octets) (text : String) : Work α :=
  throw (if word.isEmpty then text.toList else word ++ ": ".toList ++ text.toList)

def step : Work Unit := modify List.tail

def number (text : Octets) : Work Int := do
  match Arithmetic.decimal? text with
  | some value => return value
  | none => throw ("Illegal number: ".toList ++ text)

/-! ## Conditions -/

def node? (files : FileSystem) (name : Octets) : Option Node := (files.get ⟨name⟩).toOption

/-- The moment of the last change of what a name leads to. -/
def changed? (files : FileSystem) (name : Octets) : Option Int := do
  let attributes ← files.attributesAt? (← (files.follow ⟨name⟩).toOption)
  return attributes.changed

def holdsOf (files : FileSystem) (letter : Char) (word : Octets) : Bool :=
  let body? := files.bodyAt? ⟨word⟩
  let attributes? := (files.follow ⟨word⟩).toOption.bind files.attributesAt?
  let hasBit (bit : Nat) : Bool :=
    attributes?.any fun attributes => attributes.mode &&& bit != 0
  match letter with
  | 'z' => word.isEmpty
  | 'n' => !word.isEmpty
  | 'e' | 'r' | 'w' => (node? files word).isSome
  | 'O' => attributes?.any fun attributes => attributes.owner = 0
  | 'G' => attributes?.any fun attributes => attributes.group = 0
  | 'f' => body?.any FileBody.isPlain
  | 'd' => files.isFolder ⟨word⟩
  | 'c' => body?.any fun body => body.device?.isSome
  | 'p' => body?.any fun body => (body.content matches .pipe)
  | 'h' | 'L' => ((files.getEntry ⟨word⟩).toOption matches some (.link _))
  | 'x' => files.isFolder ⟨word⟩ || body?.any FileBody.isExecutable
  | 's' => files.isFolder ⟨word⟩ || body?.any fun body => !body.bytes.isEmpty
  | 'u' => hasBit 0o4000
  | 'g' => hasBit 0o2000
  | 'k' => hasBit 0o1000
  | _ => false

/-- Whether the first text comes before the second. -/
def isBefore : Octets → Octets → Bool
  | _, [] => false
  | [], _ :: _ => true
  | a :: as, b :: bs => if a = b then isBefore as bs else decide (a < b)

def holdsBetween (files : FileSystem) (name : String) (a b : Octets) : Work Bool := do
  match name with
  | "=" => return a == b
  | "!=" => return a != b
  | "<" => return isBefore a b
  | ">" => return isBefore b a
  | "-eq" => return (← number a) == (← number b)
  | "-ne" => return (← number a) != (← number b)
  | "-ge" => return decide ((← number b) ≤ (← number a))
  | "-gt" => return decide ((← number b) < (← number a))
  | "-le" => return decide ((← number a) ≤ (← number b))
  | "-lt" => return decide ((← number a) < (← number b))
  | "-ef" =>
      match node? files a, node? files b with
      | some (.file i), some (.file j) => return i == j
      | some (.folder ..), some (.folder ..) =>
          return (files.follow ⟨a⟩).toOption == (files.follow ⟨b⟩).toOption
      | _, _ => return false
  | "-nt" | "-ot" =>
      match changed? files a, changed? files b with
      | some first, some second =>
          return if name = "-nt" then decide (second < first) else decide (first < second)
      | _, _ => return false
  | _ => return false

/-! ## Expressions

A reader stops at the last word that it took. -/

mutual

def disjunction (files : FileSystem) : Nat → Token → Bool → Work Bool
  | 0, _, value => return value
  | depth + 1, first, value => do
      let next ← conjunction files depth first true
      let value := value || next
      match token (← get).tail with
      | .operator .either =>
          step
          step
          disjunction files depth (token (← get)) value
      | _ => return value

def conjunction (files : FileSystem) : Nat → Token → Bool → Work Bool
  | 0, _, value => return value
  | depth + 1, first, value => do
      let next ← negation files depth first
      let value := value && next
      match token (← get).tail with
      | .operator .both =>
          step
          step
          conjunction files depth (token (← get)) value
      | _ => return value

def negation (files : FileSystem) : Nat → Token → Work Bool
  | 0, _ => return false
  | depth + 1, first => do
      match first with
      | .operator .not =>
          let next := token (← get).tail
          if next != .end_ then step
          return !(← negation files depth next)
      | first => primary files depth first

def primary (files : FileSystem) : Nat → Token → Work Bool
  | 0, _ => return false
  | depth + 1, first => do
      match first with
      | .end_ => return false
      | .operator .open_ =>
          step
          match token (← get) with
          | .operator .close_ => return false
          | next =>
              let value ← disjunction files depth next false
              step
              if token (← get) != .operator .close_ then complain [] "closing paren expected"
              return value
      | .operator (.unary letter) =>
          step
          match ← get with
          | [] => complain ['-', letter] "argument expected"
          | word :: _ =>
              if letter = 't' then
                let _ ← number word
              return holdsOf files letter word
      | _ =>
          match ← get with
          | a :: operator :: rest =>
              match token (operator :: rest) with
              | .operator (.binary name) =>
                  match rest with
                  | [] => complain operator "argument expected"
                  | b :: _ =>
                      step
                      step
                      holdsBetween files name a b
              | _ => return !a.isEmpty
          | [a] => return !a.isEmpty
          | [] => return false

end

def expression (files : FileSystem) (first : Token) (words : List Octets) :
    Except Octets Bool := do
  let (value, rest) ← (disjunction files (4 * words.length + 4) first false).run words
  match rest with
  | word :: _ :: _ => throw (word ++ ": unexpected operator".toList)
  | _ => return value

/-- The value of a test; few words are looked at in a way of their own.  Exclamation marks
that are taken off them turn the value around once, however many they are. -/
def evaluateFrom (files : FileSystem) (turned : Bool) : List Octets → Except Octets Bool
  | [] => .ok turned
  | first :: rest =>
      let words := first :: rest
      let isThree := rest.length = 2
      let value (first : Token) (words : List Octets) : Except Octets Bool :=
        (expression files first words).map (· != turned)
      if isThree && isBinary (rest.head?.bind operator?) then value .operand words
      else if isThree || rest.length = 3 then
        if first = ['('] && rest.getLast? = some [')'] then
          value (token rest.dropLast) rest.dropLast
        else if first = ['!'] then evaluateFrom files true rest
        else value (token words) words
      else value (token words) words

def evaluate (files : FileSystem) (words : List Octets) : Except Octets Bool :=
  evaluateFrom files false words

end Clausal.Shell.Test

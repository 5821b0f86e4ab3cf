import Clausal.Text.Utf8

/-!
# Options of utilities

Options are letters after a dash, which can be written together, or names after two dashes,
which can be cut short as long as they stay clear.  Options can stand between the other
arguments unless the first of those ends them, and two dashes end them anyway.
-/

namespace Clausal.Utility

open Text (Octets)

/-- Whether an option takes a value. -/
inductive Takes where
  | nothing
  | value
  /-- Only a value that is written in the same argument. -/
  | attached
  deriving DecidableEq, Repr

structure Switch where
  key : String
  name : String
  takes : Takes
  deriving DecidableEq, Repr

namespace Switch

def flag (key name : String) : Switch := ⟨key, name, .nothing⟩

def setting (key name : String) : Switch := ⟨key, name, .value⟩

def choice (key name : String) : Switch := ⟨key, name, .attached⟩

def flags (letters : String) : List Switch :=
  letters.toList.map fun c => .flag (String.ofList [c]) ""

def isLetter (s : Switch) (letter : Char) : Bool := s.key.toList == [letter]

end Switch

inductive Misuse where
  | unknownLetter (letter : Char)
  | unknownName (argument : Octets)
  | unclearName (name : Octets) (names : List String)
  | letterWithoutValue (letter : Char)
  | nameWithoutValue (name : String)
  | nameWithValue (name : String)
  deriving DecidableEq, Repr

def Misuse.complaint : Misuse → Octets
  | unknownLetter letter => "invalid option -- '".toList ++ [letter, '\'']
  | unknownName argument => "unrecognized option '".toList ++ argument ++ ['\'']
  | unclearName name names =>
      "option '--".toList ++ name ++ "' is ambiguous; possibilities:".toList ++
        names.flatMap fun name => " '--".toList ++ name.toList ++ ['\'']
  | letterWithoutValue letter => "option requires an argument -- '".toList ++ [letter, '\'']
  | nameWithoutValue name => s!"option '--{name}' requires an argument".toList
  | nameWithValue name => s!"option '--{name}' doesn't allow an argument".toList

/-- Options with their values, and the other arguments. -/
structure Arguments where
  options : List (String × Octets)
  operands : List Octets
  deriving DecidableEq, Repr

namespace Arguments

def has (a : Arguments) (key : String) : Bool := a.options.any fun option => option.1 = key

def hasAny (a : Arguments) (keys : List String) : Bool := keys.any a.has

def value? (a : Arguments) (key : String) : Option Octets :=
  (a.options.reverse.find? fun option => option.1 = key).map Prod.snd

def values (a : Arguments) (key : String) : List Octets :=
  (a.options.filter fun option => option.1 = key).map Prod.snd

def last? (a : Arguments) (keys : List String) : Option String :=
  (a.options.reverse.find? fun option => keys.contains option.1).map Prod.fst

/-- Reads the letters of an argument; the last can take a value from the next argument. -/
def readLetters (table : List Switch) :
    Octets → List Octets → Except Misuse (List (String × Octets) × List Octets)
  | [], rest => .ok ([], rest)
  | letter :: letters, rest =>
      match table.find? fun s => s.isLetter letter with
      | none => .error (.unknownLetter letter)
      | some ⟨key, _, .nothing⟩ => do
          let (options, rest) ← readLetters table letters rest
          return ((key, []) :: options, rest)
      | some ⟨key, _, .attached⟩ => .ok ([(key, letters)], rest)
      | some ⟨key, _, .value⟩ =>
          match letters, rest with
          | [], value :: rest => .ok ([(key, value)], rest)
          | [], [] => .error (.letterWithoutValue letter)
          | value, rest => .ok ([(key, value)], rest)

def named? (table : List Switch) (name : Octets) : List Switch :=
  let text := String.ofList name
  match table.filter fun s => s.name = text && text != "" with
  | s :: _ => [s]
  | [] => table.filter fun s => s.name != "" && name.isPrefixOf s.name.toList

def readName (table : List Switch) (argument : Octets) (rest : List Octets) :
    Except Misuse ((String × Octets) × List Octets) :=
  let (name, after) := argument.span (· != '=')
  match named? table name with
  | [] => .error (.unknownName ('-' :: '-' :: argument))
  | s :: others =>
      if others.any fun other => other.key != s.key then
        .error (.unclearName name ((s :: others).map Switch.name))
      else
        match s.takes, after, rest with
        | .nothing, [], rest => .ok ((s.key, []), rest)
        | .nothing, _ :: _, _ => .error (.nameWithValue s.name)
        | _, _ :: value, rest => .ok ((s.key, value), rest)
        | .attached, [], rest => .ok ((s.key, []), rest)
        | .value, [], value :: rest => .ok ((s.key, value), rest)
        | .value, [], [] => .error (.nameWithoutValue s.name)

def readSome (table : List Switch) (mixed : Bool) : Nat → List Octets → Except Misuse Arguments
  | 0, arguments => .ok ⟨[], arguments⟩
  | rounds + 1, arguments =>
      match arguments with
      | [] => .ok ⟨[], []⟩
      | ['-', '-'] :: rest => .ok ⟨[], rest⟩
      | ('-' :: '-' :: argument) :: rest => do
          let (option, rest) ← readName table argument rest
          let more ← readSome table mixed rounds rest
          return { more with options := option :: more.options }
      | ('-' :: c :: letters) :: rest => do
          let (options, rest) ← readLetters table (c :: letters) rest
          let more ← readSome table mixed rounds rest
          return { more with options := options ++ more.options }
      | operand :: rest =>
          if mixed then do
            let more ← readSome table mixed rounds rest
            return { more with operands := operand :: more.operands }
          else .ok ⟨[], operand :: rest⟩

/-- Reads arguments; options can stand between the others. -/
def read (table : List Switch) (arguments : List Octets) : Except Misuse Arguments :=
  readSome table true (arguments.length + 1) arguments

def readFront (table : List Switch) (arguments : List Octets) : Except Misuse Arguments :=
  readSome table false (arguments.length + 1) arguments

end Arguments

end Clausal.Utility

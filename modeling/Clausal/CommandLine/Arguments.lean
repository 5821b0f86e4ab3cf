import Clausal.Format
import Clausal.Text.Numeral
import Clausal.Text.Split

/-!
# Arguments of commands

A command takes options, which have a name and a value, switches, which have a name only,
operands, and perhaps arguments that it hands on.  `--name value` and `--name=value` set an
option, and `--name` a switch.  Each may be given once.  What follows `--` is taken as it
is: it is handed on, or is an operand where nothing is handed on.  Every command knows
`--verbose`, short `-v`, as often as it is given, and `--help`, short `-h`.
-/

namespace Clausal.CommandLine

/-- What can be wrong with the arguments. -/
inductive Misuse where
  | missingCommand
  | unknownCommand (name : String)
  | unknownOption (name : String)
  | missingValue (name : String)
  | unexpectedValue (name : String)
  | invalidValue (name value : String)
  | repeated (name : String)
  | unexpectedArgument (argument : String)
  | missing (name : String)
  deriving DecidableEq, Repr

namespace Misuse

def message : Misuse → String
  | missingCommand => "a command is required"
  | unknownCommand name => s!"there is no command {name}"
  | unknownOption name => s!"there is no option {name}"
  | missingValue name => s!"option {name} needs a value"
  | unexpectedValue name => s!"option {name} takes no value"
  | invalidValue name value => s!"option {name} cannot have the value {value}"
  | repeated name => s!"option {name} is given twice"
  | unexpectedArgument argument => s!"argument {argument} is not expected"
  | missing name => s!"{name} is required"

end Misuse

/-- Why arguments ask for nothing to be done. -/
inductive Refusal where
  | help
  | misuse (misuse : Misuse)
  deriving DecidableEq, Repr

/-- What the value of an option has to be. -/
inductive ValueKind where
  | number
  | path
  | format
  deriving DecidableEq, Repr

namespace ValueKind

def accepts : ValueKind → String → Bool
  | number, text => (Text.readUInt64? text.toList).isSome
  | path, text => text != ""
  | format, text => (Format.ofExtension? text).isSome

end ValueKind

/-- What an argument looks like, unless it is taken as it is. -/
inductive Shape where
  | plain
  | escape
  | long (name : String) (value : Option String)
  | short (letters : List Char)
  deriving DecidableEq, Repr

namespace Shape

def ofText (argument : String) : Shape :=
  match argument.toList with
  | ['-', '-'] => .escape
  | '-' :: '-' :: rest =>
      match Text.splitOnce? (· = '=') rest with
      | some (name, value) => .long (String.ofList name) (some (String.ofList value))
      | none => .long (String.ofList rest) none
  | '-' :: letter :: rest => .short (letter :: rest)
  | _ => .plain

end Shape

/-- The arguments of a command, sorted by what they are. -/
structure Arguments where
  options : List (String × String)
  switches : List String
  operands : List String
  handedOn : List String
  deriving DecidableEq, Repr

namespace Arguments

def empty : Arguments := ⟨[], [], [], []⟩

def option? (a : Arguments) (name : String) : Option String := a.options.lookup name

def has (a : Arguments) (name : String) : Bool := a.switches.contains name

end Arguments

/-- What a command takes. -/
structure Signature where
  options : List (String × ValueKind)
  switches : List String
  operands : List String
  handsOn : Bool
  deriving DecidableEq, Repr

namespace Signature

variable (s : Signature)

def addOption (a : Arguments) (name : String) (kind : ValueKind) (value : String) :
    Except Refusal Arguments :=
  if (a.option? name).isSome then .error (.misuse (.repeated name))
  else if !kind.accepts value then .error (.misuse (.invalidValue name value))
  else .ok { a with options := (name, value) :: a.options }

def addSwitch (a : Arguments) (name : String) : Except Refusal Arguments :=
  if name = "help" then .error .help
  else if name = "verbose" then .ok a
  else if !s.switches.contains name then .error (.misuse (.unknownOption name))
  else if a.has name then .error (.misuse (.repeated name))
  else .ok { a with switches := name :: a.switches }

def isSwitch (name : String) : Bool :=
  name = "help" || name = "verbose" || s.switches.contains name

def addOperand (a : Arguments) (operand : String) : Except Refusal Arguments :=
  match s.operands.drop a.operands.length with
  | [] => .error (.misuse (.unexpectedArgument operand))
  | name :: _ =>
      if !ValueKind.path.accepts operand then .error (.misuse (.invalidValue name operand))
      else .ok { a with operands := a.operands ++ [operand] }

def readVerbatim (a : Arguments) : List String → Except Refusal Arguments
  | [] => .ok a
  | argument :: rest =>
      if s.handsOn then .ok { a with handedOn := argument :: rest }
      else do readVerbatim (← s.addOperand a argument) rest

def readLetters : List Char → Except Refusal Unit
  | [] => .ok ()
  | 'v' :: rest => readLetters rest
  | 'h' :: _ => .error .help
  | letter :: _ => .error (.misuse (.unknownOption (String.singleton letter)))

/-- Reads arguments in order, up to the first that is wrong or asks for help. -/
def read (a : Arguments) : List String → Except Refusal Arguments
  | [] => .ok a
  | argument :: rest =>
      match Shape.ofText argument with
      | .plain => do read (← s.addOperand a argument) rest
      | .escape => s.readVerbatim a rest
      | .short letters => do
          readLetters letters
          read a rest
      | .long name value =>
          match s.options.lookup name, value with
          | some kind, some value => do read (← addOption a name kind value) rest
          | some kind, none =>
              match rest with
              | [] => .error (.misuse (.missingValue name))
              | value :: rest =>
                  if Shape.ofText value = .plain then do
                    read (← addOption a name kind value) rest
                  else .error (.misuse (.missingValue name))
          | none, some _ =>
              .error (.misuse
                (if s.isSwitch name then .unexpectedValue name else .unknownOption name))
          | none, none => do read (← s.addSwitch a name) rest

end Signature

end Clausal.CommandLine

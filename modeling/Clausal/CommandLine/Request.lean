import Clausal.CommandLine.Arguments
import Clausal.Numbering
import Clausal.Solver.Config

/-!
# Requests

A request is a command with its arguments read: generate an instance, solve a file, decode
an answer, or solve a folder of instances.
-/

namespace Clausal.CommandLine

/-- Writes the coloring of a random graph. -/
structure GenerateRequest where
  nodes : UInt64
  edges : UInt64
  colors : UInt64
  seed : UInt64
  minimize : Bool
  order : NumberingOrder
  emit : Path
  /-- Whether to solve the instance afterwards. -/
  check : Bool
  deriving DecidableEq, Repr

structure SolveRequest where
  input : Path
  format : Option Format
  config : SolverConfig
  /-- Whether to show what the solver printed. -/
  raw : Bool
  deriving DecidableEq, Repr

structure DecodeRequest where
  input : Path
  format : Format
  deriving DecidableEq, Repr

structure BenchRequest where
  folder : Path
  report : Path
  config : SolverConfig
  /-- Whether to show each row when it is known. -/
  progress : Bool
  deriving DecidableEq, Repr

inductive Request where
  | generate (request : GenerateRequest)
  | solve (request : SolveRequest)
  | decode (request : DecodeRequest)
  | bench (request : BenchRequest)
  deriving DecidableEq, Repr

namespace Arguments

/-- The number that an option has, or a default. -/
def number (a : Arguments) (name : String) (default : UInt64) : UInt64 :=
  ((a.option? name).bind fun text => Text.readUInt64? text.toList).getD default

def format? (a : Arguments) : Option Format := (a.option? "format").bind Format.ofExtension?

def path? (a : Arguments) (name : String) : Option Path := (a.option? name).map Path.ofString

def path (a : Arguments) (name : String) : Except Refusal Path :=
  match a.path? name with
  | some path => .ok path
  | none => .error (.misuse (.missing name))

/-- The only operand. -/
def operand (a : Arguments) (name : String) : Except Refusal Path :=
  match a.operands with
  | operand :: _ => .ok (.ofString operand)
  | [] => .error (.misuse (.missing name))

/-- The solver that the options describe. -/
def solver (a : Arguments) : Except Refusal SolverConfig := do
  let config := SolverConfig.ofSolver (← a.path "solver")
  let config := config.withTimeoutSeconds (a.number "timeout" 0)
  return { config with
    workingDir := (a.path? "working-dir").getD config.workingDir
    arguments := a.handedOn
    timeBin := a.path? "time-bin" }

end Arguments

namespace GenerateRequest

def signature : Signature where
  options := [("nodes", .number), ("edges", .number), ("colors", .number), ("seed", .number),
    ("emit", .path)]
  switches := ["minimize", "sorted", "check"]
  operands := []
  handsOn := false

def ofArguments (a : Arguments) : Except Refusal GenerateRequest := do
  return {
    nodes := a.number "nodes" 10
    edges := a.number "edges" 20
    colors := a.number "colors" 3
    seed := a.number "seed" 1
    minimize := a.has "minimize"
    order := if a.has "sorted" then .sorted else .registration
    emit := ← a.path "emit"
    check := a.has "check" }

end GenerateRequest

namespace SolveRequest

def signature : Signature where
  options := [("solver", .path), ("format", .format), ("timeout", .number),
    ("time-bin", .path), ("working-dir", .path)]
  switches := ["raw"]
  operands := ["path"]
  handsOn := true

def ofArguments (a : Arguments) : Except Refusal SolveRequest := do
  return {
    input := ← a.operand "path"
    format := a.format?
    config := ← a.solver
    raw := a.has "raw" }

end SolveRequest

namespace DecodeRequest

def signature : Signature where
  options := [("format", .format)]
  switches := []
  operands := ["path"]
  handsOn := false

def ofArguments (a : Arguments) : Except Refusal DecodeRequest := do
  return { input := ← a.operand "path", format := a.format?.getD .cnf }

end DecodeRequest

namespace BenchRequest

def signature : Signature where
  options := [("solver", .path), ("timeout", .number), ("time-bin", .path), ("csv", .path)]
  switches := ["progress"]
  operands := ["dir"]
  handsOn := true

def ofArguments (a : Arguments) : Except Refusal BenchRequest := do
  return {
    folder := ← a.operand "dir"
    report := ← a.path "csv"
    config := ← a.solver
    progress := a.has "progress" }

end BenchRequest

namespace Request

def commandNames : List String := ["gen", "solve", "decode", "bench", "help"]

/-- Asks for help with a command, which takes no command itself. -/
def readHelp : List String → Except Refusal Request
  | [] => .error .help
  | [name] =>
      if commandNames.contains name then .error .help
      else .error (.misuse (.unknownCommand name))
  | name :: next :: _ =>
      .error (.misuse (.unknownCommand (if commandNames.contains name then next else name)))

def readCommand (name : String) (arguments : List String) : Except Refusal Request := do
  let read (signature : Signature) := signature.read .empty arguments
  match name with
  | "gen" => return .generate (← GenerateRequest.ofArguments (← read GenerateRequest.signature))
  | "solve" => return .solve (← SolveRequest.ofArguments (← read SolveRequest.signature))
  | "decode" => return .decode (← DecodeRequest.ofArguments (← read DecodeRequest.signature))
  | "bench" => return .bench (← BenchRequest.ofArguments (← read BenchRequest.signature))
  | "help" => readHelp arguments
  | _ => throw (.misuse (.unknownCommand name))

/-- Reads a command line; before the command there is nothing but switches. -/
def read : List String → Except Refusal Request
  | [] => .error (.misuse .missingCommand)
  | argument :: rest =>
      match Shape.ofText argument with
      | .plain => readCommand argument rest
      | .escape => .error (.misuse .missingCommand)
      | .short letters => do
          Signature.readLetters letters
          read rest
      | .long "verbose" none => read rest
      | .long "help" none => .error .help
      | .long name _ => .error (.misuse (.unknownOption name))

end Request

end Clausal.CommandLine

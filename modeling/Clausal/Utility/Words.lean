import Clausal.Shell.Builtin.Test
import Clausal.Shell.Printf
import Clausal.Utility.Basic

/-!
# Utilities for words

Utilities that make something of their arguments and the exported names alone: text, a part of
a path, or a status.
-/

namespace Clausal.Utility

open Machine (Action Environment Task)
open Text (Octets)

def true_ : Tool := fun _ _ => return 0

def false_ : Tool := fun _ _ => return 1

/-! ## Text -/

def withoutHexEscapes : Nat → Octets → Octets
  | 0, _ => []
  | rounds + 1, octets =>
      match octets with
      | '\\' :: 'x' :: rest =>
          let digits := (rest.takeWhile fun c => (Text.Magnitude.digit? true c).isSome).take 2
          if digits.isEmpty then '\\' :: 'x' :: withoutHexEscapes rounds rest
          else
            let value := digits.foldl (fun value c =>
              16 * value + (Text.Magnitude.digit? true c).getD 0) 0
            escapeByte (Char.ofNat value) ++ withoutHexEscapes rounds (rest.drop digits.length)
      | '\\' :: c :: rest => '\\' :: c :: withoutHexEscapes rounds rest
      | c :: rest => c :: withoutHexEscapes rounds rest
      | [] => []

/-- A format with quoting directives for plain ones, and no escapes of double quotes. -/
def withoutQuoting : Octets → Octets
  | '\\' :: '"' :: rest => '"' :: withoutQuoting rest
  | '\\' :: c :: rest => '\\' :: c :: withoutQuoting rest
  | '%' :: '%' :: rest => '%' :: '%' :: withoutQuoting rest
  | '%' :: 'q' :: rest => '%' :: 's' :: withoutQuoting rest
  | c :: rest => c :: withoutQuoting rest
  | [] => []

/-- Writes the arguments; escapes are replaced if that is asked for. -/
def echo : Tool := fun arguments _ =>
  go true false arguments
where
  go (ended escapes : Bool) : List Octets → Action Nat
    | ('-' :: c :: letters) :: rest =>
        if (c :: letters).all fun c => c = 'n' || c = 'e' || c = 'E' then
          go (ended && !(c :: letters).contains 'n')
            (((c :: letters).filter (· != 'n')).getLast?.getD (if escapes then 'e' else 'E') = 'e')
            rest
        else write ended escapes (('-' :: c :: letters) :: rest)
    | arguments => write ended escapes arguments
  write (ended escapes : Bool) (arguments : List Octets) : Action Nat :=
    let text := [' '].intercalate arguments
    let (text, stopped) := if escapes then
        let text := withoutHexEscapes (text.length + 1) text
        Shell.Printf.unescape (text.length + 1) text
      else (text, false)
    emit "echo" (if ended && !stopped then text ++ ['\n'] else text)

def asksForQuoting : Octets → Bool
  | '%' :: '%' :: rest => asksForQuoting rest
  | '%' :: 'q' :: _ => true
  | _ :: rest => asksForQuoting rest
  | [] => false

def numberComplaint (word : Octets) (complaint : Shell.Printf.Complaint) : Octets :=
  quoted word ++ match complaint with
    | .notNumeric => ": expected a numeric value".toList
    | .leftOver => ": value not completely converted".toList
    | .outOfRange => ": Numerical result out of range".toList

def printf : Tool := fun arguments _ => do
  match if arguments.head? = some ['-', '-'] then arguments.tail else arguments with
  | [] => misuse "printf" "missing operand".toList 1
  | format :: arguments =>
      let isQuoting := asksForQuoting format
      let arguments := if isQuoting then arguments.map shownName else arguments
      let progress := Shell.Printf.print
        (withoutHexEscapes (format.length + 1) (withoutQuoting format)) arguments
      let status ← emit "printf" progress.printed.reverse
      progress.complaints.reverse.forM fun (word, complaint) =>
        complain "printf" (numberComplaint word complaint)
      match progress.failure with
      | some complaint =>
          let directive := complaint.takeWhile (· != ':')
          fail "printf" (directive ++ ": invalid conversion specification".toList) 1
      | none =>
          if progress.arguments != [] && progress.arguments.length = arguments.length then
            complain "printf" ("warning: ignoring excess arguments, starting with ".toList ++
              quoted (arguments.headD []))
          return if progress.complaints.isEmpty then status else 1

def test (name : String) : Tool := fun arguments _ => do
  let files ← (Task.browse (fun files => files) : Action FileSystem)
  let isBracket := name = "["
  if isBracket && arguments.getLast? != some [']'] then
    fail name "missing ']'".toList 2
  else
    match Shell.Test.evaluate files (if isBracket then arguments.dropLast else arguments) with
    | .ok value => return if value then 0 else 1
    | .error complaint =>
        let mark := "Illegal number: ".toList
        if mark.isPrefixOf complaint then
          fail name ("invalid integer ".toList ++ quoted (complaint.drop mark.length)) 2
        else fail name complaint 2

/-! ## Parts of paths -/

def lastPart (path : Octets) : Octets :=
  let bare := (path.reverse.dropWhile (· = '/')).reverse
  if bare.isEmpty then path.take 1 else (bare.reverse.takeWhile (· != '/')).reverse

def folderPart (path : Octets) : Octets :=
  let bare := path.reverse.dropWhile (· = '/')
  let before := (bare.dropWhile (· != '/')).dropWhile (· = '/')
  if !before.isEmpty then before.reverse
  else if path.head? = some '/' then ['/'] else ['.']

/-- A name without an ending that is not all of it. -/
def withoutEnding (name ending : Octets) : Octets :=
  if ending.isEmpty || name = ending || !ending.isSuffixOf name then name
  else name.take (name.length - ending.length)

def basename : Tool := fun arguments _ => do
  match Arguments.readFront
      [.flag "a" "multiple", .setting "s" "suffix", .flag "z" "zero"] arguments with
  | .error wrong => misuse "basename" wrong.complaint 1
  | .ok a =>
      let end_ := if a.has "z" then '\x00' else '\n'
      let ending := (a.value? "s").getD []
      match a.hasAny ["a", "s"], a.operands with
      | _, [] => misuse "basename" "missing operand".toList 1
      | true, names =>
          emit "basename" (unlinesWith end_ (names.map fun name => withoutEnding (lastPart name) ending))
      | false, [name] => emit "basename" (lastPart name ++ [end_])
      | false, [name, ending] => emit "basename" (withoutEnding (lastPart name) ending ++ [end_])
      | false, _ :: _ :: extra :: _ => extraOperand "basename" extra 1

def dirname : Tool := fun arguments _ => do
  match Arguments.readFront [.flag "z" "zero"] arguments with
  | .error wrong => misuse "dirname" wrong.complaint 1
  | .ok a =>
      withOperands "dirname" 1 a <|
        emit "dirname" (unlinesWith (if a.has "z" then '\x00' else '\n')
          (a.operands.map folderPart))

/-! ## Surroundings -/

def printenv : Tool := fun arguments environment => do
  match Arguments.readFront [.flag "0" "null"] arguments with
  | .error wrong => misuse "printenv" wrong.complaint 2
  | .ok a =>
      let end_ := if a.has "0" then '\x00' else '\n'
      if a.operands.isEmpty then
        emit "printenv" (unlinesWith end_ (environment.map fun (name, value) =>
          Text.Octets.ofString name ++ '=' :: value))
      else
        let found := a.operands.map fun name => environment.lookup (text name)
        emitWith "printenv" (unlinesWith end_ (found.filterMap id))
          (if found.all Option.isSome then 0 else 1)

def fixedLine (name line : String) : Tool := fun arguments _ =>
  match arguments with
  | [] => emit name (line ++ "\n").toList
  | operand :: _ => extraOperand name operand 1

/-- What is said of the machine, by the letter that asks for it. -/
def machineFacts : List (String × String) :=
  [("s", "Linux"), ("n", "localhost"), ("r", "6.1.0"), ("v", "#1 SMP"), ("m", "x86_64"),
    ("o", "GNU/Linux")]

def uname : Tool := fun arguments _ =>
  withArguments "uname"
      [.flag "a" "all", .flag "s" "kernel-name", .flag "n" "nodename",
        .flag "r" "kernel-release", .flag "v" "kernel-version", .flag "m" "machine",
        .flag "p" "processor", .flag "i" "hardware-platform", .flag "o" "operating-system"] 1
      arguments fun a => do
    match a.operands with
    | operand :: _ => extraOperand "uname" operand 1
    | [] =>
        let chosen := machineFacts.filter fun (letter, _) => a.has "a" || a.has letter
        let unknown := [("p", "unknown"), ("i", "unknown")].filter fun (letter, _) => a.has letter
        let chosen := if (chosen ++ unknown).isEmpty then machineFacts.take 1 else chosen ++ unknown
        emit "uname" ((" ".intercalate (chosen.map Prod.snd)) ++ "\n").toList

def tty : Tool := fun arguments _ =>
  withArguments "tty" [.flag "s" "silent", .flag "s" "quiet"] 2 arguments fun a => do
    if !a.has "s" then
      let _ ← emit "tty" "not a tty\n".toList
    return 1

end Clausal.Utility

import Clausal.Machine.Program
import Clausal.Shell.Builtin.Basic

/-!
# What a name stands for

The first word of a command is the name of a function, of a built-in command or of a program,
in this order.
-/

namespace Clausal.Shell

open Text (Octets)

structure Kind where
  isSpecial : Bool
  assigns : Bool
  deriving DecidableEq, Repr

namespace Kind

def special : Kind := ⟨true, false⟩

def regular : Kind := ⟨false, false⟩

end Kind

def builtins : List (String × Kind) :=
  [("[", .regular), ("echo", .regular), ("printf", .regular), ("test", .regular),
    (":", .special), ("read", .regular), ("shift", .special), ("exit", .special),
    ("return", .special), ("break", .special), ("continue", .special), ("set", .special),
    ("export", ⟨true, true⟩), ("local", ⟨true, true⟩), ("readonly", ⟨true, true⟩),
    ("unset", .special), ("eval", .special), (".", .special), ("exec", .special),
    ("trap", .special), ("wait", .regular), ("kill", .regular), ("cd", .regular),
    ("chdir", .regular), ("pwd", .regular), ("true", .regular), ("false", .regular),
    ("command", .regular), ("type", .regular), ("getopts", .regular),
    ("alias", ⟨false, true⟩), ("unalias", .regular), ("jobs", .regular), ("hash", .regular),
    ("umask", .regular), ("ulimit", .regular), ("times", .special), ("bg", .regular),
    ("fg", .regular)]

inductive Found where
  | function (body : Command)
  | builtin (name : String) (kind : Kind)
  | program

/-- What a name stands for; functions can be left out. -/
def Session.find (s : Session) (allowsFunctions : Bool) (name : Octets) : Found :=
  let name := String.ofList name
  match if allowsFunctions then s.functions.lookup name else none with
  | some body => .function body
  | none =>
      match builtins.lookup name with
      | some kind => .builtin name kind
      | none => .program

def Session.programPath (s : Session) (files : FileSystem) (name : Octets) :
    Except FileError Path :=
  if name.contains '/' then .ok ⟨name⟩
  else if name.isEmpty then .error .notFound
  else Machine.Program.search files s.searchPath name

def programComplaint (name : Octets) (failure : FileError) : Octets :=
  let reason :=
    if failure = .notFound || failure = .notFolder then "not found" else failure.reason
  name ++ ": ".toList ++ reason.toList

/-- The status of a command whose program cannot be run. -/
def programStatus (failure : FileError) : Nat :=
  match failure with
  | .notFound | .notFolder | .nameTooLong | .tooManyLinks => 127
  | _ => 126

namespace Builtin

/-- Says what a name stands for, in a sentence or in a word.  The status says whether it
stands for anything. -/
def describe (verbose : Bool) (name : Octets) : Work Nat := do
  let s ← Work.get
  let line (sentence : String) (word : Octets) : Octets :=
    (if verbose then name ++ ' ' :: sentence.toList else word) ++ ['\n']
  if (Keyword.ofSpelling? (String.ofList name)).isSome then
    print (line "is a shell keyword" name)
  else
    match s.aliases.lookup (String.ofList name) with
    | some value =>
        print (if verbose then name ++ " is an alias for ".toList ++ value ++ ['\n']
          else "alias ".toList ++ name ++ '=' :: quote value ++ ['\n'])
    | none =>
        match s.find true name with
        | .function _ => print (line "is a shell function" name)
        | .builtin _ kind =>
            print (line (if kind.isSpecial then "is a special shell builtin"
              else "is a shell builtin") name)
        | .program =>
            let files ← Work.files
            match (s.programPath files name).toOption.filter files.isProgram with
            | some path =>
                print ((if verbose then name ++ " is ".toList else []) ++ path.octets ++ ['\n'])
            | none =>
                if verbose then
                  let _ ← print (name ++ ": not found\n".toList)
                return 127

def type_ (arguments : List Octets) : Work Nat := do
  let (_, arguments) ← takeOptions [] arguments
  let statuses ← arguments.mapM (describe true)
  return statuses.foldl max 0

def command (arguments : List Octets) : Work Nat := do
  let (options, arguments) ← takeOptions ['p', 'v', 'V'] arguments
  match arguments with
  | [] => return 0
  | name :: _ =>
      if options.contains 'V' then describe true name
      else if options.contains 'v' then describe false name
      else return 0

end Builtin

end Clausal.Shell

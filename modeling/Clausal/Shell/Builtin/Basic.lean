import Clausal.Shell.Arithmetic
import Clausal.Shell.Jobs
import Clausal.Shell.Printf

/-!
# Built-in commands

What built-in commands share, and those that only write: a built-in command gets its
arguments and ends in a status and in what is skipped after it.
-/

namespace Clausal.Shell

open Machine (Task)
open Text (Octets)

namespace Builtin

def print (octets : Octets) : Work Nat := do
  if octets.isEmpty then return 0
  else
    match ← Work.write 1 octets with
    | .ok () => return 0
    | .error _ =>
        let name := (← Work.get).running.getD []
        Work.complain (name ++ ": I/O error".toList)
        return 1

def number (text : Octets) : Work Nat := do
  match Arithmetic.decimal? text with
  | some value =>
      if 0 ≤ value ∧ value ≤ 0x7fffffff then return value.toNat else Work.badNumber text
  | none => Work.badNumber text

def quote (text : Octets) : Octets := go (text.length + 1) text
where
  go : Nat → Octets → Octets
    | 0, _ => []
    | rounds + 1, text =>
        let (plain, rest) := text.span (· != '\'')
        let (quotes, rest) := rest.span (· = '\'')
        '\'' :: plain ++ '\'' ::
          (if quotes.isEmpty then []
          else '"' :: quotes ++ '"' :: (if rest.isEmpty then [] else go rounds rest))

/-- Options by one letter at the start of arguments, and the arguments after them. -/
def takeOptions (letters : List Char) : List Octets → Work (List Char × List Octets)
  | [] => return ([], [])
  | argument :: rest => do
      match argument with
      | ['-', '-'] => return ([], rest)
      | '-' :: c :: more =>
          match (c :: more).find? fun c => !letters.contains c with
          | some c => Work.fault ("Illegal option -".toList ++ [c])
          | none =>
              let (found, rest) ← takeOptions letters rest
              return (c :: more ++ found, rest)
      | _ => return ([], argument :: rest)

/-! ## Output -/

/-- Writes the arguments with blanks between them and escapes replaced. -/
def echo (arguments : List Octets) : Work Nat := do
  let (ended, arguments) :=
    match arguments with
    | ['-', 'n'] :: rest => (false, rest)
    | arguments => (true, arguments)
  let text := [' '].intercalate arguments
  let (text, stopped) := Printf.unescape (text.length + 1) text
  print (if ended && !stopped then text ++ ['\n'] else text)

def printf (arguments : List Octets) : Work Nat := do
  let (_, arguments) ← takeOptions [] arguments
  match arguments with
  | [] => Work.fault "usage: printf format [arg ...]".toList
  | format :: arguments =>
      let progress := Printf.print format arguments
      progress.complaints.reverse.forM fun (word, complaint) =>
        Work.complain (word ++ ": ".toList ++ complaint.text.toList)
      let status ← print progress.printed.reverse
      match progress.failure with
      | some complaint => Work.fault complaint
      | none => return if progress.complaints.isEmpty then status else 1

end Builtin

end Clausal.Shell

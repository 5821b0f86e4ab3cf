import Clausal.FileSystem.Mode
import Clausal.Shell.Builtin.Basic

/-!
# What a process may do

The bits that new files do not get, and how much of something a process may use.  A bound has a
value that counts and one that the first can be raised to.
-/

namespace Clausal.Shell

open Machine (Limits Task)
open Text (Octets)

namespace Builtin

/-! ## Bits of new files -/

/-- What a class may do with new files, as letters. -/
def maskClass (letter : Char) (three : Nat) : Octets :=
  letter :: '=' :: ((if three / 4 % 2 = 1 then ['r'] else []) ++
    (if three / 2 % 2 = 1 then ['w'] else []) ++ (if three % 2 = 1 then ['x'] else []))

def shownMask (symbolic : Bool) (mask : Nat) : Octets :=
  let mode := 0o777 - mask
  if symbolic then
    [','].intercalate [maskClass 'u' (mode / 64), maskClass 'g' (mode / 8), maskClass 'o' mode]
  else
    let digits := Mode.shownOctal mask
    List.replicate (4 - digits.length) '0' ++ digits

def umask (arguments : List Octets) : Work Nat := do
  let (options, arguments) ← takeOptions ['S'] arguments
  let mask ← Work.lift (Task.mask 0)
  let _ ← Work.lift (Task.mask mask)
  match arguments with
  | [] => print (shownMask (options.contains 'S') mask ++ ['\n'])
  | text :: _ =>
      let bits ← if text.head?.any Char.isDigit then
          match Mode.octal? text with
          | some bits => pure (bits % 512)
          | none => Work.badNumber text
        else
          match Mode.read? text with
          | some changes => pure (0o777 - Mode.applyAll changes false 0 (0o777 - mask) % 512)
          | none => Work.fault ("Illegal mode: ".toList ++ text)
      let _ ← Work.lift (Task.mask bits)
      return 0

/-! ## Bounds -/

/-- Something that there are bounds for. -/
structure Resource where
  letter : Char
  description : String
  soft : Option Nat
  hard : Option Nat

def resources : List Resource :=
  [⟨'t', "time(seconds)", none, none⟩, ⟨'f', "file(blocks)", none, none⟩,
    ⟨'d', "data(kbytes)", none, none⟩, ⟨'s', "stack(kbytes)", some 8192, none⟩,
    ⟨'c', "coredump(blocks)", some 0, none⟩, ⟨'m', "memory(kbytes)", none, none⟩,
    ⟨'l', "locked memory(kbytes)", some 8192, some 8192⟩,
    ⟨'p', "process", none, none⟩, ⟨'n', "nofiles", some 1048576, some 1048576⟩,
    ⟨'v', "vmemory(kbytes)", none, none⟩, ⟨'w', "locks", none, none⟩,
    ⟨'r', "rtprio", some 0, some 0⟩]

namespace Resource

def softBound (r : Resource) (limits : Limits) : Option Nat :=
  (limits.lookup r.letter).getD r.soft

def hardBound (r : Resource) (limits : Limits) : Option Nat :=
  (limits.lookup r.letter.toUpper).getD r.hard

/-- Both bounds in the place of those before. -/
def withBounds (r : Resource) (soft hard : Option Nat) (limits : Limits) : Limits :=
  (r.letter, soft) :: (r.letter.toUpper, hard) ::
    limits.filter fun entry => entry.1 != r.letter && entry.1 != r.letter.toUpper

end Resource

def isBeyond (a b : Option Nat) : Bool :=
  match a, b with
  | _, none => false
  | none, some _ => true
  | some a, some b => b < a

def shownBound (bound : Option Nat) : Octets :=
  (match bound with
    | some n => (toString n).toList
    | none => "unlimited".toList) ++ ['\n']

def readBound (text : Octets) : Work (Option Nat) := do
  if text = "unlimited".toList then return none
  else if text.isEmpty then return some 0
  else
    match Text.readDigits? text with
    | some n => return some n
    | none => Work.fault "bad number".toList

def setBounds (r : Resource) (isSoft isHard : Bool) (limits : Limits) (bound : Option Nat) :
    Work Nat := do
  let soft := if isSoft then bound else r.softBound limits
  let hard := if isHard then bound else r.hardBound limits
  let failed (reason : String) : Work Nat :=
    Work.fault ("error setting limit (".toList ++ reason.toList ++ [')'])
  if isBeyond soft hard then failed "Invalid argument"
  else if isBeyond hard (r.hardBound limits) then failed "Operation not permitted"
  else
    let _ ← Work.lift (Task.limit (r.withBounds soft hard))
    return 0

def ulimit (arguments : List Octets) : Work Nat := do
  let (options, arguments) ← takeOptions ("HSa".toList ++ resources.map Resource.letter) arguments
  let limits ← Work.lift (Task.limit id)
  let isSoft := options.contains 'S' || !options.contains 'H'
  let isHard := options.contains 'H' || !options.contains 'S'
  let letter := ((options.filter fun c => !"HSa".toList.contains c).getLast?).getD 'f'
  let shown (r : Resource) : Octets :=
    shownBound (if isSoft then r.softBound limits else r.hardBound limits)
  match options.contains 'a', arguments, resources.find? fun r => r.letter = letter with
  | true, [], _ =>
      print (resources.flatMap fun r =>
        r.description.toList ++ List.replicate (20 - r.description.length) ' ' ++ ' ' :: shown r)
  | false, [], some r => print (shown r)
  | false, [text], some r => do setBounds r isSoft isHard limits (← readBound text)
  | _, _, _ => Work.fault "too many arguments".toList

end Builtin

end Clausal.Shell

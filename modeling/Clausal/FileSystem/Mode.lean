import Clausal.Text.Utf8
import Clausal.Text.Split

/-!
# Modes

Twelve bits say who may do what with a file: read, write and run it for its user, its group
and all others, and three special ones.  A change of them is written as digits, or as letters
that say whose bits are added, removed or set.
-/

namespace Clausal.Mode

open Text (Octets)

def allBits : Nat := 0o7777

/-- The bits of one set that are not in another. -/
def without (mode bits : Nat) : Nat := mode - (mode &&& bits)

inductive Operation where
  | add | remove | assign
  deriving DecidableEq, Repr

/-- What the bits of an operation stand for. -/
inductive BitsKind where
  | ordinary
  /-- Running is meant too for folders and for what somebody may run already. -/
  | runIfAny
  /-- What one class may do now is meant for all. -/
  | copied
  deriving DecidableEq, Repr

structure Change where
  /-- Whose bits are meant; nobody said if there are none. -/
  affected : Nat
  operation : Operation
  kind : BitsKind
  bits : Nat
  /-- The bits that were said; special bits of folders that were not said stay. -/
  mentioned : Nat
  deriving DecidableEq, Repr

/-- The change that makes a mode what it is. -/
def exactly (mode : Nat) : Change := ⟨allBits, .assign, .ordinary, mode, allBits⟩

def forAll (mode : Nat) : Nat :=
  let three := (mode / 0o100 ||| mode / 0o10 ||| mode) % 8
  three * 0o111

/-- Changes a mode, given whether it is that of a folder and which bits new files do not get. -/
def Change.apply (change : Change) (isFolder : Bool) (mask mode : Nat) : Nat :=
  let kept := if isFolder then without 0o6000 change.mentioned else 0
  let value := match change.kind with
    | .ordinary => change.bits
    | .runIfAny =>
        if isFolder || mode &&& 0o111 != 0 then change.bits ||| 0o111 else change.bits
    | .copied => forAll (mode &&& change.bits &&& 0o777)
  let value := without
    (if change.affected = 0 then without value mask else value &&& change.affected) kept
  match change.operation with
  | .add => mode ||| value
  | .remove => without mode value
  | .assign =>
      let preserved := (if change.affected = 0 then 0 else without allBits change.affected) ||| kept
      (mode &&& preserved) ||| value

def applyAll (changes : List Change) (isFolder : Bool) (mask mode : Nat) : Nat :=
  changes.foldl (fun mode change => change.apply isFolder mask mode) mode

/-! ## Reading -/

def whoBits : Char → Nat
  | 'u' => 0o4700
  | 'g' => 0o2070
  | 'o' => 0o1007
  | 'a' => allBits
  | _ => 0

def classBits? : Char → Option Nat
  | 'u' => some 0o700
  | 'g' => some 0o070
  | 'o' => some 0o007
  | _ => none

def letterBits : Char → Nat
  | 'r' => 0o444
  | 'w' => 0o222
  | 'x' => 0o111
  | 's' => 0o6000
  | 't' => 0o1000
  | _ => 0

def operation? : Char → Option Operation
  | '+' => some .add
  | '-' => some .remove
  | '=' => some .assign
  | _ => none

def octalDigit? (c : Char) : Option Nat :=
  if '0' ≤ c ∧ c ≤ '7' then some (c.toNat - '0'.toNat) else none

def octal? (octets : Octets) : Option Nat :=
  if octets.isEmpty then none
  else
    octets.foldl (fun value c => do
      let digit ← octalDigit? c
      return 8 * (← value) + digit) (some 0)

def readChange (affected : Nat) (operation : Operation) (octets : Octets) :
    Option (Change × Octets) :=
  let mentionedOf (bits : Nat) : Nat := if affected = 0 then bits else affected &&& bits
  let (digits, afterDigits) := octets.span fun c => (octalDigit? c).isSome
  match octal? digits, octets.head?.bind classBits? with
  | some bits, _ =>
      if bits ≤ allBits && affected = 0 && afterDigits.isEmpty then
        some (⟨allBits, operation, .ordinary, bits, allBits⟩, [])
      else none
  | none, some bits =>
      some (⟨affected, operation, .copied, bits, mentionedOf bits⟩, octets.tail)
  | none, none =>
      let (letters, rest) := octets.span fun c => "rwxXst".toList.contains c
      let bits := letters.foldl (fun bits c => bits ||| letterBits c) 0
      some (⟨affected, operation, if letters.contains 'X' then .runIfAny else .ordinary, bits,
        mentionedOf bits⟩, rest)

def readOperations (affected : Nat) : Nat → Octets → Option (List Change)
  | 0, _ => none
  | rounds + 1, octets =>
      match octets with
      | [] => some []
      | c :: rest => do
          let operation ← operation? c
          let (change, rest) ← readChange affected operation rest
          let more ← readOperations affected rounds rest
          return change :: more

def read? (octets : Octets) : Option (List Change) :=
  match octal? octets with
  | some bits =>
      if allBits < bits then none
      else if octets.length < 5 then
        some [⟨allBits, .assign, .ordinary, bits, bits &&& 0o6000 ||| 0o1777⟩]
      else some [exactly bits]
  | none =>
      ((Text.split (· = ',') octets).mapM readPart).map List.flatten
where
  readPart (part : Octets) : Option (List Change) :=
    let (who, rest) := part.span fun c => whoBits c != 0
    if rest.isEmpty then none
    else
      readOperations (who.foldl (fun bits c => bits ||| whoBits c) 0) (rest.length + 1) rest

/-! ## Showing -/

/-- Three letters for three bits; a special bit shows where running is shown. -/
def shownClass (three : Nat) (isSpecial : Bool) (special : Char) : Octets :=
  [if three / 4 % 2 = 1 then 'r' else '-', if three / 2 % 2 = 1 then 'w' else '-',
    if three % 2 = 1 then (if isSpecial then special else 'x')
    else if isSpecial then special.toUpper else '-']

def shown (mode : Nat) : Octets :=
  shownClass (mode / 64) (mode / 0o4000 % 2 = 1) 's' ++
    shownClass (mode / 8) (mode / 0o2000 % 2 = 1) 's' ++
    shownClass mode (mode / 0o1000 % 2 = 1) 't'

def shownOctal (mode : Nat) : Octets := Nat.toDigits 8 mode

theorem applyAll_nil (isFolder : Bool) (mask mode : Nat) :
    applyAll [] isFolder mask mode = mode := rfl

theorem applyAll_append (first second : List Change) (isFolder : Bool) (mask mode : Nat) :
    applyAll (first ++ second) isFolder mask mode =
      applyAll second isFolder mask (applyAll first isFolder mask mode) := by
  simp [applyAll]

end Clausal.Mode

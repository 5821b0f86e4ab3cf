import Clausal.Utility.Keyword

/-!
# Scales

Sizes are shown in blocks of some bytes, rounded up, or with a letter for the largest unit that
leaves a whole number.
-/

namespace Clausal.Utility

open Machine (Environment)
open Text (Octets)

inductive Scale where
  /-- In units that are powers of a base; each size has its own. -/
  | byLetter (base : Nat)
  | byBlock (size : Nat) (ending : Octets)
  deriving DecidableEq, Repr

namespace Scale

def units : List Char := "KMGTPEZY".toList

/-- The letter of a unit; the first is small where the base is a thousand. -/
def letterOf (base : Nat) (letter : Char) : Char :=
  if letter = 'K' && base = 1000 then 'k' else letter

def withLetter (base bytes : Nat) : Nat → List Char → Octets
  | _, [] => shown bytes
  | unit, letter :: letters =>
      let tenths := (bytes * 10 + unit - 1) / unit
      let whole := (bytes + unit - 1) / unit
      if tenths < 100 then shown (tenths / 10) ++ '.' :: shown (tenths % 10) ++ [letterOf base letter]
      else if whole < base || letters.isEmpty then shown whole ++ [letterOf base letter]
      else withLetter base bytes (unit * base) letters

def write (s : Scale) (bytes : Nat) : Octets :=
  match s with
  | byLetter base => if bytes < base then shown bytes else withLetter base bytes base units
  | byBlock size ending => shown ((bytes + size - 1) / size) ++ ending

def numberBound : Nat := 0x10000000000000000

/-- The ending for blocks whose size was said by a unit alone. -/
def endingOf (size base : Nat) (isBytes : Bool) : Octets :=
  let exponent := exponentOf 8 1 0
  let letter? := if exponent = 0 then none else units[exponent - 1]?
  (match letter? with
    | some letter => [letterOf base letter]
    | none => []) ++
    (if isBytes then (if base = 1024 && exponent != 0 then ['i'] else []) ++ ['B'] else [])
where
  exponentOf : Nat → Nat → Nat → Nat
    | 0, _, exponent => exponent
    | rounds + 1, power, exponent =>
        if power < size then exponentOf rounds (power * base) (exponent + 1) else exponent

inductive Misfit where
  | invalid | badSuffix | tooLarge
  deriving DecidableEq, Repr

def number? (octets : Octets) : Option Nat × Octets :=
  match octets with
  | '0' :: x :: rest =>
      let digits := rest.takeWhile fun c => (hexDigit? c).isSome
      if (x = 'x' || x = 'X') && !digits.isEmpty then
        (some (digits.foldl (fun n c => n * 16 + (hexDigit? c).getD 0) 0), rest.drop digits.length)
      else
        let digits := (x :: rest).takeWhile fun c => '0' ≤ c && c ≤ '7'
        (some (digits.foldl (fun n c => n * 8 + (c.toNat - '0'.toNat)) 0),
          (x :: rest).drop digits.length)
  | octets =>
      let (digits, rest) := octets.span Char.isDigit
      (Text.readDigits? digits, rest)
where
  hexDigit? (c : Char) : Option Nat :=
    if c.isDigit then some (c.toNat - '0'.toNat)
    else if 'a' ≤ c && c ≤ 'f' then some (c.toNat - 'a'.toNat + 10)
    else if 'A' ≤ c && c ≤ 'F' then some (c.toNat - 'A'.toNat + 10)
    else none

def unitBase? (rest : Octets) : Option (Nat × Bool) :=
  match rest with
  | [] => some (1024, false)
  | ['i', 'B'] => some (1024, true)
  | ['B'] | ['D'] => some (1000, true)
  | _ => none

def read (octets : Octets) : Except Misfit Scale := do
  let octets := if octets.head? = some '\'' then octets.tail else octets
  match (⟨"", [["human-readable"], ["si"]]⟩ : Keyword).number? octets, octets.isEmpty with
  | .ok 0, false => return byLetter 1024
  | .ok _, false => return byLetter 1000
  | _, _ =>
      let octets := if octets.head? = some '+' then octets.tail else octets
      let (count?, rest) := number? octets
      match count?, rest with
      | none, [] => throw .invalid
      | some count, [] => finish count []
      | count?, letter :: after =>
          let letter := if "egkmptyz".toList.contains letter then letter.toUpper else letter
          match units.idxOf? letter, unitBase? after with
          | none, _ => throw (if count?.isSome then .badSuffix else .invalid)
          | some _, none => throw .badSuffix
          | some place, some (base, isBytes) =>
              let size := (count?.getD 1) * (place + 1).repeat (base * ·) 1
              finish size (if count?.isSome then [] else endingOf size base isBytes)
where
  finish (size : Nat) (ending : Octets) : Except Misfit Scale :=
    if numberBound ≤ size then .error .tooLarge
    else if size = 0 then .error .invalid else .ok (byBlock size ending)

def Misfit.complaint (option : String) (octets : Octets) : Misfit → Octets
  | .invalid => s!"invalid {option} argument ".toList ++ quoted octets
  | .badSuffix => s!"invalid suffix in {option} argument ".toList ++ quoted octets
  | .tooLarge => s!"{option} argument ".toList ++ quoted octets ++ " too large".toList

def asked? (environment : Environment) (names : List String) : Option Scale :=
  (names.findSome? fun name => environment.lookup name).bind fun octets =>
    (read octets).toOption

theorem write_byBlock_one (bytes : Nat) : (byBlock 1 []).write bytes = shown bytes := by
  simp [write]

end Scale

end Clausal.Utility

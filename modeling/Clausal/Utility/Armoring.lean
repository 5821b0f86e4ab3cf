import Clausal.Text.Utf8
import Clausal.Utility.Basic

/-!
# Bytes as letters

Utilities that write bytes with the signs of an alphabet, and read them back.
-/

/-!
## Bytes as letters

Bytes are written with the signs of an alphabet, each of which stands for a few bits.  Signs
come in groups that stand for whole bytes; the last group is filled up.
-/

namespace Clausal.Text

/-- An alphabet for bytes. -/
structure Armor where
  alphabet : List Char
  bits : Nat
  group : Nat

namespace Armor

def letters : List Char := (List.range 26).map fun n => Char.ofNat ('A'.toNat + n)

def digits : List Char := (List.range 10).map fun n => Char.ofNat ('0'.toNat + n)

def base64 : Armor := ⟨letters ++ letters.map Char.toLower ++ digits ++ ['+', '/'], 6, 4⟩

def base64Url : Armor := ⟨letters ++ letters.map Char.toLower ++ digits ++ ['-', '_'], 6, 4⟩

def base32 : Armor := ⟨letters ++ (digits.drop 2).take 6, 5, 8⟩

/-- Signs of the letter order that keeps the order of what is written. -/
def base32Hex : Armor := ⟨digits ++ letters.take 22, 5, 8⟩

def base16 : Armor := ⟨digits ++ letters.take 6, 4, 2⟩

def groupBytes (a : Armor) : Nat := a.bits * a.group / 8

def sign (a : Armor) (value : Nat) : Char := a.alphabet.getD value '='

def bitsOf (width value : Nat) : List Bool :=
  (List.range width).reverse.map fun i => value.testBit i

def ofBits (bits : List Bool) : Nat := bits.foldl (fun n bit => 2 * n + bit.toNat) 0

@[simp] theorem length_bitsOf (width value : Nat) : (bitsOf width value).length = width := by
  simp [bitsOf]

/-- Cuts a list into pieces of a size; the last may be shorter. -/
def pieces (size : Nat) : Nat → List α → List (List α)
  | 0, _ => []
  | rounds + 1, items =>
      if items.isEmpty then [] else items.take size :: pieces size rounds (items.drop size)

def encodeGroup (a : Armor) (octets : Octets) : List Char :=
  let bits := octets.flatMap fun c => bitsOf 8 c.toNat
  let values := (pieces a.bits (bits.length + 1) bits).map fun piece =>
    ofBits (piece ++ List.replicate (a.bits - piece.length) false)
  values.map a.sign ++ List.replicate (a.group - values.length) '='

def encode (a : Armor) (octets : Octets) : List Char :=
  (pieces a.groupBytes (octets.length + 1) octets).flatMap a.encodeGroup

/-- The bytes of a group of signs, and whether it is one.  Signs that stand for no byte may
only fill it up, and bits that are left over are zero. -/
def decodeGroup (a : Armor) (signs : List Char) : Octets × Bool :=
  let known := signs.takeWhile a.alphabet.contains
  let bits := known.flatMap fun c => bitsOf a.bits (a.alphabet.idxOf c)
  let count := bits.length / 8
  let octets := (pieces 8 count bits).map fun piece => Char.ofNat (ofBits piece)
  let isFull := signs.length = a.group && (signs.drop known.length).all (· = '=')
  let isShortest := (known.length - 1) * a.bits / 8 < count
  (octets, isFull && isShortest && (bits.drop (8 * count)).all (!·))

/-- The bytes that signs stand for, up to the first group that is none; a last group may lack
what fills it up. -/
def decode (a : Armor) (signs : List Char) : Octets × Bool :=
  go (pieces a.group (signs.length + 1) signs) []
where
  go : List (List Char) → List Octets → Octets × Bool
    | [], done => (done.reverse.flatten, true)
    | piece :: rest, done =>
        let missing := if piece.getLast? = some '=' then 0 else a.group - piece.length
        let (octets, isGood) := a.decodeGroup (piece ++ List.replicate missing '=')
        if isGood then go rest (octets :: done) else ((octets :: done).reverse.flatten, false)

end Armor

end Clausal.Text

namespace Clausal.Utility

open Machine (Action Task)
open Text (Armor Octets)

def wrapped (width : Nat) (signs : Octets) : Octets :=
  if width = 0 then signs else unlines (Armor.pieces width (signs.length + 1) signs)

def armorSwitches : List Switch :=
  [.flag "d" "decode", .flag "D" "", .flag "i" "ignore-garbage", .setting "w" "wrap"]

def runArmor (name : String) (armor : Armor) (a : Arguments) : Action Nat := do
  let wrap? : Option Nat := match a.value? "w" with
    | none => some 76
    | some value => count? value
  match wrap?, a.operands with
  | none, _ => fail name ("invalid wrap size: ".toList ++ quoted ((a.value? "w").getD [])) 1
  | some _, _ :: operand :: _ => extraOperand name operand 1
  | some width, operands =>
      let file := operands.headD ['-']
      match ← fileContents file with
      | .error failure =>
          let isOpen := file = ['-'] || failure = .file .isFolder
          let subject := if isOpen then "read error".toList else shownName file
          fail name (withReason subject failure) 1
      | .ok octets =>
          if a.hasAny ["d", "D"] then
            let signs := octets.filter fun c =>
              if a.has "i" then c = '=' || armor.alphabet.contains c else c != '\n'
            let (octets, isGood) := armor.decode signs
            let status ← emit name octets
            if isGood then return status else fail name "invalid input".toList 1
          else emit name (wrapped width (armor.encode octets))

def armored (name : String) (armor : Armor) : Tool := fun arguments _ =>
  withArguments name armorSwitches 1 arguments fun a => runArmor name armor a

def basencAlphabets : List (String × Armor) :=
  [("base64", .base64), ("base64url", .base64Url), ("base32", .base32), ("base32hex", .base32Hex),
    ("base16", .base16)]

def basenc : Tool := fun arguments _ =>
  let names := basencAlphabets.map fun (name, _) => Switch.flag name name
  withArguments "basenc" (names ++ armorSwitches) 1 arguments fun a =>
    match (a.last? (basencAlphabets.map Prod.fst)).bind fun key => basencAlphabets.lookup key with
    | some armor => runArmor "basenc" armor a
    | none => misuse "basenc" "missing encoding type".toList 1

end Clausal.Utility

import Clausal.Text.Utf8

/-!
# Binary floating point

Numbers with a mantissa of 53 bits and an exponent, their nearest one to a decimal or
hexadecimal text, and their decimal texts.  Everything is rounded from the exact value to the
nearest result, and from the middle of two to the even one.
-/

namespace Clausal.Text

/-- A number without its sign. -/
inductive Magnitude where
  | finite (mantissa : Nat) (exponent : Int)
  | infinite
  | notNumber
  deriving DecidableEq, Repr

namespace Magnitude

def powerOfTen (exponent : Nat) : Nat := exponent.repeat (fun power => 10 * power) 1

def roundDiv (n d : Nat) : Nat :=
  let quotient := n / d
  let twice := 2 * (n % d)
  if twice < d then quotient
  else if twice = d then quotient + quotient % 2
  else quotient + 1

def scale (n d : Nat) (exponent : Int) : Nat × Nat :=
  if 0 ≤ exponent then (n <<< exponent.toNat, d) else (n, d <<< exponent.natAbs)

def leastExponent : Int := -1074

def ofFraction (n d : Nat) : Magnitude :=
  if n = 0 then finite 0 0
  else
    let guess := max ((n.log2 : Int) - d.log2 - 53) leastExponent
    let (n₁, d₁) := scale n d (-guess)
    let exponent := if n₁ / d₁ < 0x20000000000000 then guess else guess + 1
    let (n₂, d₂) := scale n d (-exponent)
    let mantissa := roundDiv n₂ d₂
    if 1024 ≤ (mantissa.log2 : Int) + exponent then infinite else finite mantissa exponent

def fraction (mantissa : Nat) (exponent : Int) : Nat × Nat := scale mantissa 1 exponent

/-! ## Reading -/

def digit? (isHex : Bool) (c : Char) : Option Nat :=
  if c.isDigit then some (c.toNat - '0'.toNat)
  else if isHex && 'a' ≤ c && c ≤ 'f' then some (c.toNat - 'a'.toNat + 10)
  else if isHex && 'A' ≤ c && c ≤ 'F' then some (c.toNat - 'A'.toNat + 10)
  else none

/-- Digits with at most one point among them: their value without the point, how many there
are, and how many after the point. -/
def readDigits (isHex : Bool) : Octets → Nat → Nat → Option Nat → Nat × Nat × Nat × Octets
  | [], value, count, places => (value, count, places.getD 0, [])
  | c :: rest, value, count, places =>
      match digit? isHex c with
      | some digit =>
          readDigits isHex rest ((if isHex then 16 else 10) * value + digit) (count + 1)
            (places.map (· + 1))
      | none =>
          if c = '.' && places.isNone then readDigits isHex rest value count (some 0)
          else (value, count, places.getD 0, c :: rest)

def readExponent (letter : Char) (text : Octets) : Int × Octets :=
  match text with
  | c :: rest =>
      if c.toLower != letter then (0, text)
      else
        let (negative, digits) :=
          match rest with
          | '-' :: rest => (true, rest)
          | '+' :: rest => (false, rest)
          | rest => (false, rest)
        let (value, count, _, rest) := readDigits false (digits.takeWhile Char.isDigit) 0 0 none
        if count = 0 then (0, text)
        else (if negative then -value else value, rest ++ digits.dropWhile Char.isDigit)
  | [] => (0, [])

def exponentBound : Nat := 5000

def read? (text : Octets) : Option (Magnitude × Octets) :=
  let lower := text.map Char.toLower
  let isHex := match lower with
    | '0' :: 'x' :: c :: rest =>
        (digit? true c).isSome || c = '.' && rest.head?.any fun c => (digit? true c).isSome
    | _ => false
  if "infinity".toList.isPrefixOf lower then some (infinite, text.drop 8)
  else if "inf".toList.isPrefixOf lower then some (infinite, text.drop 3)
  else if "nan".toList.isPrefixOf lower then some (notNumber, text.drop 3)
  else
    let (value, count, places, rest) :=
      readDigits isHex (if isHex then text.drop 2 else text) 0 0 none
    if count = 0 then none
    else
      let (exponent, rest) := readExponent (if isHex then 'p' else 'e') rest
      if isHex then
        let (n, d) := scale value 1 (exponent - 4 * places)
        some (ofFraction n d, rest)
      else
        let exponent := exponent - places
        let size := exponentBound + count
        if value = 0 || exponent < -(size : Int) then some (finite 0 0, rest)
        else if (size : Int) < exponent then some (infinite, rest)
        else if 0 ≤ exponent then some (ofFraction (value * powerOfTen exponent.toNat) 1, rest)
        else some (ofFraction value (powerOfTen exponent.natAbs), rest)

/-! ## Writing -/

def digits (n : Nat) : Octets := (toString n).toList

def withPoint (places : Nat) (alternate : Bool) (n : Nat) : Octets :=
  let text := digits n
  let text := List.replicate (places + 1 - text.length) '0' ++ text
  let (before, after) := text.splitAt (text.length - places)
  before ++ (if places = 0 && !alternate then [] else '.' :: after)

def fixed (places : Nat) (alternate : Bool) (n d : Nat) : Octets :=
  withPoint places alternate (roundDiv (n * powerOfTen places) d)

/-- The place of the first digit of a fraction below one that is not zero. -/
def firstPlace (n d : Nat) : Nat → Nat → Nat
  | 0, place => place
  | rounds + 1, place => if d ≤ n * powerOfTen place then place else firstPlace n d rounds (place + 1)

def decimalExponent (n d : Nat) : Int :=
  if n = 0 then 0
  else if d ≤ n then (digits (n / d)).length - 1
  else -(firstPlace n d 400 1)

def shifted (n d : Nat) (exponent : Int) : Nat :=
  if 0 ≤ exponent then roundDiv (n * powerOfTen exponent.toNat) d
  else roundDiv n (d * powerOfTen exponent.natAbs)

/-- The leading digits, so many after the first, and the power of ten of the first. -/
def leading (places : Nat) (n d : Nat) : Nat × Int :=
  let exponent := decimalExponent n d
  let value := shifted n d (places - exponent)
  if powerOfTen (places + 1) ≤ value then (value / 10, exponent + 1) else (value, exponent)

def exponentText (exponent : Int) : Octets :=
  let text := digits exponent.natAbs
  (if exponent < 0 then '-' else '+') :: (if text.length < 2 then '0' :: text else text)

def scientific (places : Nat) (alternate : Bool) (n d : Nat) : Octets :=
  let (value, exponent) := leading places n d
  withPoint places alternate value ++ 'e' :: exponentText exponent

def withoutZeros (text : Octets) : Octets :=
  if text.contains '.' then
    let text := (text.reverse.dropWhile (· = '0')).reverse
    if text.getLast? = some '.' then text.dropLast else text
  else text

def general (count : Nat) (alternate : Bool) (n d : Nat) : Octets :=
  let count := if count = 0 then 1 else count
  let (value, exponent) := leading (count - 1) n d
  let strip (text : Octets) : Octets := if alternate then text else withoutZeros text
  if -4 ≤ exponent && exponent < (count : Int) then
    strip (fixed ((count : Int) - 1 - exponent).toNat alternate n d)
  else
    strip (withPoint (count - 1) alternate value) ++ 'e' :: exponentText exponent

/-- Hexadecimal digits with a power of two; so many after the point, or as many as are
needed. -/
def hexadecimal (places : Option Nat) (alternate : Bool) (mantissa : Nat) (exponent : Int) :
    Octets :=
  let power : Int := if mantissa = 0 then 0 else mantissa.log2 + exponent
  let full := if mantissa = 0 then 0 else mantissa <<< (52 - mantissa.log2)
  let count := places.getD 13
  let value := if count < 13 then roundDiv full (1 <<< (52 - 4 * count)) else full <<< (4 * (count - 13))
  let text := Nat.toDigits 16 value
  let text := List.replicate (count + 1 - text.length) '0' ++ text
  let (before, after) := text.splitAt (text.length - count)
  let after := if places.isNone then (after.reverse.dropWhile (· = '0')).reverse else after
  "0x".toList ++ before ++ (if after.isEmpty && !alternate then [] else '.' :: after) ++
    'p' :: (if power < 0 then '-' else '+') :: digits power.natAbs

end Magnitude

end Clausal.Text

import Clausal.Word

/-!
# Decimal numerals

A numeral is an optional plus sign and at least one ASCII digit; leading zeros are allowed.
`readUnsigned?` gives its value without a bound, `readUInt64?` refuses what needs more than
64 bits.
-/

namespace Clausal.Text

def digit? (c : Char) : Option Nat :=
  if '0' ≤ c ∧ c ≤ '9' then some (c.toNat - '0'.toNat) else none

/-- The value of the digits read so far followed by these. -/
def digitsValue? : Nat → List Char → Option Nat
  | value, [] => some value
  | value, c :: rest =>
      match digit? c with
      | some d => digitsValue? (10 * value + d) rest
      | none => none

def readDigits? : List Char → Option Nat
  | [] => none
  | c :: rest => digitsValue? 0 (c :: rest)

def readUnsigned? : List Char → Option Nat
  | '+' :: rest => readDigits? rest
  | text => readDigits? text

def readUInt64? (text : List Char) : Option UInt64 :=
  (readUnsigned? text).bind word?

theorem digitsValue?_append (value : Nat) (left right : List Char) :
    digitsValue? value (left ++ right) =
      (digitsValue? value left).bind fun middle => digitsValue? middle right := by
  induction left generalizing value with
  | nil => rfl
  | cons c rest ih =>
      simp only [List.cons_append, digitsValue?]
      cases digit? c with
      | none => rfl
      | some d => exact ih _

theorem readUInt64?_eq_some_iff {text : List Char} {word : UInt64} :
    readUInt64? text = some word ↔ readUnsigned? text = some word.toNat := by
  simp [readUInt64?, Option.bind_eq_some_iff, word?_eq_some_iff]

end Clausal.Text

import Clausal.Shell.Printf
import Clausal.Utility.Basic

/-!
# Values of records

A value is a number or a text.  The parts of a record are texts that count as numbers if they
are written like numbers, and a name without a value is empty and zero at once.
-/

namespace Clausal.Utility.Records

open Text (Magnitude Octets)

inductive Value where
  | unset
  | number (x : Float)
  | text (t : Octets)
  | field (t : Octets)
  deriving Inhabited

def ofMagnitude : Magnitude → Float
  | .finite mantissa exponent => (Float.ofNat mantissa).scaleB exponent
  | .infinite => 1.0 / 0.0
  | .notNumber => 0.0 / 0.0

/-- The sign and magnitude of a number of the machine; what is no number is negative. -/
def toNumber (x : Float) : Shell.Printf.Number :=
  let bits := x.toBits.toNat
  let mantissa := bits % 0x10000000000000
  let exponent := bits / 0x10000000000000 % 2048
  let magnitude : Magnitude :=
    if exponent = 2047 then (if mantissa = 0 then .infinite else .notNumber)
    else if exponent = 0 then .finite mantissa (-1074)
    else .finite (mantissa + 0x10000000000000) ((exponent : Int) - 1075)
  ⟨0x8000000000000000 ≤ bits || x.isNaN, magnitude⟩

def isBlank (c : Char) : Bool := c = ' ' || c = '\t' || c = '\n'

/-- The number that a text starts with, and what follows it; nothing if it starts with none. -/
def readNumber? (octets : Octets) : Option (Float × Octets) :=
  let start := octets.dropWhile isBlank
  let (isNegative, start) := match start with
    | '-' :: rest => (true, rest)
    | '+' :: rest => (false, rest)
    | rest => (false, rest)
  let (digits, rest) := start.span Char.isDigit
  let isShort := !digits.isEmpty && digits.length < 16 &&
    !(rest.head?.any fun c => c = '.' || c.isAlpha)
  let found : Option (Float × Octets) :=
    if isShort then
      some (Float.ofNat (digits.foldl (fun n c => 10 * n + (c.toNat - '0'.toNat)) 0), rest)
    else (Magnitude.read? start).map fun (magnitude, rest) => (ofMagnitude magnitude, rest)
  found.map fun (x, rest) => (if isNegative then -x else x, rest)

def numberOf (octets : Octets) : Float := ((readNumber? octets).map Prod.fst).getD 0

/-- The number that a text is written like: it starts as numbers do and ends with a digit or a
point. -/
def wholeNumber? (octets : Octets) : Option Float :=
  let core := ((octets.dropWhile isBlank).reverse.dropWhile isBlank).reverse
  let isStart (c : Char) : Bool := c.isDigit || c = '+' || c = '-' || c = '.'
  let isEnd (c : Char) : Bool := c.isDigit || c = '.'
  if core.head?.any isStart && core.getLast?.any isEnd then
    match readNumber? core with
    | some (x, []) => some x
    | _ => none
  else none

/-- The whole number that a value is, as far as such numbers are written with all digits. -/
def integral? (x : Float) : Option Int :=
  if x == x.floor && -9223372036854775808.0 ≤ x && x ≤ 18446744073709551616.0 then
    match toNumber x with
    | ⟨isNegative, .finite mantissa exponent⟩ =>
        let (n, d) := Magnitude.fraction mantissa exponent
        some (if isNegative then -((n / d : Nat) : Int) else (min (n / d) 0xffffffffffffffff : Nat))
    | _ => none
  else none

def byDirective (directive : Octets) (x : Float) : Octets :=
  let (part, rest) := Shell.Printf.readDirective (directive.drop 1)
  match part with
  | .directive flags width precision c =>
      let amount : Shell.Printf.Amount → Option Nat
        | .fixed n => some n
        | _ => none
      let layout : Shell.Printf.Layout := ⟨flags, (amount width).getD 0, amount precision⟩
      (if "diouxX".toList.contains c then
        Shell.Printf.convertInteger layout c ((integral? (if x < 0 then x.ceil else x.floor)).getD 0)
      else Shell.Printf.convertNumber layout c (toNumber x)) ++ rest
  | _ => directive

def shownNumber (format : Octets) (x : Float) : Octets :=
  match integral? x with
  | some n => (toString n).toList
  | none => byDirective format x

namespace Value

def toFloat : Value → Float
  | unset => 0
  | number x => x
  | text t => numberOf t
  | field t => numberOf t

def toText (format : Octets) : Value → Octets
  | unset => []
  | number x => shownNumber format x
  | text t => t
  | field t => t

def number? : Value → Option Float
  | unset => some 0
  | number x => some x
  | text _ => none
  | field t => wholeNumber? t

def isTrue : Value → Bool
  | unset => false
  | number x => x != 0
  | text t => !t.isEmpty
  | field t => match wholeNumber? t with
    | some x => x != 0
    | none => !t.isEmpty

def ofBool (b : Bool) : Value := number (if b then 1 else 0)

def ofNat (n : Nat) : Value := number (Float.ofNat n)

def related (format : Octets) (asNumbers : Float → Float → Bool) (asTexts : Ordering → Bool)
    (a b : Value) : Bool :=
  match a.number?, b.number? with
  | some x, some y => asNumbers x y
  | _, _ =>
      let s := a.toText format
      let t := b.toText format
      asTexts (if s < t then .lt else if s = t then .eq else .gt)

end Value

end Clausal.Utility.Records

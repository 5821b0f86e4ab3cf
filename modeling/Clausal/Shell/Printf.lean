import Clausal.Shell.Arithmetic
import Clausal.Text.Floating
import Clausal.Text.Numeral

/-!
# Formatted output

A format is text with escapes and directives.  It is used again while arguments are left, and
a directive without an argument takes an empty one.  Arguments that are no numbers count as
far as they are, with a complaint.
-/

namespace Clausal.Shell.Printf

open Text (Octets Magnitude)

/-- A width or a precision. -/
inductive Amount where
  | absent
  | fixed (count : Nat)
  | argument
  deriving DecidableEq, Repr

structure Flags where
  left : Bool
  zeros : Bool
  plus : Bool
  blank : Bool
  alternate : Bool
  deriving DecidableEq, Repr

inductive Part where
  | char (c : Char)
  | directive (flags : Flags) (width precision : Amount) (conversion : Char)
  | bad (complaint : Octets)
  deriving DecidableEq, Repr

/-! ## Escapes -/

def octal? (c : Char) : Option Nat :=
  if '0' ≤ c ∧ c ≤ '7' then some (c.toNat - '0'.toNat) else none

def readOctal : Nat → Nat → Octets → Nat × Octets
  | digits + 1, value, c :: rest =>
      match octal? c with
      | some d => readOctal digits (8 * value + d) rest
      | none => (value, c :: rest)
  | _, value, text => (value, text)

def letterEscape? : Char → Option Char
  | 'a' => some '\x07'
  | 'b' => some '\x08'
  | 'e' => some '\x1b'
  | 'f' => some '\x0c'
  | 'n' => some '\n'
  | 'r' => some '\r'
  | 't' => some '\t'
  | 'v' => some '\x0b'
  | '\\' => some '\\'
  | _ => none

/-- Reads what follows a backslash; one that starts no escape stands for itself. -/
def readEscape (text : Octets) : Char × Octets :=
  match text with
  | [] => ('\\', [])
  | c :: rest =>
      match letterEscape? c with
      | some escaped => (escaped, rest)
      | none =>
          if (octal? c).isSome then
            let (value, rest) := readOctal 3 0 (c :: rest)
            (Char.ofNat (value % 256), rest)
          else ('\\', c :: rest)

/-- Replaces the escapes in an argument, up to one that ends all output, which the flag
tells.  Octal digits can have a zero before them. -/
def unescape : Nat → Octets → Octets × Bool
  | 0, _ => ([], false)
  | rounds + 1, text =>
      match text with
      | [] => ([], false)
      | '\\' :: 'c' :: _ => ([], true)
      | '\\' :: rest =>
          let digits :=
            match rest with
            | '0' :: c :: rest => if (octal? c).isSome then c :: rest else '0' :: c :: rest
            | rest => rest
          let (c, rest) := readEscape digits
          let (more, stopped) := unescape rounds rest
          (c :: more, stopped)
      | c :: rest =>
          let (more, stopped) := unescape rounds rest
          (c :: more, stopped)

/-! ## Directives -/

def readAmount (text : Octets) : Amount × Octets :=
  match text with
  | '*' :: rest => (.argument, rest)
  | text =>
      let (digits, rest) := text.span Char.isDigit
      match Text.readDigits? digits with
      | some count => (.fixed count, rest)
      | none => (.absent, rest)

def readDirective (text : Octets) : Part × Octets :=
  let (flags, rest) := text.span fun c => "#-+ 0".toList.contains c
  let (width, rest) := readAmount rest
  let (precision, rest) :=
    match rest with
    | '.' :: rest =>
        match readAmount rest with
        | (.absent, rest) => (.fixed 0, rest)
        | found => found
    | rest => (.absent, rest)
  match rest with
  | [] => (.bad "missing format character".toList, [])
  | c :: rest =>
      if "bcsdiouxXaAeEfFgG".toList.contains c then
        let flags : Flags := {
          left := flags.contains '-'
          zeros := flags.contains '0'
          plus := flags.contains '+'
          blank := flags.contains ' '
          alternate := flags.contains '#' }
        (.directive flags width precision c, rest)
      else
        (.bad ('%' :: text.take (text.length - rest.length) ++ ": invalid directive".toList), [])

def parts : Nat → Octets → List Part
  | 0, _ => []
  | rounds + 1, text =>
      match text with
      | [] => []
      | '\\' :: rest =>
          let (c, rest) := readEscape rest
          .char c :: parts rounds rest
      | '%' :: '%' :: rest => .char '%' :: parts rounds rest
      | '%' :: rest =>
          let (part, rest) := readDirective rest
          part :: parts rounds rest
      | c :: rest => .char c :: parts rounds rest

/-! ## Numbers -/

inductive Complaint where
  | notNumeric
  | leftOver
  | outOfRange
  deriving DecidableEq, Repr

def Complaint.text : Complaint → String
  | notNumeric => "expected numeric value"
  | leftOver => "not completely converted"
  | outOfRange => "Numerical result out of range"

def complaint? (text rest : Octets) (fits : Bool) : Option Complaint :=
  if rest.isEmpty then (if fits then none else some .outOfRange)
  else if rest.length = text.length then some .notNumeric
  else some .leftOver

def quoted? (text : Octets) : Option Nat :=
  match text with
  | '\'' :: rest | '"' :: rest => some (rest.headD '\x00').toNat
  | _ => none

def bound : Nat := 0x10000000000000000

def integer (signed : Bool) (text : Octets) : Int × Option Complaint :=
  match quoted? text with
  | some code => (code, none)
  | none =>
      let (negative, digits) :=
        match text.dropWhile Arithmetic.isBlank with
        | '-' :: rest => (true, rest)
        | '+' :: rest => (false, rest)
        | rest => (false, rest)
      if !(digits.head?.any Char.isDigit) then (0, complaint? text text true)
      else
        let (size, rest) := Arithmetic.readBased digits
        let value : Int := if negative then -size else size
        if signed then
          let near := max Arithmetic.smallest (min Arithmetic.largest value)
          (near, complaint? text rest (near == value))
        else if size < bound then (value % bound, complaint? text rest true)
        else (bound - 1, complaint? text rest false)

structure Number where
  negative : Bool
  magnitude : Magnitude
  deriving DecidableEq, Repr

def number (text : Octets) : Number × Option Complaint :=
  match quoted? text with
  | some code => (⟨false, .ofFraction code 1⟩, none)
  | none =>
      let (negative, digits) :=
        match text.dropWhile Arithmetic.isBlank with
        | '-' :: rest => (true, rest)
        | '+' :: rest => (false, rest)
        | rest => (false, rest)
      match Magnitude.read? digits with
      | none => (⟨false, .finite 0 0⟩, complaint? text text true)
      | some (magnitude, rest) =>
          let isWritten := digits.head?.any fun c => c = 'i' || c = 'I'
          (⟨negative, magnitude⟩, complaint? text rest (magnitude != .infinite || isWritten))

/-! ## Conversions -/

/-- A directive whose width and precision are known. -/
structure Layout where
  flags : Flags
  width : Nat
  precision : Option Nat
  deriving DecidableEq, Repr

/-- Fills up to the width with blanks on one side, or with zeros after the sign. -/
def pad (layout : Layout) (zeros : Bool) (sign body : Octets) : Octets :=
  let fill := layout.width - (sign.length + body.length)
  if layout.flags.left then sign ++ body ++ List.replicate fill ' '
  else if zeros then sign ++ List.replicate fill '0' ++ body
  else List.replicate fill ' ' ++ sign ++ body

def sign (flags : Flags) (negative : Bool) : Octets :=
  if negative then ['-'] else if flags.plus then ['+'] else if flags.blank then [' '] else []

/-- A whole number with at least as many digits as the precision asks for. -/
def padInteger (layout : Layout) (sign digits : Octets) : Octets :=
  let wanted := layout.precision.getD 1
  let digits := if wanted = 0 && digits = ['0'] then [] else digits
  pad layout (layout.flags.zeros && layout.precision.isNone) sign
    (List.replicate (wanted - digits.length) '0' ++ digits)

def upper (text : Octets) : Octets := text.map Char.toUpper

def convertInteger (layout : Layout) (conversion : Char) (value : Int) : Octets :=
  let marked (mark : String) : Octets := if layout.flags.alternate && value != 0 then mark.toList else []
  match conversion with
  | 'u' => padInteger layout [] (Nat.toDigits 10 value.toNat)
  | 'o' =>
      let digits := Nat.toDigits 8 value.toNat
      padInteger layout [] (if layout.flags.alternate && value != 0 then '0' :: digits else digits)
  | 'x' => padInteger layout (marked "0x") (Nat.toDigits 16 value.toNat)
  | 'X' => padInteger layout (marked "0X") (upper (Nat.toDigits 16 value.toNat))
  | _ => padInteger layout (sign layout.flags (value < 0)) (Nat.toDigits 10 value.natAbs)

def convertNumber (layout : Layout) (conversion : Char) (number : Number) : Octets :=
  let sign := sign layout.flags number.negative
  let cased (text : Octets) : Octets := if conversion.isUpper then upper text else text
  match number.magnitude with
  | .infinite => pad layout false sign (cased "inf".toList)
  | .notNumber => pad layout false sign (cased "nan".toList)
  | .finite mantissa exponent =>
      let (n, d) := Magnitude.fraction mantissa exponent
      let alternate := layout.flags.alternate
      let places := layout.precision.getD 6
      match conversion.toLower with
      | 'e' => pad layout layout.flags.zeros sign (cased (Magnitude.scientific places alternate n d))
      | 'f' => pad layout layout.flags.zeros sign (Magnitude.fixed places alternate n d)
      | 'g' => pad layout layout.flags.zeros sign (cased (Magnitude.general places alternate n d))
      | _ =>
          let text := cased (Magnitude.hexadecimal layout.precision alternate mantissa exponent)
          pad layout layout.flags.zeros (sign ++ text.take 2) (text.drop 2)

/-! ## Output -/

/-- What was printed so far, the last characters first, and the arguments that are left. -/
structure Progress where
  printed : Octets
  complaints : List (Octets × Complaint)
  arguments : List Octets
  stopped : Bool
  failure : Option Octets

namespace Progress

def add (p : Progress) (text : Octets) : Progress := { p with printed := text.reverse ++ p.printed }

def complain (p : Progress) (text : Octets) (complaint : Option Complaint) : Progress :=
  match complaint with
  | none => p
  | some complaint =>
      { p with complaints := (text, complaint) :: p.complaints }

def takeInteger (p : Progress) (signed : Bool) : Int × Progress :=
  match p.arguments with
  | [] => (0, p)
  | text :: rest =>
      let (value, complaint) := integer signed text
      (value, { p with arguments := rest }.complain text complaint)

def takeText (p : Progress) : Octets × Progress :=
  match p.arguments with
  | [] => ([], p)
  | text :: rest => (text, { p with arguments := rest })

def takeAmount (p : Progress) (amount : Amount) : Option Int × Progress :=
  match amount with
  | .absent => (none, p)
  | .fixed count => (some count, p)
  | .argument =>
      let (value, p) := p.takeInteger true
      (some value, p)

def convert (p : Progress) (flags : Flags) (width precision : Amount) (conversion : Char) :
    Progress :=
  let (width, p) := p.takeAmount width
  let (precision, p) := p.takeAmount precision
  let width := width.getD 0
  let layout : Layout := {
    flags := { flags with left := flags.left || width < 0 }
    width := width.natAbs
    precision := precision.bind fun count => if count < 0 then none else some count.toNat }
  let cut (text : Octets) : Octets := text.take (layout.precision.getD text.length)
  match conversion with
  | 's' =>
      let (text, p) := p.takeText
      p.add (pad layout false [] (cut text))
  | 'b' =>
      let (text, p) := p.takeText
      let (text, stopped) := unescape (text.length + 1) text
      { p.add (pad layout false [] (cut text)) with stopped }
  | 'c' =>
      let (text, p) := p.takeText
      p.add (pad layout false [] [text.headD '\x00'])
  | 'd' | 'i' =>
      let (value, p) := p.takeInteger true
      p.add (convertInteger layout 'd' value)
  | 'o' | 'u' | 'x' | 'X' =>
      let (value, p) := p.takeInteger false
      p.add (convertInteger layout conversion value)
  | conversion =>
      match p.arguments with
      | [] => p.add (convertNumber layout conversion ⟨false, .finite 0 0⟩)
      | text :: rest =>
          let (value, complaint) := number text
          let p := { p with arguments := rest }.complain text complaint
          p.add (convertNumber layout conversion value)

/-- Prints a part, unless everything has been printed. -/
def addPart (p : Progress) (part : Part) : Progress :=
  if p.stopped then p
  else
    match part with
    | .char c => { p with printed := c :: p.printed }
    | .directive flags width precision conversion => p.convert flags width precision conversion
    | .bad complaint => { p with stopped := true, failure := some complaint }

def addAll (format : List Part) : Nat → Progress → Progress
  | 0, p => p
  | rounds + 1, p =>
      let after := format.foldl addPart p
      if after.stopped || after.arguments.isEmpty ||
          after.arguments.length = p.arguments.length then after
      else addAll format rounds after

end Progress

def print (format : Octets) (arguments : List Octets) : Progress :=
  let start : Progress := ⟨[], [], arguments, false, none⟩
  Progress.addAll (parts (format.length + 1) format) (arguments.length + 1) start

end Clausal.Shell.Printf

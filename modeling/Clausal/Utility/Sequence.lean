import Clausal.Shell.Printf
import Clausal.Text.Floating
import Clausal.Utility.Basic

/-!
# Sequences of numbers

Numbers from a first to a last one in equal steps.  They are counted in units of the smallest
decimal place that is written, so no step is rounded.
-/

namespace Clausal.Utility

open Machine (Action Task)
open Text (Magnitude Octets)

/-- A number as written: how many units of a decimal place it is. -/
structure Decimal where
  value : Int
  places : Nat
  /-- How many places are shown because of it, if that is known. -/
  precision : Option Nat
  width : Nat
  deriving DecidableEq, Repr

inductive Limit where
  | finite (d : Decimal)
  | infinite (isNegative : Bool)
  | notNumber
  deriving DecidableEq, Repr

namespace Decimal

def scaled (d : Decimal) (places : Nat) : Int :=
  d.value * Magnitude.powerOfTen (places - d.places)

def readPlain? (isNegative : Bool) (signs : Nat) (octets : Octets) : Option Decimal :=
  let (before, rest) := octets.span Char.isDigit
  let (hasPoint, after, rest) :=
    match rest with
    | '.' :: rest =>
        let (after, rest) := rest.span Char.isDigit
        (true, after, rest)
    | rest => (false, [], rest)
  let exponent? : Option (Option Int) :=
    match rest with
    | [] => some none
    | c :: digits =>
        if c != 'e' && c != 'E' then none
        else
          let (isBelow, digits) := match digits with
            | '-' :: digits => (true, digits)
            | '+' :: digits => (false, digits)
            | digits => (false, digits)
          (Text.readDigits? digits).map fun (n : Nat) => some (if isBelow then -(n : Int) else n)
  match Text.readDigits? (before ++ after), exponent? with
  | some size, some exponent =>
      let value : Int := if isNegative then -(size : Int) else size
      let written := signs + before.length + (if hasPoint then 1 + after.length else 0)
      let width := if !hasPoint then written
        else if after.isEmpty then written - 1
        else if before.isEmpty then written + 1 else written
      match exponent with
      | none => some ⟨value, after.length, some after.length, width⟩
      | some exponent =>
          let up := exponent.toNat
          let down := exponent.natAbs
          if exponent < 0 then
            let width := if hasPoint && !after.isEmpty then width else width + 1
            some ⟨value, after.length + down, some (after.length + down), width + down⟩
          else
            let precision := after.length - up
            let width := if !after.isEmpty && precision = 0 then width - 1 else width
            some ⟨value * Magnitude.powerOfTen (up - after.length), precision, some precision,
              width + (up - after.length)⟩
  | _, _ => none

def read? (octets : Octets) : Option Limit :=
  let bare := octets.dropWhile fun c => c = ' ' || c = '\t' || c = '\n'
  let (isNegative, digits) :=
    match bare with
    | '-' :: rest => (true, rest)
    | '+' :: rest => (false, rest)
    | rest => (false, rest)
  match readPlain? isNegative (if isNegative then 1 else 0) digits with
  | some d => some (.finite d)
  | none =>
      match Magnitude.read? digits with
      | some (.infinite, []) => some (.infinite isNegative)
      | some (.notNumber, []) => some .notNumber
      | some (.finite mantissa exponent, []) =>
          let (n, d) := Magnitude.fraction mantissa exponent
          let size : Int := n / d
          some (.finite ⟨if isNegative then -size else size, 0, some 0, 0⟩)
      | _ => none

def digits (value : Int) (places : Nat) : Octets :=
  (if value < 0 then ['-'] else []) ++ Magnitude.withPoint places false value.natAbs

end Decimal

/-! ## Formats -/

/-- A format with one directive for a number. -/
structure NumberForm where
  before : Octets
  layout : Shell.Printf.Layout
  conversion : Char
  after : Octets

namespace NumberForm

def plainText : Octets → Octets
  | '%' :: '%' :: rest => '%' :: plainText rest
  | c :: rest => c :: plainText rest
  | [] => []

/-- The text before the first directive, and what follows its percent sign. -/
def cutAtDirective : Octets → Octets → Octets × Option Octets
  | before, '%' :: '%' :: rest => cutAtDirective ('%' :: before) rest
  | before, '%' :: rest => (before.reverse, some rest)
  | before, c :: rest => cutAtDirective (c :: before) rest
  | before, [] => (before.reverse, none)

def read (octets : Octets) : Except Octets NumberForm := do
  let wrong (complaint : String) : Octets :=
    "format ".toList ++ quoted octets ++ (" " ++ complaint).toList
  match cutAtDirective [] octets with
  | (_, none) => throw (wrong "has no % directive")
  | (before, some rest) =>
      let (flags, rest) := rest.span fun c => "-+#0 '".toList.contains c
      let (width, rest) := rest.span Char.isDigit
      let (precision, rest) := match rest with
        | '.' :: rest =>
            let (digits, rest) := rest.span Char.isDigit
            (some ((Text.readDigits? digits).getD 0), rest)
        | rest => (none, rest)
      match if rest.head? = some 'L' then rest.tail else rest with
      | [] => throw (wrong "ends in %")
      | conversion :: after =>
          if !("efgaEFGA".toList.contains conversion) then
            throw (wrong ("has unknown %" ++ String.ofList [conversion] ++ " directive"))
          else if (cutAtDirective [] after).2.isSome then
            throw (wrong "has too many % directives")
          else
            return ⟨before, ⟨⟨flags.contains '-', flags.contains '0', flags.contains '+',
              flags.contains ' ', flags.contains '#'⟩, (Text.readDigits? width).getD 0,
              precision⟩, conversion, plainText after⟩

def written (f : NumberForm) (value : Int) (unit : Nat) : Octets :=
  let magnitude := Magnitude.ofFraction value.natAbs (Magnitude.powerOfTen unit)
  f.before ++ Shell.Printf.convertNumber f.layout f.conversion ⟨value < 0, magnitude⟩ ++ f.after

def short : NumberForm := ⟨[], ⟨⟨false, false, false, false, false⟩, 0, none⟩, 'g', []⟩

end NumberForm

/-! ## Sequences -/

structure Sequence where
  first : Int
  step : Int
  last : Option Int
  unit : Nat
  places : Nat
  separator : Octets
  ending : Octets
  width : Nat
  form : Option NumberForm

namespace Sequence

def has (s : Sequence) (value : Int) : Bool :=
  s.last.all fun last => if 0 < s.step then value ≤ last else last ≤ value

def shown (s : Sequence) (value : Int) : Octets :=
  match s.form with
  | some form => form.written value s.unit
  | none =>
      let text :=
        if s.unit = 0 then Decimal.digits value 0
        else Decimal.digits (value / Magnitude.powerOfTen (s.unit - s.places)) s.places
      if s.width ≤ text.length then text
      else
        let (sign, digits) := text.span (· = '-')
        sign ++ List.replicate (s.width - text.length) '0' ++ digits

def write (s : Sequence) : Nat → Int → Outlet → Action Outlet
  | 0, _, o => return o
  | rounds + 1, value, o => do
      if o.failure.isSome then return o
      else
        let next := value + s.step
        if s.has next then write s rounds next (← o.put (s.shown value ++ s.separator))
        else o.put (s.shown value ++ s.ending)

end Sequence

def seqSwitches : List Switch :=
  [.setting "f" "format", .setting "s" "separator", .flag "w" "equal-width"]

def splitNumbers : Nat → List Octets → List Octets × List Octets
  | 0, arguments => ([], arguments)
  | rounds + 1, arguments =>
      match arguments with
      | ('-' :: c :: rest) :: more =>
          if c.isDigit || c = '.' then ([], arguments)
          else if rest.isEmpty && (c = 'f' || c = 's') then
            let (options, numbers) := splitNumbers rounds (more.drop 1)
            (('-' :: c :: rest) :: more.take 1 ++ options, numbers)
          else if c = '-' && rest.isEmpty then ([], more)
          else if c = '-' && (rest.isPrefixOf "format".toList || rest.isPrefixOf "separator".toList)
          then
            let (options, numbers) := splitNumbers rounds (more.drop 1)
            (('-' :: c :: rest) :: more.take 1 ++ options, numbers)
          else
            let (options, numbers) := splitNumbers rounds more
            (('-' :: c :: rest) :: options, numbers)
      | arguments => ([], arguments)

def seq : Tool := fun arguments _ =>
  let (options, numbers) := splitNumbers (arguments.length + 1) arguments
  withArguments "seq" seqSwitches 1 options fun a => do
    let numbers := a.operands ++ numbers
    if numbers.isEmpty then misuse "seq" "missing operand".toList 1
    else if 3 < numbers.length then extraOperand "seq" (numbers.getD 3 []) 1
    else
      match (a.value? "f").mapM NumberForm.read with
      | .error complaint => fail "seq" complaint 1
      | .ok form =>
          if form.isSome && a.has "w" then
            misuse "seq"
              "format string may not be specified when printing equal width strings".toList 1
          else check a form numbers
where
  check (a : Arguments) (form : Option NumberForm) (numbers : List Octets) : Action Nat := do
    let limits := numbers.map Decimal.read?
    match (numbers.zip limits).find? fun (_, limit) => limit.isNone || limit = some .notNumber with
    | some (number, none) =>
        misuse "seq" ("invalid floating point argument: ".toList ++ quoted number) 1
    | some (number, some _) =>
        misuse "seq" ("invalid 'not-a-number' argument: ".toList ++ quoted number) 1
    | none =>
        let one : Decimal := ⟨1, 0, some 0, 1⟩
        match limits.filterMap fun limit => limit with
        | [last] => run a form (.finite one) (.finite one) last numbers
        | [first, last] => run a form first (.finite one) last numbers
        | [first, step, last] => run a form first step last numbers
        | _ => return 1
  run (a : Arguments) (form : Option NumberForm) (first step last : Limit)
      (numbers : List Octets) : Action Nat := do
    match first, step, last with
    | .finite first, .finite step, last =>
        if step.value = 0 then
          misuse "seq" ("invalid Zero increment value: ".toList ++ quoted (numbers.getD 1 [])) 1
        else
          let end? : Option Decimal := match last with
            | .finite d => some d
            | _ => none
          let isEmpty := match last with
            | .infinite isNegative => isNegative == decide (0 < step.value)
            | _ => false
          let unit := max (max first.places step.places) ((end?.map Decimal.places).getD 0)
          let places := max (first.precision.getD 0) (step.precision.getD 0)
          let firstWidth := first.width + (places - first.precision.getD 0) +
            (if first.precision = some 0 && places != 0 then 1 else 0)
          let lastWidth := match end? with
            | some d =>
                let own := d.precision.getD 0
                d.width + places + (if own = 0 && places != 0 then 1 else 0) - own -
                  (if own != 0 && places = 0 then 1 else 0)
            | none => 0
          let s : Sequence := {
            first := first.scaled unit
            step := step.scaled unit
            last := end?.map fun d => d.scaled unit
            unit
            places
            separator := (a.value? "s").getD ['\n']
            ending := ['\n']
            width := if a.has "w" && form.isNone then max firstWidth lastWidth else 0
            form := form }
          if isEmpty || !s.has s.first then return 0
          else
            let o ← s.write roundBound s.first .empty
            o.finish "seq" 0
    | _, _, _ => return 0

end Clausal.Utility

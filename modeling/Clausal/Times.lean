import Clausal.Text.Numeral
import Clausal.Text.Split

/-!
# Running times

Times are whole milliseconds.  A timing wrapper reports them on lines of a label and a
decimal number of seconds; lines that say something else, or nothing readable, are passed
over.
-/

namespace Clausal

/-- A span of time. -/
structure Duration where
  nanoseconds : Nat
  deriving DecidableEq, Repr

namespace Duration

def ofSeconds (seconds : Nat) : Duration := ⟨seconds * 1000000000⟩

def ofMilliseconds (milliseconds : Nat) : Duration := ⟨milliseconds * 1000000⟩

def seconds (d : Duration) : Nat := d.nanoseconds / 1000000000

def milliseconds (d : Duration) : Nat := d.nanoseconds / 1000000

@[simp] theorem seconds_ofSeconds (n : Nat) : (ofSeconds n).seconds = n := by
  simp [seconds, ofSeconds]

@[simp] theorem milliseconds_ofMilliseconds (n : Nat) :
    (ofMilliseconds n).milliseconds = n := by
  simp [milliseconds, ofMilliseconds]

end Duration

structure Times where
  real : Option UInt64
  user : Option UInt64
  sys : Option UInt64
  deriving DecidableEq, Repr

namespace Times

def unknown : Times := ⟨none, none, none⟩

/-- Only the elapsed time is known. -/
def wall (elapsed : Duration) : Times :=
  { unknown with real := some (wordCapped elapsed.milliseconds) }

/-- The milliseconds of up to three fraction digits; further digits are dropped. -/
def fractionMilliseconds (digits : List Char) : Nat :=
  match (digits.take 3).map fun c => (Text.digit? c).getD 0 with
  | [] => 0
  | [a] => 100 * a
  | [a, b] => 100 * a + 10 * b
  | a :: b :: c :: _ => 100 * a + 10 * b + c

/-- Reads seconds with an optional fraction; one of the two sides of the point may be
empty. -/
def milliseconds? (text : List Char) : Option UInt64 :=
  let (whole, fraction) := (Text.splitOnce? (· = '.') text).getD (text, [])
  if whole = [] ∧ fraction = [] then none
  else if !fraction.all fun c => (Text.digit? c).isSome then none
  else do
    let seconds ← if whole = [] then some 0 else Text.readUInt64? whole
    let base ← mulChecked seconds 1000
    addChecked base (UInt64.ofNat (fractionMilliseconds fraction))

/-- Takes one line of a report into account. -/
def readLine (times : Times) (line : List Char) : Times :=
  match Text.fields line with
  | label :: value :: _ =>
      match milliseconds? value with
      | none => times
      | some time =>
          if label = "real".toList then { times with real := some time }
          else if label = "user".toList then { times with user := some time }
          else if label = "sys".toList then { times with sys := some time }
          else times
  | _ => times

/-- Reads a timing report; a later readable line replaces an earlier one. -/
def parse (text : String) : Times :=
  (Text.lines text.toList).foldl readLine unknown

end Times

end Clausal

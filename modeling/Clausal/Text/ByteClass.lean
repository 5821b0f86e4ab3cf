import Clausal.Text.Utf8

/-!
# Classes of bytes

Sets of bytes that have a name, and sets of any bytes that can be looked up at once.
-/

namespace Clausal.Text

/-- Sets of characters with a name; only plain letters count as letters. -/
def classMember? (name : String) : Option (Char → Bool) :=
  match name with
  | "alpha" => some Char.isAlpha
  | "digit" => some Char.isDigit
  | "alnum" => some Char.isAlphanum
  | "upper" => some Char.isUpper
  | "lower" => some Char.isLower
  | "space" => some fun c => c = ' ' || 9 ≤ c.toNat && c.toNat ≤ 13
  | "blank" => some fun c => c = ' ' || c = '\t'
  | "punct" => some fun c => 33 ≤ c.toNat && c.toNat ≤ 126 && !c.isAlphanum
  | "print" => some fun c => 32 ≤ c.toNat && c.toNat ≤ 126
  | "graph" => some fun c => 33 ≤ c.toNat && c.toNat ≤ 126
  | "cntrl" => some fun c => c.toNat < 32 || c.toNat = 127
  | "xdigit" => some fun c => c.isDigit || 'a' ≤ c && c ≤ 'f' || 'A' ≤ c && c ≤ 'F'
  | _ => none

/-- Whether a character can be part of a word. -/
def isWordChar (c : Char) : Bool := c.isAlphanum || c = '_'

/-- A set of bytes, as a table. -/
structure ByteSet where
  table : Array Bool
  deriving DecidableEq, Repr

namespace ByteSet

def ofPredicate (isMember : Char → Bool) : ByteSet :=
  ⟨(Array.range 256).map fun n => isMember (Char.ofNat n)⟩

def has (s : ByteSet) (c : Char) : Bool := s.table.getD c.toNat false

def union (a b : ByteSet) : ByteSet := .ofPredicate fun c => a.has c || b.has c

def complement (s : ByteSet) : ByteSet := .ofPredicate fun c => !s.has c

def empty : ByteSet := .ofPredicate fun _ => false

def all : ByteSet := .ofPredicate fun _ => true

def bothCases (s : ByteSet) : ByteSet :=
  .ofPredicate fun c => s.has c.toLower || s.has c.toUpper

theorem has_ofPredicate (isMember : Char → Bool) {c : Char} (h : c.toNat < 256) :
    (ofPredicate isMember).has c = isMember c := by
  have hc : Char.ofNat c.toNat = c := Char.ofNat_toNat c
  simp [has, ofPredicate, Array.getD, h, hc]

end ByteSet

end Clausal.Text

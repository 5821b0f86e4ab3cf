import Clausal.Text.ByteClass

/-!
# Regular expressions

An expression stands for the texts that it matches, which can depend on what stands around
them.  Groups remember what they matched.
-/

namespace Clausal.Text

/-- Conditions on what stands before and after a place. -/
inductive Place where
  | lineStart | lineEnd
  | wordStart | wordEnd | wordEdge | wordInside
  | textStart | textEnd
  | noWordBefore | noWordAfter
  deriving DecidableEq, Repr

/-! ## Where it is matched -/

/-- What is read of a text: the character before the place, and what follows it. -/
structure View where
  before : Option Char
  rest : Octets
  offset : Nat
  hasLines : Bool

namespace View

def ofText (text : Octets) : View := ⟨none, text, 0, false⟩

def isWordBefore (v : View) : Bool := v.before.any isWordChar

def isWordAfter (v : View) : Bool := v.rest.head?.any isWordChar

def pass (v : View) : View :=
  match v with
  | ⟨_, c :: rest, offset, hasLines⟩ => ⟨some c, rest, offset + 1, hasLines⟩
  | v => v

end View

def Place.holds (place : Place) (v : View) : Bool :=
  match place with
  | .lineStart => v.before.isNone || v.hasLines && v.before = some '\n'
  | .lineEnd => v.rest.isEmpty || v.hasLines && v.rest.head? = some '\n'
  | .wordStart => !v.isWordBefore && v.isWordAfter
  | .wordEnd => v.isWordBefore && !v.isWordAfter
  | .wordEdge => v.isWordBefore != v.isWordAfter
  | .wordInside => v.isWordBefore == v.isWordAfter
  | .textStart => v.before.isNone
  | .textEnd => v.rest.isEmpty
  | .noWordBefore => !v.isWordBefore
  | .noWordAfter => !v.isWordAfter

/-! ## Expressions -/

inductive Regex where
  | empty
  | oneOf (set : ByteSet)
  | sequence (first second : Regex)
  | either (first second : Regex)
  | optional (inner : Regex)
  | star (inner : Regex)
  | group (number : Nat) (inner : Regex)
  | again (number : Nat)
  | anchor (place : Place)

namespace Regex

def exactly (c : Char) : Regex := oneOf (.ofPredicate (· == c))

def never : Regex := oneOf .empty

def literally : Octets → Regex
  | [] => empty
  | [c] => exactly c
  | c :: rest => sequence (exactly c) (literally rest)

def anyOf : List Regex → Regex
  | [] => never
  | [r] => r
  | r :: rest => either r (anyOf rest)

def asWord (r : Regex) : Regex :=
  sequence (anchor .noWordBefore) (sequence r (anchor .noWordAfter))

def asWhole (r : Regex) : Regex := sequence (anchor .textStart) (sequence r (anchor .textEnd))

def times (inner : Regex) : Nat → Regex
  | 0 => empty
  | 1 => inner
  | count + 2 => sequence inner (times inner (count + 1))

def atMost (inner : Regex) : Nat → Regex
  | 0 => empty
  | count + 1 => optional (sequence inner (atMost inner count))

/-- From so many times on up to a bound, if there is one. -/
def repeated (inner : Regex) (least : Nat) (most : Option Nat) : Regex :=
  match most with
  | none => if least = 0 then star inner else sequence (times inner least) (star inner)
  | some most =>
      if least = 0 then atMost inner most
      else if most ≤ least then times inner least
      else sequence (times inner least) (atMost inner (most - least))

def looksBack : Regex → Bool
  | again _ => true
  | sequence a b | either a b => looksBack a || looksBack b
  | optional a | star a | group _ a => looksBack a
  | empty | oneOf _ | anchor _ => false

def foldCase : Regex → Regex
  | empty => empty
  | oneOf set => oneOf set.bothCases
  | sequence a b => sequence a.foldCase b.foldCase
  | either a b => either a.foldCase b.foldCase
  | optional a => optional a.foldCase
  | star a => star a.foldCase
  | group n a => group n a.foldCase
  | again n => again n
  | anchor place => anchor place

def groups : Regex → List Nat
  | group n a => n :: groups a
  | sequence a b | either a b => groups a ++ groups b
  | optional a | star a => groups a
  | empty | oneOf _ | again _ | anchor _ => []

/-- The start and the end of a part of a text. -/
structure Stretch where
  start : Nat
  stop : Nat
  deriving DecidableEq, Repr

/-- What was matched, and what the groups matched. -/
structure Match where
  whole : Stretch
  groups : List (Nat × Stretch)
  deriving DecidableEq, Repr

end Regex

def Regex.Stretch.of (s : Stretch) (text : Octets) : Octets :=
  (text.drop s.start).take (s.stop - s.start)

end Clausal.Text

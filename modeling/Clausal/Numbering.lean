import Clausal.Encoding.Basic

/-!
# Numberings

A numbering pairs atoms with the positive numbers that stand for them in a printed file.  No
atom has two numbers and no number two atoms; a pair that would break this is refused.  A
negated literal has the negative of its atom's number.
-/

namespace Clausal

/-- The order in which an encoding's registered literals are numbered. -/
inductive NumberingOrder where
  /-- By variable, then in the order of registration. -/
  | registration
  | sorted
  deriving DecidableEq, Repr

/-- The pairs, newest first; each key is a positive literal. -/
structure Numbering where
  pairs : List (Literal × Int32)
  byAtom : Index (fun pair : Literal × Int32 => pair.1.atom) pairs
  byNumber : Index (fun pair : Literal × Int32 => pair.2) pairs
  deriving DecidableEq

namespace Numbering

def empty : Numbering := ⟨[], .empty, .empty⟩

def size (n : Numbering) : Nat := n.pairs.length

def isEmpty (n : Numbering) : Bool := n.pairs.isEmpty

def number? (n : Numbering) (atom : Atom) : Option Int32 :=
  (n.byAtom.find? atom).map Prod.snd

def key? (n : Numbering) (value : Int32) : Option Literal :=
  (n.byNumber.find? value).map Prod.fst

def cons (n : Numbering) (key : Literal) (value : Int32) : Numbering :=
  ⟨(key, value) :: n.pairs, n.byAtom.cons (key, value), n.byNumber.cons (key, value)⟩

def add (n : Numbering) (key : Literal) (value : Int32) : Except EncodingError Numbering :=
  if value < 1 then .error (.nonPositiveValue value)
  else if key.negated then .error (.negatedKey key)
  else if (n.number? key.atom).isSome then .error (.duplicateKey key)
  else if (n.key? value).isSome then .error (.duplicateValue value)
  else .ok (n.cons key value)

/-- The number of a literal's atom. -/
def valueOf (n : Numbering) (literal : Literal) : Except EncodingError Int32 :=
  match n.number? literal.atom with
  | some value => .ok value
  | none => .error (.unregisteredLiteral literal)

def signedValueOf (n : Numbering) (literal : Literal) : Except EncodingError Int32 :=
  (n.valueOf literal).map fun value => if literal.negated then -value else value

def literalOf (n : Numbering) (value : Int32) : Except EncodingError Literal :=
  match n.key? value with
  | some key => .ok key
  | none => .error (.unknownValue value)

/-- The signed numbers of a clause, or the failure of its first literal without a number. -/
def signedValues (n : Numbering) : List Literal → Except EncodingError (List Int32)
  | [] => .ok []
  | literal :: rest => do
      let value ← n.signedValueOf literal
      let values ← n.signedValues rest
      return value :: values

def clause (n : Numbering) (c : Clause Literal) : Except EncodingError (Clause Int32) :=
  (n.signedValues c.literals).map fun literals => ⟨c.cost, literals⟩

/-- The number at this place, counting from 0. -/
def numberAt (place : Nat) : Except EncodingError Int32 :=
  if place + 1 < 0x80000000 then .ok (Int32.ofNat (place + 1)) else .error .indexOverflow

/-- Gives the next numbers to these literals. -/
def addFrom (n : Numbering) : Nat → List Literal → Except EncodingError Numbering
  | _, [] => .ok n
  | place, key :: rest => do
      let value ← numberAt place
      let next ← n.add key value
      next.addFrom (place + 1) rest

/-- The registered literals of an encoding in the order of their numbers. -/
def keysInOrder (e : Encoding) : NumberingOrder → List Literal
  | .registration => e.registered.flatten
  | .sorted => e.registered.flatten.mergeSort fun a b => a.atom.le b.atom

/-- Numbers every registered literal of an encoding, from 1. -/
def ofEncoding (e : Encoding) (order : NumberingOrder) : Except EncodingError Numbering :=
  empty.addFrom 0 (keysInOrder e order)

/-- One line for each pair, by number. -/
def render (n : Numbering) : String :=
  Text.unlines ((n.pairs.mergeSort fun a b => a.2 ≤ b.2).map fun pair =>
    s!"{pair.1.render} = {pair.2}")

theorem number?_eq (n : Numbering) (atom : Atom) :
    n.number? atom = (n.pairs.find? fun pair => pair.1.atom = atom).map Prod.snd := by
  rw [number?, Index.find?_eq]
  rfl

theorem key?_eq (n : Numbering) (value : Int32) :
    n.key? value = (n.pairs.find? fun pair => pair.2 = value).map Prod.fst := by
  rw [key?, Index.find?_eq]
  rfl

@[simp] theorem number?_empty (atom : Atom) : empty.number? atom = none := by
  simp [number?_eq, empty]

@[simp] theorem key?_empty (value : Int32) : empty.key? value = none := by
  simp [key?_eq, empty]

@[simp] theorem pairs_cons (n : Numbering) (key : Literal) (value : Int32) :
    (n.cons key value).pairs = (key, value) :: n.pairs := rfl

theorem number?_cons (n : Numbering) (key : Literal) (value : Int32) (atom : Atom) :
    (n.cons key value).number? atom =
      if key.atom = atom then some value else n.number? atom := by
  by_cases h : key.atom = atom <;> simp [number?_eq, h]

theorem key?_cons (n : Numbering) (key : Literal) (value wanted : Int32) :
    (n.cons key value).key? wanted =
      if value = wanted then some key else n.key? wanted := by
  by_cases h : value = wanted <;> simp [key?_eq, h]

end Numbering

end Clausal

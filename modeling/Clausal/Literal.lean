/-!
# Literals

A literal stands for an atom, which is a variable and an index within it, or for the atom's
negation, and may carry a label.  Two literals are about the same thing when their atoms
are equal; polarity and label are not compared.
-/

namespace Clausal

/-- Number of variables that one encoding can hold. -/
def variableCapacity : Nat := 127

abbrev VariableId := Fin variableCapacity

structure Atom where
  var : VariableId
  index : UInt32
  deriving DecidableEq, Hashable, Repr

namespace Atom

/-- Smaller variable first, then smaller index. -/
def le (a b : Atom) : Bool :=
  decide (a.var < b.var) || (decide (a.var = b.var) && decide (a.index ≤ b.index))

theorem eq_iff {a b : Atom} : a = b ↔ a.var = b.var ∧ a.index = b.index := by
  cases a
  cases b
  simp only [mk.injEq]

end Atom

structure Literal where
  atom : Atom
  negated : Bool
  label : Option String
  deriving DecidableEq, Repr

namespace Literal

/-- The unlabelled positive literal of an atom. -/
def ofAtom (atom : Atom) : Literal := ⟨atom, false, none⟩

def neg (literal : Literal) : Literal := { literal with negated := !literal.negated }

/-- The positive form, which is what gets registered and numbered. -/
def pos (literal : Literal) : Literal := { literal with negated := false }

/-- Whether two literals have the same atom. -/
def same (a b : Literal) : Bool := decide (a.atom = b.atom)

@[simp] theorem same_iff (a b : Literal) : a.same b = true ↔ a.atom = b.atom := by
  simp [same]

@[simp] theorem atom_neg (literal : Literal) : literal.neg.atom = literal.atom := rfl

@[simp] theorem atom_pos (literal : Literal) : literal.pos.atom = literal.atom := rfl

@[simp] theorem negated_neg (literal : Literal) : literal.neg.negated = !literal.negated := rfl

@[simp] theorem neg_neg (literal : Literal) : literal.neg.neg = literal := by
  simp [neg]

/-- An empty label leaves the literal as it is. -/
def withLabel (literal : Literal) (label : String) : Literal :=
  if label.isEmpty then literal else { literal with label := some label }

@[simp] theorem atom_withLabel (literal : Literal) (label : String) :
    (literal.withLabel label).atom = literal.atom := by
  unfold withLabel
  split <;> rfl

@[simp] theorem negated_withLabel (literal : Literal) (label : String) :
    (literal.withLabel label).negated = literal.negated := by
  unfold withLabel
  split <;> rfl

/-- A name followed by its coordinates in brackets, or the name alone without coordinates. -/
def indexedName (name : String) (coords : List UInt64) : String :=
  match coords with
  | [] => name
  | coords => name ++ "[" ++ String.intercalate ", " (coords.map toString) ++ "]"

def named (literal : Literal) (name : String) (coords : List UInt64) : Literal :=
  literal.withLabel (indexedName name coords)

@[simp] theorem atom_named (literal : Literal) (name : String) (coords : List UInt64) :
    (literal.named name coords).atom = literal.atom := atom_withLabel _ _

/-- The label, or the variable and index in parentheses, after a minus sign if negated. -/
def render (literal : Literal) : String :=
  let sign := if literal.negated then "-" else ""
  match literal.label with
  | some label => sign ++ label
  | none => s!"{sign}({literal.atom.var.val}, {literal.atom.index})"

end Literal

end Clausal

import Clausal.Formula.Evaluation

/-!
# Choices

A choice is a value for a variable, counted from 0.  It is one number, twice the variable and
one more for true, so that tables can be kept by choice.  An assignment agrees with a choice
or with its opposite, and counts a variable beyond its end as false.
-/

namespace Clausal

structure Choice where
  code : Nat
  deriving DecidableEq, Repr

namespace Choice

instance : Inhabited Choice := ⟨⟨0⟩⟩

def of (var : Nat) (value : Bool) : Choice := ⟨if value then 2 * var + 1 else 2 * var⟩

def var (c : Choice) : Nat := c.code / 2

def value (c : Choice) : Bool := c.code % 2 == 1

def opposite (c : Choice) : Choice := ⟨if c.code % 2 = 1 then c.code - 1 else c.code + 1⟩

@[simp] theorem var_of (var : Nat) (value : Bool) : (of var value).var = var := by
  cases value
  · simp only [of, Choice.var, Bool.false_eq_true, if_false]
    omega
  · simp only [of, Choice.var, if_true]
    omega

@[simp] theorem value_of (var : Nat) (value : Bool) : (of var value).value = value := by
  cases value <;> simp [of, Choice.value]

theorem of_var_value (c : Choice) : of c.var c.value = c := by
  cases c with
  | mk code =>
      simp only [of, var, value, beq_iff_eq, Choice.mk.injEq]
      split <;> omega

@[simp] theorem var_opposite (c : Choice) : c.opposite.var = c.var := by
  simp only [opposite, var]
  split <;> omega

@[simp] theorem value_opposite (c : Choice) : c.opposite.value = !c.value := by
  rcases Nat.mod_two_eq_zero_or_one c.code with h | h
  · have : (c.code + 1) % 2 = 1 := by omega
    simp [opposite, value, h, this]
  · have : (c.code - 1) % 2 = 0 := by omega
    simp [opposite, value, h, this]

@[simp] theorem opposite_opposite (c : Choice) : c.opposite.opposite = c := by
  rw [← of_var_value c.opposite.opposite, ← of_var_value c]
  simp

theorem opposite_ne (c : Choice) : c.opposite ≠ c := by
  intro h
  have := congrArg value h
  simp at this

/-- Smaller codes first. -/
def before (a b : Choice) : Bool := decide (a.code < b.code)

/-- Whether the assignment makes the choice. -/
def holds (assignment : Assignment) (c : Choice) : Bool :=
  assignment.getD c.var false == c.value

@[simp] theorem holds_opposite (assignment : Assignment) (c : Choice) :
    c.opposite.holds assignment = !c.holds assignment := by
  unfold holds
  rw [var_opposite, value_opposite]
  cases assignment.getD c.var false <;> cases c.value <;> rfl

end Choice

/-- Whether every clause has a choice that the assignment makes. -/
def models (assignment : Assignment) (clauses : List (List Choice)) : Bool :=
  clauses.all fun clause => clause.any (Choice.holds assignment)

end Clausal

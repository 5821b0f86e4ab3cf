import Clausal.Formula.Basic

/-!
# Evaluation

An assignment gives the variable `i + 1` the value at place `i`, and may be too short to
decide a literal.  A clause is true once one of its literals is, and false once all are.
Evaluating a formula counts a clause that is not decided as violated.
-/

namespace Clausal

abbrev Assignment := Array Bool

/-- The value of a signed literal, where the assignment decides it. -/
def literalTruth? (assignment : Assignment) (literal : Int32) : Option Bool :=
  match literal.toInt.natAbs with
  | 0 => none
  | place + 1 => assignment[place]?.map fun value => if 0 < literal then value else !value

/-- Disjunction of values that may be open: true as soon as one side is. -/
def orTruth : Option Bool → Option Bool → Option Bool
  | some true, _ => some true
  | some false, b => b
  | none, some true => some true
  | none, _ => none

/-- The value of a clause, where the assignment decides it. -/
def clauseTruth? (assignment : Assignment) : List Int32 → Option Bool
  | [] => some false
  | literal :: rest =>
      orTruth (literalTruth? assignment literal) (clauseTruth? assignment rest)

theorem orTruth_eq_true_iff (a b : Option Bool) :
    orTruth a b = some true ↔ a = some true ∨ b = some true := by
  rcases a with _ | _ | _ <;> rcases b with _ | _ | _ <;> simp [orTruth]

theorem orTruth_eq_false_iff (a b : Option Bool) :
    orTruth a b = some false ↔ a = some false ∧ b = some false := by
  rcases a with _ | _ | _ <;> rcases b with _ | _ | _ <;> simp [orTruth]

theorem clauseTruth?_eq_true_iff (assignment : Assignment) (clause : List Int32) :
    clauseTruth? assignment clause = some true ↔
      ∃ literal ∈ clause, literalTruth? assignment literal = some true := by
  induction clause with
  | nil => simp [clauseTruth?]
  | cons literal rest ih => simp [clauseTruth?, orTruth_eq_true_iff, ih]

theorem clauseTruth?_eq_false_iff (assignment : Assignment) (clause : List Int32) :
    clauseTruth? assignment clause = some false ↔
      ∀ literal ∈ clause, literalTruth? assignment literal = some false := by
  induction clause with
  | nil => simp [clauseTruth?]
  | cons literal rest ih => simp [clauseTruth?, orTruth_eq_false_iff, ih]

/-- Whether the assignment makes the clause true. -/
def satisfies (assignment : Assignment) (clause : Clause Int32) : Bool :=
  clauseTruth? assignment clause.literals == some true

structure Evaluation where
  hardSatisfied : Bool
  violated : Nat
  cost : UInt64
  deriving DecidableEq, Repr

namespace Formula

def violatedSoft (f : Formula) (assignment : Assignment) : List (Clause Int32) :=
  f.soft.toList.filter fun clause => !satisfies assignment clause

def evaluate (f : Formula) (assignment : Assignment) : Evaluation where
  hardSatisfied := f.hard.toList.all (satisfies assignment)
  violated := (f.violatedSoft assignment).length
  cost := (f.violatedSoft assignment).foldl (fun cost clause => addCapped cost clause.cost) 0

end Formula

end Clausal

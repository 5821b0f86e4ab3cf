import Clausal.Answer
import Clausal.Search.Learning
import Clausal.Search.Splitting

/-!
# Solving

A formula without soft clauses is handed to a procedure as clauses of choices, and what the
procedure says becomes an answer.  The procedure at hand is a search that learns.  What the
search comes to is checked: an assignment against the clauses, a refutation by drawing its
steps.  Should neither check out, the search by splitting, which is slower and complete,
decides.
-/

namespace Clausal

namespace Search

/-- What a procedure says of clauses. -/
inductive Verdict where
  | satisfiable (choices : List Choice)
  | unsatisfiable
  | undecided
  deriving DecidableEq, Repr

abbrev Procedure := Nat → List (List Choice) → Verdict

def choicesOf (assignment : Assignment) : List Choice :=
  (List.range assignment.size).map fun var => .of var (assignment.getD var false)

def split (clauses : List (List Choice)) : Verdict :=
  match model? clauses with
  | some choices => .satisfiable choices
  | none => .unsatisfiable

def verdict : Procedure := fun width clauses =>
  match explore width clauses with
  | .model assignment =>
      if assignment.size = width ∧ models assignment clauses then
        .satisfiable (choicesOf assignment)
      else split clauses
  | .refutation steps => if refutes clauses steps then .unsatisfiable else split clauses
  | .unknown => split clauses

/-- The values that choices ask for; a variable without a choice is false, and choices beyond
the variables are passed over. -/
def fill (width : Nat) (choices : List Choice) : Assignment :=
  choices.foldl (fun assignment choice => assignment.setIfInBounds choice.var choice.value)
    (Array.replicate width false)

/-- What a verdict says of a formula with so many variables. -/
def Verdict.answer (width : Nat) : Verdict → Answer
  | satisfiable choices => ⟨.cnf, .optimumFound, 0, fill width choices⟩
  | unsatisfiable => ⟨.cnf, .unsatisfiable, 0, #[]⟩
  | undecided => ⟨.cnf, .unknown, 0, #[]⟩

def choice (literalCount : UInt32) (literal : Int32) : Except EncodingError Choice :=
  match literal.toInt.natAbs with
  | 0 => .error .zeroLiteral
  | var + 1 =>
      if var < literalCount.toNat then .ok (.of var (decide (0 < literal)))
      else .error (.unknownValue literal)

end Search

namespace Formula

/-- Decides a formula without soft clauses by a procedure; an optimum is a model. -/
def solveBy (procedure : Search.Procedure) (f : Formula) : Except EncodingError Answer := do
  if !f.soft.isEmpty then
    throw (.softClausesInCnf f.soft.size)
  let clauses ← f.hard.toList.mapM fun clause =>
    clause.literals.mapM (Search.choice f.literalCount)
  return (procedure f.literalCount.toNat clauses).answer f.literalCount.toNat

def solve (f : Formula) : Except EncodingError Answer := f.solveBy Search.verdict

end Formula

end Clausal

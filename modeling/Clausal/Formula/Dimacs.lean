import Clausal.Format
import Clausal.Formula.Basic
import Clausal.Writer

/-!
# DIMACS text

A formula prints its comments, a problem line, and its clauses each ended by a zero.  The
weighted format gives hard clauses the top weight and prints soft clauses after them; the
plain format refuses soft clauses.  The lines make one text, or go to a writer one by one.
-/

namespace Clausal

namespace Dimacs

def cnfProblemLine (literalCount : UInt32) (clauseCount : Nat) : String :=
  s!"p cnf {literalCount} {clauseCount}"

def wcnfProblemLine (literalCount : UInt32) (clauseCount : Nat) (top : UInt64) : String :=
  s!"p wcnf {literalCount} {clauseCount} {top}"

def cnfClauseLine (literals : List Int32) : String :=
  String.join (literals.map fun literal => toString literal ++ " ") ++ "0"

def wcnfClauseLine (literals : List Int32) (weight : UInt64) : String :=
  s!"{weight} {cnfClauseLine literals}"

end Dimacs

namespace Formula

open Dimacs

def commentLines (f : Formula) : List String := f.comments.toList.map Comment.line

def cnfLines (f : Formula) : Except EncodingError (List String) :=
  if f.soft.isEmpty then
    .ok (f.commentLines ++
      [cnfProblemLine f.literalCount f.hard.size, Comment.line "Hard clauses"] ++
      f.hard.lines fun clause => cnfClauseLine clause.literals)
  else .error (.softClausesInCnf f.soft.size)

/-- A hard clause weighs the top, a soft one its cost. -/
def weight (f : Formula) (clause : Clause Int32) : UInt64 :=
  if clause.isHard then f.top else clause.cost

def wcnfClause (f : Formula) (clause : Clause Int32) : String :=
  wcnfClauseLine clause.literals (f.weight clause)

def wcnfLines (f : Formula) : List String :=
  f.commentLines ++
  [wcnfProblemLine f.literalCount f.clauseCount f.top, Comment.line "Hard clauses"] ++
  f.hard.lines f.wcnfClause ++
  [Comment.line "Soft clauses"] ++
  f.soft.lines f.wcnfClause

def dimacsLines (f : Formula) : Format → Except EncodingError (List String)
  | .cnf => f.cnfLines
  | .wcnf => .ok f.wcnfLines

/-- The text of the file, every line ended by a line feed. -/
def dimacs (f : Formula) (format : Format) : Except EncodingError String :=
  (f.dimacsLines format).map Text.unlines

/-- Hands the lines to a writer, each followed by a line feed.  Nothing is written of a formula
that the format refuses. -/
def write {σ ε : Type} (put : σ → List UInt8 → σ × Except ε Unit) (writer : σ) (f : Formula)
    (format : Format) : σ × Except (EncodingError ⊕ ε) Unit :=
  match f.dimacsLines format with
  | .error failure => (writer, .error (.inl failure))
  | .ok lines =>
      let (writer, outcome) := Writer.putLines put writer lines
      (writer, outcome.mapError .inr)

end Formula

end Clausal

import Clausal.Numbering

/-!
# Formulas

A formula holds clauses over signed numbers, as a solver reads them.  It keeps the largest
magnitude seen, so that its problem line can be written without looking at the clauses.
Adding a clause with a zero fails, and the literals before the zero have then been counted.
-/

namespace Clausal

/-- The number of the variable that a signed literal is about. -/
def magnitude (literal : Int32) : UInt32 := UInt32.ofNat literal.toInt.natAbs

theorem magnitude_toNat (literal : Int32) :
    (magnitude literal).toNat = literal.toInt.natAbs := by
  have low := literal.minValue_le_toInt
  have high := literal.toInt_lt
  have hmin : Int32.minValue.toInt = -2147483648 := by decide
  rw [magnitude, UInt32.toNat_ofNat_of_lt']
  have : UInt32.size = 4294967296 := rfl
  omega

structure Formula where
  literalCount : UInt32
  comments : Array String
  hard : ClauseList Int32
  soft : ClauseList Int32
  deriving DecidableEq, Repr

namespace Formula

def empty : Formula := ⟨0, #[], .empty, .empty⟩

def clauseCount (f : Formula) : Nat := f.hard.size + f.soft.size

/-- The weight of hard clauses: one more than the cost of all soft ones. -/
def top (f : Formula) : UInt64 := addCapped f.soft.totalCost 1

def comment (f : Formula) (text : String) : Except EncodingError Formula :=
  (Comment.check text).map fun text => { f with comments := f.comments.push text }

def commentHard (f : Formula) (text : String) : Except EncodingError Formula :=
  (f.hard.comment text).map fun hard => { f with hard }

def commentSoft (f : Formula) (text : String) : Except EncodingError Formula :=
  (f.soft.comment text).map fun soft => { f with soft }

/-- Raises a count over the literals before the first zero, and tells whether there is none. -/
def raise : UInt32 → List Int32 → UInt32 × Bool
  | count, [] => (count, true)
  | count, literal :: rest =>
      if literal = 0 then (count, false) else raise (max count (magnitude literal)) rest

/-- Adds to the hard or the soft side by cost. -/
def addClause (f : Formula) (clause : Clause Int32) : Formula × Except EncodingError Unit :=
  let (literalCount, nonzero) := raise f.literalCount clause.literals
  let counted := { f with literalCount }
  if nonzero then
    (if clause.isHard then { counted with hard := counted.hard.add clause }
      else { counted with soft := counted.soft.add clause }, .ok ())
  else (counted, .error .zeroLiteral)

def addHard (f : Formula) (literals : List Int32) : Formula × Except EncodingError Unit :=
  f.addClause (.hard literals)

def addSoft (f : Formula) (cost : UInt64) (literals : List Int32) :
    Formula × Except EncodingError Unit :=
  f.addClause (.soft cost literals)

/-- The largest magnitude in these clauses. -/
def widest (clauses : List (Clause Int32)) : UInt32 :=
  clauses.foldl (fun count clause =>
    clause.literals.foldl (fun count literal => max count (magnitude literal)) count) 0

/-- Numbers every clause of an encoding.  The literal count covers as many literals as the
numbering has, also where some of them are in no clause. -/
def ofEncoding (e : Encoding) (n : Numbering) : Except EncodingError Formula := do
  let hard ← e.hard.tryMap n.clause
  let soft ← e.soft.tryMap n.clause
  if n.size < UInt32.size then
    return {
      literalCount := max (UInt32.ofNat n.size) (widest (hard.toList ++ soft.toList))
      comments := e.comments
      hard
      soft }
  else throw .indexOverflow

@[simp] theorem raise_nil (count : UInt32) : raise count [] = (count, true) := rfl

theorem raise_zero (count : UInt32) (rest : List Int32) :
    raise count (0 :: rest) = (count, false) := rfl

theorem raise_snd (count : UInt32) (literals : List Int32) :
    (raise count literals).2 = true ↔ (0 : Int32) ∉ literals := by
  induction literals generalizing count with
  | nil => simp
  | cons literal rest ih =>
      unfold raise
      by_cases h : literal = 0
      · simp [h]
      · have h' : ¬ (0 : Int32) = literal := fun e => h e.symm
        simp [h, h', ih]

end Formula

end Clausal

import Clausal.Family.Basic

/-!
# Lines and grids

Families in which the index of a literal is computed from one coordinate or from two.  The rows of
a grid are lines.
-/

namespace Clausal

/-!
## Lines

A line addresses its literals by one coordinate.  A line of its own has no end; a row cut
out of a grid starts at an offset and has the grid's width.
-/

structure Line where
  owner : EncodingId
  var : VariableId
  offset : UInt64
  size : Option UInt64
  deriving DecidableEq, Repr

namespace Line

def indexOf (line : Line) (a : UInt64) : Except EncodingError UInt32 := do
  match line.size with
  | some size => checkAxis 0 a size
  | none => pure ()
  indexOfChecked (addChecked line.offset a)

def coordsOf (line : Line) (index : UInt32) : Except EncodingError UInt64 :=
  if index.toUInt64 < line.offset then .error (.unknownIndex index)
  else
    let a := index.toUInt64 - line.offset
    match line.size with
    | some size => if a < size then .ok a else .error (.unknownIndex index)
    | none => .ok a

instance : Family Line UInt64 where
  owner := owner
  var := var
  indexOf line a := (line.indexOf a).map fun index => (index, line)
  coordsOf := coordsOf
  labelCoords _ a := [a]

end Line

/-- Allocates a variable addressed by one coordinate. -/
def Encoding.newLine (e : Encoding) : Except EncodingError (Encoding × Line) :=
  (e.newVariable none).map fun (next, var) => (next, ⟨e.id, var, 0, none⟩)

/-!
## Grids

A grid is laid out row by row with a fixed number of columns; the number of rows is open.
A symmetric grid folds a pair of coordinates onto the pair with the smaller one first, and
hands out no other pair.
-/

structure Grid where
  owner : EncodingId
  var : VariableId
  columns : UInt64
  symmetric : Bool
  deriving DecidableEq, Repr

namespace Grid

/-- The pair that stands for these coordinates. -/
def fold (grid : Grid) (a b : UInt64) : UInt64 × UInt64 :=
  if grid.symmetric && decide (b < a) then (b, a) else (a, b)

def indexOf (grid : Grid) (coords : UInt64 × UInt64) : Except EncodingError UInt32 := do
  let (a, b) := grid.fold coords.1 coords.2
  checkAxis 1 b grid.columns
  indexOfChecked ((mulChecked a grid.columns).bind fun start => addChecked start b)

def coordsOf (grid : Grid) (index : UInt32) : Except EncodingError (UInt64 × UInt64) :=
  if grid.columns = 0 then .error (.unknownIndex index)
  else
    let a := index.toUInt64 / grid.columns
    let b := index.toUInt64 % grid.columns
    if grid.symmetric && decide (b < a) then .error (.unknownIndex index) else .ok (a, b)

/-- The line of the literals in this row, with the grid's variable. -/
def row (grid : Grid) (a : UInt64) : Except EncodingError Line :=
  match mulChecked a grid.columns with
  | some offset => .ok ⟨grid.owner, grid.var, offset, some grid.columns⟩
  | none => .error .indexOverflow

instance : Family Grid (UInt64 × UInt64) where
  owner := owner
  var := var
  indexOf grid coords := (grid.indexOf coords).map fun index => (index, grid)
  coordsOf := coordsOf
  labelCoords _ coords := [coords.1, coords.2]

theorem fold_of_not_symmetric {grid : Grid} (h : grid.symmetric = false) (a b : UInt64) :
    grid.fold a b = (a, b) := by
  simp [fold, h]

theorem fold_comm {grid : Grid} (h : grid.symmetric = true) (a b : UInt64) :
    grid.fold a b = grid.fold b a := by
  simp only [fold, h, Bool.true_and, decide_eq_true_eq]
  by_cases hab : a < b
  · have hba : ¬ b < a := by
      rw [UInt64.lt_iff_toNat_lt] at *
      omega
    simp [hab, hba]
  · by_cases hba : b < a
    · simp [hab, hba]
    · have : a = b := by
        apply UInt64.toNat_inj.mp
        rw [UInt64.lt_iff_toNat_lt] at *
        omega
      simp [this]

end Grid

/-- Allocates a variable addressed by row and column. -/
def Encoding.newGrid (e : Encoding) (columns : UInt64) (symmetric : Bool) :
    Except EncodingError (Encoding × Grid) :=
  (e.newVariable none).map fun (next, var) => (next, ⟨e.id, var, columns, symmetric⟩)

end Clausal

import Clausal.Family.Basic

/-!
# Cubes

A cube is laid out plane by plane, and each plane row by row; the number of planes is open.
-/

namespace Clausal

structure Cube where
  owner : EncodingId
  var : VariableId
  rows : UInt64
  columns : UInt64
  deriving DecidableEq, Repr

namespace Cube

/-- The place within a plane needs no check once the plane itself fits. -/
def indexOf (cube : Cube) (coords : UInt64 × UInt64 × UInt64) :
    Except EncodingError UInt32 := do
  let (a, b, c) := coords
  checkAxis 1 b cube.rows
  checkAxis 2 c cube.columns
  indexOfChecked do
    let plane ← mulChecked cube.rows cube.columns
    let start ← mulChecked a plane
    addChecked start (b * cube.columns + c)

def coordsOf (cube : Cube) (index : UInt32) :
    Except EncodingError (UInt64 × UInt64 × UInt64) :=
  match mulChecked cube.rows cube.columns with
  | none => .error (.unknownIndex index)
  | some plane =>
      if plane = 0 then .error (.unknownIndex index)
      else
        let place := index.toUInt64
        .ok (place / plane, place / cube.columns % cube.rows, place % cube.columns)

instance : Family Cube (UInt64 × UInt64 × UInt64) where
  owner := owner
  var := var
  indexOf cube coords := (cube.indexOf coords).map fun index => (index, cube)
  coordsOf := coordsOf
  labelCoords _ coords := [coords.1, coords.2.1, coords.2.2]

end Cube

/-- Allocates a variable addressed by plane, row and column. -/
def Encoding.newCube (e : Encoding) (rows columns : UInt64) :
    Except EncodingError (Encoding × Cube) :=
  (e.newVariable none).map fun (next, var) => (next, ⟨e.id, var, rows, columns⟩)

end Clausal

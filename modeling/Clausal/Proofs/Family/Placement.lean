import Clausal.Family.Cube
import Clausal.Family.Grid
import Clausal.Proofs.Encoding.Extension
import Clausal.Proofs.Outcome

/-!
# Where lines, grids and cubes put their literals

The index of a coordinate is given out exactly when the coordinate is within its bounds and the
exact value of the offset or of the row-major position has 32 bits: a computation that leaves
64 bits on the way would also leave 32 at its end.  Only the plane of a cube has to fit by itself,
since the first plane has no factor that would show its size.
-/

namespace Clausal

theorem checkAxis_eq_ok_iff {axis : Nat} {value size : UInt64} {result : Unit} :
    checkAxis axis value size = .ok result ↔ value < size := by
  unfold checkAxis
  split
  · rename_i h
    simp [h]
  · rename_i h
    simp [h]

theorem indexOfChecked_eq_ok_iff {value? : Option UInt64} {index : UInt32} :
    indexOfChecked value? = .ok index ↔
      ∃ value, value? = some value ∧ value.toNat = index.toNat := by
  cases value? with
  | none => simp [indexOfChecked]
  | some value => simp [indexOfChecked, indexOfWord_eq_ok_iff]

theorem exists_word_of_eq {n : Nat} {index : UInt32} (h : n = index.toNat) :
    ∃ value : UInt64, n = value.toNat ∧ value.toNat = index.toNat :=
  ⟨index.toUInt64, by rw [UInt32.toNat_toUInt64, h], UInt32.toNat_toUInt64 index⟩

theorem mulChecked_eq_none_iff {a b : UInt64} :
    mulChecked a b = none ↔ ¬ a.toNat * b.toNat < UInt64.size := by
  unfold mulChecked word?
  split
  · rename_i hlt
    simp [hlt]
  · rename_i hwide
    simp [hwide]

/-- A row starts no later than its places, so where one of them is an index its start is a word. -/
theorem start_lt_of_position {a b columns : Nat} {index : UInt32}
    (h : a * columns + b = index.toNat) : a * columns < UInt64.size := by
  have := index.toNat_lt
  have : UInt64.size = 2 ^ 64 := rfl
  omega

/-- A position that is computed with checks is the exact one, if that has 32 bits. -/
theorem indexOfChecked_position {a b columns : UInt64} {index : UInt32} :
    indexOfChecked ((mulChecked a columns).bind fun start => addChecked start b) = .ok index ↔
      a.toNat * columns.toNat + b.toNat = index.toNat := by
  simp only [indexOfChecked_eq_ok_iff, Option.bind_eq_some_iff, mulChecked_eq_some_iff,
    addChecked_eq_some_iff]
  constructor
  · rintro ⟨value, ⟨start, hstart, hsum⟩, hvalue⟩
    omega
  · intro h
    have hstart := start_lt_of_position h
    obtain ⟨value, hsum, hvalue⟩ := exists_word_of_eq h
    refine ⟨value, ⟨UInt64.ofNat _, (UInt64.toNat_ofNat_of_lt' hstart).symm, ?_⟩, hvalue⟩
    rw [UInt64.toNat_ofNat_of_lt' hstart, hsum]

/-! ## Row-major positions -/

theorem row_of_position {a b columns : Nat} (h : b < columns) :
    (a * columns + b) / columns = a := by
  rw [Nat.mul_comm, Nat.mul_add_div (Nat.zero_lt_of_lt h), Nat.div_eq_of_lt h, Nat.add_zero]

theorem column_of_position {a b columns : Nat} (h : b < columns) :
    (a * columns + b) % columns = b := by
  rw [Nat.mul_comm, Nat.mul_add_mod, Nat.mod_eq_of_lt h]

/-- A position within a plane is below the plane's size. -/
theorem position_lt {a b rows columns : Nat} (ha : a < rows) (hb : b < columns) :
    a * columns + b < rows * columns :=
  calc a * columns + b < a * columns + columns := Nat.add_lt_add_left hb _
    _ = (a + 1) * columns := (Nat.succ_mul a columns).symm
    _ ≤ rows * columns := Nat.mul_le_mul_right columns ha

/-- A position counted by planes is a position counted by rows. -/
theorem position_by_rows (a b c rows columns : Nat) :
    a * (rows * columns) + (b * columns + c) = (a * rows + b) * columns + c := by
  rw [Nat.add_mul, Nat.mul_assoc, Nat.add_assoc]

/-! ## Indices -/

namespace Line

theorem indexOf_eq_ok_iff {line : Line} {a : UInt64} {index : UInt32} :
    line.indexOf a = .ok index ↔
      (∀ size, line.size = some size → a < size) ∧
        line.offset.toNat + a.toNat = index.toNat := by
  have hplace : indexOfChecked (addChecked line.offset a) = .ok index ↔
      line.offset.toNat + a.toNat = index.toNat := by
    rw [indexOfChecked_eq_ok_iff]
    simp only [addChecked_eq_some_iff]
    constructor
    · rintro ⟨value, hsum, hvalue⟩
      exact hsum.trans hvalue
    · exact exists_word_of_eq
  unfold indexOf
  cases line.size with
  | none => simpa using hplace
  | some size => simp [bind_eq_ok_iff, checkAxis_eq_ok_iff, hplace]

end Line

namespace Grid

theorem indexOf_eq_ok_iff {grid : Grid} {coords : UInt64 × UInt64} {index : UInt32} :
    grid.indexOf coords = .ok index ↔
      (grid.fold coords.1 coords.2).2 < grid.columns ∧
        (grid.fold coords.1 coords.2).1.toNat * grid.columns.toNat +
          (grid.fold coords.1 coords.2).2.toNat = index.toNat := by
  unfold indexOf
  generalize grid.fold coords.1 coords.2 = folded
  simp [bind_eq_ok_iff, checkAxis_eq_ok_iff, indexOfChecked_position]

end Grid

namespace Cube

variable {cube : Cube} {a b c : UInt64} {index : UInt32}

theorem toNat_offset (hb : b < cube.rows) (hc : c < cube.columns)
    (plane : cube.rows.toNat * cube.columns.toNat < UInt64.size) :
    (b * cube.columns + c).toNat = b.toNat * cube.columns.toNat + c.toNat := by
  rw [UInt64.lt_iff_toNat_lt] at hb hc
  have hplace := position_lt hb hc
  have hsize : UInt64.size = 2 ^ 64 := rfl
  rw [UInt64.toNat_add, UInt64.toNat_mul, Nat.mod_eq_of_lt (a := b.toNat * cube.columns.toNat),
    Nat.mod_eq_of_lt] <;> omega

theorem indexOfChecked_plane {place : UInt64} :
    (indexOfChecked do
      let plane ← mulChecked cube.rows cube.columns
      let start ← mulChecked a plane
      addChecked start place) = .ok index ↔
      cube.rows.toNat * cube.columns.toNat < UInt64.size ∧
        a.toNat * (cube.rows.toNat * cube.columns.toNat) + place.toNat = index.toNat := by
  cases hplane : mulChecked cube.rows cube.columns with
  | none =>
      simp only [mulChecked_eq_none_iff.mp hplane, false_and, iff_false]
      exact nofun
  | some plane =>
      have hexact := mulChecked_eq_some_iff.mp hplane
      have hlt : cube.rows.toNat * cube.columns.toNat < UInt64.size := hexact ▸ plane.toNat_lt
      rw [hexact]
      exact indexOfChecked_position.trans (and_iff_right (hexact ▸ hlt)).symm

theorem indexOf_eq_ok_iff :
    cube.indexOf (a, b, c) = .ok index ↔
      b < cube.rows ∧ c < cube.columns ∧ cube.rows.toNat * cube.columns.toNat < UInt64.size ∧
        a.toNat * (cube.rows.toNat * cube.columns.toNat) +
          (b.toNat * cube.columns.toNat + c.toNat) = index.toNat := by
  have hsteps : cube.indexOf (a, b, c) = .ok index ↔
      b < cube.rows ∧ c < cube.columns ∧ cube.rows.toNat * cube.columns.toNat < UInt64.size ∧
        a.toNat * (cube.rows.toNat * cube.columns.toNat) + (b * cube.columns + c).toNat =
          index.toNat := by
    rw [← indexOfChecked_plane]
    unfold indexOf
    simp only [bind_eq_ok_iff, checkAxis_eq_ok_iff, exists_const]
  rw [hsteps]
  refine and_congr_right fun hb => and_congr_right fun hc => and_congr_right fun plane => ?_
  rw [toNat_offset hb hc plane]

end Cube

end Clausal

/-!
## Cells

The literal of a line or of a grid without folding is known from its coordinates alone.  Two
coordinates with an index have different literals, and a fetch gives the literal of its
coordinates; it succeeds wherever they have an index and the family's variable is there.
-/

namespace Clausal

theorem Encoding.exists_fetch {e : Encoding} (atom : Atom) (h : atom.var.val < e.vars.size) :
    ∃ e', e.fetch atom = .ok (e', .ofAtom atom) := by
  have hvar : e.vars[(Literal.ofAtom atom).atom.var.val]? = some e.vars[atom.var.val] :=
    Array.getElem?_eq_getElem h
  exact ⟨_, fetch_eq_ok_iff.mpr ⟨rfl, _, register_eq_ok_iff.mpr ⟨rfl, _, hvar, rfl, rfl⟩⟩⟩

namespace Grid

/-- The literal at this position in row-major order. -/
def cell (grid : Grid) (a b : UInt64) : Literal :=
  .ofAtom ⟨grid.var, UInt32.ofNat (a.toNat * grid.columns.toNat + b.toNat)⟩

/-- The coordinates have an index. -/
structure Fits (grid : Grid) (a b : UInt64) : Prop where
  column : b < grid.columns
  index : a.toNat * grid.columns.toNat + b.toNat < UInt32.size

theorem cell_inj {grid : Grid} {a b a' b' : UInt64} (h : grid.Fits a b) (h' : grid.Fits a' b') :
    (grid.cell a b).atom = (grid.cell a' b').atom ↔ a = a' ∧ b = b' := by
  constructor
  · intro heq
    have hindex := congrArg (fun atom : Atom => atom.index.toNat) heq
    simp only [cell, Literal.ofAtom, UInt32.toNat_ofNat_of_lt' h.index,
      UInt32.toNat_ofNat_of_lt' h'.index] at hindex
    have hb := UInt64.lt_iff_toNat_lt.mp h.column
    have hb' := UInt64.lt_iff_toNat_lt.mp h'.column
    have hrow : a.toNat = a'.toNat := by
      have hdiv := row_of_position (a := a.toNat) hb
      rw [hindex, row_of_position hb'] at hdiv
      exact hdiv.symm
    rw [hrow] at hindex
    exact ⟨UInt64.toNat_inj.mp hrow, UInt64.toNat_inj.mp (by omega)⟩
  · rintro ⟨rfl, rfl⟩
    rfl

section

variable {grid : Grid} {e e' : Encoding} {a b : UInt64}

theorem indexOf_eq_ok (plain : grid.symmetric = false) (h : grid.Fits a b) :
    grid.indexOf (a, b) = .ok (grid.cell a b).atom.index := by
  rw [indexOf_eq_ok_iff, fold_of_not_symmetric plain]
  exact ⟨h.column, (UInt32.toNat_ofNat_of_lt' h.index).symm⟩

theorem fetched (plain : grid.symmetric = false) {literal : Literal}
    (h : (Family.fetch grid e (a, b)).2 = .ok (e', literal)) :
    literal = grid.cell a b ∧ e.Extends e' [(grid.cell a b).atom] [] [] ∧ grid.Fits a b := by
  obtain ⟨-, index, next, hi, hf⟩ := Family.fetch_eq_ok_iff.mp h
  obtain ⟨place, hplace, hp⟩ := map_eq_ok_iff.mp hi
  cases hp
  rw [indexOf_eq_ok_iff, fold_of_not_symmetric plain] at hplace
  obtain ⟨hcolumn, hindex⟩ := hplace
  obtain ⟨rfl, -⟩ := Encoding.fetch_eq_ok_iff.mp hf
  have hcell : grid.cell a b = .ofAtom ⟨grid.var, index⟩ := by
    rw [cell, hindex, UInt32.ofNat_toNat]
  rw [hcell]
  exact ⟨rfl, Encoding.extends_of_fetch hf, hcolumn, hindex ▸ index.toNat_lt⟩

theorem exists_fetch (plain : grid.symmetric = false) (owned : e.id = grid.owner)
    (allocated : grid.var.val < e.vars.size) (h : grid.Fits a b) :
    ∃ e', (Family.fetch grid e (a, b)).2 = .ok (e', grid.cell a b) := by
  obtain ⟨e', hf⟩ := Encoding.exists_fetch (grid.cell a b).atom allocated
  refine ⟨e', Family.fetch_eq_ok_iff.mpr ⟨owned, _, grid, ?_, hf⟩⟩
  exact map_eq_ok_iff.mpr ⟨_, indexOf_eq_ok plain h, rfl⟩

end

end Grid

namespace Line

/-- The literal at this distance from the offset. -/
def cell (line : Line) (a : UInt64) : Literal :=
  .ofAtom ⟨line.var, UInt32.ofNat (line.offset.toNat + a.toNat)⟩

/-- The coordinate has an index. -/
structure Fits (line : Line) (a : UInt64) : Prop where
  place : ∀ size, line.size = some size → a < size
  index : line.offset.toNat + a.toNat < UInt32.size

theorem cell_inj {line : Line} {a b : UInt64} (h : line.Fits a) (h' : line.Fits b) :
    (line.cell a).atom = (line.cell b).atom ↔ a = b := by
  constructor
  · intro heq
    have hindex := congrArg (fun atom : Atom => atom.index.toNat) heq
    simp only [cell, Literal.ofAtom, UInt32.toNat_ofNat_of_lt' h.index,
      UInt32.toNat_ofNat_of_lt' h'.index] at hindex
    exact UInt64.toNat_inj.mp (by omega)
  · rintro rfl
    rfl

section

variable {line : Line} {e e' : Encoding} {a : UInt64}

theorem indexOf_eq_ok (h : line.Fits a) : line.indexOf a = .ok (line.cell a).atom.index :=
  indexOf_eq_ok_iff.mpr ⟨h.place, (UInt32.toNat_ofNat_of_lt' h.index).symm⟩

theorem fetched {literal : Literal} (h : (Family.fetch line e a).2 = .ok (e', literal)) :
    literal = line.cell a ∧ e.Extends e' [(line.cell a).atom] [] [] ∧ line.Fits a := by
  obtain ⟨-, index, next, hi, hf⟩ := Family.fetch_eq_ok_iff.mp h
  obtain ⟨place, hplace, hp⟩ := map_eq_ok_iff.mp hi
  cases hp
  obtain ⟨hsize, hindex⟩ := indexOf_eq_ok_iff.mp hplace
  obtain ⟨rfl, -⟩ := Encoding.fetch_eq_ok_iff.mp hf
  have hcell : line.cell a = .ofAtom ⟨line.var, index⟩ := by
    rw [cell, hindex, UInt32.ofNat_toNat]
  rw [hcell]
  exact ⟨rfl, Encoding.extends_of_fetch hf, hsize, hindex ▸ index.toNat_lt⟩

theorem exists_fetch (owned : e.id = line.owner) (allocated : line.var.val < e.vars.size)
    (h : line.Fits a) : ∃ e', (Family.fetch line e a).2 = .ok (e', line.cell a) := by
  obtain ⟨e', hf⟩ := Encoding.exists_fetch (line.cell a).atom allocated
  refine ⟨e', Family.fetch_eq_ok_iff.mpr ⟨owned, _, line, ?_, hf⟩⟩
  exact map_eq_ok_iff.mpr ⟨_, indexOf_eq_ok h, rfl⟩

end

end Line

end Clausal

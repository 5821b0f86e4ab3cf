import Clausal.Proofs.Family.Inverse
import Clausal.Proofs.Valuation

/-!
# Rows of a grid

A row gives each of its columns the index at its place in row-major order.  The grid gives the same
index to the pair of row and column, and finds the pair back from it, as long as the pair stands
for itself.  Where a symmetric grid folds the pair, its row does not: the index is then one that
the grid gives to no pair at all and does not find back.
-/

namespace Clausal

namespace Grid

variable {grid : Grid} {a b : UInt64} {index : UInt32}

/-- The index of a column, asked of the row. -/
def indexInRow (grid : Grid) (a b : UInt64) : Except EncodingError UInt32 := do
  let line ← grid.row a
  line.indexOf b

theorem row_eq_ok_iff {line : Line} :
    grid.row a = .ok line ↔
      ∃ offset : UInt64, a.toNat * grid.columns.toNat = offset.toNat ∧
        line = ⟨grid.owner, grid.var, offset, some grid.columns⟩ := by
  unfold row
  cases hoffset : mulChecked a grid.columns with
  | none =>
      have hwide := mulChecked_eq_none_iff.mp hoffset
      simp only [reduceCtorEq, false_iff]
      rintro ⟨offset, hexact, -⟩
      exact hwide (hexact ▸ offset.toNat_lt)
  | some offset =>
      have hexact := mulChecked_eq_some_iff.mp hoffset
      simp only [Except.ok.injEq, hexact, UInt64.toNat_inj, exists_eq_left', eq_comm]

theorem indexInRow_eq_ok_iff :
    grid.indexInRow a b = .ok index ↔
      b < grid.columns ∧ a.toNat * grid.columns.toNat + b.toNat = index.toNat := by
  unfold indexInRow
  simp only [bind_eq_ok_iff, row_eq_ok_iff]
  constructor
  · rintro ⟨line, ⟨offset, hoffset, rfl⟩, hindex⟩
    obtain ⟨hcolumn, hplace⟩ := Line.indexOf_eq_ok_iff.mp hindex
    rw [hoffset]
    exact ⟨hcolumn _ rfl, hplace⟩
  · rintro ⟨hcolumn, hplace⟩
    have hoffset := (UInt64.toNat_ofNat_of_lt' (start_lt_of_position hplace)).symm
    refine ⟨_, ⟨_, hoffset, rfl⟩, Line.indexOf_eq_ok_iff.mpr ⟨?_, ?_⟩⟩
    · rintro size ⟨⟩
      exact hcolumn
    · rw [← hoffset]
      exact hplace

/-- The grid with these columns that does not fold. -/
def plain (grid : Grid) : Grid := { grid with symmetric := false }

theorem fold_plain (grid : Grid) (a b : UInt64) : grid.plain.fold a b = (a, b) :=
  fold_of_not_symmetric rfl a b

theorem indexInRow_eq_ok_iff_plain :
    grid.indexInRow a b = .ok index ↔ grid.plain.indexOf (a, b) = .ok index := by
  rw [indexInRow_eq_ok_iff, indexOf_eq_ok_iff, fold_plain]
  rfl

theorem indexInRow_eq_ok_iff_of_kept (kept : grid.fold a b = (a, b)) :
    grid.indexInRow a b = .ok index ↔ grid.indexOf (a, b) = .ok index := by
  rw [indexInRow_eq_ok_iff, indexOf_eq_ok_iff, kept]

theorem eq_of_indexInRow {coords : UInt64 × UInt64} (given : grid.indexInRow a b = .ok index)
    (back : grid.coordsOf index = .ok coords) : coords = (a, b) := by
  obtain ⟨c, d⟩ := coords
  obtain ⟨kept, hindex⟩ := coordsOf_eq_ok_iff.mp back
  have hother := indexInRow_eq_ok_iff_plain.mp ((indexInRow_eq_ok_iff_of_kept kept).mpr hindex)
  have hpair : grid.plain.coordsOf index = .ok (a, b) :=
    coordsOf_eq_ok_iff.mpr ⟨grid.fold_plain a b, indexInRow_eq_ok_iff_plain.mp given⟩
  have hcoords : grid.plain.coordsOf index = .ok (c, d) :=
    coordsOf_eq_ok_iff.mpr ⟨grid.fold_plain c d, hother⟩
  exact Except.ok.inj (hcoords.symm.trans hpair)

theorem coordsOf_cases (grid : Grid) (index : UInt32) :
    (∃ coords, grid.coordsOf index = .ok coords) ∨
      grid.coordsOf index = .error (.unknownIndex index) := by
  unfold coordsOf
  split
  · exact .inr rfl
  · simp only
    split
    · exact .inr rfl
    · exact .inl ⟨_, rfl⟩

theorem coordsOf_of_folded (folded : grid.symmetric = true ∧ b < a)
    (given : grid.indexInRow a b = .ok index) :
    grid.coordsOf index = .error (.unknownIndex index) := by
  rcases grid.coordsOf_cases index with ⟨coords, back⟩ | hunknown
  · obtain rfl := eq_of_indexInRow given back
    exact absurd folded (fold_eq_self_iff.mp (coordsOf_eq_ok_iff.mp back).1)
  · exact hunknown

/-- A row gives out the row-major places of its columns.  It agrees with its grid on the pairs that
stand for themselves; where a pair is folded, the grid gives the index of the row to no pair. -/
theorem row_agrees_unless_folded (grid : Grid) (a b : UInt64) :
    (∀ index, grid.indexInRow a b = .ok index ↔
        b < grid.columns ∧ a.toNat * grid.columns.toNat + b.toNat = index.toNat) ∧
      (¬ (grid.symmetric = true ∧ b < a) →
        ∀ index, (grid.indexInRow a b = .ok index ↔ grid.indexOf (a, b) = .ok index) ∧
          (grid.indexInRow a b = .ok index → grid.coordsOf index = .ok (a, b))) ∧
      (grid.symmetric = true ∧ b < a →
        ∀ index, grid.indexInRow a b = .ok index →
          grid.coordsOf index = .error (.unknownIndex index) ∧
            ∀ coords, grid.indexOf coords ≠ .ok index) := by
  refine ⟨fun index => indexInRow_eq_ok_iff, fun hkeep index => ?_, fun folded index given => ?_⟩
  · have kept := fold_eq_self_iff.mpr hkeep
    have hagree : grid.indexInRow a b = .ok index ↔ grid.indexOf (a, b) = .ok index :=
      indexInRow_eq_ok_iff_of_kept kept
    exact ⟨hagree, fun given => coordsOf_eq_ok_iff.mpr ⟨kept, hagree.mp given⟩⟩
  · have hunknown := coordsOf_of_folded folded given
    refine ⟨hunknown, fun coords hindex => ?_⟩
    rw [coordsOf_of_indexOf hindex] at hunknown
    cases hunknown

def triangle : Grid := ⟨0, firstVariable, 4, true⟩

theorem triangle_rows :
    ¬ (triangle.symmetric = true ∧ (2 : UInt64) < 1) ∧ triangle.indexInRow 1 2 = .ok 6 ∧
      triangle.indexOf (1, 2) = .ok 6 ∧ triangle.coordsOf 6 = .ok (1, 2) ∧
      (triangle.symmetric = true ∧ (1 : UInt64) < 2) ∧ triangle.indexInRow 2 1 = .ok 9 ∧
      triangle.coordsOf 9 = .error (.unknownIndex 9) ∧
      ∀ coords, triangle.indexOf coords ≠ .ok 9 := by
  have hkeep : ¬ (triangle.symmetric = true ∧ (2 : UInt64) < 1) := by decide
  have folded : triangle.symmetric = true ∧ (1 : UInt64) < 2 := by decide
  obtain ⟨-, hagrees, -⟩ := row_agrees_unless_folded triangle 1 2
  obtain ⟨hgiven, -, hnone⟩ := row_agrees_unless_folded triangle 2 1
  obtain ⟨hagree, hback⟩ := hagrees hkeep 6
  have hrow : triangle.indexInRow 1 2 = .ok 6 := by rfl
  have hfolded : triangle.indexInRow 2 1 = .ok 9 := (hgiven 9).mpr (by decide)
  exact ⟨hkeep, hrow, hagree.mp hrow, hback hrow, folded, hfolded, hnone folded 9 hfolded⟩

/-- Rows do not agree with their grids, and give out indices that these do not find back. -/
theorem not_rows_agree :
    ¬ ∀ (grid : Grid) (a b : UInt64) (index : UInt32),
      (grid.indexInRow a b = .ok index ↔ grid.indexOf (a, b) = .ok index) ∧
        (grid.indexInRow a b = .ok index → grid.coordsOf index = .ok (grid.fold a b)) := by
  intro agree
  obtain ⟨hindex, -⟩ := agree triangle 2 1 9
  have given : triangle.indexInRow 2 1 = .ok 9 := by rfl
  have hgrid : triangle.indexOf (2, 1) = .ok 6 := by rfl
  rw [hindex.mp given, Except.ok.injEq] at hgrid
  exact absurd hgrid (by decide)

end Grid

end Clausal

import Clausal.Proofs.Family.Placement

/-!
# Coordinates of an index

Lines, grids and cubes find back the coordinates that an index was given out for: a line and a
cube exactly those, a grid the folded pair.  So different coordinates never get the same index,
except that a symmetric grid does not tell a pair from the pair the other way around.
-/

namespace Clausal

namespace Line

theorem coordsOf_eq_ok_iff {line : Line} {index : UInt32} {a : UInt64} :
    line.coordsOf index = .ok a ↔ line.indexOf a = .ok index := by
  rw [indexOf_eq_ok_iff]
  unfold coordsOf
  split
  · rename_i hlow
    rw [UInt64.lt_iff_toNat_lt, UInt32.toNat_toUInt64] at hlow
    simp only [reduceCtorEq, false_iff]
    omega
  · rename_i hhigh
    have hplace : index.toUInt64 - line.offset = a ↔
        line.offset.toNat + a.toNat = index.toNat := by
      have hle := UInt64.le_iff_toNat_le.mp (UInt64.not_lt.mp hhigh)
      rw [UInt32.toNat_toUInt64] at hle
      rw [← UInt64.toNat_inj, UInt64.toNat_sub_of_le _ _ (UInt64.not_lt.mp hhigh),
        UInt32.toNat_toUInt64]
      omega
    cases line.size with
    | none => simpa using hplace
    | some size =>
        simp only [Option.some.injEq, forall_eq', ← hplace]
        split
        · rename_i hlt
          rw [Except.ok.injEq]
          exact ⟨fun h => ⟨h ▸ hlt, h⟩, fun h => h.2⟩
        · rename_i hge
          simp only [reduceCtorEq, false_iff]
          exact fun h => hge (h.2 ▸ h.1)

end Line

namespace Grid

variable {grid : Grid} {index : UInt32} {a b : UInt64}

theorem fold_eq (grid : Grid) (a b : UInt64) :
    grid.fold a b = if grid.symmetric = true ∧ b < a then (b, a) else (a, b) := by
  simp only [fold, Bool.and_eq_true, decide_eq_true_eq]

/-- A pair stands for itself unless the grid is symmetric and the larger one comes first. -/
theorem fold_eq_self_iff : grid.fold a b = (a, b) ↔ ¬ (grid.symmetric = true ∧ b < a) := by
  rw [fold_eq]
  split
  · rename_i hswap
    have hne : b ≠ a := UInt64.ne_of_lt hswap.2
    simp [hswap, hne]
  · rename_i hkeep
    simp [hkeep]

theorem fold_fold (grid : Grid) (a b : UInt64) :
    grid.fold (grid.fold a b).1 (grid.fold a b).2 = grid.fold a b := by
  rw [fold_eq grid a b]
  split
  · rename_i hswap
    exact fold_eq_self_iff.mpr fun h => UInt64.lt_asymm h.2 hswap.2
  · rename_i hkeep
    exact fold_eq_self_iff.mpr hkeep

/-- Folding identifies a pair with its reverse on a symmetric grid, and nothing else. -/
theorem fold_eq_fold_iff {a' b' : UInt64} :
    grid.fold a b = grid.fold a' b' ↔
      (a, b) = (a', b') ∨ grid.symmetric = true ∧ (a, b) = (b', a') := by
  constructor
  · intro h
    rw [fold_eq, fold_eq] at h
    split at h <;> split at h <;> cases h
    · exact .inl rfl
    · rename_i hswap hkeep
      exact .inr ⟨hswap.1, rfl⟩
    · rename_i hkeep hswap
      exact .inr ⟨hswap.1, rfl⟩
    · exact .inl rfl
  · rintro (h | ⟨hs, h⟩) <;> cases h
    · rfl
    · exact fold_comm hs a b

/-- Only folded pairs are found back, each from its own index. -/
theorem coordsOf_eq_ok_iff :
    grid.coordsOf index = .ok (a, b) ↔
      grid.fold a b = (a, b) ∧ grid.indexOf (a, b) = .ok index := by
  constructor
  · intro h
    unfold coordsOf at h
    split at h
    · cases h
    rename_i hcolumns
    simp only at h
    split at h
    · cases h
    rename_i hkeep
    cases h
    have hpos : 0 < grid.columns.toNat := by
      rw [← UInt64.toNat_inj, UInt64.toNat_zero] at hcolumns
      omega
    have hfold : grid.fold (index.toUInt64 / grid.columns) (index.toUInt64 % grid.columns) =
        (index.toUInt64 / grid.columns, index.toUInt64 % grid.columns) :=
      fold_eq_self_iff.mpr (by simpa using hkeep)
    refine ⟨hfold, indexOf_eq_ok_iff.mpr ?_⟩
    rw [hfold, UInt64.lt_iff_toNat_lt, UInt64.toNat_mod, UInt64.toNat_div, UInt32.toNat_toUInt64]
    exact ⟨Nat.mod_lt _ hpos, Nat.div_add_mod' _ _⟩
  · rintro ⟨hfold, hindex⟩
    rw [indexOf_eq_ok_iff, hfold] at hindex
    obtain ⟨hb, hplace⟩ := hindex
    have hlt := UInt64.lt_iff_toNat_lt.mp hb
    have hcolumns : grid.columns ≠ 0 := by
      rintro hzero
      rw [hzero] at hlt
      exact absurd hlt (Nat.not_lt_zero _)
    have hrow : index.toUInt64 / grid.columns = a := by
      rw [← UInt64.toNat_inj, UInt64.toNat_div, UInt32.toNat_toUInt64, ← hplace,
        row_of_position hlt]
    have hcolumn : index.toUInt64 % grid.columns = b := by
      rw [← UInt64.toNat_inj, UInt64.toNat_mod, UInt32.toNat_toUInt64, ← hplace,
        column_of_position hlt]
    unfold coordsOf
    rw [if_neg hcolumns, hrow, hcolumn]
    exact if_neg (by simpa using fold_eq_self_iff.mp hfold)

theorem indexOf_fold (grid : Grid) (a b : UInt64) :
    grid.indexOf (grid.fold a b) = grid.indexOf (a, b) := by
  unfold indexOf
  rw [fold_fold]

theorem coordsOf_of_indexOf (h : grid.indexOf (a, b) = .ok index) :
    grid.coordsOf index = .ok (grid.fold a b) := by
  exact coordsOf_eq_ok_iff.mpr ⟨grid.fold_fold a b, (grid.indexOf_fold a b).trans h⟩

end Grid

namespace Cube

variable {cube : Cube} {index : UInt32} {a b c : UInt64}

theorem coordsOf_eq_ok {plane : UInt64} (hplane : mulChecked cube.rows cube.columns = some plane)
    (hpos : 0 < plane.toNat) :
    cube.coordsOf index = .ok (index.toUInt64 / cube.columns / cube.rows,
      index.toUInt64 / cube.columns % cube.rows, index.toUInt64 % cube.columns) := by
  have hexact := mulChecked_eq_some_iff.mp hplane
  have hnonzero : plane ≠ 0 := by
    rintro rfl
    exact absurd hpos (Nat.lt_irrefl 0)
  have hdiv : index.toUInt64 / plane = index.toUInt64 / cube.columns / cube.rows := by
    rw [← UInt64.toNat_inj]
    simp only [UInt64.toNat_div]
    rw [← hexact, Nat.mul_comm, Nat.div_div_eq_div_mul]
  unfold coordsOf
  rw [hplane]
  simp only [hnonzero, if_false, hdiv]

theorem coordsOf_eq_ok_iff :
    cube.coordsOf index = .ok (a, b, c) ↔ cube.indexOf (a, b, c) = .ok index := by
  have hindex : index.toUInt64.toNat = index.toNat := UInt32.toNat_toUInt64 index
  rw [indexOf_eq_ok_iff, position_by_rows]
  cases hplane : mulChecked cube.rows cube.columns with
  | none =>
      have wide := mulChecked_eq_none_iff.mp hplane
      unfold coordsOf
      simp [hplane, wide]
  | some plane =>
      have hexact := mulChecked_eq_some_iff.mp hplane
      have hfits : cube.rows.toNat * cube.columns.toNat < UInt64.size := hexact ▸ plane.toNat_lt
      rcases Nat.eq_zero_or_pos plane.toNat with hzero | hpos
      · -- Without rows or columns there are no coordinates.
        have hnone : cube.coordsOf index = .error (.unknownIndex index) := by
          unfold coordsOf
          rw [hplane]
          exact if_pos (UInt64.toNat_inj.mp hzero)
        rw [hnone]
        simp only [reduceCtorEq, false_iff]
        rintro ⟨hb, hc, -⟩
        rw [UInt64.lt_iff_toNat_lt] at hb hc
        have := position_lt hb hc
        omega
      · have hrows : 0 < cube.rows.toNat := Nat.pos_of_mul_pos_right (hexact ▸ hpos)
        have hcolumns : 0 < cube.columns.toNat := Nat.pos_of_mul_pos_left (hexact ▸ hpos)
        rw [coordsOf_eq_ok hplane hpos, Except.ok.injEq, Prod.mk.injEq, Prod.mk.injEq]
        constructor
        · rintro ⟨rfl, rfl, rfl⟩
          simp only [UInt64.lt_iff_toNat_lt, UInt64.toNat_mod, UInt64.toNat_div, hindex,
            Nat.div_add_mod']
          exact ⟨Nat.mod_lt _ hrows, Nat.mod_lt _ hcolumns, hfits, trivial⟩
        · rintro ⟨hb, hc, -, hplace⟩
          rw [UInt64.lt_iff_toNat_lt] at hb hc
          simp only [← UInt64.toNat_inj, UInt64.toNat_mod, UInt64.toNat_div, hindex, ← hplace,
            row_of_position hc, column_of_position hc, row_of_position hb, column_of_position hb,
            and_self]

end Cube

end Clausal

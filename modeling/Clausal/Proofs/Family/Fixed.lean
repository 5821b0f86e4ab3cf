import Clausal.Proofs.Family.Inverse
import Clausal.Word

/-!
# Families of fixed sizes

Lines, grids and cubes compute their indices, and coordinates from indices.  `Inverts` is what the
three have in common: coordinates have an index exactly when they are within the sizes and their
position has 32 bits, the index is that position, and it leads back to the folded coordinates.

Where a computation adds, subtracts, multiplies or divides without a check, the exact result is a
word and no divisor is zero: the computation is `Arithmetic.Safe`.
-/

namespace Clausal

/-! ## Computations with unchecked steps

The index of a coordinate or a pair has none: `Line.indexOf` and `Grid.indexOf` check every step.
-/

section

variable {m : Type → Type} [Monad m]

def Line.coordsOfBy (line : Line) (index : UInt32) (arith : Arithmetic m) :
    m (Except EncodingError UInt64) :=
  if index.toUInt64 < line.offset then pure (.error (.unknownIndex index))
  else do
    let a ← arith.sub index.toUInt64 line.offset
    pure (match line.size with
      | some size => if a < size then .ok a else .error (.unknownIndex index)
      | none => .ok a)

def Grid.coordsOfBy (grid : Grid) (index : UInt32) (arith : Arithmetic m) :
    m (Except EncodingError (UInt64 × UInt64)) :=
  if grid.columns = 0 then pure (.error (.unknownIndex index))
  else do
    let a ← arith.div index.toUInt64 grid.columns
    let b ← arith.mod index.toUInt64 grid.columns
    pure (if grid.symmetric && decide (b < a) then .error (.unknownIndex index) else .ok (a, b))

/-- The place within a plane is computed only once both bounds and the plane's start are known. -/
def Cube.indexOfBy (cube : Cube) (a b c : UInt64) (arith : Arithmetic m) :
    m (Except EncodingError UInt32) :=
  match checkAxis 1 b cube.rows >>= fun _ => checkAxis 2 c cube.columns with
  | .error failure => pure (.error failure)
  | .ok () =>
      match (mulChecked cube.rows cube.columns).bind (mulChecked a) with
      | none => pure (.error .indexOverflow)
      | some start => do
          let row ← arith.mul b cube.columns
          let place ← arith.add row c
          pure (indexOfChecked (addChecked start place))

def Cube.coordsOfBy (cube : Cube) (index : UInt32) (arith : Arithmetic m) :
    m (Except EncodingError (UInt64 × UInt64 × UInt64)) :=
  match mulChecked cube.rows cube.columns with
  | none => pure (.error (.unknownIndex index))
  | some plane =>
      if plane = 0 then pure (.error (.unknownIndex index))
      else do
        let place := index.toUInt64
        let a ← arith.div place plane
        let row ← arith.div place cube.columns
        let b ← arith.mod row cube.rows
        let c ← arith.mod place cube.columns
        pure (.ok (a, b, c))

end

theorem Line.coordsOf_safe (line : Line) (index : UInt32) :
    Arithmetic.Safe (line.coordsOfBy index) (line.coordsOf index) := by
  unfold coordsOf coordsOfBy
  split
  · exact ⟨rfl, rfl⟩
  · rename_i hhigh
    have hle : line.offset ≤ index.toUInt64 := UInt64.not_lt.mp hhigh
    refine ⟨rfl, ?_⟩
    simp only [Arithmetic.exact, if_pos hle]
    rfl

theorem Grid.coordsOf_safe (grid : Grid) (index : UInt32) :
    Arithmetic.Safe (grid.coordsOfBy index) (grid.coordsOf index) := by
  unfold coordsOf coordsOfBy
  split
  · exact ⟨rfl, rfl⟩
  · rename_i hcolumns
    refine ⟨rfl, ?_⟩
    simp only [Arithmetic.exact, if_neg hcolumns]
    rfl

namespace Cube

variable {cube : Cube} {b c : UInt64}

theorem checked_offset (hb : b < cube.rows) (hc : c < cube.columns)
    (plane : cube.rows.toNat * cube.columns.toNat < UInt64.size) :
    mulChecked b cube.columns = some (b * cube.columns) ∧
      addChecked (b * cube.columns) c = some (b * cube.columns + c) := by
  have hoffset := toNat_offset hb hc plane
  rw [UInt64.lt_iff_toNat_lt] at hb hc
  have hplace := position_lt hb hc
  have hrow : (b * cube.columns).toNat = b.toNat * cube.columns.toNat := by
    have : UInt64.size = 2 ^ 64 := rfl
    rw [UInt64.toNat_mul, Nat.mod_eq_of_lt]
    omega
  rw [mulChecked_eq_some_iff, addChecked_eq_some_iff, hoffset, hrow]
  exact ⟨rfl, rfl⟩

theorem indexOf_eq (cube : Cube) (a b c : UInt64) :
    cube.indexOf (a, b, c) =
      (checkAxis 1 b cube.rows >>= fun _ => checkAxis 2 c cube.columns) >>= fun _ =>
        indexOfChecked (((mulChecked cube.rows cube.columns).bind (mulChecked a)).bind fun start =>
          addChecked start (b * cube.columns + c)) := by
  rw [bind_assoc, Option.bind_assoc]
  rfl

theorem indexOf_safe (cube : Cube) (a b c : UInt64) :
    Arithmetic.Safe (cube.indexOfBy a b c) (cube.indexOf (a, b, c)) := by
  rw [indexOf_eq]
  unfold indexOfBy
  cases hchecks : checkAxis 1 b cube.rows >>= fun _ => checkAxis 2 c cube.columns with
  | error failure => exact ⟨rfl, rfl⟩
  | ok _ =>
      cases hstart : (mulChecked cube.rows cube.columns).bind (mulChecked a) with
      | none => exact ⟨rfl, rfl⟩
      | some start =>
          simp only [bind_eq_ok_iff, checkAxis_eq_ok_iff, exists_const] at hchecks
          obtain ⟨plane, hplane, -⟩ := Option.bind_eq_some_iff.mp hstart
          have hexact := mulChecked_eq_some_iff.mp hplane
          obtain ⟨hrow, hplace⟩ := checked_offset hchecks.1 hchecks.2 (hexact ▸ plane.toNat_lt)
          refine ⟨rfl, ?_⟩
          simp only [Arithmetic.exact, hrow, hplace, Option.bind_eq_bind, Option.bind_some]
          rfl

theorem coordsOf_safe (cube : Cube) (index : UInt32) :
    Arithmetic.Safe (cube.coordsOfBy index) (cube.coordsOf index) := by
  unfold coordsOf coordsOfBy
  cases hplane : mulChecked cube.rows cube.columns with
  | none => exact ⟨rfl, rfl⟩
  | some plane =>
      simp only
      split
      · exact ⟨rfl, rfl⟩
      · rename_i hpos
        have hexact := mulChecked_eq_some_iff.mp hplane
        have hrows : cube.rows ≠ 0 := by
          intro hzero
          rw [hzero, UInt64.toNat_zero, Nat.zero_mul] at hexact
          exact hpos (UInt64.toNat_inj.mp hexact.symm)
        have hcolumns : cube.columns ≠ 0 := by
          intro hzero
          rw [hzero, UInt64.toNat_zero, Nat.mul_zero] at hexact
          exact hpos (UInt64.toNat_inj.mp hexact.symm)
        refine ⟨rfl, ?_⟩
        simp only [Arithmetic.exact, if_neg hpos, if_neg hrows, if_neg hcolumns]
        rfl

end Cube

/-! ## Both directions -/

namespace Family

/-- Coordinates within the sizes have their position for an index, if that has 32 bits, and an
index leads back to the coordinates that stand for the ones it was given out for. -/
structure Inverts {φ γ : Type} [Family φ γ] (family : φ) (Within : γ → Prop)
    (position : γ → Nat) (fold : γ → γ) : Prop where
  exists_indexOf_iff (coords : γ) :
    (∃ given, indexOf family coords = .ok given) ↔
      Within coords ∧ position coords < UInt32.size
  given (coords : γ) (index : UInt32) (next : φ) :
    indexOf family coords = .ok (index, next) → next = family ∧ index.toNat = position coords
  coordsOf_iff (index : UInt32) (coords : γ) :
    coordsOf family index = .ok coords ↔
      fold coords = coords ∧ indexOf family coords = .ok (index, family)
  back (coords : γ) (index : UInt32) (next : φ) :
    indexOf family coords = .ok (index, next) → coordsOf family index = .ok (fold coords)

theorem Inverts.of_computed {φ γ : Type} [Family φ γ] {family : φ} {Within : γ → Prop}
    {position : γ → Nat} {fold : γ → γ} {computed : γ → Except EncodingError UInt32}
    (index : ∀ coords, indexOf family coords = (computed coords).map fun index => (index, family))
    (computed_iff : ∀ coords index,
      computed coords = .ok index ↔ Within coords ∧ position coords = index.toNat)
    (coordsOf_iff : ∀ index coords,
      coordsOf family index = .ok coords ↔ fold coords = coords ∧ computed coords = .ok index)
    (folded : ∀ coords, fold (fold coords) = fold coords ∧
      computed (fold coords) = computed coords) :
    Inverts family Within position fold := by
  have hgiven (coords : γ) (i : UInt32) (next : φ) :
      indexOf family coords = .ok (i, next) ↔ computed coords = .ok i ∧ next = family := by
    rw [index, map_eq_ok_iff]
    constructor
    · rintro ⟨_, hi, hpair⟩
      cases hpair
      exact ⟨hi, rfl⟩
    · rintro ⟨hi, rfl⟩
      exact ⟨i, hi, rfl⟩
  refine ⟨fun coords => ?_, fun coords i next h => ?_, fun i coords => ?_,
    fun coords i next h => ?_⟩
  · simp only [Prod.exists, hgiven, computed_iff, exists_and_left, exists_eq, and_true,
      exists_index_iff]
  · obtain ⟨hi, rfl⟩ := (hgiven coords i next).mp h
    exact ⟨rfl, ((computed_iff coords i).mp hi).2.symm⟩
  · rw [coordsOf_iff, hgiven, and_iff_left rfl]
  · obtain ⟨hi, -⟩ := (hgiven coords i next).mp h
    exact (coordsOf_iff i _).mpr ⟨(folded coords).1, (folded coords).2.trans hi⟩

end Family

namespace Line

/-- The coordinate is below the size, if there is one. -/
def Within (line : Line) (a : UInt64) : Prop := ∀ size, line.size = some size → a < size

def position (line : Line) (a : UInt64) : Nat := line.offset.toNat + a.toNat

theorem inverts (line : Line) : Family.Inverts line line.Within line.position id :=
  .of_computed (fun _ => rfl) (fun _ _ => indexOf_eq_ok_iff)
    (fun _ _ => coordsOf_eq_ok_iff.trans (and_iff_right rfl).symm) fun _ => ⟨rfl, rfl⟩

end Line

namespace Grid

/-- The pair that stands for this one, as a pair. -/
def foldPair (grid : Grid) (coords : UInt64 × UInt64) : UInt64 × UInt64 :=
  grid.fold coords.1 coords.2

def Within (grid : Grid) (coords : UInt64 × UInt64) : Prop :=
  (grid.foldPair coords).2 < grid.columns

/-- The row-major position of the folded pair. -/
def position (grid : Grid) (coords : UInt64 × UInt64) : Nat :=
  (grid.foldPair coords).1.toNat * grid.columns.toNat + (grid.foldPair coords).2.toNat

theorem inverts (grid : Grid) : Family.Inverts grid grid.Within grid.position grid.foldPair :=
  .of_computed (fun _ => rfl) (fun _ _ => indexOf_eq_ok_iff) (fun _ _ => coordsOf_eq_ok_iff)
    fun coords => ⟨grid.fold_fold coords.1 coords.2, grid.indexOf_fold coords.1 coords.2⟩

/-- A pair stands for itself unless the grid is symmetric and would put the smaller one first. -/
theorem foldPair_eq_self_iff (grid : Grid) (a b : UInt64) :
    grid.foldPair (a, b) = (a, b) ↔ (grid.symmetric = true → a ≤ b) := by
  rw [foldPair, fold_eq_self_iff, not_and, UInt64.not_lt]

end Grid

namespace Cube

def Within (cube : Cube) (coords : UInt64 × UInt64 × UInt64) : Prop :=
  coords.2.1 < cube.rows ∧ coords.2.2 < cube.columns ∧
    cube.rows.toNat * cube.columns.toNat < UInt64.size

def position (cube : Cube) (coords : UInt64 × UInt64 × UInt64) : Nat :=
  (coords.1.toNat * cube.rows.toNat + coords.2.1.toNat) * cube.columns.toNat + coords.2.2.toNat

theorem inverts (cube : Cube) : Family.Inverts cube cube.Within cube.position id := by
  refine .of_computed (fun _ => rfl) (fun coords index => ?_)
    (fun _ _ => coordsOf_eq_ok_iff.trans (and_iff_right rfl).symm) fun _ => ⟨rfl, rfl⟩
  rw [position, ← position_by_rows]
  exact indexOf_eq_ok_iff.trans (by simp only [Within, and_assoc])

end Cube

/-- Lines, grids and cubes of whatever sizes invert, and neither direction overflows or divides by
zero. -/
theorem fixed_families_invert :
    (∀ line : Line, Family.Inverts line line.Within line.position id ∧
      ∀ index, Arithmetic.Safe (line.coordsOfBy index) (line.coordsOf index)) ∧
    (∀ grid : Grid, Family.Inverts grid grid.Within grid.position grid.foldPair ∧
      (∀ a b, grid.foldPair (a, b) =
        if grid.symmetric = true ∧ b < a then (b, a) else (a, b)) ∧
      (∀ a b, grid.foldPair (a, b) = (a, b) ↔ (grid.symmetric = true → a ≤ b)) ∧
      ∀ index, Arithmetic.Safe (grid.coordsOfBy index) (grid.coordsOf index)) ∧
    ∀ cube : Cube, Family.Inverts cube cube.Within cube.position id ∧
      (∀ a b c, Arithmetic.Safe (cube.indexOfBy a b c) (cube.indexOf (a, b, c))) ∧
      ∀ index, Arithmetic.Safe (cube.coordsOfBy index) (cube.coordsOf index) :=
  ⟨fun line => ⟨line.inverts, line.coordsOf_safe⟩,
    fun grid => ⟨grid.inverts, grid.fold_eq, grid.foldPair_eq_self_iff, grid.coordsOf_safe⟩,
    fun cube => ⟨cube.inverts, cube.indexOf_safe, cube.coordsOf_safe⟩⟩

end Clausal

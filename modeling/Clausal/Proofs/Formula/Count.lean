import Mathlib.Data.List.TakeWhile
import Mathlib.Data.UInt
import Clausal.Formula.Basic

/-!
# The literal count

Adding a clause raises the literal count to the largest magnitude of the literals before the
first zero.  Without a zero these are all of them, and the clause is added; with one, the
count is all that changes.
-/

namespace Clausal.Formula

/-- The largest of a count and the magnitudes of literals. -/
def raised (count : UInt32) (literals : List Int32) : UInt32 :=
  literals.foldl (fun count literal => max count (magnitude literal)) count

/-- The literals that are looked at before a zero ends the clause. -/
def beforeZero (literals : List Int32) : List Int32 := literals.takeWhile (· ≠ 0)

/-- All clauses, the hard ones first. -/
def clauses (f : Formula) : List (Clause Int32) := f.hard.toList ++ f.soft.toList

theorem toNat_raised_le_iff {count : UInt32} {literals : List Int32} {bound : Nat} :
    (raised count literals).toNat ≤ bound ↔
      count.toNat ≤ bound ∧ ∀ literal ∈ literals, literal.toInt.natAbs ≤ bound := by
  induction literals generalizing count with
  | nil => simp [raised]
  | cons literal rest ih =>
      rw [List.forall_mem_cons, ← and_assoc, ← Nat.max_le, ← magnitude_toNat,
        ← UInt32.toNat_max]
      exact ih

theorem le_raised (count : UInt32) (literals : List Int32) :
    count.toNat ≤ (raised count literals).toNat :=
  (toNat_raised_le_iff.mp (Nat.le_refl _)).1

theorem natAbs_le_raised {count : UInt32} {literals : List Int32} {literal : Int32}
    (h : literal ∈ literals) : literal.toInt.natAbs ≤ (raised count literals).toNat :=
  (toNat_raised_le_iff.mp (Nat.le_refl _)).2 literal h

theorem raised_eq_self_iff {count : UInt32} {literals : List Int32} :
    raised count literals = count ↔
      ∀ literal ∈ literals, literal.toInt.natAbs ≤ count.toNat := by
  constructor
  · intro h literal hl
    exact h ▸ natAbs_le_raised hl
  · intro h
    have hle := toNat_raised_le_iff.mpr ⟨Nat.le_refl count.toNat, h⟩
    exact UInt32.toNat_inj.mp (Nat.le_antisymm hle (le_raised count literals))

theorem widest_eq (clauses : List (Clause Int32)) :
    widest clauses = raised 0 (clauses.flatMap Clause.literals) := by
  rw [widest, raised, List.foldl_flatMap]

theorem widest_le_iff {clauses : List (Clause Int32)} {bound : Nat} :
    (widest clauses).toNat ≤ bound ↔
      ∀ clause ∈ clauses, ∀ literal ∈ clause.literals, literal.toInt.natAbs ≤ bound := by
  rw [widest_eq, toNat_raised_le_iff]
  simp only [UInt32.toNat_zero, Nat.zero_le, true_and, List.mem_flatMap]
  grind

/-! ## Adding a clause -/

theorem raise_eq (count : UInt32) (literals : List Int32) :
    raise count literals = (raised count (beforeZero literals), !literals.contains 0) := by
  induction literals generalizing count with
  | nil => rfl
  | cons literal rest ih =>
      by_cases hzero : literal = 0
      · simp [raise, beforeZero, raised, hzero]
      · have hswap : ¬ (0 : Int32) = literal := fun h => hzero h.symm
        simp [raise, beforeZero, raised, hzero, hswap, ih]

theorem beforeZero_eq_self {literals : List Int32} (h : (0 : Int32) ∉ literals) :
    beforeZero literals = literals := by
  rw [beforeZero, List.takeWhile_eq_self_iff]
  intro literal hl
  have hne : literal ≠ 0 := fun heq => h (heq ▸ hl)
  simpa using hne

/-- A clause without a zero is added to its side. -/
theorem addClause_of_nonzero {f : Formula} {clause : Clause Int32}
    (h : (0 : Int32) ∉ clause.literals) :
    f.addClause clause =
      (if clause.isHard then
        { f with
          literalCount := raised f.literalCount clause.literals
          hard := f.hard.add clause }
      else
        { f with
          literalCount := raised f.literalCount clause.literals
          soft := f.soft.add clause }, .ok ()) := by
  simp [addClause, raise_eq, beforeZero_eq_self h, h]

theorem addClause_of_zero {f : Formula} {clause : Clause Int32}
    (h : (0 : Int32) ∈ clause.literals) :
    f.addClause clause =
      ({ f with literalCount := raised f.literalCount (beforeZero clause.literals) },
        .error .zeroLiteral) := by
  simp [addClause, raise_eq, h]

end Clausal.Formula

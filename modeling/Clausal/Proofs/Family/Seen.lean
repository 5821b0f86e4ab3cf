import Mathlib.Data.List.Nodup
import Clausal.Family.Open
import Clausal.Proofs.Outcome

/-!
# Tuples of an open family

Asking an open family for an index either finds the tuple in the list or puts it at the end, so
a tuple keeps the index that it got first, and no two tuples share one.  A slice asks its base for
the whole tuple and leaves what the base leaves.
-/

namespace Clausal

namespace OpenFamily

theorem indexOfPlace_eq_ok_iff {place : Nat} {index : UInt32} :
    indexOfPlace place = .ok index ↔ place = index.toNat := by
  unfold indexOfPlace
  split
  · rename_i hlt
    rw [Except.ok.injEq, ← UInt32.toNat_inj, UInt32.toNat_ofNat_of_lt' hlt]
  · rename_i hwide
    simp only [reduceCtorEq, false_iff]
    rintro rfl
    exact hwide index.toNat_lt

/-- The family with this tuple among those that were asked for. -/
def noting (family : OpenFamily) (tuple : List UInt64) : OpenFamily :=
  if tuple ∈ family.seen then family else { family with seen := family.seen ++ [tuple] }

theorem noting_of_mem {family : OpenFamily} {tuple : List UInt64} (h : tuple ∈ family.seen) :
    family.noting tuple = family := if_pos h

theorem noting_of_not_mem {family : OpenFamily} {tuple : List UInt64} (h : tuple ∉ family.seen) :
    family.noting tuple = { family with seen := family.seen ++ [tuple] } := if_neg h

/-- The index of a tuple is its place, which for a tuple not yet asked for is the end. -/
theorem indexOf_eq {family : OpenFamily} {tuple : List UInt64}
    (h : tuple.length = family.arity) :
    family.indexOf tuple =
      (indexOfPlace (family.seen.idxOf tuple)).map fun index => (index, family.noting tuple) := by
  unfold indexOf
  rw [if_neg (not_not.mpr h)]
  cases hfind : family.seen.findIdx? (· == tuple) with
  | some place =>
      obtain ⟨hlt, hplace⟩ := List.findIdx?_eq_some_iff_findIdx_eq.mp hfind
      have hidx : family.seen.idxOf tuple = place := hplace
      rw [noting_of_mem (List.idxOf_lt_length_iff.mp (hidx ▸ hlt)), hidx]
  | none =>
      have unseen : tuple ∉ family.seen := by
        intro hmem
        have hmiss := List.findIdx?_eq_none_iff.mp hfind tuple hmem
        rw [beq_self_eq_true] at hmiss
        cases hmiss
      rw [noting_of_not_mem unseen, List.idxOf_eq_length unseen]
      rfl

theorem indexOf_eq_ok_iff {family next : OpenFamily} {tuple : List UInt64} {index : UInt32} :
    family.indexOf tuple = .ok (index, next) ↔
      tuple.length = family.arity ∧ family.seen.idxOf tuple = index.toNat ∧
        next = family.noting tuple := by
  by_cases h : tuple.length = family.arity
  · rw [indexOf_eq h, map_eq_ok_iff]
    simp only [indexOfPlace_eq_ok_iff, Prod.mk.injEq, and_iff_right h]
    constructor
    · rintro ⟨_, hplace, rfl, rfl⟩
      exact ⟨hplace, rfl⟩
    · rintro ⟨hplace, rfl⟩
      exact ⟨index, hplace, rfl, rfl⟩
  · unfold indexOf
    simp [h]

/-- The tuple that was asked for is now at its place. -/
theorem getElem?_noting (family : OpenFamily) (tuple : List UInt64) :
    (family.noting tuple).seen[family.seen.idxOf tuple]? = some tuple := by
  by_cases seen : tuple ∈ family.seen
  · have hlt := List.idxOf_lt_length_iff.mpr seen
    rw [noting_of_mem seen, List.getElem?_eq_getElem hlt, List.getElem_idxOf]
  · rw [noting_of_not_mem seen, List.idxOf_eq_length seen]
    exact List.getElem?_concat_length

/-- What asking for an index may do to a family. -/
inductive Turns (family : OpenFamily) : OpenFamily → Prop
  | known : Turns family family
  | fresh (tuple : List UInt64) (unseen : tuple ∉ family.seen) :
      Turns family { family with seen := family.seen ++ [tuple] }

theorem turns_noting (family : OpenFamily) (tuple : List UInt64) :
    family.Turns (family.noting tuple) := by
  by_cases seen : tuple ∈ family.seen
  · rw [noting_of_mem seen]
    exact .known
  · rw [noting_of_not_mem seen]
    exact .fresh tuple seen

/-- The tuple now stands at the index that was given out. -/
theorem turns_of_indexOf {family next : OpenFamily} {tuple : List UInt64} {index : UInt32}
    (h : family.indexOf tuple = .ok (index, next)) :
    family.Turns next ∧ next.seen[index.toNat]? = some tuple := by
  obtain ⟨-, hplace, rfl⟩ := indexOf_eq_ok_iff.mp h
  rw [← hplace]
  exact ⟨family.turns_noting tuple, family.getElem?_noting tuple⟩

theorem indexOf_eq_error_iff {family : OpenFamily} {tuple : List UInt64}
    {failure : EncodingError} :
    family.indexOf tuple = .error failure ↔
      tuple.length ≠ family.arity ∧ failure = .arityMismatch family.arity tuple.length ∨
        tuple.length = family.arity ∧ UInt32.size ≤ family.seen.idxOf tuple ∧
          failure = .indexOverflow := by
  by_cases h : tuple.length = family.arity
  · rw [indexOf_eq h, map_eq_error_iff]
    simp only [h, ne_eq, not_true_eq_false, false_and, false_or, true_and]
    unfold indexOfPlace
    split
    · rename_i hlt
      simp [Nat.not_le.mpr hlt]
    · rename_i hwide
      simp [Nat.not_lt.mp hwide, eq_comm]
  · unfold indexOf
    simp [h, eq_comm]

theorem indexOf_ne_foreign (family : OpenFamily) (tuple : List UInt64) (var : VariableId) :
    family.indexOf tuple ≠ .error (.foreignFamily var) := by
  rw [ne_eq, indexOf_eq_error_iff]
  simp

theorem coordsOf_eq_ok_iff {family : OpenFamily} {index : UInt32} {tuple : List UInt64} :
    family.coordsOf index = .ok tuple ↔ family.seen[index.toNat]? = some tuple := by
  unfold coordsOf
  cases family.seen[index.toNat]? with
  | none => simp
  | some found => simp

section

variable {family next : OpenFamily} (h : family.Turns next)

include h

theorem Turns.owner : next.owner = family.owner := by
  cases h <;> rfl

theorem Turns.var : next.var = family.var := by
  cases h <;> rfl

theorem Turns.arity : next.arity = family.arity := by
  cases h <;> rfl

theorem Turns.nodup (unique : family.seen.Nodup) : next.seen.Nodup := by
  cases h with
  | known => exact unique
  | fresh tuple unseen =>
      rw [← List.concat_eq_append]
      exact unique.concat unseen

theorem Turns.coordsOf {index : UInt32} {tuple : List UInt64}
    (found : family.coordsOf index = .ok tuple) : next.coordsOf index = .ok tuple := by
  rw [coordsOf_eq_ok_iff] at found ⊢
  cases h with
  | known => exact found
  | fresh new unseen =>
      have hlt := (List.getElem?_eq_some_iff.mp found).1
      exact (List.getElem?_append_left hlt).trans found

end

end OpenFamily

namespace Slice

theorem of_slice {family : OpenFamily} {lead : List UInt64} {slice : Slice}
    (h : family.slice lead = .ok slice) : slice.base = family ∧ slice.lead = lead := by
  unfold OpenFamily.slice at h
  split at h
  · cases h
    exact ⟨rfl, rfl⟩
  · cases h

/-- A slice asks its base for the whole tuple, and stays a slice of what the base becomes. -/
theorem indexOf_eq_ok_iff {slice next : Slice} {rest : List UInt64} {index : UInt32} :
    slice.indexOf rest = .ok (index, next) ↔
      slice.base.indexOf (slice.lead ++ rest) = .ok (index, next.base) ∧
        next.lead = slice.lead := by
  obtain ⟨base, lead⟩ := next
  unfold indexOf
  simp only
  split
  · rename_i hcount
    simp only [reduceCtorEq, false_iff, OpenFamily.indexOf_eq_ok_iff, List.length_append]
    rintro ⟨⟨hlength, -⟩, -⟩
    omega
  · split
    · rename_i hbase
      simp [hbase]
    · rename_i hbase
      simp only [hbase, Except.ok.injEq, Prod.mk.injEq, Slice.mk.injEq, and_assoc, eq_comm]

theorem indexOf_eq_error_iff {slice : Slice} {rest : List UInt64} {failure : EncodingError} :
    slice.indexOf rest = .error failure ↔
      rest.length ≠ slice.base.arity - slice.lead.length ∧
          failure = .arityMismatch (slice.base.arity - slice.lead.length) rest.length ∨
        rest.length = slice.base.arity - slice.lead.length ∧
          slice.base.indexOf (slice.lead ++ rest) = .error failure := by
  unfold indexOf
  simp only
  split
  · rename_i hcount
    simp [hcount, eq_comm]
  · rename_i hcount
    rw [not_not] at hcount
    split
    · rename_i hbase
      simp [hcount, hbase]
    · rename_i hbase
      simp [hcount, hbase]

theorem indexOf_base {slice next : Slice} {rest : List UInt64} {index : UInt32}
    (h : slice.indexOf rest = .ok (index, next)) :
    slice.base.indexOf (slice.lead ++ rest) = .ok (index, next.base) :=
  (indexOf_eq_ok_iff.mp h).1

theorem indexOf_ne_foreign (slice : Slice) (rest : List UInt64) (var : VariableId) :
    slice.indexOf rest ≠ .error (.foreignFamily var) := by
  rw [ne_eq, indexOf_eq_error_iff]
  simp [slice.base.indexOf_ne_foreign]

end Slice

end Clausal

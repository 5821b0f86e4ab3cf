import Mathlib.Order.Bounds.Basic
import Clausal.Answer
import Clausal.Proofs.Formula.Meaning
import Clausal.Proofs.Formula.WellFormed
import Clausal.Proofs.Numbering.Complete
import Clausal.Proofs.Numbering.Lookup

/-!
# How far the literal count reaches

The literal count of a translated encoding is the least bound on the size of the numbering and on
the numbers that occur in clauses.  A numbering made by hand may leave numbers out, and then the
largest number can be beyond both: its key has no truth value under an assignment that is as long
as the count.  The count covers every number exactly when none is larger than the size of the
numbering, or the largest occurs in a clause.
-/

namespace Clausal

namespace Formula

section

variable {e : Encoding} {n : Numbering} {f : Formula} (h : n.Bijective)
  (made : ofEncoding e n = .ok f)

include h made

theorem literalCount_isLeast :
    IsLeast {bound | n.size ≤ bound ∧ n.Bounds e.clauses bound} f.literalCount.toNat := by
  obtain ⟨hsize, ⟨hhard, -⟩, ⟨hsoft, -⟩, -, hcount⟩ := ofEncoding_eq_ok_iff.mp made
  have hbound : ∀ bound, n.Bounds e.clauses bound ↔
      (widest (f.hard.toList ++ f.soft.toList)).toNat ≤ bound := by
    intro bound
    rw [widest_le_iff]
    exact h.bounds_iff (List.rel_append hhard hsoft)
  simp only [hbound, hcount, UInt32.toNat_max, UInt32.toNat_ofNat_of_lt' hsize]
  exact ⟨⟨Nat.le_max_left _ _, Nat.le_max_right _ _⟩, fun bound hb => Nat.max_le.mpr hb⟩

theorem exists_number_eq_literalCount (wide : n.size < f.literalCount.toNat) :
    ∃ clause ∈ e.clauses, ∃ literal ∈ clause.literals, ∃ value,
      n.valueOf literal = .ok value ∧ value.toInt = f.literalCount.toNat := by
  obtain ⟨⟨-, hbounds⟩, hleast⟩ := literalCount_isLeast h made
  by_contra hnone
  -- Otherwise the number before the count would be such a bound too.
  have hlower : n.Bounds e.clauses (f.literalCount.toNat - 1) := by
    intro clause hclause literal hl value hv
    have hle := hbounds clause hclause literal hl value hv
    have hne : value.toInt ≠ f.literalCount.toNat :=
      fun heq => hnone ⟨clause, hclause, literal, hl, value, hv, heq⟩
    omega
  have hmin : f.literalCount.toNat ≤ f.literalCount.toNat - 1 :=
    hleast ⟨by omega, hlower⟩
  omega

end

def Covers (f : Formula) (n : Numbering) : Prop :=
  ∀ literal value, n.valueOf literal = .ok value → value.toInt ≤ f.literalCount.toNat

theorem exists_valueOf_iff {n : Numbering} (h : n.Bijective) {literal : Literal} {value : Int32}
    (hv : n.valueOf literal = .ok value) (answer : Answer) :
    (∃ truth, answer.valueOf n literal = .ok (some truth)) ↔
      value.toInt ≤ answer.assignment.size := by
  have hlow := h.one_le_of_valueOf hv
  simp only [Answer.valueOf, hv, Except.map, Except.ok.injEq, Option.map_eq_some_iff,
    Array.getElem?_eq_some_iff]
  constructor
  · rintro ⟨truth, bit, ⟨hlt, -⟩, -⟩
    omega
  · intro hle
    exact ⟨_, _, ⟨by omega, rfl⟩, rfl⟩

/-- The literal count covers the size of the numbering and every number that occurs in a clause,
and is no larger.  So it covers every number exactly if none is larger than that size, as in the
numbering of an encoding, or the largest occurs in a clause; and an assignment as long as the count
gives a key a truth value exactly if the count covers its number. -/
theorem count_covers_dense_or_used {e : Encoding} {n : Numbering} {f : Formula}
    (h : n.Reachable) (made : ofEncoding e n = .ok f) :
    IsLeast {bound | n.size ≤ bound ∧ n.Bounds e.clauses bound} f.literalCount.toNat ∧
      (f.Covers n ↔
        (∀ literal value, n.valueOf literal = .ok value → value.toInt ≤ n.size) ∨
          ∃ clause ∈ e.clauses, ∃ literal ∈ clause.literals, ∃ largest,
            n.valueOf literal = .ok largest ∧
              ∀ other value, n.valueOf other = .ok value → value.toInt ≤ largest.toInt) ∧
      (∀ source order, source.Reachable → Numbering.ofEncoding source order = .ok n →
        f.Covers n) ∧
      ∀ answer : Answer, answer.assignment.size = f.literalCount.toNat →
        ∀ literal value, n.valueOf literal = .ok value →
          ((∃ truth, answer.valueOf n literal = .ok (some truth)) ↔
            value.toInt ≤ f.literalCount.toNat) := by
  have hb := h.bijective
  have hleast := literalCount_isLeast hb made
  obtain ⟨hsize, hbounds⟩ := hleast.1
  refine ⟨hleast, ⟨fun covers => ?_, ?_⟩, fun source order hsource hmade => ?_,
    fun answer htotal literal value hv => ?_⟩
  · rcases Nat.lt_or_ge n.size f.literalCount.toNat with wide | dense
    · obtain ⟨clause, hclause, literal, hl, largest, hv, heq⟩ :=
        exists_number_eq_literalCount hb made wide
      exact .inr ⟨clause, hclause, literal, hl, largest, hv, fun other value ho =>
        heq ▸ covers other value ho⟩
    · refine .inl fun literal value hv => ?_
      have hle := covers literal value hv
      omega
  · rintro (dense | ⟨clause, hclause, literal, hl, largest, hv, hlargest⟩)
    · intro literal value hv
      have hle := dense literal value hv
      omega
    · intro other value ho
      exact Int.le_trans (hlargest other value ho) (hbounds clause hclause literal hl largest hv)
  · intro literal value hv
    have hcomplete := Numbering.complete_of_ofEncoding hsource.consistent hmade
    have hle := (hcomplete.valueOf_iff.mp ⟨literal, hv⟩).2
    omega
  · rw [exists_valueOf_iff hb hv answer, htotal]

def gapped : Numbering :=
  ((Numbering.empty.attempt (sample 4) 2).1.attempt (sample 7) 6).1

/-- The larger number occurs in a clause, so the count is 6 and reaches both keys. -/
theorem gapped_covered :
    gapped.Reachable ∧ ∃ f, ofEncoding mixed gapped = .ok f ∧ f.Covers gapped ∧
      ∀ answer : Answer, answer.assignment.size = f.literalCount.toNat →
        ∃ truth, answer.valueOf gapped (sample 4) = .ok (some truth) := by
  have hreachable : gapped.Reachable :=
    (Numbering.Attempted.attempt _ _ (.attempt _ _ .empty)).reachable
  have hpairs : gapped.pairs = [(sample 7, 6), (sample 4, 2)] := by
    simp only [gapped, Numbering.attempt_eq]
    cbv
  have hfour : gapped.valueOf (sample 4) = .ok 2 := by
    simp only [gapped, Numbering.attempt_eq]
    cbv
  have hseven : gapped.valueOf (sample 7).neg = .ok 6 := by
    simp only [gapped, Numbering.attempt_eq]
    cbv
  have hkeyed : ∀ clause ∈ mixed.hard.toList ++ mixed.soft.toList,
      ∀ literal ∈ clause.literals, gapped.HasKey literal := by
    simp [mixed, ClauseList.toList, Clause.hard, Clause.soft, Numbering.HasKey, hpairs, sample,
      Literal.ofAtom]
  obtain ⟨f, made⟩ := (exists_ofEncoding_iff hreachable.bijective.size_lt).mpr hkeyed
  obtain ⟨-, hcovers, -, htruth⟩ := count_covers_dense_or_used hreachable made
  have covers : f.Covers gapped := by
    refine hcovers.mpr (.inr ⟨.soft 3 [(sample 7).neg], ?_, _, List.mem_cons_self, 6, hseven, ?_⟩)
    · simp [Encoding.clauses, mixed, ClauseList.toList]
    · intro other value hv
      obtain ⟨key, hpair, -⟩ :=
        hreachable.bijective.number?_eq_some_iff.mp (Numbering.valueOf_eq_ok_iff.mp hv)
      rw [hpairs] at hpair
      simp only [List.mem_cons, Prod.mk.injEq, List.not_mem_nil, or_false] at hpair
      rcases hpair with ⟨-, rfl⟩ | ⟨-, rfl⟩ <;> decide
  exact ⟨hreachable, f, made, covers, fun answer htotal =>
    (htruth answer htotal _ _ hfour).mpr (covers _ _ hfour)⟩

/-- The only key has number 5, and there is no clause. -/
def distant : Numbering := (Numbering.empty.attempt (sample 0) 5).1

theorem not_count_covers_numbers :
    ¬ ∀ (e : Encoding) (n : Numbering) (f : Formula), e.Reachable → n.Reachable →
      ofEncoding e n = .ok f → f.Covers n := by
  intro h
  have hreachable : distant.Reachable := (Numbering.Attempted.attempt _ _ .empty).reachable
  have hfive : distant.valueOf (sample 0) = .ok 5 := by
    simp only [distant, Numbering.attempt_eq]
    cbv
  have hsize : distant.size = 1 := by
    simp only [distant, Numbering.attempt_eq]
    cbv
  have hmade : ofEncoding (.empty 0) distant = .ok { empty with literalCount := 1 } := by
    rw [ofEncoding_eq_ok_iff, hsize]
    exact ⟨by decide, ⟨.nil, rfl⟩, ⟨.nil, rfl⟩, rfl, by decide⟩
  exact absurd (h _ _ _ (.empty 0) hreachable hmade _ _ hfive) (by decide)

end Formula

end Clausal

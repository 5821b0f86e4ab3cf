import Clausal.Proofs.Formula.Count
import Clausal.Proofs.Formula.Translation
import Clausal.Proofs.Numbering.Complete

/-!
# Finished encodings translate

A complete numbering has every literal of every clause, so making the formula cannot fail.  Its
numbers are at most the number of registered literals, so the literal count, which is the
larger of the numbering's size and the largest magnitude, is exactly that number.
-/

namespace Clausal

namespace Numbering

/-! ## Images under a complete numbering -/

theorem Complete.natAbs_le {e : Encoding} {n : Numbering} (h : Complete e n) {literal : Literal}
    {signed : Int32} (hs : n.signedValueOf literal = .ok signed) :
    signed.toInt.natAbs ≤ n.size := by
  obtain ⟨value, hv, -⟩ := signedValueOf_eq_ok_iff.mp hs
  have hwide := h.bijective.natAbs_signed hs hv
  have hhigh := (h.valueOf_iff.mp ⟨literal, hv⟩).2
  omega

theorem Complete.numbers_natAbs_le {e : Encoding} {n : Numbering} (h : Complete e n)
    {clauses : List (Clause Literal)} {images : List (Clause Int32)}
    (hn : List.Forall₂ n.Numbers clauses images) :
    ∀ image ∈ images, ∀ signed ∈ image.literals, signed.toInt.natAbs ≤ n.size :=
  (h.bijective.bounds_iff hn).mp fun _ _ literal _ _ hv => (h.valueOf_iff.mp ⟨literal, hv⟩).2

end Numbering

namespace Formula

/-! ## The formula of a finished encoding -/

/-- The images of the clauses, in order; each has its clause's cost and length. -/
def Mirrors (n : Numbering) (clauses : List (Clause Literal)) (images : List (Clause Int32)) :
    Prop :=
  List.Forall₂ (fun clause image => n.clause clause = .ok image ∧ image.cost = clause.cost ∧
    image.literals.length = clause.literals.length) clauses images

theorem mirrors_of_numbers {n : Numbering} {clauses : List (Clause Literal)}
    {images : List (Clause Int32)} (h : List.Forall₂ n.Numbers clauses images) :
    Mirrors n clauses images :=
  h.imp fun _ _ hn =>
    ⟨Numbering.clause_eq_ok_iff.mpr hn, hn.cost, hn.literals.length_eq.symm⟩

theorem literalCount_ofEncoding {e : Encoding} {n : Numbering} {f : Formula}
    (h : n.Complete e) (hf : ofEncoding e n = .ok f) :
    f.literalCount.toNat = e.registeredCount := by
  obtain ⟨hsize, ⟨hhard, -⟩, ⟨hsoft, -⟩, -, hcount⟩ := ofEncoding_eq_ok_iff.mp hf
  have hwide : (widest (f.hard.toList ++ f.soft.toList)).toNat ≤ n.size := by
    rw [widest_le_iff, List.forall_mem_append]
    exact ⟨h.numbers_natAbs_le hhard, h.numbers_natAbs_le hsoft⟩
  rw [hcount, UInt32.toNat_max, UInt32.toNat_ofNat_of_lt' hsize, Nat.max_eq_left hwide, h.size]

theorem exists_translation {e : Encoding} (h : e.Consistent)
    (room : e.registeredCount ≤ Numbering.capacity) (order : NumberingOrder) :
    ∃ n f, Numbering.ofEncoding e order = .ok n ∧ n.Complete e ∧ ofEncoding e n = .ok f := by
  obtain ⟨n, hn, hcomplete⟩ := Numbering.exists_complete h room order
  obtain ⟨f, hf⟩ := (exists_ofEncoding_iff hcomplete.bijective.size_lt).mpr
    fun _ hclause _ hl => hcomplete.keyed h hclause hl
  exact ⟨n, f, hn, hcomplete, hf⟩

/-- Whatever operations made an encoding, it can be numbered and translated, as long as its
registered literals are no more than the numbers. -/
theorem finished_encoding_translates {e : Encoding} (h : e.Reachable)
    (room : e.registeredCount ≤ Numbering.capacity) (order : NumberingOrder) :
    ∃ n f, Numbering.ofEncoding e order = .ok n ∧ n.size = e.registeredCount ∧
      (∀ value : Int32, (∃ literal, n.valueOf literal = .ok value) ↔
        1 ≤ value.toInt ∧ value.toInt ≤ n.size) ∧
      (∀ value : Int32, (∃ key, n.literalOf value = .ok key) ↔
        1 ≤ value.toInt ∧ value.toInt ≤ n.size) ∧
      ofEncoding e n = .ok f ∧ f.literalCount.toNat = e.registeredCount ∧
      Mirrors n e.hard.toList f.hard.toList ∧ Mirrors n e.soft.toList f.soft.toList := by
  obtain ⟨n, f, hn, hcomplete, hf⟩ := exists_translation h.consistent room order
  obtain ⟨-, ⟨hhard, -⟩, ⟨hsoft, -⟩, -⟩ := ofEncoding_eq_ok_iff.mp hf
  exact ⟨n, f, hn, hcomplete.size, fun _ => hcomplete.valueOf_iff, fun _ => hcomplete.literalOf_iff,
    hf, literalCount_ofEncoding hcomplete hf, mirrors_of_numbers hhard, mirrors_of_numbers hsoft⟩

/-- Two literals and two clauses; the soft clause between them is refused. -/
def attempts : List Operation :=
  [.newVariable none, .literal 0 7, .literal 0 4, .addHard [.ofAtom ⟨firstVariable, 7⟩],
    .addSoft 3 [.ofAtom ⟨firstVariable, 5⟩], .addSoft 3 [.ofAtom ⟨firstVariable, 4⟩]]

def attempted : Encoding := attempts.foldl (fun e op => (op.run e).1) (.empty 0)

theorem attempted_reachable : attempted.Reachable :=
  .step _ (.step _ (.step _ (.step _ (.step _ (.step _ (.empty 0))))))

theorem attempted_translates :
    attempted.Reachable ∧ attempted.registeredCount ≤ Numbering.capacity ∧
      ∃ n f, Numbering.ofEncoding attempted .sorted = .ok n ∧ n.size = 2 ∧
        ofEncoding attempted n = .ok f ∧ f.literalCount.toNat = 2 ∧ f.soft.size = 1 := by
  have hcount : attempted.registeredCount = 2 := by cbv
  have hsize : attempted.soft.toList.length = 1 := by cbv
  have room : attempted.registeredCount ≤ Numbering.capacity := by
    rw [hcount]
    decide
  obtain ⟨n, f, hn, hlen, -, -, hf, hliterals, -, hsoft⟩ :=
    finished_encoding_translates attempted_reachable room .sorted
  refine ⟨attempted_reachable, room, n, f, hn, hlen.trans hcount, hf, hliterals.trans hcount, ?_⟩
  rw [← ClauseList.length_toList, ← hsoft.length_eq, hsize]

end Formula

end Clausal

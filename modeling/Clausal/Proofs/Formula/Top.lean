import Clausal.Formula.Dimacs
import Clausal.Proofs.Formula.Meaning
import Clausal.Proofs.Formula.WellFormed

/-!
# The top weight

The top is one more than the exact cost of all soft clauses, as long as a word can hold that.
Violated soft clauses cost at most as much as all of them, so the top is more than any of these
costs; at the largest word it stops growing, and a soft clause may then weigh as much as a hard
one.
-/

namespace Clausal

theorem exactCost_filter_le {α : Type} (keep : Clause α → Bool) (clauses : List (Clause α)) :
    exactCost (clauses.filter keep) ≤ exactCost clauses := by
  induction clauses with
  | nil => exact Nat.le_refl 0
  | cons clause rest ih =>
      rw [List.filter_cons]
      split
      · rw [exactCost_cons, exactCost_cons]
        exact Nat.add_le_add_left ih _
      · rw [exactCost_cons]
        exact Nat.le_trans ih (Nat.le_add_left _ _)

theorem cost_le_exactCost {α : Type} {clause : Clause α} {clauses : List (Clause α)}
    (h : clause ∈ clauses) : clause.cost.toNat ≤ exactCost clauses := by
  induction h with
  | head rest => exact Nat.le_add_right _ _
  | tail other _ ih => exact Nat.le_trans ih (Nat.le_add_left _ _)

namespace Formula

theorem top_toNat (f : Formula) :
    f.top.toNat = min (exactCost f.soft.toList + 1) (UInt64.size - 1) := by
  rw [top, addCapped_toNat, ClauseList.totalCost, foldl_addCapped_toNat, UInt64.toNat_zero,
    UInt64.toNat_one]
  omega

theorem lt_top_iff {f : Formula} {cost : Nat} (h : cost ≤ exactCost f.soft.toList) :
    cost < f.top.toNat ↔ cost < UInt64.size - 1 := by
  rw [top_toNat]
  omega

theorem weight_of_soft {f : Formula} (h : f.WellFormed) {clause : Clause Int32}
    (hclause : clause ∈ f.soft.toList) : f.weight clause = clause.cost := by
  rw [weight, h.tidy.softCosts clause hclause]
  exact if_neg Bool.false_ne_true

/-- The top is more than the exact cost of what an assignment violates precisely while that cost
is less than the largest word, and a soft clause weighs as much as a hard one precisely if its
cost is that word. -/
theorem top_dominates_below_max {f : Formula} (h : f.Reachable) :
    (∀ a, exactCost (f.violatedSoft a) < f.top.toNat ↔
      exactCost (f.violatedSoft a) < UInt64.size - 1) ∧
    ∀ clause ∈ f.soft.toList,
      (f.weight clause < f.top ↔ clause.cost ≠ maxWord) ∧
      (f.weight clause = f.top ↔ clause.cost = maxWord) := by
  constructor
  · intro a
    exact lt_top_iff (exactCost_filter_le _ _)
  · intro clause hclause
    have hpart := cost_le_exactCost hclause
    have hlow := lt_top_iff hpart
    have hword := clause.cost.toNat_lt_size
    have hsize : 0 < UInt64.size := by decide
    have htop := top_toNat f
    rw [weight_of_soft h.wellFormed hclause, UInt64.lt_iff_toNat_lt, ne_eq, ← UInt64.toNat_inj,
      ← UInt64.toNat_inj, maxWord_toNat]
    constructor <;> omega

/-- Two soft clauses of cost 3 and 5 beside a hard one. -/
def preferring : Formula :=
  ([.addHard [1, 2], .addSoft 3 [-1], .addSoft 5 [-2]] : List Operation).foldl
    (fun f op => (op.run f).1) empty

theorem preferring_top_dominates :
    preferring.Reachable ∧ preferring.top = 9 ∧
      exactCost (preferring.violatedSoft #[true, true]) = 8 ∧
      exactCost (preferring.violatedSoft #[true, true]) < preferring.top.toNat ∧
      preferring.weight (.soft 5 [-2]) < preferring.top := by
  have hreachable : preferring.Reachable := .step _ (.step _ (.step _ .empty))
  obtain ⟨hviolated, hsoft⟩ := top_dominates_below_max hreachable
  have hcost : exactCost (preferring.violatedSoft #[true, true]) = 8 := by decide
  refine ⟨hreachable, by decide, hcost, ?_, ?_⟩
  · rw [hviolated, hcost]
    decide
  · exact (hsoft (.soft 5 [-2]) (by decide)).1.mpr (by decide)

def saturated : Formula :=
  ([.addHard [1], .addSoft maxWord [-1]] : List Operation).foldl
    (fun f op => (op.run f).1) empty

/-- Where 1 is true the violated cost is no less than the top, and the soft clause has the
weight of the hard one. -/
theorem saturated_not_dominated :
    saturated.Reachable ∧
      ¬ exactCost (saturated.violatedSoft #[true]) < saturated.top.toNat ∧
      saturated.weight (.soft maxWord [-1]) = saturated.weight (.hard [1]) ∧
      Clause.soft maxWord [-1] ∈ saturated.soft.toList ∧
      Clause.hard [1] ∈ saturated.hard.toList :=
  ⟨.step _ (.step _ .empty), by decide, by decide, by decide, by decide⟩

end Formula

end Clausal

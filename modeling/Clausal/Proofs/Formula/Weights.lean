import Clausal.Proofs.Formula.Printing

/-!
# Printed weights and evaluation

Whoever reads the weighted lines of a formula adds up the weights of the rows that an assignment
does not make true.  As long as the top is below the largest word, this sum is less than the top
exactly where the hard clauses hold, and there it is the cost that evaluation gives.  So the two
have the same optima.
-/

namespace Clausal

namespace Dimacs

/-! ## Rows under an assignment -/

/-- Whether a number of a row is a literal that the assignment makes true; the zero that ends the
row is none. -/
def isTrue (a : Assignment) (number : Int) : Bool :=
  number != 0 && a[number.natAbs - 1]? == some (decide (0 < number))

def Entry.isTrue (a : Assignment) (entry : Entry) : Bool := entry.numbers.any (Dimacs.isTrue a)

def violatedWeight (a : Assignment) (rows : List Entry) : Nat :=
  ((rows.filter fun row => !row.isTrue a).map fun row => row.weight?.getD 0).sum

/-- The rows among these lines; comments and the problem line are none. -/
def readRows? (format : Format) (lines : List String) : Option (List Entry) :=
  ((dataOf lines).filter fun line => !isProblem line).mapM (readRow? format)

theorem isTrue_toInt (a : Assignment) (literal : Int32) :
    isTrue a literal.toInt = true ↔ literalTruth? a literal = some true := by
  have hpos : 0 < literal ↔ 0 < literal.toInt := by
    rw [Int32.lt_iff_toInt_lt, Int32.toInt_zero]
  unfold literalTruth?
  cases hplace : literal.toInt.natAbs with
  | zero => simp [isTrue, Int.natAbs_eq_zero.mp hplace]
  | succ place =>
      have hnonzero : literal.toInt ≠ 0 := by omega
      simp only [isTrue, hplace, Nat.add_sub_cancel, bne_iff_ne, ne_eq, hnonzero,
        not_false_eq_true, Bool.and_eq_true, true_and, beq_iff_eq, Option.map_eq_some_iff]
      by_cases h : 0 < literal <;> simp [h, ← hpos]

theorem isTrue_closed (a : Assignment) (weight? : Option Nat) (clause : Clause Int32) :
    (Entry.mk weight? (closed clause.literals)).isTrue a = satisfies a clause := by
  have hzero : isTrue a 0 = false := rfl
  rw [Bool.eq_iff_iff, Entry.isTrue, closed, List.any_append, List.any_map, List.any_cons, hzero,
    List.any_nil, Bool.or_false, Bool.or_false, List.any_eq_true, satisfies, beq_iff_eq,
    clauseTruth?_eq_true_iff]
  exact exists_congr fun literal => and_congr_right fun _ => isTrue_toInt a literal

end Dimacs

theorem exactCost_eq_sum {α : Type} (clauses : List (Clause α)) :
    exactCost clauses = (clauses.map fun clause => clause.cost.toNat).sum := by
  induction clauses with
  | nil => rfl
  | cons clause rest ih => rw [exactCost_cons, ih, List.map_cons, List.sum_cons]

namespace Formula

open Dimacs

variable {f : Formula} {a : Assignment}

/-! ## The rows of a formula -/

theorem printedLines_wcnf (f : Formula) : f.printedLines .wcnf = f.wcnfLines := by
  have hlines := f.dimacsLines_eq .wcnf
  rw [if_neg (by rintro ⟨h, -⟩; cases h)] at hlines
  exact (Except.ok.inj hlines).symm

theorem readRows?_wcnfLines (f : Formula) :
    readRows? .wcnf f.wcnfLines = some (f.clauses.map (f.entry .wcnf)) := by
  have hdata : dataOf (f.printedLines .wcnf) = _ := dataOf_printedLines nofun
  have hrows : ∀ line ∈ f.clauses.map fun clause => (f.clauseLine .wcnf clause).toList,
      (!isProblem line) = true :=
    List.forall_mem_map.mpr fun clause _ => by
      rw [(f.isRow_clauseLine .wcnf clause).isProblem]
      rfl
  rw [readRows?, ← printedLines_wcnf, hdata,
    List.filter_cons_of_neg (by rw [f.isProblem_problemLine]; exact Bool.false_ne_true),
    List.filter_eq_self.mpr hrows, mapM_readRow?]

def violatedHard (f : Formula) (a : Assignment) : List (Clause Int32) :=
  f.hard.toList.filter fun clause => !satisfies a clause

theorem hardSatisfied_iff : (f.evaluate a).hardSatisfied = true ↔ f.violatedHard a = [] := by
  simp [evaluate, violatedHard]

theorem violatedWeight_entries (f : Formula) (a : Assignment) :
    violatedWeight a (f.clauses.map (f.entry .wcnf)) =
      ((f.violatedHard a ++ f.violatedSoft a).map fun clause => (f.weight clause).toNat).sum := by
  have htrue : (fun row : Entry => !row.isTrue a) ∘ f.entry .wcnf =
      fun clause => !satisfies a clause := by
    funext clause
    exact congrArg (!·) (isTrue_closed a _ clause)
  rw [violatedWeight, List.filter_map, htrue, List.map_map, clauses, List.filter_append]
  rfl

theorem WellFormed.violatedWeight_eq (h : f.WellFormed) (a : Assignment) :
    violatedWeight a (f.clauses.map (f.entry .wcnf)) =
      (f.violatedHard a).length * f.top.toNat + exactCost (f.violatedSoft a) := by
  have hhard : ((f.violatedHard a).map fun clause => (f.weight clause).toNat) =
      List.replicate (f.violatedHard a).length f.top.toNat := by
    rw [← List.map_const']
    refine List.map_congr_left fun clause hclause => ?_
    rw [weight, if_pos (h.tidy.hardCosts clause (List.mem_of_mem_filter hclause))]
  have hsoft : ((f.violatedSoft a).map fun clause => (f.weight clause).toNat) =
      (f.violatedSoft a).map fun clause => clause.cost.toNat := by
    refine List.map_congr_left fun clause hclause => ?_
    rw [weight_of_soft h (List.mem_of_mem_filter hclause)]
  rw [violatedWeight_entries, List.map_append, List.sum_append, hhard, hsoft,
    List.sum_replicate_nat, exactCost_eq_sum]

/-! ## Below the largest word -/

theorem exactCost_violatedSoft_lt (room : f.top < maxWord) (a : Assignment) :
    exactCost (f.violatedSoft a) < f.top.toNat ∧ f.top.toNat < UInt64.size - 1 := by
  have hpart : exactCost (f.violatedSoft a) ≤ exactCost f.soft.toList := exactCost_filter_le _ _
  have htop := f.top_toNat
  rw [UInt64.lt_iff_toNat_lt, maxWord_toNat] at room
  omega

theorem WellFormed.violatedWeight_lt_top_iff (h : f.WellFormed) (room : f.top < maxWord)
    (a : Assignment) :
    violatedWeight a (f.clauses.map (f.entry .wcnf)) < f.top.toNat ↔
      (f.evaluate a).hardSatisfied = true := by
  have hsoft := (exactCost_violatedSoft_lt room a).1
  rw [h.violatedWeight_eq, hardSatisfied_iff]
  cases f.violatedHard a with
  | nil => simpa using hsoft
  | cons clause rest =>
      -- One violated hard clause alone weighs as much as the top.
      have hone : f.top.toNat ≤ (clause :: rest).length * f.top.toNat :=
        Nat.le_mul_of_pos_left _ (Nat.succ_pos _)
      simp only [reduceCtorEq, iff_false]
      omega

theorem WellFormed.violatedWeight_eq_cost (h : f.WellFormed) (room : f.top < maxWord)
    (hard : (f.evaluate a).hardSatisfied = true) :
    violatedWeight a (f.clauses.map (f.entry .wcnf)) = (f.evaluate a).cost.toNat := by
  have hsoft := exactCost_violatedSoft_lt room a
  rw [h.violatedWeight_eq, hardSatisfied_iff.mp hard, cost_evaluate]
  simp only [List.length_nil, Nat.zero_mul]
  omega

/-! ## Optima -/

/-- If a weight stays below a bound exactly on some candidates, and is there their cost, then the
least weight is the least cost of those candidates, once there is one. -/
theorem minimal_iff_of_bound {α : Type} {weight cost : α → Nat} {bound : Nat} {Good : α → Prop}
    (below : ∀ x, weight x < bound ↔ Good x) (agree : ∀ x, Good x → weight x = cost x)
    {S : Set α} {x : α} (good : ∃ y ∈ S, Good y) :
    (∀ y ∈ S, weight x ≤ weight y) ↔ Good x ∧ ∀ y ∈ S, Good y → cost x ≤ cost y := by
  constructor
  · intro least
    obtain ⟨y, hy, hgood⟩ := good
    have hx : Good x := (below x).mp (Nat.lt_of_le_of_lt (least y hy) ((below y).mpr hgood))
    refine ⟨hx, fun z hz hzgood => ?_⟩
    rw [← agree x hx, ← agree z hzgood]
    exact least z hz
  · rintro ⟨hx, least⟩ y hy
    by_cases hgood : Good y
    · rw [agree x hx, agree y hgood]
      exact least y hy hgood
    · have hlow := (below x).mpr hx
      have hhigh := mt (below y).mp hgood
      omega

/-- With a top below the largest word, the rows that are read off the weighted lines weigh less
than the top where the hard clauses hold and only there, and then as much as evaluation says.  So
among any assignments of which one makes the hard clauses true, the least weight is the least
cost. -/
theorem printed_weights_agree (h : f.Reachable) (room : f.top < maxWord) :
    ∃ rows, readRows? .wcnf f.wcnfLines = some rows ∧
      (∀ a, (violatedWeight a rows < f.top.toNat ↔ (f.evaluate a).hardSatisfied = true) ∧
        ((f.evaluate a).hardSatisfied = true →
          violatedWeight a rows = (f.evaluate a).cost.toNat)) ∧
      ∀ (S : Set Assignment) (a : Assignment),
        (∃ b ∈ S, (f.evaluate b).hardSatisfied = true) →
        ((∀ b ∈ S, violatedWeight a rows ≤ violatedWeight b rows) ↔
          (f.evaluate a).hardSatisfied = true ∧
            ∀ b ∈ S, (f.evaluate b).hardSatisfied = true →
              (f.evaluate a).cost ≤ (f.evaluate b).cost) := by
  have hlow := fun a => h.wellFormed.violatedWeight_lt_top_iff room a
  have hcost := fun a (hard : (f.evaluate a).hardSatisfied = true) =>
    h.wellFormed.violatedWeight_eq_cost room hard
  refine ⟨_, readRows?_wcnfLines f, fun a => ⟨hlow a, hcost a⟩, fun S a good => ?_⟩
  simp only [UInt64.le_iff_toNat_le]
  exact minimal_iff_of_bound hlow hcost good

/-- One of 1 and 2, an empty preference that nothing satisfies, and one of cost 0 that is hard. -/
def burdened : Formula :=
  ([.addHard [1, 2], .addSoft 3 [-1], .addSoft 5 [], .addSoft 0 [-3]] : List Operation).foldl
    (fun f op => (op.run f).1) empty

/-- Without a value for 3 the clause of cost 0 is not made true, which weighs as much as a hard
one. -/
theorem burdened_weights_agree :
    burdened.Reachable ∧ burdened.top = 9 ∧ burdened.top < maxWord ∧
      ∃ rows, readRows? .wcnf burdened.wcnfLines = some rows ∧
        violatedWeight #[true, false, false] rows = 8 ∧
        ¬ violatedWeight #[false, true] rows < 9 ∧
        ∀ b, violatedWeight #[false, true, false] rows ≤ violatedWeight b rows := by
  have hburden : ∀ b, (5 : UInt64) ≤ (burdened.evaluate b).cost := by
    intro b
    have hmem : Clause.soft 5 [] ∈ burdened.violatedSoft b := List.mem_filter.mpr ⟨by decide, rfl⟩
    have hpart := cost_le_exactCost hmem
    have hmax : (5 : UInt64).toNat ≤ UInt64.size - 1 := by decide
    rw [UInt64.le_iff_toNat_le, cost_evaluate]
    exact Nat.le_min.mpr ⟨hpart, hmax⟩
  have hreachable : burdened.Reachable := .step _ (.step _ (.step _ (.step _ .empty)))
  have htop : burdened.top = 9 := by decide
  have room : burdened.top < maxWord := by
    rw [htop]
    decide
  obtain ⟨rows, hrows, hagree, hleast⟩ := printed_weights_agree hreachable room
  refine ⟨hreachable, htop, room, rows, hrows, ?_, ?_, ?_⟩
  · rw [(hagree #[true, false, false]).2 (by decide)]
    decide
  · intro hlow
    rw [← show burdened.top.toNat = 9 from congrArg UInt64.toNat htop, (hagree _).1] at hlow
    exact absurd hlow (by decide)
  · have good : ∃ b ∈ Set.univ, (burdened.evaluate b).hardSatisfied = true :=
      ⟨#[false, true, false], trivial, by decide⟩
    have hcost : (burdened.evaluate #[false, true, false]).cost = 5 := by decide
    intro b
    refine (hleast Set.univ _ good).mpr ⟨by decide, fun b _ _ => ?_⟩ b trivial
    rw [hcost]
    exact hburden b

end Formula

end Clausal

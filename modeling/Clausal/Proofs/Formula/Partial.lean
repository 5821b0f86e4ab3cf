import Clausal.Proofs.Formula.Top

/-!
# Short assignments

An assignment that is too short leaves literals open.  What it does decide stays as it is when the
assignment is extended, so an extension can only make more clauses true: evaluation gets no worse.
An assignment as long as the literal count leaves nothing open in a reachable formula, and there
evaluation is two-valued truth.
-/

namespace Clausal

/-! ## Clauses -/

theorem literalTruth?_append {a : Assignment} {literal : Int32} {value : Bool}
    (h : literalTruth? a literal = some value) (b : Assignment) :
    literalTruth? (a ++ b) literal = some value := by
  unfold literalTruth? at h ⊢
  cases hplace : literal.toInt.natAbs with
  | zero => simp [hplace] at h
  | succ place =>
      simp only [hplace, Option.map_eq_some_iff] at h ⊢
      obtain ⟨bit, hbit, hvalue⟩ := h
      have hlt : place < a.size := (Array.getElem?_eq_some_iff.mp hbit).1
      exact ⟨bit, (Array.getElem?_append_left hlt).trans hbit, hvalue⟩

theorem clauseTruth?_append {a : Assignment} {clause : List Int32} {value : Bool}
    (h : clauseTruth? a clause = some value) (b : Assignment) :
    clauseTruth? (a ++ b) clause = some value := by
  cases value with
  | true =>
      obtain ⟨literal, hl, htrue⟩ := (clauseTruth?_eq_true_iff a clause).mp h
      exact (clauseTruth?_eq_true_iff _ clause).mpr ⟨literal, hl, literalTruth?_append htrue b⟩
  | false =>
      have hfalse := (clauseTruth?_eq_false_iff a clause).mp h
      exact (clauseTruth?_eq_false_iff _ clause).mpr fun literal hl =>
        literalTruth?_append (hfalse literal hl) b

theorem eq_none_iff_of_bool {x : Option Bool} : x = none ↔ x ≠ some true ∧ x ≠ some false := by
  rcases x with _ | _ | _ <;> simp

theorem clauseTruth?_eq_none_iff (a : Assignment) (clause : List Int32) :
    clauseTruth? a clause = none ↔
      (∀ literal ∈ clause, literalTruth? a literal ≠ some true) ∧
        ∃ literal ∈ clause, literalTruth? a literal = none := by
  rw [eq_none_iff_of_bool, ne_eq, ne_eq, clauseTruth?_eq_true_iff, clauseTruth?_eq_false_iff]
  push Not
  refine and_congr_right fun untrue => exists_congr fun literal => and_congr_right fun hl => ?_
  rw [eq_none_iff_of_bool, and_iff_right (untrue literal hl)]

theorem clauseTruth?_congr (a : Assignment) {clause other : List Int32}
    (h : ∀ literal, literal ∈ clause ↔ literal ∈ other) :
    clauseTruth? a clause = clauseTruth? a other := by
  refine Option.ext fun value => ?_
  cases value with
  | true => simp only [clauseTruth?_eq_true_iff, h]
  | false => simp only [clauseTruth?_eq_false_iff, h]

theorem satisfies_append {a : Assignment} {clause : Clause Int32}
    (h : satisfies a clause = true) (b : Assignment) : satisfies (a ++ b) clause = true := by
  rw [satisfies, beq_iff_eq] at h ⊢
  exact clauseTruth?_append h b

/-! ## Two-valued truth -/

/-- Two-valued truth of a signed literal, given the values of all variables counted from 0. -/
def literalHolds (values : Nat → Bool) (literal : Int32) : Bool :=
  values (literal.toInt.natAbs - 1) == decide (0 < literal)

def clauseHolds (values : Nat → Bool) (clause : Clause Int32) : Bool :=
  clause.literals.any (literalHolds values)

def IsStart (a : Assignment) (values : Nat → Bool) : Prop :=
  ∀ place, place < a.size → a[place]? = some (values place)

section

variable {a : Assignment} {values : Nat → Bool} (start : IsStart a values)

include start

theorem literalTruth?_eq_holds {literal : Int32} (nonzero : literal ≠ 0)
    (reached : literal.toInt.natAbs ≤ a.size) :
    literalTruth? a literal = some (literalHolds values literal) := by
  obtain ⟨place, hplace⟩ := exists_natAbs_eq nonzero
  have hbit := start place (by omega)
  simp only [literalTruth?, literalHolds, hplace, hbit, Option.map_some, Nat.add_sub_cancel]
  by_cases hpos : 0 < literal <;> simp [hpos]

theorem clauseTruth?_eq_any {clause : List Int32} (nonzero : (0 : Int32) ∉ clause)
    (reached : ∀ literal ∈ clause, literal.toInt.natAbs ≤ a.size) :
    clauseTruth? a clause = some (clause.any (literalHolds values)) := by
  induction clause with
  | nil => rfl
  | cons literal rest ih =>
      rw [List.mem_cons, not_or] at nonzero
      rw [List.forall_mem_cons] at reached
      rw [clauseTruth?, literalTruth?_eq_holds start (Ne.symm nonzero.1) reached.1,
        ih nonzero.2 reached.2, List.any_cons]
      cases literalHolds values literal <;> rfl

end

/-! ## Evaluation -/

theorem exactCost_le_of_sublist {α : Type} {fewer more : List (Clause α)}
    (h : fewer.Sublist more) : exactCost fewer ≤ exactCost more := by
  induction h with
  | slnil => exact Nat.le_refl 0
  | cons clause _ ih => exact Nat.le_trans ih (Nat.le_add_left _ _)
  | cons_cons clause _ ih => exact Nat.add_le_add_left ih _

/-- Hard clauses that held still hold, and no more is violated. -/
structure Evaluation.NoWorse (before after : Evaluation) : Prop where
  hard : before.hardSatisfied = true → after.hardSatisfied = true
  violated : after.violated ≤ before.violated
  cost : after.cost ≤ before.cost

namespace Formula

variable {f : Formula} {a : Assignment}

theorem violatedSoft_append (f : Formula) (a b : Assignment) :
    (f.violatedSoft (a ++ b)).Sublist (f.violatedSoft a) := by
  refine List.monotone_filter_right _ fun clause hviolated => ?_
  rw [Bool.not_eq_true'] at hviolated ⊢
  exact Bool.eq_false_iff.mpr fun htrue =>
    Bool.eq_false_iff.mp hviolated (satisfies_append htrue b)

theorem evaluate_append (f : Formula) (a b : Assignment) :
    (f.evaluate a).NoWorse (f.evaluate (a ++ b)) where
  hard := by
    simp only [evaluate, List.all_eq_true]
    exact fun h clause hclause => satisfies_append (h clause hclause) b
  violated := (f.violatedSoft_append a b).length_le
  cost := by
    have hexact := exactCost_le_of_sublist (f.violatedSoft_append a b)
    rw [UInt64.le_iff_toNat_le, cost_evaluate, cost_evaluate]
    omega

/-- The clauses are true or false as two-valued truth has it, and evaluation counts them so. -/
structure TwoValued (f : Formula) (a : Assignment) (values : Nat → Bool) : Prop where
  clauses : ∀ clause ∈ f.clauses, clauseTruth? a clause.literals = some (clauseHolds values clause)
  hard : (f.evaluate a).hardSatisfied = f.hard.toList.all (clauseHolds values)
  violated : (f.evaluate a).violated =
    (f.soft.toList.filter fun clause => !clauseHolds values clause).length
  cost : (f.evaluate a).cost.toNat =
    min (exactCost (f.soft.toList.filter fun clause => !clauseHolds values clause))
      (UInt64.size - 1)

theorem twoValued_of_clauses {values : Nat → Bool}
    (h : ∀ clause ∈ f.clauses,
      clauseTruth? a clause.literals = some (clauseHolds values clause)) :
    f.TwoValued a values := by
  have hsatisfies : ∀ clause ∈ f.clauses, satisfies a clause = clauseHolds values clause := by
    intro clause hclause
    rw [satisfies, h clause hclause]
    cases clauseHolds values clause <;> rfl
  have hviolated : f.violatedSoft a =
      f.soft.toList.filter fun clause => !clauseHolds values clause :=
    List.filter_congr fun clause hclause =>
      congrArg (!·) (hsatisfies clause (List.mem_append_right _ hclause))
  refine ⟨h, ?_, ?_, ?_⟩
  · simp only [evaluate]
    rw [Bool.eq_iff_iff, List.all_eq_true, List.all_eq_true]
    exact forall₂_congr fun clause hclause => by
      rw [hsatisfies clause (List.mem_append_left _ hclause)]
  · rw [← hviolated]
    rfl
  · rw [← hviolated, cost_evaluate]

/-- No literal is zero or beyond the count, so an assignment as long as the count decides all. -/
theorem WellFormed.twoValued (h : f.WellFormed) (total : f.literalCount.toNat ≤ a.size)
    {values : Nat → Bool} (start : IsStart a values) : f.TwoValued a values :=
  twoValued_of_clauses fun clause hclause =>
    clauseTruth?_eq_any start (h.nonzero clause hclause) fun literal hl =>
      Nat.le_trans (h.covered clause hclause literal hl) total

/-- What a short assignment decides of a clause it decides for good, whatever the order and
repetition of literals; so an extension is evaluated no worse.  An assignment as long as the
literal count decides every clause of a reachable formula, and is evaluated as two-valued truth
has it, whatever values the variables beyond it may have. -/
theorem extensions_evaluate_no_worse :
    (∀ (clause : List Int32) (a : Assignment),
      (∀ b value, clauseTruth? a clause = some value → clauseTruth? (a ++ b) clause = some value) ∧
      (clauseTruth? a clause = none ↔
        (∀ literal ∈ clause, literalTruth? a literal ≠ some true) ∧
          ∃ literal ∈ clause, literalTruth? a literal = none) ∧
      ∀ other : List Int32, (∀ literal, literal ∈ clause ↔ literal ∈ other) →
        clauseTruth? a clause = clauseTruth? a other) ∧
    ∀ f : Formula, f.Reachable → ∀ a : Assignment,
      (∀ b, (f.evaluate a).NoWorse (f.evaluate (a ++ b))) ∧
      (f.literalCount.toNat ≤ a.size → ∀ values, IsStart a values → f.TwoValued a values) := by
  refine ⟨fun clause a => ⟨?_, clauseTruth?_eq_none_iff a clause, ?_⟩, fun f h a => ⟨?_, ?_⟩⟩
  · exact fun b value decided => clauseTruth?_append decided b
  · exact fun other same => clauseTruth?_congr a same
  · exact fun b => f.evaluate_append a b
  · exact fun total values start => h.wellFormed.twoValued total start

def unsettled : Formula :=
  ([.addHard [1, 2], .addHard [-1, 3, 3], .addSoft 3 [-1], .addSoft 5 [-2], .addHard [4, 0]] :
    List Operation).foldl (fun f op => (op.run f).1) empty

/-- With 1 alone a hard clause is open; 2 and 3 decide it and keep the soft cost from growing, and
a value for 4 makes the assignment total. -/
theorem unsettled_evaluates :
    unsettled.Reachable ∧ clauseTruth? #[true] [-1, 3, 3] = none ∧
      clauseTruth? #[true] [3, -1] = none ∧
      (unsettled.evaluate #[true]).NoWorse (unsettled.evaluate #[true, false, true]) ∧
      (unsettled.evaluate #[true, false, true, false]).cost.toNat = 3 ∧
      (unsettled.evaluate #[true, false, true, false]).hardSatisfied = true := by
  have hreachable : unsettled.Reachable :=
    .step _ (.step _ (.step _ (.step _ (.step _ .empty))))
  obtain ⟨hclauses, hformulas⟩ := extensions_evaluate_no_worse
  have hone : literalTruth? #[true] (-1) = some false := rfl
  have hthree : literalTruth? #[true] 3 = none := rfl
  have hopen : clauseTruth? #[true] [-1, 3, 3] = none :=
    (hclauses [-1, 3, 3] #[true]).2.1.mpr ⟨by simp [hone, hthree], 3, by simp, hthree⟩
  have hsame : clauseTruth? #[true] [3, -1] = none :=
    ((hclauses [3, -1] #[true]).2.2 [-1, 3, 3] (by simp; tauto)).trans hopen
  have hstart : IsStart #[true, false, true, false] fun place => place % 2 == 0 := by
    unfold IsStart
    decide
  have hextended := (hformulas unsettled hreachable #[true]).1 #[false, true]
  have htotal := (hformulas unsettled hreachable _).2 (by decide) _ hstart
  refine ⟨hreachable, hopen, hsame, hextended, ?_, ?_⟩
  · rw [htotal.cost]
    decide
  · rw [htotal.hard]
    decide

end Formula

end Clausal

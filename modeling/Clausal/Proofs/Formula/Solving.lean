import Clausal.Proofs.Formula.WellFormed
import Clausal.Proofs.Search.Procedure

/-!
# Solving is sound and complete

No literal of a reachable formula is zero or beyond the literal count, so every literal asks
for the value of a variable, and a clause is true exactly when an assignment makes one of the
choices that its literals ask for.  Whether there is such an assignment is then what a correct
procedure decides; `Search.verdict_correct` says that the procedure at hand is one.
-/

namespace Clausal

/-- The variable and value that a literal other than zero asks for. -/
def Choice.ofLiteral (literal : Int32) : Choice :=
  .of (literal.toInt.natAbs - 1) (decide (0 < literal))

theorem Search.choice_eq_ok {count : UInt32} {literal : Int32} (nonzero : literal ≠ 0)
    (covered : literal.toInt.natAbs ≤ count.toNat) :
    choice count literal = .ok (.ofLiteral literal) := by
  obtain ⟨var, hvar⟩ := exists_natAbs_eq nonzero
  have room : var < count.toNat := by omega
  simp [choice, Choice.ofLiteral, hvar, room]

theorem literalTruth?_eq_true_iff {a : Assignment} {literal : Int32} (nonzero : literal ≠ 0)
    (reached : literal.toInt.natAbs ≤ a.size) :
    literalTruth? a literal = some true ↔ (Choice.ofLiteral literal).holds a = true := by
  obtain ⟨var, hvar⟩ := exists_natAbs_eq nonzero
  have room : var < a.size := by omega
  simp only [literalTruth?, Choice.holds, Choice.ofLiteral, hvar, Choice.var_of,
    Choice.value_of, Nat.add_sub_cancel, Array.getD_eq_getD_getElem?,
    Array.getElem?_eq_getElem room, Option.map_some, Option.getD_some]
  by_cases hpos : 0 < literal <;> simp [hpos]

theorem satisfies_iff {a : Assignment} {clause : Clause Int32}
    (nonzero : ∀ literal ∈ clause.literals, literal ≠ 0)
    (reached : ∀ literal ∈ clause.literals, literal.toInt.natAbs ≤ a.size) :
    satisfies a clause = true ↔
      ∃ c ∈ clause.literals.map Choice.ofLiteral, c.holds a = true := by
  simp only [satisfies, beq_iff_eq, clauseTruth?_eq_true_iff, List.mem_map,
    exists_exists_and_eq_and]
  refine exists_congr fun literal => and_congr_right fun hl => ?_
  exact literalTruth?_eq_true_iff (nonzero literal hl) (reached literal hl)

namespace Formula

/-- The hard clauses as the choices that their literals ask for. -/
def choices (f : Formula) : List (List Choice) :=
  f.hard.toList.map fun clause => clause.literals.map .ofLiteral

theorem mem_clauses_of_hard {f : Formula} {clause : Clause Int32}
    (h : clause ∈ f.hard.toList) : clause ∈ f.clauses := List.mem_append_left _ h

theorem WellFormed.nonzero_of_mem {f : Formula} (h : f.WellFormed) {clause : Clause Int32}
    (hclause : clause ∈ f.clauses) {literal : Int32} (hl : literal ∈ clause.literals) :
    literal ≠ 0 := fun hzero => h.nonzero clause hclause (hzero ▸ hl)

theorem WellFormed.mapM_choice {f : Formula} (h : f.WellFormed) :
    (f.hard.toList.mapM fun clause => clause.literals.mapM (Search.choice f.literalCount)) =
      .ok f.choices := by
  apply mapM_eq_ok
  intro clause hclause
  have hmem := mem_clauses_of_hard hclause
  apply mapM_eq_ok
  intro literal hl
  exact Search.choice_eq_ok (h.nonzero_of_mem hmem hl) (h.covered clause hmem literal hl)

theorem WellFormed.within_choices {f : Formula} (h : f.WellFormed) :
    Search.Within f.literalCount.toNat f.choices := by
  intro choices hchoices c hc
  obtain ⟨clause, hclause, rfl⟩ := List.mem_map.mp hchoices
  obtain ⟨literal, hl, rfl⟩ := List.mem_map.mp hc
  have hmem := mem_clauses_of_hard hclause
  obtain ⟨var, hvar⟩ := exists_natAbs_eq (h.nonzero_of_mem hmem hl)
  have hcovered := h.covered clause hmem literal hl
  rw [Choice.ofLiteral, Choice.var_of]
  omega

theorem WellFormed.hardSatisfied_iff_models {f : Formula} (h : f.WellFormed) {a : Assignment}
    (hsize : a.size = f.literalCount.toNat) :
    (f.evaluate a).hardSatisfied = true ↔ models a f.choices = true := by
  simp only [evaluate, List.all_eq_true, Search.models_iff, choices, List.forall_mem_map]
  refine forall₂_congr fun clause hclause => ?_
  have hmem := mem_clauses_of_hard hclause
  exact satisfies_iff (fun literal hl => h.nonzero_of_mem hmem hl)
    fun literal hl => hsize ▸ h.covered clause hmem literal hl

/-! ## The answer -/

/-- The answer says whether the hard clauses can be true together, and shows how. -/
structure Settles (f : Formula) (answer : Answer) : Prop where
  optimum_iff : answer.status = .optimumFound ↔
    ∃ a : Assignment, a.size = f.literalCount.toNat ∧ (f.evaluate a).hardSatisfied = true
  model : answer.status = .optimumFound →
    answer.assignment.size = f.literalCount.toNat ∧
      (f.evaluate answer.assignment).hardSatisfied = true
  otherwise : answer.status ≠ .optimumFound →
    answer.status = .unsatisfiable ∧ answer.assignment = #[]

theorem WellFormed.settles_verdict {f : Formula} (h : f.WellFormed)
    {procedure : Search.Procedure} (correct : procedure.Correct) :
    f.Settles ((procedure f.literalCount.toNat f.choices).answer f.literalCount.toNat) := by
  have within := h.within_choices
  cases hv : procedure f.literalCount.toNat f.choices with
  | satisfiable choices =>
      obtain ⟨compatible, covers⟩ := correct.satisfiable within hv
      have hsize := Search.size_fill f.literalCount.toNat choices
      have hmodel : (f.evaluate (Search.fill f.literalCount.toNat choices)).hardSatisfied = true :=
        (h.hardSatisfied_iff_models hsize).mpr (Search.models_fill within compatible covers)
      exact ⟨iff_of_true rfl ⟨_, hsize, hmodel⟩, fun _ => ⟨hsize, hmodel⟩, fun hne => absurd rfl hne⟩
  | unsatisfiable =>
      have hnone : ¬ ∃ a : Assignment,
          a.size = f.literalCount.toNat ∧ (f.evaluate a).hardSatisfied = true := by
        rintro ⟨a, hsize, hsat⟩
        have hmodels := (h.hardSatisfied_iff_models hsize).mp hsat
        rw [correct.unsatisfiable within hv a] at hmodels
        exact Bool.false_ne_true hmodels
      exact ⟨iff_of_false (by simp [Search.Verdict.answer]) hnone,
        fun hfound => by simp [Search.Verdict.answer] at hfound, fun _ => ⟨rfl, rfl⟩⟩
  | undecided => exact absurd hv (correct.decided within)

theorem WellFormed.solveBy_eq {f : Formula} (h : f.WellFormed) (plain : f.soft.toList = [])
    (procedure : Search.Procedure) :
    f.solveBy procedure =
      .ok ((procedure f.literalCount.toNat f.choices).answer f.literalCount.toNat) := by
  rw [solveBy, ClauseList.isEmpty_iff.mpr plain]
  simp only [Bool.not_true, Bool.false_eq_true, if_false, h.mapM_choice]
  rfl

theorem solveBy_of_soft {f : Formula} (weighted : f.soft.toList ≠ [])
    (procedure : Search.Procedure) :
    f.solveBy procedure = .error (.softClausesInCnf f.soft.toList.length) := by
  have hempty : f.soft.isEmpty = false :=
    Bool.eq_false_iff.mpr fun hempty => weighted (ClauseList.isEmpty_iff.mp hempty)
  rw [solveBy, hempty, ClauseList.length_toList]
  rfl

/-- With a correct procedure, a reachable formula without soft clauses is always answered, and
rightly; one with soft clauses is refused with their number. -/
theorem solveBy_settles {procedure : Search.Procedure} (correct : procedure.Correct)
    {f : Formula} (h : f.Reachable) :
    (f.soft.toList = [] →
      ∃ answer, f.solveBy procedure = .ok answer ∧ f.Settles answer) ∧
    (f.soft.toList ≠ [] →
      f.solveBy procedure = .error (.softClausesInCnf f.soft.toList.length)) :=
  ⟨fun plain => ⟨_, h.wellFormed.solveBy_eq plain procedure,
    h.wellFormed.settles_verdict correct⟩, fun weighted => solveBy_of_soft weighted procedure⟩

/-- Not 1, and 1 or 2; nothing is said of 3 but that it is itself or not. -/
def implied : Formula :=
  ([.addHard [1, 2], .addHard [-1], .addHard [3, -3, 3]] : List Operation).foldl
    (fun f op => (op.run f).1) empty

theorem implied_reachable : implied.Reachable :=
  .step _ (.step _ (.step _ .empty))

theorem implied_settles :
    Search.Procedure.Correct Search.verdict ∧ implied.Reachable ∧ implied.soft.toList = [] ∧
      ∃ answer, implied.solve = .ok answer ∧ answer.status = .optimumFound ∧
        answer.assignment.size = 3 ∧
        (implied.evaluate answer.assignment).hardSatisfied = true := by
  have plain : implied.soft.toList = [] := by decide
  obtain ⟨answer, hsolve, settles⟩ :=
    (solveBy_settles Search.verdict_correct implied_reachable).1 plain
  have found : answer.status = .optimumFound :=
    settles.optimum_iff.mpr ⟨#[false, true, false], by decide, by decide⟩
  obtain ⟨hsize, hmodel⟩ := settles.model found
  exact ⟨Search.verdict_correct, implied_reachable, plain, answer, hsolve, found, hsize, hmodel⟩

end Formula

end Clausal

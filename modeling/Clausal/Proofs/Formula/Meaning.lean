import Clausal.Proofs.Formula.Translation

/-!
# Translation preserves meaning

Under an assignment that agrees with a valuation, the image of a clause is true exactly when
the clause is.  Since images stand in the order of their clauses and keep their costs, evaluating
the formula says of the encoding which hard clauses hold, how many soft ones are violated, and
what they cost together.
-/

namespace Clausal

/-! ## Capped sums -/

/-- Adding costs one by one, capped at each step, is adding them all and capping once. -/
theorem foldl_addCapped_toNat {α : Type} (clauses : List (Clause α)) (start : UInt64) :
    (clauses.foldl (fun total clause => addCapped total clause.cost) start).toNat =
      min (start.toNat + exactCost clauses) (UInt64.size - 1) := by
  induction clauses generalizing start with
  | nil =>
      have hstart := start.toNat_lt_size
      simp only [List.foldl_nil, exactCost_nil]
      omega
  | cons clause rest ih =>
      rw [List.foldl_cons, ih, addCapped_toNat, exactCost_cons]
      omega

namespace Numbering

theorem Numbers.satisfies {n : Numbering} {s : Valuation} {a : Assignment}
    {clause : Clause Literal} {image : Clause Int32} (hn : n.Numbers clause image)
    (h : n.Bijective) (hagree : n.Agrees s a) : Clausal.satisfies a image = clause.holds s := by
  rw [Bool.eq_iff_iff, Clause.holds_iff]
  simp only [Clausal.satisfies, beq_iff_eq, clauseTruth?_eq_true_iff]
  refine (exists_mem_iff_of_forall₂ hn.literals fun literal signed hs => ?_).symm
  rw [hagree.literalTruth? h hs, Option.some.injEq]

theorem Numbers.forall₂_filter {n : Numbering} {s : Valuation} {a : Assignment}
    {clauses : List (Clause Literal)} {images : List (Clause Int32)}
    (hn : List.Forall₂ n.Numbers clauses images) (h : n.Bijective) (hagree : n.Agrees s a) :
    List.Forall₂ n.Numbers (clauses.filter fun clause => !clause.holds s)
      (images.filter fun image => !Clausal.satisfies a image) := by
  induction hn with
  | nil => exact .nil
  | @cons clause image rest images' hfirst _ ih =>
      have heq := hfirst.satisfies h hagree
      rw [List.filter_cons, List.filter_cons, heq]
      cases clause.holds s with
      | true => exact ih
      | false => exact .cons hfirst ih

theorem Numbers.exactCost_eq {n : Numbering} {clauses : List (Clause Literal)}
    {images : List (Clause Int32)} (hn : List.Forall₂ n.Numbers clauses images) :
    exactCost images = exactCost clauses := by
  induction hn with
  | nil => rfl
  | cons hfirst _ ih => rw [exactCost_cons, exactCost_cons, ih, hfirst.cost]

theorem Numbers.all_satisfies {n : Numbering} {s : Valuation} {a : Assignment}
    {clauses : List (Clause Literal)} {images : List (Clause Int32)}
    (hn : List.Forall₂ n.Numbers clauses images) (h : n.Bijective) (hagree : n.Agrees s a) :
    images.all (Clausal.satisfies a) = clauses.all (Clause.holds s) := by
  induction hn with
  | nil => rfl
  | cons hfirst _ ih => rw [List.all_cons, List.all_cons, ih, hfirst.satisfies h hagree]

end Numbering

namespace Formula

/-! ## Evaluation of the formula -/

theorem cost_evaluate (f : Formula) (a : Assignment) :
    (f.evaluate a).cost.toNat = min (exactCost (f.violatedSoft a)) (UInt64.size - 1) := by
  simp only [evaluate]
  rw [foldl_addCapped_toNat, UInt64.toNat_zero, Nat.zero_add]

section

variable {e : Encoding} {n : Numbering} {f : Formula} {s : Valuation} {a : Assignment}

theorem hardSatisfied_ofEncoding (h : n.Bijective) (hf : ofEncoding e n = .ok f)
    (hagree : n.Agrees s a) :
    (f.evaluate a).hardSatisfied = true ↔ ∀ clause ∈ e.hard.toList, clause.holds s = true := by
  obtain ⟨-, ⟨hhard, -⟩, -⟩ := ofEncoding_eq_ok_iff.mp hf
  have hall := Numbering.Numbers.all_satisfies hhard h hagree
  simp only [evaluate]
  rw [hall, List.all_eq_true]

theorem violatedSoft_ofEncoding (h : n.Bijective) (hf : ofEncoding e n = .ok f)
    (hagree : n.Agrees s a) :
    List.Forall₂ n.Numbers (e.violatedBy s) (f.violatedSoft a) := by
  obtain ⟨-, -, ⟨hsoft, -⟩, -⟩ := ofEncoding_eq_ok_iff.mp hf
  exact Numbering.Numbers.forall₂_filter hsoft h hagree

theorem violated_ofEncoding (h : n.Bijective) (hf : ofEncoding e n = .ok f)
    (hagree : n.Agrees s a) : (f.evaluate a).violated = (e.violatedBy s).length :=
  (violatedSoft_ofEncoding h hf hagree).length_eq.symm

theorem cost_ofEncoding (h : n.Bijective) (hf : ofEncoding e n = .ok f)
    (hagree : n.Agrees s a) :
    (f.evaluate a).cost.toNat = min (exactCost (e.violatedBy s)) (UInt64.size - 1) := by
  rw [cost_evaluate, Numbering.Numbers.exactCost_eq (violatedSoft_ofEncoding h hf hagree)]

end

/-- An encoding becomes a formula exactly when every literal of its clauses is a key, whatever
its polarity; and the formula under an assignment says what the encoding says under the
valuation that the assignment agrees with. -/
theorem translation_preserves_meaning {e : Encoding} {n : Numbering} (h : n.Reachable) :
    ((∃ f, ofEncoding e n = .ok f) ↔
      ∀ clause ∈ e.hard.toList ++ e.soft.toList, ∀ literal ∈ clause.literals,
        n.HasKey literal) ∧
    ∀ f, ofEncoding e n = .ok f → ∀ s a, n.Agrees s a →
      ((f.evaluate a).hardSatisfied = true ↔
        ∀ clause ∈ e.hard.toList, ∃ literal ∈ clause.literals, literal.holds s = true) ∧
      (f.evaluate a).violated = (e.violatedBy s).length ∧
      (f.evaluate a).cost.toNat = min (exactCost (e.violatedBy s)) (UInt64.size - 1) := by
  have hb := h.bijective
  refine ⟨exists_ofEncoding_iff hb.size_lt, ?_⟩
  intro f hf s a hagree
  refine ⟨?_, violated_ofEncoding hb hf hagree, cost_ofEncoding hb hf hagree⟩
  rw [hardSatisfied_ofEncoding hb hf hagree]
  exact forall₂_congr fun _ _ => Clause.holds_iff

def sample (index : UInt32) : Literal := .ofAtom ⟨firstVariable, index⟩

/-- The later atom has the smaller number. -/
def crossed : Numbering :=
  (Numbering.empty.cons (sample 4) 2).cons (sample 7) 1

/-- Not 4 or 7; preferably 4, and preferably not 7. -/
def mixed : Encoding :=
  ⟨0, #[], #[],
    ⟨#[.hard [(sample 4).neg, sample 7]], #[]⟩,
    ⟨#[.soft 5 [sample 4], .soft 3 [(sample 7).neg]], #[]⟩⟩

theorem crossed_reachable : crossed.Reachable := by
  have hfirst : Numbering.empty.add (sample 4) 2 =
      .ok (Numbering.empty.cons (sample 4) 2) :=
    Numbering.add_eq_ok_iff.mpr ⟨by decide, rfl, by simp, by simp, rfl⟩
  refine .add (.add .empty hfirst) (Numbering.add_eq_ok_iff.mpr ⟨by decide, rfl, ?_, ?_, rfl⟩)
  · simp [Numbering.number?_cons, sample, Literal.ofAtom]
  · simp [Numbering.key?_cons]

theorem mixed_keyed : ∀ clause ∈ mixed.hard.toList ++ mixed.soft.toList,
    ∀ literal ∈ clause.literals, crossed.HasKey literal := by
  simp [mixed, crossed, ClauseList.toList, Clause.hard, Clause.soft, Numbering.HasKey, sample,
    Literal.ofAtom]

/-- With 7 true and 4 false, both preferences are violated. -/
theorem crossed_preserves_meaning :
    crossed.Reachable ∧ ∃ f, ofEncoding mixed crossed = .ok f ∧
      (f.evaluate #[true, false]).hardSatisfied = true ∧
      (f.evaluate #[true, false]).violated = 2 ∧
      (f.evaluate #[true, false]).cost.toNat = 8 := by
  obtain ⟨hmade, hmeaning⟩ := translation_preserves_meaning (e := mixed) crossed_reachable
  have hagree : crossed.Agrees (fun atom => atom.index == 7) #[true, false] := by
    rw [crossed_reachable.bijective.agrees_iff]
    simp [crossed, Numbering.empty, sample, Literal.ofAtom]
  obtain ⟨f, hf⟩ := hmade.mpr mixed_keyed
  obtain ⟨hhard, hviolated, hcost⟩ := hmeaning f hf _ _ hagree
  refine ⟨crossed_reachable, f, hf, hhard.mpr ?_, hviolated.trans ?_, hcost.trans ?_⟩
  · simp [mixed, ClauseList.toList, Clause.hard, Literal.holds, sample, Literal.ofAtom]
  · decide
  · decide

end Formula

end Clausal

import Clausal.Search
import Clausal.Search.Splitting

/-!
# Procedures that decide

A procedure is correct if it always says yes or no, with choices that go together behind a
yes.  Such choices fill an assignment under which the clauses are true, and the choices that an
assignment makes go together; so a correct procedure decides whether there is an assignment.
The procedure at hand is correct: it says yes or no only after a check or by splitting.
-/

/-!
## Splitting decides

The choices that splitting finds never contradict each other, and every clause has one of
them; where it finds none, no assignment makes all clauses true.  Both follow the search: a
choice that has been made is mentioned nowhere in the clauses that remain, and under an
assignment that makes it they are as true as before.
-/

namespace Clausal.Search

/-- No two choices are opposites. -/
def Compatible (choices : List Choice) : Prop := ∀ c ∈ choices, c.opposite ∉ choices

/-- Every clause has one of the choices. -/
def Covers (choices : List Choice) (clauses : List (List Choice)) : Prop :=
  ∀ clause ∈ clauses, ∃ c ∈ clause, c ∈ choices

/-- Some clause has the choice or its opposite. -/
def Mentions (clauses : List (List Choice)) (c : Choice) : Prop :=
  ∃ clause ∈ clauses, c ∈ clause ∨ c.opposite ∈ clause

theorem models_iff {assignment : Assignment} {clauses : List (List Choice)} :
    models assignment clauses = true ↔
      ∀ clause ∈ clauses, ∃ c ∈ clause, c.holds assignment = true := by
  simp [models]

theorem opposite_eq_iff {a b : Choice} : a.opposite = b ↔ a = b.opposite := by
  constructor
  · rintro rfl
    exact a.opposite_opposite.symm
  · rintro rfl
    exact b.opposite_opposite

/-! ### What remains once a choice is made -/

theorem mem_select_iff {c : Choice} {clauses : List (List Choice)} {clause : List Choice} :
    clause ∈ select c clauses ↔
      ∃ whole ∈ clauses, c ∉ whole ∧ whole.filter (· != c.opposite) = clause := by
  simp [select, and_assoc]

theorem not_mentions_select (c : Choice) (clauses : List (List Choice)) :
    ¬ Mentions (select c clauses) c := by
  rintro ⟨clause, hclause, hmem⟩
  obtain ⟨whole, -, hc, rfl⟩ := mem_select_iff.mp hclause
  rcases hmem with hmem | hmem
  · exact hc (List.mem_filter.mp hmem).1
  · simp at hmem

theorem Mentions.of_select {c d : Choice} {clauses : List (List Choice)}
    (h : Mentions (select c clauses) d) : Mentions clauses d := by
  obtain ⟨clause, hclause, hmem⟩ := h
  obtain ⟨whole, hwhole, -, rfl⟩ := mem_select_iff.mp hclause
  exact ⟨whole, hwhole, hmem.imp (fun h => (List.mem_filter.mp h).1)
    fun h => (List.mem_filter.mp h).1⟩

theorem Covers.of_select {c : Choice} {choices : List Choice} {clauses : List (List Choice)}
    (h : Covers choices (select c clauses)) : Covers (c :: choices) clauses := by
  intro clause hclause
  by_cases hc : c ∈ clause
  · exact ⟨c, hc, List.mem_cons_self⟩
  · obtain ⟨d, hd, hmade⟩ := h _ (mem_select_iff.mpr ⟨clause, hclause, hc, rfl⟩)
    exact ⟨d, (List.mem_filter.mp hd).1, List.mem_cons_of_mem c hmade⟩

theorem models_select {assignment : Assignment} {c : Choice} {clauses : List (List Choice)}
    (hc : c.holds assignment = true) (h : models assignment clauses = true) :
    models assignment (select c clauses) = true := by
  rw [models_iff] at h ⊢
  intro clause hclause
  obtain ⟨whole, hwhole, -, rfl⟩ := mem_select_iff.mp hclause
  obtain ⟨d, hd, hholds⟩ := h whole hwhole
  refine ⟨d, ?_, hholds⟩
  have hne : d ≠ c.opposite := by
    rintro rfl
    simp [hc] at hholds
  simpa [hd] using hne

/-! ### The search -/

/-- What the search promises of the choices that it finds. -/
structure Solves (choices : List Choice) (clauses : List (List Choice)) : Prop where
  compatible : Compatible choices
  covers : Covers choices clauses
  mentioned : ∀ c ∈ choices, Mentions clauses c

theorem solves_nil : Solves [] [] where
  compatible := by simp [Compatible]
  covers := by simp [Covers]
  mentioned := by simp

theorem Solves.cons {c : Choice} {choices : List Choice} {clauses : List (List Choice)}
    (h : Solves choices (select c clauses)) (hc : Mentions clauses c) :
    Solves (c :: choices) clauses where
  compatible := by
    have hlater : ∀ d ∈ choices, d ≠ c.opposite := by
      rintro d hd rfl
      obtain ⟨clause, hclause, hmem⟩ := h.mentioned _ hd
      rw [Choice.opposite_opposite] at hmem
      exact not_mentions_select c clauses ⟨clause, hclause, hmem.symm⟩
    intro d hd hopposite
    rcases List.mem_cons.mp hd with rfl | hd <;> rcases List.mem_cons.mp hopposite with heq | ho
    · exact d.opposite_ne heq
    · exact hlater _ ho rfl
    · exact hlater d hd (opposite_eq_iff.mp heq)
    · exact h.compatible d hd ho
  covers := h.covers.of_select
  mentioned := by
    intro d hd
    rcases List.mem_cons.mp hd with rfl | hd
    · exact hc
    · exact (h.mentioned d hd).of_select

theorem mentions_of_shortest {clause : List Choice} {rest : List (List Choice)} {c : Choice}
    {others : List Choice} (h : shortest clause rest = c :: others) :
    Mentions (clause :: rest) c :=
  ⟨_, shortest_mem clause rest, .inl (h ▸ List.mem_cons_self)⟩

theorem Mentions.opposite {clauses : List (List Choice)} {c : Choice} (h : Mentions clauses c) :
    Mentions clauses c.opposite := by
  obtain ⟨clause, hclause, hmem⟩ := h
  refine ⟨clause, hclause, ?_⟩
  rw [Choice.opposite_opposite]
  exact hmem.symm

theorem solves_of_model? {clauses : List (List Choice)} {choices : List Choice}
    (h : model? clauses = some choices) : Solves choices clauses := by
  fun_induction model? clauses generalizing choices with
  | case1 =>
      cases h
      exact solves_nil
  | case2 => cases h
  | case3 clause rest c others hshort made hmade ih =>
      cases h
      exact (ih hmade).cons (mentions_of_shortest hshort)
  | case4 clause rest c others hshort hnone ih₁ ih₂ =>
      obtain ⟨made, hmade, rfl⟩ := Option.map_eq_some_iff.mp h
      exact (ih₂ hmade).cons (mentions_of_shortest hshort).opposite

/-- An assignment makes every choice or its opposite, so one of the two branches would have
found it. -/
theorem models_eq_false_of_model? {clauses : List (List Choice)} (h : model? clauses = none)
    (assignment : Assignment) : models assignment clauses = false := by
  fun_induction model? clauses with
  | case1 => cases h
  | case2 clause rest hshort =>
      have hempty : [] ∈ clause :: rest := hshort ▸ shortest_mem clause rest
      rw [Bool.eq_false_iff, ne_eq, models_iff]
      intro hall
      obtain ⟨c, hc, -⟩ := hall [] hempty
      exact List.not_mem_nil hc
  | case3 => cases h
  | case4 clause rest c others hshort hnone ih₁ ih₂ =>
      rw [Option.map_eq_none_iff] at h
      rw [Bool.eq_false_iff]
      intro hmodels
      cases hc : c.holds assignment with
      | true => exact Bool.false_ne_true ((ih₁ hnone).symm.trans (models_select hc hmodels))
      | false =>
          have ho : c.opposite.holds assignment = true := by simp [hc]
          exact Bool.false_ne_true ((ih₂ h).symm.trans (models_select ho hmodels))

end Clausal.Search

/-! ## Correct procedures -/

namespace Clausal

namespace Choice

theorem eq_or_eq_opposite {a b : Choice} (h : a.var = b.var) : a = b ∨ a = b.opposite := by
  by_cases hvalue : a.value = b.value
  · left
    rw [← of_var_value a, ← of_var_value b, h, hvalue]
  · right
    have hflip : a.value = !b.value := by
      cases ha : a.value <;> cases hb : b.value <;> simp_all
    rw [← of_var_value a, ← of_var_value b.opposite, var_opposite, value_opposite, h, hflip]

end Choice

namespace Search

/-- The clauses are over so many variables. -/
def Within (width : Nat) (clauses : List (List Choice)) : Prop :=
  ∀ clause ∈ clauses, ∀ c ∈ clause, c.var < width

/-- The procedure is sound where it says yes, complete where it says no, and never gives up. -/
structure Procedure.Correct (procedure : Procedure) : Prop where
  satisfiable : ∀ {width clauses choices}, Within width clauses →
    procedure width clauses = .satisfiable choices →
      Compatible choices ∧ Covers choices clauses
  unsatisfiable : ∀ {width clauses}, Within width clauses →
    procedure width clauses = .unsatisfiable →
      ∀ assignment, models assignment clauses = false
  decided : ∀ {width clauses}, Within width clauses → procedure width clauses ≠ .undecided

/-! ### From choices to an assignment -/

theorem size_foldl_set (choices : List Choice) (start : Assignment) :
    (choices.foldl (fun assignment choice =>
      assignment.setIfInBounds choice.var choice.value) start).size = start.size := by
  induction choices generalizing start with
  | nil => rfl
  | cons c rest ih => rw [List.foldl_cons, ih, Array.size_setIfInBounds]

@[simp] theorem size_fill (width : Nat) (choices : List Choice) :
    (fill width choices).size = width := by
  rw [fill, size_foldl_set, Array.size_replicate]

/-- Once a choice has been entered, no other one about its variable comes after it. -/
theorem getElem?_foldl_set {c : Choice} {choices : List Choice} {start : Assignment}
    (alone : ∀ d ∈ choices, d.var = c.var → d = c) (room : c.var < start.size)
    (h : c ∈ choices ∨ start[c.var]? = some c.value) :
    (choices.foldl (fun assignment choice =>
      assignment.setIfInBounds choice.var choice.value) start)[c.var]? = some c.value := by
  induction choices generalizing start with
  | nil => exact h.resolve_left List.not_mem_nil
  | cons d rest ih =>
      rw [List.forall_mem_cons] at alone
      rw [List.foldl_cons]
      apply ih alone.2 (by rwa [Array.size_setIfInBounds])
      by_cases hvar : d.var = c.var
      · right
        rw [alone.1 hvar, Array.getElem?_setIfInBounds_self_of_lt room]
      · rw [Array.getElem?_setIfInBounds_ne hvar]
        refine h.imp_left fun hmem => ?_
        rcases List.mem_cons.mp hmem with rfl | hmem
        · exact absurd rfl hvar
        · exact hmem

theorem holds_fill {width : Nat} {choices : List Choice} (compatible : Compatible choices)
    {c : Choice} (hc : c ∈ choices) (hvar : c.var < width) :
    c.holds (fill width choices) = true := by
  have alone : ∀ d ∈ choices, d.var = c.var → d = c := by
    intro d hd hsame
    rcases Choice.eq_or_eq_opposite hsame with rfl | rfl
    · rfl
    · exact absurd hd (compatible c hc)
  have room : c.var < (Array.replicate width false).size := by rwa [Array.size_replicate]
  have hget := getElem?_foldl_set alone room (.inl hc)
  rw [Choice.holds, Array.getD_eq_getD_getElem?, fill, hget]
  simp

theorem models_fill {width : Nat} {choices : List Choice} {clauses : List (List Choice)}
    (within : Within width clauses) (compatible : Compatible choices)
    (covers : Covers choices clauses) : models (fill width choices) clauses = true := by
  rw [models_iff]
  intro clause hclause
  obtain ⟨c, hc, hmade⟩ := covers clause hclause
  exact ⟨c, hc, holds_fill compatible hmade (within clause hclause c hc)⟩

/-! ### From an assignment to choices -/

theorem mem_choicesOf_iff {assignment : Assignment} {c : Choice} :
    c ∈ choicesOf assignment ↔ c.var < assignment.size ∧ c.holds assignment = true := by
  simp only [choicesOf, List.mem_map, List.mem_range, Choice.holds, beq_iff_eq]
  constructor
  · rintro ⟨var, hvar, rfl⟩
    simpa using hvar
  · rintro ⟨hvar, hvalue⟩
    exact ⟨c.var, hvar, by rw [hvalue, Choice.of_var_value]⟩

theorem compatible_choicesOf (assignment : Assignment) : Compatible (choicesOf assignment) := by
  intro c hc hopposite
  have hmade := (mem_choicesOf_iff.mp hc).2
  have hnot := (mem_choicesOf_iff.mp hopposite).2
  simp [hmade] at hnot

theorem covers_choicesOf {assignment : Assignment} {clauses : List (List Choice)}
    (within : Within assignment.size clauses) (h : models assignment clauses = true) :
    Covers (choicesOf assignment) clauses := by
  rw [models_iff] at h
  intro clause hclause
  obtain ⟨c, hc, hmade⟩ := h clause hclause
  exact ⟨c, hc, mem_choicesOf_iff.mpr ⟨within clause hclause c hc, hmade⟩⟩

/-! ### The procedure at hand -/

theorem split_ne_undecided (clauses : List (List Choice)) : split clauses ≠ .undecided := by
  unfold split
  cases model? clauses <;> simp

theorem split_satisfiable {clauses : List (List Choice)} {choices : List Choice}
    (h : split clauses = .satisfiable choices) :
    Compatible choices ∧ Covers choices clauses := by
  unfold split at h
  cases hm : model? clauses with
  | none => simp [hm] at h
  | some found =>
      simp only [hm, Verdict.satisfiable.injEq] at h
      subst h
      exact ⟨(solves_of_model? hm).compatible, (solves_of_model? hm).covers⟩

theorem split_unsatisfiable {clauses : List (List Choice)} (h : split clauses = .unsatisfiable)
    (assignment : Assignment) : models assignment clauses = false := by
  unfold split at h
  cases hm : model? clauses with
  | none => exact models_eq_false_of_model? hm assignment
  | some found => simp [hm] at h

/-- Splitting, an assignment that has been checked, or a refutation that has been replayed. -/
theorem verdict_cases (width : Nat) (clauses : List (List Choice)) :
    verdict width clauses = split clauses ∨
      (∃ assignment, verdict width clauses = .satisfiable (choicesOf assignment) ∧
        assignment.size = width ∧ models assignment clauses = true) ∨
      (verdict width clauses = .unsatisfiable ∧ ∃ steps, refutes clauses steps = true) := by
  unfold verdict
  cases explore width clauses with
  | model assignment =>
      by_cases h : assignment.size = width ∧ models assignment clauses = true
      · exact .inr (.inl ⟨assignment, by simp [h], h⟩)
      · exact .inl (if_neg h)
  | refutation steps =>
      by_cases h : refutes clauses steps = true
      · exact .inr (.inr ⟨if_pos h, steps, h⟩)
      · exact .inl (if_neg h)
  | unknown => exact .inl rfl

theorem verdict_correct : Procedure.Correct verdict where
  satisfiable := by
    intro width clauses choices within h
    rcases verdict_cases width clauses with hsplit | ⟨a, hmodel, hsize, hmodels⟩ | ⟨hno, -⟩
    · exact split_satisfiable (hsplit.symm.trans h)
    · rw [hmodel, Verdict.satisfiable.injEq] at h
      subst h
      subst hsize
      exact ⟨compatible_choicesOf a, covers_choicesOf within hmodels⟩
    · simp [hno] at h
  unsatisfiable := by
    intro width clauses _ h assignment
    rcases verdict_cases width clauses with hsplit | ⟨a, hmodel, -, -⟩ | ⟨-, steps, hsteps⟩
    · exact split_unsatisfiable (hsplit.symm.trans h) assignment
    · simp [hmodel] at h
    · exact models_eq_false_of_refutes hsteps
  decided := by
    intro width clauses _ h
    rcases verdict_cases width clauses with hsplit | ⟨a, hmodel, -, -⟩ | ⟨hno, -⟩
    · exact split_ne_undecided clauses (hsplit.symm.trans h)
    · simp [hmodel] at h
    · simp [hno] at h

end Search

end Clausal

import Clausal.Search.Choice

/-!
# Refutations

Two clauses, one with a choice and one with its opposite, together imply what remains of
both without them.  A refutation is a list of steps, each of which draws one clause from
earlier ones in this way, and reaches the clause without choices, which nothing satisfies.
Steps may name clauses that are not there or choices that are not in them: every clause that
a step draws is implied all the same, which is what `replay_sound` states.
-/

namespace Clausal.Search

/-- Merges `x` and a part that follows it into an ascending clause, where `rest` merges that
part and `whole` is `x` with it. -/
def mergeInto (x : Choice) (rest : List Choice → List Choice) (whole : List Choice) :
    List Choice → List Choice
  | [] => whole
  | y :: b =>
      if x.before y then x :: rest (y :: b)
      else if y.before x then y :: mergeInto x rest whole b
      else x :: rest b

def merge : List Choice → List Choice → List Choice
  | [], b => b
  | x :: a, b => mergeInto x (merge a) (x :: a) b

theorem mem_mergeInto {x : Choice} {rest : List Choice → List Choice} {a : List Choice}
    (hrest : ∀ (b : List Choice) (c : Choice), c ∈ rest b ↔ c ∈ a ∨ c ∈ b)
    (b : List Choice) (c : Choice) :
    c ∈ mergeInto x rest (x :: a) b ↔ c ∈ x :: a ∨ c ∈ b := by
  induction b with
  | nil => simp [mergeInto]
  | cons y b ih =>
      unfold mergeInto
      split
      · simp only [List.mem_cons, hrest]
        grind
      · split
        · simp only [List.mem_cons, ih]
          grind
        · rename_i hxy hyx
          have hcode : x.code = y.code := by
            simp only [Choice.before, decide_eq_true_eq] at hxy hyx
            omega
          have heq : x = y := by
            cases x
            cases y
            simpa using hcode
          subst heq
          simp only [List.mem_cons, hrest]
          grind

theorem mem_merge (a b : List Choice) (c : Choice) : c ∈ merge a b ↔ c ∈ a ∨ c ∈ b := by
  induction a generalizing b c with
  | nil => simp [merge]
  | cons x a ih =>
      unfold merge
      exact mem_mergeInto ih b c

/-- What two clauses imply together: the first without the pivot, and the second without
its opposite. -/
def resolve (pivot : Choice) (a b : List Choice) : List Choice :=
  merge (a.filter (· != pivot)) (b.filter (· != pivot.opposite))

/-- One clause drawn from clauses with these numbers: the first is resolved with the others
in order, each with its pivot. -/
structure Step where
  first : Nat
  pivots : Array Choice
  others : Array Nat
  deriving DecidableEq, Repr

namespace Step

def link (step : Step) (pivot : Choice) (other : Nat) : Step :=
  { step with pivots := step.pivots.push pivot, others := step.others.push other }

/-- Resolves a clause with the clauses that have these numbers, passing over numbers that
no clause has. -/
def resolveAll (known : Array (List Choice)) :
    List Choice → List (Choice × Nat) → List Choice
  | clause, [] => clause
  | clause, (pivot, other) :: rest =>
      match known[other]? with
      | some side => resolveAll known (resolve pivot clause side) rest
      | none => resolveAll known clause rest

def drawn? (known : Array (List Choice)) (step : Step) : Option (List Choice) :=
  known[step.first]?.map fun clause =>
    resolveAll known clause (step.pivots.toList.zip step.others.toList)

end Step

def replay : List Step → Array (List Choice) → Array (List Choice)
  | [], known => known
  | step :: rest, known =>
      match step.drawn? known with
      | some clause => replay rest (known.push clause)
      | none => replay rest known

def refutes (clauses : List (List Choice)) (steps : List Step) : Bool :=
  (replay steps (clauses.map fun clause =>
    clause.mergeSort fun a b => !b.before a).toArray).contains []

variable {assignment : Assignment}

theorem holds_resolve (pivot : Choice) {a b : List Choice}
    (ha : ∃ c ∈ a, c.holds assignment = true) (hb : ∃ c ∈ b, c.holds assignment = true) :
    ∃ c ∈ resolve pivot a b, c.holds assignment = true := by
  cases hp : pivot.holds assignment with
  | true =>
      obtain ⟨c, hc, hholds⟩ := hb
      refine ⟨c, (mem_merge _ _ _).mpr (.inr ?_), hholds⟩
      have : c ≠ pivot.opposite := by
        rintro rfl
        simp [hp] at hholds
      simpa [List.mem_filter, hc] using this
  | false =>
      obtain ⟨c, hc, hholds⟩ := ha
      refine ⟨c, (mem_merge _ _ _).mpr (.inl ?_), hholds⟩
      have : c ≠ pivot := by
        rintro rfl
        simp [hp] at hholds
      simpa [List.mem_filter, hc] using this

def Satisfied (assignment : Assignment) (known : Array (List Choice)) : Prop :=
  ∀ clause ∈ known, ∃ c ∈ clause, c.holds assignment = true

theorem Satisfied.resolveAll {known : Array (List Choice)} (h : Satisfied assignment known)
    (chain : List (Choice × Nat)) {clause : List Choice}
    (hclause : ∃ c ∈ clause, c.holds assignment = true) :
    ∃ c ∈ Step.resolveAll known clause chain, c.holds assignment = true := by
  induction chain generalizing clause with
  | nil => exact hclause
  | cons link rest ih =>
      obtain ⟨pivot, other⟩ := link
      unfold Step.resolveAll
      split
      · rename_i side hside
        exact ih (holds_resolve pivot hclause (h side (Array.mem_of_getElem? hside)))
      · exact ih hclause

/-- Steps draw only clauses that are implied. -/
theorem replay_sound (steps : List Step) {known : Array (List Choice)}
    (h : Satisfied assignment known) : Satisfied assignment (replay steps known) := by
  induction steps generalizing known with
  | nil => exact h
  | cons step rest ih =>
      unfold replay
      split
      · rename_i clause hdrawn
        apply ih
        intro c hc
        rcases Array.mem_push.mp hc with hold | rfl
        · exact h c hold
        · obtain ⟨first, hfirst, rfl⟩ := Option.map_eq_some_iff.mp hdrawn
          exact h.resolveAll _ (h first (Array.mem_of_getElem? hfirst))
      · exact ih h

theorem models_eq_false_of_refutes {clauses : List (List Choice)} {steps : List Step}
    (h : refutes clauses steps = true) : models assignment clauses = false := by
  cases hmodels : models assignment clauses with
  | false => rfl
  | true =>
      exfalso
      have hsat : Satisfied assignment (clauses.map fun clause =>
          clause.mergeSort fun a b => !b.before a).toArray := by
        intro sorted hsorted
        obtain ⟨clause, hclause, rfl⟩ := List.mem_map.mp (by simpa using hsorted)
        obtain ⟨c, hc, hholds⟩ := List.any_eq_true.mp (List.all_eq_true.mp hmodels clause hclause)
        exact ⟨c, by simpa using hc, hholds⟩
      have hempty := replay_sound steps hsat [] (by simpa [refutes] using h)
      obtain ⟨c, hc, -⟩ := hempty
      simp at hc

end Clausal.Search

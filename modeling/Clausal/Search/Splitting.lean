import Clausal.Search.Choice

/-!
# Splitting

A complete search over clauses.  `select` commits to a choice: clauses with it are done
with, and its opposite is dropped from the others.  The search takes a choice of a shortest
clause and tries it and then its opposite, so clauses of one choice decide themselves.  Each
step drops at least one choice or clause, which is why it ends.
-/

namespace Clausal

namespace Search

/-- What remains of the clauses once a choice is made. -/
def select (choice : Choice) (clauses : List (List Choice)) : List (List Choice) :=
  (clauses.filter fun clause => !clause.contains choice).map fun clause =>
    clause.filter (· != choice.opposite)

def weight : List (List Choice) → Nat
  | [] => 0
  | clause :: rest => clause.length + 1 + weight rest

/-- A shortest clause of a non-empty list, given one to start from. -/
def shortest (best : List Choice) : List (List Choice) → List Choice
  | [] => best
  | clause :: rest => shortest (if clause.length < best.length then clause else best) rest

theorem shortest_mem (best : List Choice) (clauses : List (List Choice)) :
    shortest best clauses ∈ best :: clauses := by
  induction clauses generalizing best with
  | nil => simp [shortest]
  | cons clause rest ih =>
      unfold shortest
      split
      · exact List.mem_cons_of_mem best (ih clause)
      · rcases List.mem_cons.mp (ih best) with h | h
        · exact List.mem_cons.mpr (.inl h)
        · exact List.mem_cons_of_mem best (List.mem_cons_of_mem clause h)

theorem weight_select_le (choice : Choice) (clauses : List (List Choice)) :
    weight (select choice clauses) ≤ weight clauses := by
  induction clauses with
  | nil => simp [select, weight]
  | cons clause rest ih =>
      have hlen : (clause.filter (· != choice.opposite)).length ≤ clause.length :=
        List.length_filter_le _ _
      simp only [select, List.filter_cons] at ih ⊢
      split
      · simp only [List.map_cons, weight]
        omega
      · simp only [weight]
        omega

/-- Selecting a choice that some clause has, or whose opposite it has, drops something. -/
theorem weight_select_lt {choice : Choice} {clauses : List (List Choice)}
    {clause : List Choice} (hmem : clause ∈ clauses)
    (hc : choice ∈ clause ∨ choice.opposite ∈ clause) :
    weight (select choice clauses) < weight clauses := by
  induction clauses with
  | nil => simp at hmem
  | cons first rest ih =>
      have hle : weight (select choice rest) ≤ weight rest := weight_select_le choice rest
      have hlen : (first.filter (· != choice.opposite)).length ≤ first.length :=
        List.length_filter_le _ _
      simp only [select, List.filter_cons] at ih hle ⊢
      rcases List.mem_cons.mp hmem with h | h
      · subst h
        by_cases hin : choice ∈ clause
        · simp only [List.contains_eq_mem, hin, decide_true, Bool.not_true, Bool.false_eq_true,
            if_false, weight] at hle ⊢
          omega
        · have hop : choice.opposite ∈ clause := hc.resolve_left hin
          have hshort : (clause.filter (· != choice.opposite)).length < clause.length := by
            rw [List.length_filter_lt_length_iff_exists]
            exact ⟨_, hop, by simp⟩
          simp only [List.contains_eq_mem, hin, decide_false, Bool.not_false, if_true,
            List.map_cons, weight] at hle ⊢
          omega
      · have := ih h
        split
        · simp only [List.map_cons, weight]
          omega
        · simp only [weight]
          omega

def model? (clauses : List (List Choice)) : Option (List Choice) :=
  match clauses with
  | [] => some []
  | clause :: rest =>
      match _h : shortest clause rest with
      | [] => none
      | choice :: _ =>
          match model? (select choice (clause :: rest)) with
          | some choices => some (choice :: choices)
          | none =>
              (model? (select choice.opposite (clause :: rest))).map (choice.opposite :: ·)
termination_by weight clauses
decreasing_by
  · exact weight_select_lt (shortest_mem clause rest) (by simp [_h])
  · exact weight_select_lt (shortest_mem clause rest) (by simp [_h])

end Search

end Clausal

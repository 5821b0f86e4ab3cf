import Mathlib.Data.List.Nodup
import Clausal.Proofs.Encoding.Operation

/-!
# Registration is consistent

In every reachable encoding a variable's set holds distinct positive literals of that variable
only, and every literal of a clause is registered up to polarity.  The registered literals of
all variables together therefore have distinct atoms, which is what makes them numberable.
-/

namespace Clausal

namespace Variable

theorem isRegistered_iff_mem (v : Variable) (literal : Literal) :
    v.isRegistered literal = true ↔ literal.atom ∈ v.registered.map Literal.atom := by
  simp only [isRegistered_iff, Literal.same_iff, List.mem_map]
  exact exists_congr fun known => and_congr_right fun _ => eq_comm

end Variable

namespace Encoding

/-- A variable's registered literals are positive, its own, and of distinct atoms. -/
structure Placed (var : Nat) (v : Variable) : Prop where
  positive : ∀ known ∈ v.registered, known.negated = false
  own : ∀ known ∈ v.registered, known.atom.var.val = var
  distinct : (v.registered.map Literal.atom).Nodup

/-- All clauses, the hard ones first. -/
def clauses (e : Encoding) : List (Clause Literal) := e.hard.toList ++ e.soft.toList

structure Consistent (e : Encoding) : Prop where
  placed : ∀ var v, e.vars[var]? = some v → Placed var v
  covered : ∀ clause ∈ e.clauses, ∀ literal ∈ clause.literals, e.isRegistered literal = true

theorem placed_fresh (var : Nat) (name : Option String) : Placed var (.fresh name) where
  positive := by simp
  own := by simp
  distinct := by simp

theorem Placed.add {var : Nat} {v : Variable} {literal : Literal} (h : Placed var v)
    (positive : literal.negated = false) (own : literal.atom.var.val = var)
    (unknown : v.isRegistered literal = false) : Placed var (v.add literal) where
  positive := by
    intro known hk
    rw [Variable.registered_add, List.mem_append, List.mem_singleton] at hk
    rcases hk with hk | rfl
    · exact h.positive known hk
    · exact positive
  own := by
    intro known hk
    rw [Variable.registered_add, List.mem_append, List.mem_singleton] at hk
    rcases hk with hk | rfl
    · exact h.own known hk
    · exact own
  distinct := by
    have hnew : literal.atom ∉ v.registered.map Literal.atom := by
      rw [← Variable.isRegistered_iff_mem, unknown]
      exact Bool.false_ne_true
    rw [Variable.registered_add, List.map_append, List.map_singleton, ← List.concat_eq_append]
    exact h.distinct.concat hnew

/-! ## What is registered -/

/-- A new variable has no registered literals. -/
theorem isRegistered_push (e : Encoding) (name : Option String) (literal : Literal) :
    ({ e with vars := e.vars.push (.fresh name) } : Encoding).isRegistered literal =
      e.isRegistered literal := by
  unfold isRegistered
  by_cases hlast : literal.atom.var.val = e.vars.size
  · have hfresh : (Variable.fresh name).isRegistered literal = false := by
      rw [Bool.eq_false_iff, ne_eq, Variable.isRegistered_iff]
      simp
    simp [hlast, hfresh]
  · rw [Array.getElem?_push, if_neg hlast]

theorem isRegistered_enroll {e : Encoding} {v : Variable} {literal : Literal}
    (found : e.vars[literal.atom.var.val]? = some v) (other : Literal) :
    ({ e with vars := e.vars.modify literal.atom.var.val (·.add literal) } :
        Encoding).isRegistered other = true ↔
      e.isRegistered other = true ∨ other.atom = literal.atom := by
  unfold isRegistered
  by_cases hvar : literal.atom.var.val = other.atom.var.val
  · rw [hvar] at found
    simp only [Array.getElem?_modify, hvar, if_true, found, Option.map_some]
    rw [Variable.isRegistered_iff_mem, Variable.isRegistered_iff_mem, Variable.registered_add,
      List.map_append, List.mem_append, List.map_singleton, List.mem_singleton]
  · have hne : other.atom ≠ literal.atom := fun heq => hvar (by rw [heq])
    simp only [Array.getElem?_modify, hvar, if_false, hne, or_false]

/-! ## What a change keeps -/

/-- Once registered, a literal stays so. -/
theorem Change.isRegistered {e e' : Encoding} (h : e.Change e') {literal : Literal}
    (hl : e.isRegistered literal = true) : e'.isRegistered literal = true := by
  cases h with
  | allocate name room => exact (e.isRegistered_push name literal).trans hl
  | enroll new positive found unknown => exact (isRegistered_enroll found literal).mpr (.inl hl)
  | demand clause hard covered => exact hl
  | prefer clause soft covered => exact hl
  | remark text oneLine => exact hl
  | remarkHard text oneLine => exact hl
  | remarkSoft text oneLine => exact hl

theorem Change.placed {e e' : Encoding} (h : e.Change e')
    (hp : ∀ var v, e.vars[var]? = some v → Placed var v) :
    ∀ var v, e'.vars[var]? = some v → Placed var v := by
  cases h with
  | allocate name room =>
      intro var v hv
      rw [Array.getElem?_push] at hv
      split at hv
      · cases hv
        exact placed_fresh var name
      · exact hp var v hv
  | enroll new positive found unknown =>
      intro var v hv
      rw [Array.getElem?_modify] at hv
      split at hv
      · rename_i hvar
        obtain ⟨old, hold, rfl⟩ := Option.map_eq_some_iff.mp hv
        rw [← hvar, found] at hold
        cases hold
        exact (hp _ _ (hvar ▸ found)).add positive hvar unknown
      · exact hp var v hv
  | demand clause hard covered => exact hp
  | prefer clause soft covered => exact hp
  | remark text oneLine => exact hp
  | remarkHard text oneLine => exact hp
  | remarkSoft text oneLine => exact hp

/-- A change adds no clause, or one whose literals are registered. -/
theorem Change.mem_clauses {e e' : Encoding} (h : e.Change e') {clause : Clause Literal}
    (hc : clause ∈ e'.clauses) :
    clause ∈ e.clauses ∨ ∀ literal ∈ clause.literals, e.isRegistered literal = true := by
  cases h with
  | allocate name room => exact .inl hc
  | enroll new positive found unknown => exact .inl hc
  | demand added hard covered =>
      simp only [clauses, ClauseList.toList_add, List.mem_append, List.mem_singleton] at hc ⊢
      rcases hc with (hc | rfl) | hc
      · exact .inl (.inl hc)
      · exact .inr covered
      · exact .inl (.inr hc)
  | prefer added soft covered =>
      simp only [clauses, ClauseList.toList_add, List.mem_append, List.mem_singleton] at hc ⊢
      rcases hc with hc | hc | rfl
      · exact .inl (.inl hc)
      · exact .inl (.inr hc)
      · exact .inr covered
  | remark text oneLine => exact .inl hc
  | remarkHard text oneLine => exact .inl hc
  | remarkSoft text oneLine => exact .inl hc

theorem Change.consistent {e e' : Encoding} (h : e.Change e') (hc : e.Consistent) :
    e'.Consistent where
  placed := h.placed hc.placed
  covered := by
    intro clause hclause literal hl
    rcases h.mem_clauses hclause with hold | hnew
    · exact h.isRegistered (hc.covered clause hold literal hl)
    · exact h.isRegistered (hnew literal hl)

theorem Change.id_eq {e e' : Encoding} (h : e.Change e') : e'.id = e.id := by
  cases h <;> rfl

theorem Change.size_le {e e' : Encoding} (h : e.Change e') : e.vars.size ≤ e'.vars.size := by
  cases h with
  | allocate name room => simp
  | enroll literal positive found unknown => simp
  | _ => exact Nat.le_refl _

theorem Grows.id_eq {e e' : Encoding} (h : e.Grows e') : e'.id = e.id := by
  induction h with
  | refl => rfl
  | tail _ hstep ih => exact hstep.id_eq.trans ih

theorem Grows.size_le {e e' : Encoding} (h : e.Grows e') : e.vars.size ≤ e'.vars.size := by
  induction h with
  | refl => exact Nat.le_refl _
  | tail _ hstep ih => exact Nat.le_trans ih hstep.size_le

theorem Grows.isRegistered {e e' : Encoding} (h : e.Grows e') {literal : Literal}
    (hl : e.isRegistered literal = true) : e'.isRegistered literal = true := by
  induction h with
  | refl => exact hl
  | tail _ hstep ih => exact hstep.isRegistered ih

theorem Grows.consistent {e e' : Encoding} (h : e.Grows e') (hc : e.Consistent) :
    e'.Consistent := by
  induction h with
  | refl => exact hc
  | tail _ hstep ih => exact hstep.consistent ih

theorem consistent_empty (id : EncodingId) : (empty id).Consistent where
  placed := by simp
  covered := by simp [clauses, empty]

theorem Reachable.consistent {e : Encoding} (h : e.Reachable) : e.Consistent := by
  obtain ⟨id, grown⟩ := h.grown
  exact grown.consistent (consistent_empty id)

/-! ## The registered literals of all variables -/

theorem Consistent.positive {e : Encoding} (h : e.Consistent) {known : Literal}
    (hk : known ∈ e.registered.flatten) : known.negated = false := by
  simp only [registered, List.mem_flatten, List.mem_map, Array.mem_toList_iff] at hk
  obtain ⟨_, ⟨v, hv, rfl⟩, hk⟩ := hk
  obtain ⟨var, hvar⟩ := Array.getElem?_of_mem hv
  exact (h.placed var v hvar).positive known hk

/-- No atom is registered twice, in one variable or in two. -/
theorem Consistent.nodup {e : Encoding} (h : e.Consistent) :
    (e.registered.flatten.map Literal.atom).Nodup := by
  rw [registered, List.map_flatten, List.map_map, List.nodup_flatten]
  constructor
  · intro atoms hatoms
    obtain ⟨v, hv, rfl⟩ := List.mem_map.mp hatoms
    obtain ⟨var, hvar⟩ := Array.getElem?_of_mem (Array.mem_toList_iff.mp hv)
    exact (h.placed var v hvar).distinct
  · rw [List.pairwise_map, List.pairwise_iff_getElem]
    intro i j hi hj hij atom hleft hright
    have hiv : e.vars[i]? = some e.vars.toList[i] := by simp
    have hjv : e.vars[j]? = some e.vars.toList[j] := by simp
    obtain ⟨a, ha, rfl⟩ := List.mem_map.mp hleft
    obtain ⟨b, hb, hab⟩ := List.mem_map.mp hright
    have hai := (h.placed i _ hiv).own a ha
    have hbj := (h.placed j _ hjv).own b hb
    rw [hab, hai] at hbj
    omega

theorem Consistent.isRegistered_iff {e : Encoding} (h : e.Consistent) (literal : Literal) :
    e.isRegistered literal = true ↔
      literal.atom ∈ e.registered.flatten.map Literal.atom := by
  rw [registered, List.map_flatten, List.map_map, List.mem_flatten]
  constructor
  · intro hr
    unfold isRegistered at hr
    cases hv : e.vars[literal.atom.var.val]? with
    | none => simp [hv] at hr
    | some v =>
        rw [hv] at hr
        have hmem : v ∈ e.vars.toList := Array.mem_toList_iff.mpr (Array.mem_of_getElem? hv)
        exact ⟨_, List.mem_map_of_mem hmem, (v.isRegistered_iff_mem literal).mp hr⟩
  · rintro ⟨atoms, hatoms, hatom⟩
    obtain ⟨v, hv, rfl⟩ := List.mem_map.mp hatoms
    obtain ⟨var, hvar⟩ := Array.getElem?_of_mem (Array.mem_toList_iff.mp hv)
    obtain ⟨known, hk, hka⟩ := List.mem_map.mp hatom
    -- the literal's own variable is the one that holds it
    have hown : literal.atom.var.val = var := hka ▸ (h.placed var v hvar).own known hk
    unfold isRegistered
    rw [hown, hvar]
    exact (v.isRegistered_iff_mem literal).mpr hatom

end Encoding

end Clausal

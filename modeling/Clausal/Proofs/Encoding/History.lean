import Mathlib.Data.List.Induction
import Clausal.Proofs.Encoding.Registration

/-!
# The order of registration

An operation registers at most one literal, and puts it behind the earlier ones of its variable.
A variable's registered literals therefore stand in the order in which a run of operations came to
register them: an atom is in front of another exactly if at some moment of the run it was
registered and the other was not.
-/

namespace Clausal

namespace Encoding

/-- What these operations, failing ones included, make of an empty encoding. -/
def run (id : EncodingId) (ops : List Operation) : Encoding :=
  ops.foldl (fun e op => (op.run e).1) (empty id)

theorem run_concat (id : EncodingId) (ops : List Operation) (op : Operation) :
    run id (ops ++ [op]) = (op.run (run id ops)).1 := by
  rw [run, List.foldl_append]
  rfl

theorem reachable_iff_run {e : Encoding} : e.Reachable ↔ ∃ id ops, run id ops = e := by
  constructor
  · intro h
    induction h with
    | empty id => exact ⟨id, [], rfl⟩
    | step op _ ih =>
        obtain ⟨id, ops, rfl⟩ := ih
        exact ⟨id, ops ++ [op], run_concat id ops op⟩
  · rintro ⟨id, ops, rfl⟩
    induction ops using List.reverseRecOn with
    | nil => exact .empty id
    | append_singleton ops op ih =>
        rw [run_concat]
        exact .step op ih

theorem run_consistent (id : EncodingId) (ops : List Operation) : (run id ops).Consistent :=
  (reachable_iff_run.mpr ⟨id, ops, rfl⟩).consistent

/-! ## A variable's atoms -/

/-- The atoms of a variable's registered literals, in the order of registration. -/
def atomsOf (e : Encoding) (var : Nat) : List Atom :=
  (e.registered[var]?.getD []).map Literal.atom

theorem atomsOf_of_vars {e : Encoding} {var : Nat} {v : Variable} (found : e.vars[var]? = some v) :
    e.atomsOf var = v.registered.map Literal.atom := by
  rw [atomsOf, registered, List.getElem?_map, Array.getElem?_toList, found]
  rfl

theorem atomsOf_of_none {e : Encoding} {var : Nat} (missing : e.vars[var]? = none) :
    e.atomsOf var = [] := by
  rw [atomsOf, registered, List.getElem?_map, Array.getElem?_toList, missing]
  rfl

theorem atomsOf_congr {e e' : Encoding} (h : e'.vars = e.vars) (var : Nat) :
    e'.atomsOf var = e.atomsOf var := by
  rw [atomsOf, atomsOf, registered, registered, h]

@[simp] theorem atomsOf_empty (id : EncodingId) (var : Nat) : (empty id).atomsOf var = [] := rfl

theorem isRegistered_iff_mem_atomsOf {e : Encoding} {literal : Literal} :
    e.isRegistered literal = true ↔ literal.atom ∈ e.atomsOf literal.atom.var.val := by
  unfold isRegistered
  cases found : e.vars[literal.atom.var.val]? with
  | none => simp [atomsOf_of_none found]
  | some v => rw [atomsOf_of_vars found, ← Variable.isRegistered_iff_mem]

theorem isRegistered_ofAtom_iff {e : Encoding} {atom : Atom} :
    e.isRegistered (.ofAtom atom) = true ↔ atom ∈ e.atomsOf atom.var.val :=
  isRegistered_iff_mem_atomsOf

theorem Consistent.var_of_mem_atomsOf {e : Encoding} (h : e.Consistent) {var : Nat} {atom : Atom}
    (hmem : atom ∈ e.atomsOf var) : atom.var.val = var := by
  cases found : e.vars[var]? with
  | none =>
      rw [atomsOf_of_none found] at hmem
      cases hmem
  | some v =>
      rw [atomsOf_of_vars found, List.mem_map] at hmem
      obtain ⟨known, hknown, rfl⟩ := hmem
      exact (h.placed var v found).own known hknown

theorem Consistent.nodup_atomsOf {e : Encoding} (h : e.Consistent) (var : Nat) :
    (e.atomsOf var).Nodup := by
  cases found : e.vars[var]? with
  | none =>
      rw [atomsOf_of_none found]
      exact List.nodup_nil
  | some v =>
      rw [atomsOf_of_vars found]
      exact (h.placed var v found).distinct

/-! ## One operation -/

/-- At most one literal was registered from one encoding to the other, behind the earlier ones of
its variable. -/
inductive AtMostOneNew (e e' : Encoding) : Prop
  | none (kept : ∀ var, e'.atomsOf var = e.atomsOf var)
  | one (atom : Atom) (unknown : e.isRegistered (.ofAtom atom) = false)
      (appended : ∀ var,
        e'.atomsOf var = e.atomsOf var ++ if atom.var.val = var then [atom] else [])

theorem AtMostOneNew.refl (e : Encoding) : e.AtMostOneNew e := .none fun _ => rfl

theorem AtMostOneNew.of_vars {e e' : Encoding} (h : e'.vars = e.vars) : e.AtMostOneNew e' :=
  .none (atomsOf_congr h)

/-- A new variable has no atoms, like one that does not exist. -/
theorem atomsOf_push (e : Encoding) (name : Option String) (var : Nat) :
    ({ e with vars := e.vars.push (.fresh name) } : Encoding).atomsOf var = e.atomsOf var := by
  by_cases hlast : var = e.vars.size
  · have hold : e.vars[var]? = none := Array.getElem?_eq_none (Nat.le_of_eq hlast.symm)
    have hnew : (e.vars.push (.fresh name))[var]? = some (.fresh name) := by
      rw [Array.getElem?_push, if_pos hlast]
    rw [atomsOf_of_none hold, atomsOf_of_vars hnew]
    rfl
  · have hsame : (e.vars.push (.fresh name))[var]? = e.vars[var]? := by
      rw [Array.getElem?_push, if_neg hlast]
    cases hold : e.vars[var]? with
    | none => rw [atomsOf_of_none hold, atomsOf_of_none (hsame.trans hold)]
    | some v => rw [atomsOf_of_vars hold, atomsOf_of_vars (hsame.trans hold)]

theorem atomsOf_enroll {e : Encoding} {v : Variable} {literal : Literal}
    (found : e.vars[literal.atom.var.val]? = some v) (var : Nat) :
    ({ e with vars := e.vars.modify literal.atom.var.val (·.add literal) } : Encoding).atomsOf var =
      e.atomsOf var ++ if literal.atom.var.val = var then [literal.atom] else [] := by
  have hnew : (e.vars.modify literal.atom.var.val (·.add literal))[var]? =
      if literal.atom.var.val = var then e.vars[var]?.map (·.add literal) else e.vars[var]? :=
    Array.getElem?_modify
  by_cases hvar : literal.atom.var.val = var
  · subst hvar
    rw [if_pos rfl, found] at hnew
    rw [atomsOf_of_vars found, if_pos rfl, atomsOf_of_vars hnew, Variable.registered_add,
      List.map_append]
    rfl
  · rw [if_neg hvar] at hnew
    rw [if_neg hvar, List.append_nil]
    cases hold : e.vars[var]? with
    | none => rw [atomsOf_of_none hold, atomsOf_of_none (hnew.trans hold)]
    | some w => rw [atomsOf_of_vars hold, atomsOf_of_vars (hnew.trans hold)]

section

variable {e e' : Encoding}

theorem newVariable_atMostOneNew {name : Option String} {var : VariableId}
    (h : e.newVariable name = .ok (e', var)) : e.AtMostOneNew e' := by
  obtain ⟨-, rfl⟩ := newVariable_eq_ok_iff.mp h
  exact .none (e.atomsOf_push name)

theorem register_atMostOneNew {literal : Literal} {new : Bool}
    (h : e.register literal = .ok (e', new)) : e.AtMostOneNew e' := by
  obtain ⟨-, v, found, -, rfl⟩ := register_eq_ok_iff.mp h
  cases hr : v.isRegistered literal with
  | true => exact .refl e
  | false =>
      have unknown : e.isRegistered (.ofAtom literal.atom) = false := by
        have hatom : e.isRegistered (.ofAtom literal.atom) = v.isRegistered literal := by
          simp only [isRegistered, Literal.ofAtom, found]
          rfl
        exact hatom.trans hr
      exact .one literal.atom unknown (atomsOf_enroll found)

theorem fetch_atMostOneNew {atom : Atom} {literal : Literal}
    (h : e.fetch atom = .ok (e', literal)) : e.AtMostOneNew e' := by
  obtain ⟨-, new, hr⟩ := fetch_eq_ok_iff.mp h
  exact register_atMostOneNew hr

theorem map_newVariable_atMostOneNew {φ : Type} {family : φ}
    {make : Encoding × VariableId → Encoding × φ}
    (h : (e.newVariable none).map make = .ok (e', family))
    (keeps : ∀ next var, (make (next, var)).1 = next) : e.AtMostOneNew e' := by
  obtain ⟨⟨next, var⟩, hn, hm⟩ := map_eq_ok_iff.mp h
  have he : e' = next := (congrArg Prod.fst hm).symm.trans (keeps next var)
  exact he ▸ newVariable_atMostOneNew hn

theorem addClause_vars {clause : Clause Literal} (h : e.addClause clause = .ok e') :
    e'.vars = e.vars := by
  obtain ⟨-, rfl⟩ := addClause_eq_ok_iff.mp h
  split <;> rfl

theorem addHards_vars (e : Encoding) (clauses : List (List Literal)) :
    (e.addHards clauses).1.vars = e.vars := by
  induction clauses generalizing e with
  | nil => rfl
  | cons literals rest ih =>
      unfold addHards
      cases h : e.addHard literals with
      | error failure => rfl
      | ok next => exact (ih next).trans (addClause_vars h)

theorem map_vars {α : Type} {attempt : Except EncodingError α} {make : α → Encoding}
    (h : attempt.map make = .ok e') (keeps : ∀ result, (make result).vars = e.vars) :
    e'.vars = e.vars := by
  obtain ⟨result, -, rfl⟩ := map_eq_ok_iff.mp h
  exact keeps result

end

end Encoding

namespace Family

variable {φ γ : Type} [Family φ γ] {family : φ} {e e' : Encoding} {coords : γ} {literal : Literal}

theorem fetch_atMostOneNew (h : (fetch family e coords).2 = .ok (e', literal)) :
    e.AtMostOneNew e' := by
  obtain ⟨-, index, next, -, hf⟩ := fetch_eq_ok_iff.mp h
  exact Encoding.fetch_atMostOneNew hf

theorem fetchNamed_atMostOneNew {name : String}
    (h : (fetchNamed family e name coords).2 = .ok (e', literal)) : e.AtMostOneNew e' := by
  obtain ⟨plain, hf, -⟩ := fetchNamed_eq_ok_iff.mp h
  exact fetch_atMostOneNew hf

end Family

open Encoding (AtMostOneNew) in
/-- Whether or not it succeeds, an operation registers at most one literal. -/
theorem Operation.run_atMostOneNew (e : Encoding) (op : Operation) :
    e.AtMostOneNew (op.run e).1 := by
  cases op with
  | newVariable name =>
      exact settle_map_related (.refl e) fun _ _ h => Encoding.newVariable_atMostOneNew h
  | newLine =>
      exact settle_map_related (.refl e) fun _ _ h =>
        Encoding.map_newVariable_atMostOneNew h fun _ _ => rfl
  | newGrid columns symmetric =>
      exact settle_map_related (.refl e) fun _ _ h =>
        Encoding.map_newVariable_atMostOneNew h fun _ _ => rfl
  | newCube rows columns =>
      exact settle_map_related (.refl e) fun _ _ h =>
        Encoding.map_newVariable_atMostOneNew h fun _ _ => rfl
  | newOpenFamily arity =>
      exact settle_map_related (.refl e) fun _ _ h =>
        Encoding.map_newVariable_atMostOneNew h fun _ _ => rfl
  | literal var index =>
      refine settle_map_related (.refl e) fun _ _ h => ?_
      obtain ⟨id, -, hf⟩ := bind_eq_ok_iff.mp h
      exact Encoding.fetch_atMostOneNew hf
  | register key =>
      exact settle_map_related (.refl e) fun _ _ h => Encoding.register_atMostOneNew h
  | fetch family coords =>
      exact settle_map_related (.refl e) fun _ _ h => Family.fetch_atMostOneNew h
  | fetchNamed family name coords =>
      exact settle_map_related (.refl e) fun _ _ h => Family.fetchNamed_atMostOneNew h
  | addClause clause =>
      exact settle_related (.refl e) fun _ h => .of_vars (Encoding.addClause_vars h)
  | addHard literals =>
      exact settle_related (.refl e) fun _ h => .of_vars (Encoding.addClause_vars h)
  | addSoft cost literals =>
      exact settle_related (.refl e) fun _ h => .of_vars (Encoding.addClause_vars h)
  | addHards clauses => exact .of_vars (e.addHards_vars clauses)
  | comment text =>
      exact settle_related (.refl e) fun _ h => .of_vars (Encoding.map_vars h fun _ => rfl)
  | commentHard text =>
      exact settle_related (.refl e) fun _ h => .of_vars (Encoding.map_vars h fun _ => rfl)
  | commentSoft text =>
      exact settle_related (.refl e) fun _ h => .of_vars (Encoding.map_vars h fun _ => rfl)
  | clone => exact .refl e

/-! ## Runs -/

namespace Encoding

theorem AtMostOneNew.atomsOf_grows {e e' : Encoding} (h : e.AtMostOneNew e') (var : Nat) :
    e.atomsOf var <+: e'.atomsOf var := by
  cases h with
  | none kept => exact ⟨[], by rw [List.append_nil, kept]⟩
  | one atom unknown appended =>
      rw [appended]
      exact List.prefix_append _ _

/-- A run that goes on appends to what is registered. -/
theorem atomsOf_run_grows (id : EncodingId) (ops more : List Operation) (var : Nat) :
    (run id ops).atomsOf var <+: (run id (ops ++ more)).atomsOf var := by
  induction more using List.reverseRecOn with
  | nil => exact ⟨[], by rw [List.append_nil, List.append_nil]⟩
  | append_singleton more op ih =>
      rw [← List.append_assoc, run_concat]
      exact ih.trans ((op.run_atMostOneNew _).atomsOf_grows var)

/-- At some moment of the run the first atom is registered and the second is not. -/
def RegisteredBefore (id : EncodingId) (ops : List Operation) (first second : Atom) : Prop :=
  ∃ done, done <+: ops ∧ (run id done).isRegistered (.ofAtom first) = true ∧
    (run id done).isRegistered (.ofAtom second) = false

theorem RegisteredBefore.concat {id : EncodingId} {ops : List Operation} {first second : Atom}
    (h : RegisteredBefore id ops first second) (op : Operation) :
    RegisteredBefore id (ops ++ [op]) first second := by
  obtain ⟨done, hdone, hfirst, hsecond⟩ := h
  exact ⟨done, hdone.trans (List.prefix_append ops [op]), hfirst, hsecond⟩

/-- What stands in front of an atom was registered before it. -/
theorem registeredBefore_of_mem {id : EncodingId} {ops : List Operation} {atom other : Atom}
    {front back : List Atom} (split : (run id ops).atomsOf atom.var.val = front ++ atom :: back)
    (hother : other ∈ front) (hvar : other.var = atom.var) :
    RegisteredBefore id ops other atom := by
  -- The last operation has registered the atom, or it was registered before.
  induction ops using List.reverseRecOn generalizing back with
  | nil =>
      rw [run, List.foldl_nil, atomsOf_empty] at split
      exact absurd split.symm (List.append_ne_nil_of_right_ne_nil _ (List.cons_ne_nil _ _))
  | append_singleton ops op ih =>
      have hstep := op.run_atMostOneNew (run id ops)
      rw [← run_concat] at hstep
      cases hstep with
      | none kept => exact (ih ((kept _).symm.trans split)).concat op
      | one new unknown appended =>
          rw [appended] at split
          by_cases hnew : new.var.val = atom.var.val
          · rw [if_pos hnew] at split
            obtain rfl | ⟨back, last, rfl⟩ := List.eq_nil_or_concat back
            · obtain ⟨hfront, hlast⟩ := List.append_inj' split rfl
              cases hlast
              refine ⟨ops, List.prefix_append ops [op], ?_, unknown⟩
              rwa [isRegistered_ofAtom_iff, hvar, hfront]
            · rw [List.concat_eq_append, ← List.cons_append, ← List.append_assoc] at split
              exact (ih (List.append_inj' split rfl).1).concat op
          · rw [if_neg hnew, List.append_nil] at split
            exact (ih split).concat op

/-- In front of an atom among its variable's stand those that were registered before it. -/
theorem registeredBefore_iff {id : EncodingId} {ops : List Operation} {atom other : Atom}
    {front back : List Atom} (split : (run id ops).atomsOf atom.var.val = front ++ atom :: back) :
    other.var = atom.var ∧ RegisteredBefore id ops other atom ↔ other ∈ front := by
  constructor
  · rintro ⟨hvar, done, ⟨more, rfl⟩, hother, hatom⟩
    rw [isRegistered_ofAtom_iff, hvar] at hother
    rw [Bool.eq_false_iff, ne_eq, isRegistered_ofAtom_iff] at hatom
    have hprefix := atomsOf_run_grows id done more atom.var.val
    rw [split] at hprefix
    -- What was there at that moment ends in front of the atom.
    obtain hlong | hshort :=
      Nat.lt_or_ge front.length ((run id done).atomsOf atom.var.val).length
    · have hthrough : front ++ [atom] <+: front ++ atom :: back :=
        ⟨back, by rw [List.append_assoc]; rfl⟩
      have hreach := List.prefix_of_prefix_length_le hthrough hprefix (by
        rw [List.length_append]
        exact hlong)
      exact absurd (hreach.subset (by simp)) hatom
    · exact (List.prefix_of_prefix_length_le hprefix (List.prefix_append _ _) hshort).subset hother
  · intro hother
    have hown : other.var.val = atom.var.val := by
      refine (run_consistent id ops).var_of_mem_atomsOf ?_
      rw [split]
      exact List.mem_append_left _ hother
    exact ⟨Fin.ext hown, registeredBefore_of_mem split hother (Fin.ext hown)⟩

end Encoding

end Clausal

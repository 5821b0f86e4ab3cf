import Clausal.Proofs.Encoding.History
import Clausal.Proofs.Repetition

/-!
# What successful work adds

A construction is a sequence of steps that each may register literals and append clauses.
`Extends` records the atoms that a successful one has fetched, in their order, and the clauses
that it has appended to either side; it composes, along a sequence and along a fold.
-/

namespace Clausal

namespace Encoding

/-! ## The order of fetches -/

/-- These atoms were fetched in this order: every variable has its own ones of them, each where it
came first. -/
def Lists (e : Encoding) (fetched : List Atom) : Prop :=
  ∀ var, e.atomsOf var = fetched.eraseDups.filter fun atom => atom.var.val = var

theorem lists_empty (id : EncodingId) : (empty id).Lists [] := fun _ => rfl

theorem Lists.of_atomsOf {e e' : Encoding} {fetched : List Atom} (h : e.Lists fetched)
    (same : ∀ var, e'.atomsOf var = e.atomsOf var) : e'.Lists fetched :=
  fun var => (same var).trans (h var)

theorem Lists.isRegistered_iff {e : Encoding} {fetched : List Atom} (h : e.Lists fetched)
    (literal : Literal) : e.isRegistered literal = true ↔ literal.atom ∈ fetched := by
  rw [isRegistered_iff_mem_atomsOf, h, List.mem_filter, List.mem_eraseDups]
  exact and_iff_left (decide_eq_true rfl)

theorem Lists.fetch_again {e : Encoding} {fetched : List Atom} {atom : Atom}
    (h : e.Lists fetched) (known : e.isRegistered (.ofAtom atom) = true) :
    e.Lists (fetched ++ [atom]) := by
  have hmem : atom ∈ fetched := (h.isRegistered_iff _).mp known
  intro var
  rw [h, eraseDups_concat_of_mem hmem]

theorem Lists.fetch_new {e : Encoding} {fetched : List Atom} {atom : Atom} {v : Variable}
    (h : e.Lists fetched) (found : e.vars[(Literal.ofAtom atom).atom.var.val]? = some v)
    (unknown : e.isRegistered (.ofAtom atom) = false) :
    ({ e with vars := e.vars.modify atom.var.val (·.add (.ofAtom atom)) } : Encoding).Lists
      (fetched ++ [atom]) := by
  have hnew : atom ∉ fetched :=
    mt (h.isRegistered_iff (.ofAtom atom)).mpr (ne_true_of_eq_false unknown)
  intro var
  have henrolled : ({ e with vars := e.vars.modify atom.var.val (·.add (.ofAtom atom)) } :
      Encoding).atomsOf var = e.atomsOf var ++ if atom.var.val = var then [atom] else [] :=
    atomsOf_enroll found var
  rw [henrolled, h, eraseDups_concat_of_not_mem hnew, List.filter_append]
  simp [List.filter_cons]

/-! ## Extensions -/

/-- These atoms were fetched, and these clauses appended to the two sides, in this order. -/
structure Extends (e e' : Encoding) (atoms : List Atom) (hard soft : List (Clause Literal)) :
    Prop where
  grown : e.Grows e'
  id : e'.id = e.id
  size : e.vars.size ≤ e'.vars.size
  registered : ∀ literal, e'.isRegistered literal = true ↔
    e.isRegistered literal = true ∨ literal.atom ∈ atoms
  lists : ∀ fetched, e.Lists fetched → e'.Lists (fetched ++ atoms)
  hard : e'.hard.toList = e.hard.toList ++ hard
  soft : e'.soft.toList = e.soft.toList ++ soft

namespace Extends

variable {e e' e'' : Encoding} {atoms atoms' : List Atom}
  {hard soft hard' soft' : List (Clause Literal)}

theorem refl (e : Encoding) : e.Extends e [] [] [] where
  grown := .refl
  id := rfl
  size := Nat.le_refl _
  registered := by simp
  lists := fun fetched h => (List.append_nil fetched).symm ▸ h
  hard := (List.append_nil _).symm
  soft := (List.append_nil _).symm

theorem trans (h : e.Extends e' atoms hard soft) (h' : e'.Extends e'' atoms' hard' soft') :
    e.Extends e'' (atoms ++ atoms') (hard ++ hard') (soft ++ soft') where
  grown := h.grown.trans h'.grown
  id := h'.id.trans h.id
  size := Nat.le_trans h.size h'.size
  registered := by
    intro literal
    rw [h'.registered, h.registered, List.mem_append, or_assoc]
  lists := fun fetched hlists =>
    List.append_assoc fetched atoms atoms' ▸ h'.lists _ (h.lists _ hlists)
  hard := by rw [h'.hard, h.hard, List.append_assoc]
  soft := by rw [h'.soft, h.soft, List.append_assoc]

theorem after (h : e.Extends e' [] [] []) (h' : e'.Extends e'' atoms hard soft) :
    e.Extends e'' atoms hard soft := h.trans h'

/-- A fold adds what its steps add; what each step has checked was checked for all. -/
theorem foldlM {α ε : Type} {step : Encoding → α → Except ε Encoding}
    {atoms : α → List Atom} {hard soft : α → List (Clause Literal)} {Checked : α → Prop}
    (steps : ∀ e e' item, step e item = .ok e' →
      e.Extends e' (atoms item) (hard item) (soft item) ∧ Checked item)
    {items : List α} (h : items.foldlM step e = .ok e') :
    e.Extends e' (items.flatMap atoms) (items.flatMap hard) (items.flatMap soft) ∧
      ∀ item ∈ items, Checked item := by
  induction items generalizing e with
  | nil =>
      rw [List.foldlM_nil, pure_eq_ok_iff] at h
      subst h
      exact ⟨.refl e, fun _ hmem => absurd hmem List.not_mem_nil⟩
  | cons item rest ih =>
      rw [List.foldlM_cons, bind_eq_ok_iff] at h
      obtain ⟨next, hstep, hrest⟩ := h
      obtain ⟨hfirst, hchecked⟩ := steps e next item hstep
      obtain ⟨hlast, hall⟩ := ih hrest
      simp only [List.flatMap_cons]
      exact ⟨hfirst.trans hlast, List.forall_mem_cons.mpr ⟨hchecked, hall⟩⟩

/-- A fold whose steps append to the hard side only. -/
theorem foldlM_hards {α ε : Type} {step : Encoding → α → Except ε Encoding}
    {atoms : α → List Atom} {hard : α → List (Clause Literal)} {Checked : α → Prop}
    (steps : ∀ e e' item, step e item = .ok e' →
      e.Extends e' (atoms item) (hard item) [] ∧ Checked item)
    {items : List α} (h : items.foldlM step e = .ok e') :
    e.Extends e' (items.flatMap atoms) (items.flatMap hard) [] ∧
      ∀ item ∈ items, Checked item := by
  have hnone : items.flatMap (fun _ => ([] : List (Clause Literal))) = [] := by simp
  have hfold := foldlM steps h
  rwa [hnone] at hfold

/-- A fold whose steps append one hard clause each. -/
theorem foldlM_hard {α ε : Type} {step : Encoding → α → Except ε Encoding}
    {atoms : α → List Atom} {clause : α → Clause Literal}
    (steps : ∀ e e' item, step e item = .ok e' → e.Extends e' (atoms item) [clause item] [])
    {items : List α} (h : items.foldlM step e = .ok e') :
    e.Extends e' (items.flatMap atoms) (items.map clause) [] := by
  rw [List.map_eq_flatMap]
  exact (foldlM_hards (fun e e' item hstep => ⟨steps e e' item hstep, trivial⟩) h).1

end Extends

/-! ## Single steps -/

variable {e e' : Encoding}

theorem extends_of_newVariable {name : Option String} {var : VariableId}
    (h : e.newVariable name = .ok (e', var)) : e.Extends e' [] [] [] := by
  have grown := newVariable_grows h
  obtain ⟨-, rfl⟩ := newVariable_eq_ok_iff.mp h
  exact {
    grown
    id := rfl
    size := by simp
    registered := by simp [isRegistered_push]
    lists := fun fetched h =>
      (List.append_nil fetched).symm ▸ h.of_atomsOf (e.atomsOf_push name)
    hard := (List.append_nil _).symm
    soft := (List.append_nil _).symm }

/-- A new line has no end, and the next variable. -/
theorem extends_of_newLine {line : Line} (h : e.newLine = .ok (e', line)) :
    line.owner = e.id ∧ line.var.val = e.vars.size ∧ line.offset = 0 ∧ line.size = none ∧
      e'.vars.size = e.vars.size + 1 ∧ e.Extends e' [] [] [] := by
  obtain ⟨⟨next, var⟩, hnew, hpair⟩ := map_eq_ok_iff.mp h
  cases hpair
  have hextends := extends_of_newVariable hnew
  obtain ⟨hvar, rfl⟩ := newVariable_eq_ok_iff.mp hnew
  exact ⟨rfl, hvar, rfl, rfl, Array.size_push _, hextends⟩

theorem extends_of_newGrid {columns : UInt64} {symmetric : Bool} {grid : Grid}
    (h : e.newGrid columns symmetric = .ok (e', grid)) :
    grid.owner = e.id ∧ grid.var.val = e.vars.size ∧ grid.columns = columns ∧
      grid.symmetric = symmetric ∧ e'.vars.size = e.vars.size + 1 ∧ e.Extends e' [] [] [] := by
  obtain ⟨⟨next, var⟩, hnew, hpair⟩ := map_eq_ok_iff.mp h
  cases hpair
  have hextends := extends_of_newVariable hnew
  obtain ⟨hvar, rfl⟩ := newVariable_eq_ok_iff.mp hnew
  exact ⟨rfl, hvar, rfl, rfl, Array.size_push _, hextends⟩

theorem extends_of_fetch {atom : Atom} {literal : Literal}
    (h : e.fetch atom = .ok (e', literal)) : e.Extends e' [atom] [] [] := by
  have grown := fetch_grows h
  obtain ⟨-, new, hr⟩ := fetch_eq_ok_iff.mp h
  obtain ⟨-, v, found, -, rfl⟩ := register_eq_ok_iff.mp hr
  cases hknown : v.isRegistered (.ofAtom atom) with
  | true =>
      rw [hknown] at grown
      have hatom : e.isRegistered (.ofAtom atom) = true := by
        unfold isRegistered
        rw [found]
        exact hknown
      refine ⟨grown, rfl, Nat.le_refl _, ?_, fun _ h => h.fetch_again hatom,
        (List.append_nil _).symm, (List.append_nil _).symm⟩
      intro literal
      rw [List.mem_singleton]
      constructor
      · exact Or.inl
      · rintro (hl | rfl)
        · exact hl
        · exact hatom
  | false =>
      rw [hknown] at grown
      have hatom : e.isRegistered (.ofAtom atom) = false := by
        unfold isRegistered
        rw [found]
        exact hknown
      refine ⟨grown, rfl, ?_, ?_, fun _ h => h.fetch_new found hatom,
        (List.append_nil _).symm, (List.append_nil _).symm⟩
      · exact Nat.le_of_eq Array.size_modify.symm
      · intro literal
        rw [List.mem_singleton]
        exact isRegistered_enroll found literal

theorem extends_of_vars {hard soft : List (Clause Literal)} (grown : e.Grows e')
    (id : e'.id = e.id) (hvars : e'.vars = e.vars)
    (hard_eq : e'.hard.toList = e.hard.toList ++ hard)
    (soft_eq : e'.soft.toList = e.soft.toList ++ soft) : e.Extends e' [] hard soft where
  grown := grown
  id := id
  size := Nat.le_of_eq (congrArg Array.size hvars.symm)
  registered := by
    intro literal
    simp [isRegistered, hvars]
  lists := fun fetched h => (List.append_nil fetched).symm ▸ h.of_atomsOf (atomsOf_congr hvars)
  hard := hard_eq
  soft := soft_eq

theorem extends_of_addHard {literals : List Literal} (h : e.addHard literals = .ok e') :
    e.Extends e' [] [.hard literals] [] := by
  have grown := addHard_grows h
  obtain ⟨-, rfl⟩ := addClause_eq_ok_iff.mp h
  exact extends_of_vars grown rfl rfl (ClauseList.toList_add _ _) (List.append_nil _).symm

theorem extends_of_addSoft {cost : UInt64} (hcost : cost ≠ 0) {literals : List Literal}
    (h : e.addSoft cost literals = .ok e') : e.Extends e' [] [] [.soft cost literals] := by
  have grown := addSoft_grows h
  have hsoft : (Clause.soft cost literals).isHard = false := beq_eq_false_iff_ne.mpr hcost
  obtain ⟨-, he⟩ := addClause_eq_ok_iff.mp h
  rw [hsoft] at he
  subst he
  exact extends_of_vars grown rfl rfl (List.append_nil _).symm (ClauseList.toList_add _ _)

theorem extends_of_comment {text : String} (h : e.comment text = .ok e') :
    e.Extends e' [] [] [] := by
  have grown := comment_grows h
  obtain ⟨checked, -, rfl⟩ := map_eq_ok_iff.mp h
  exact extends_of_vars grown rfl rfl (List.append_nil _).symm (List.append_nil _).symm

theorem extends_of_commentHard {text : String} (h : e.commentHard text = .ok e') :
    e.Extends e' [] [] [] := by
  have grown := commentHard_grows h
  obtain ⟨hard, hh, rfl⟩ := map_eq_ok_iff.mp h
  obtain ⟨checked, -, rfl⟩ := map_eq_ok_iff.mp hh
  exact extends_of_vars grown rfl rfl (List.append_nil _).symm (List.append_nil _).symm

end Encoding

end Clausal

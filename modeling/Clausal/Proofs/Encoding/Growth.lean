import Mathlib.Logic.Relation
import Clausal.Encoding.Basic
import Clausal.Proofs.Outcome

/-!
# How an encoding grows

Every operation that changes an encoding does so by a few elementary changes: it allocates a
variable, registers one new positive literal, appends a clause of registered literals to the
side that its cost names, or adds a comment.  `Change` lists them with the guards that the
operations check, and `Grows` is any number of them.  The lemmas below read off the success
of each operation which changes it has made; what a change keeps is then kept by all of them.
-/

namespace Clausal

namespace Encoding

/-- One elementary change. -/
inductive Change (e : Encoding) : Encoding → Prop
  | allocate (name : Option String) (room : e.vars.size < variableCapacity) :
      Change e { e with vars := e.vars.push (.fresh name) }
  | enroll {v : Variable} (literal : Literal) (positive : literal.negated = false)
      (found : e.vars[literal.atom.var.val]? = some v)
      (unknown : v.isRegistered literal = false) :
      Change e { e with vars := e.vars.modify literal.atom.var.val (·.add literal) }
  | demand (clause : Clause Literal) (hard : clause.isHard = true)
      (covered : ∀ literal ∈ clause.literals, e.isRegistered literal = true) :
      Change e { e with hard := e.hard.add clause }
  | prefer (clause : Clause Literal) (soft : clause.isHard = false)
      (covered : ∀ literal ∈ clause.literals, e.isRegistered literal = true) :
      Change e { e with soft := e.soft.add clause }
  | remark (text : String) (oneLine : Text.hasLineBreak text = false) :
      Change e { e with comments := e.comments.push text }
  | remarkHard (text : String) (oneLine : Text.hasLineBreak text = false) :
      Change e { e with hard := e.hard.addComment text }
  | remarkSoft (text : String) (oneLine : Text.hasLineBreak text = false) :
      Change e { e with soft := e.soft.addComment text }

/-- Any number of elementary changes, in order. -/
abbrev Grows : Encoding → Encoding → Prop := Relation.ReflTransGen Change

/-! ## Variables and literals -/

theorem newVariable_eq_ok_iff {e e' : Encoding} {name : Option String} {var : VariableId} :
    e.newVariable name = .ok (e', var) ↔
      var.val = e.vars.size ∧ e' = { e with vars := e.vars.push (.fresh name) } := by
  unfold newVariable
  split
  · rename_i room
    simp only [Except.ok.injEq, Prod.mk.injEq]
    constructor
    · rintro ⟨rfl, rfl⟩
      exact ⟨rfl, rfl⟩
    · rintro ⟨hvar, rfl⟩
      exact ⟨rfl, Fin.ext hvar.symm⟩
  · rename_i full
    simp only [reduceCtorEq, false_iff]
    rintro ⟨hvar, -⟩
    exact full (hvar ▸ var.isLt)

theorem newVariable_grows {e e' : Encoding} {name : Option String} {var : VariableId}
    (h : e.newVariable name = .ok (e', var)) : e.Grows e' := by
  obtain ⟨hvar, rfl⟩ := newVariable_eq_ok_iff.mp h
  exact .single (.allocate name (hvar ▸ var.isLt))

/-- What a successful registration has checked, and what it leaves. -/
theorem register_eq_ok_iff {e e' : Encoding} {literal : Literal} {new : Bool} :
    e.register literal = .ok (e', new) ↔
      literal.negated = false ∧ ∃ v, e.vars[literal.atom.var.val]? = some v ∧
        new = !v.isRegistered literal ∧
        e' = if v.isRegistered literal then e
          else { e with vars := e.vars.modify literal.atom.var.val (·.add literal) } := by
  unfold register
  cases hn : literal.negated with
  | true => simp
  | false =>
      cases hv : e.vars[literal.atom.var.val]? with
      | none => simp
      | some v =>
          simp only [Option.some.injEq, exists_eq_left', true_and]
          cases hr : v.isRegistered literal with
          | true => grind
          | false => grind

theorem register_grows {e e' : Encoding} {literal : Literal} {new : Bool}
    (h : e.register literal = .ok (e', new)) : e.Grows e' := by
  obtain ⟨positive, v, found, -, rfl⟩ := register_eq_ok_iff.mp h
  cases hr : v.isRegistered literal with
  | true => exact .refl
  | false => exact .single (.enroll literal positive found hr)

theorem fetch_eq_ok_iff {e e' : Encoding} {atom : Atom} {literal : Literal} :
    e.fetch atom = .ok (e', literal) ↔
      literal = .ofAtom atom ∧ ∃ new, e.register (.ofAtom atom) = .ok (e', new) := by
  rw [fetch, map_eq_ok_iff]
  constructor
  · rintro ⟨⟨next, new⟩, hr, hp⟩
    cases hp
    exact ⟨rfl, new, hr⟩
  · rintro ⟨rfl, new, hr⟩
    exact ⟨(e', new), hr, rfl⟩

theorem fetch_grows {e e' : Encoding} {atom : Atom} {literal : Literal}
    (h : e.fetch atom = .ok (e', literal)) : e.Grows e' := by
  obtain ⟨-, new, hr⟩ := fetch_eq_ok_iff.mp h
  exact register_grows hr

theorem literal_grows {e e' : Encoding} {var : UInt8} {index : UInt32} {literal : Literal}
    (h : e.literal var index = .ok (e', literal)) : e.Grows e' := by
  obtain ⟨id, -, hf⟩ := bind_eq_ok_iff.mp h
  exact fetch_grows hf

/-! ## Clauses and comments -/

/-- A clause is accepted exactly when its literals are registered. -/
theorem addClause_eq_ok_iff {e e' : Encoding} {clause : Clause Literal} :
    e.addClause clause = .ok e' ↔
      (∀ literal ∈ clause.literals, e.isRegistered literal = true) ∧
        e' = if clause.isHard then { e with hard := e.hard.add clause }
          else { e with soft := e.soft.add clause } := by
  unfold addClause
  cases hfind : clause.literals.find? fun literal => !e.isRegistered literal with
  | none =>
      have covered : ∀ literal ∈ clause.literals, e.isRegistered literal = true := by
        simpa using hfind
      rw [Except.ok.injEq, and_iff_right covered]
      exact eq_comm
  | some stray =>
      have hstray := List.find?_some hfind
      have hmem := List.mem_of_find?_eq_some hfind
      simp only [reduceCtorEq, false_iff, not_and]
      intro covered
      simp [covered stray hmem] at hstray

theorem addClause_grows {e e' : Encoding} {clause : Clause Literal}
    (h : e.addClause clause = .ok e') : e.Grows e' := by
  obtain ⟨covered, rfl⟩ := addClause_eq_ok_iff.mp h
  cases hc : clause.isHard with
  | true => exact .single (.demand clause hc covered)
  | false => exact .single (.prefer clause hc covered)

theorem addHard_grows {e e' : Encoding} {literals : List Literal}
    (h : e.addHard literals = .ok e') : e.Grows e' := addClause_grows h

theorem addSoft_grows {e e' : Encoding} {cost : UInt64} {literals : List Literal}
    (h : e.addSoft cost literals = .ok e') : e.Grows e' := addClause_grows h

/-- Also where a clause fails, those before it have been added. -/
theorem addHards_grows (e : Encoding) (clauses : List (List Literal)) :
    e.Grows (e.addHards clauses).1 := by
  induction clauses generalizing e with
  | nil => exact .refl
  | cons literals rest ih =>
      unfold addHards
      cases h : e.addHard literals with
      | error failure => exact .refl
      | ok next => exact (addHard_grows h).trans (ih next)

theorem check_eq_ok_iff {text checked : String} :
    Comment.check text = .ok checked ↔ Text.hasLineBreak text = false ∧ checked = text := by
  unfold Comment.check
  cases h : Text.hasLineBreak text with
  | true => simp
  | false => simp [eq_comm]

end Encoding

theorem ClauseList.comment_eq_ok_iff {α : Type} {list next : ClauseList α} {text : String} :
    list.comment text = .ok next ↔
      Text.hasLineBreak text = false ∧ next = list.addComment text := by
  rw [comment, map_eq_ok_iff]
  simp only [Encoding.check_eq_ok_iff, and_assoc, exists_and_left, exists_eq_left]
  exact and_congr_right fun _ => eq_comm

namespace Encoding

theorem comment_grows {e e' : Encoding} {text : String}
    (h : e.comment text = .ok e') : e.Grows e' := by
  obtain ⟨checked, hc, rfl⟩ := map_eq_ok_iff.mp h
  obtain ⟨oneLine, rfl⟩ := check_eq_ok_iff.mp hc
  exact .single (.remark _ oneLine)

theorem commentHard_grows {e e' : Encoding} {text : String}
    (h : e.commentHard text = .ok e') : e.Grows e' := by
  obtain ⟨hard, hh, rfl⟩ := map_eq_ok_iff.mp h
  obtain ⟨oneLine, rfl⟩ := ClauseList.comment_eq_ok_iff.mp hh
  exact .single (.remarkHard _ oneLine)

theorem commentSoft_grows {e e' : Encoding} {text : String}
    (h : e.commentSoft text = .ok e') : e.Grows e' := by
  obtain ⟨soft, hs, rfl⟩ := map_eq_ok_iff.mp h
  obtain ⟨oneLine, rfl⟩ := ClauseList.comment_eq_ok_iff.mp hs
  exact .single (.remarkSoft _ oneLine)

end Encoding

end Clausal

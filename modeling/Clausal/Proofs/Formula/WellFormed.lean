import Clausal.Proofs.Encoding.Operation
import Clausal.Proofs.Formula.Count
import Clausal.Proofs.Formula.Translation

/-!
# Formulas are well-formed

In every reachable formula clauses hold no zero and no literal wider than the literal count,
stand on the side that their costs name, and comments are one line each.
-/

/-!
## Runs of operations on a formula

Every way to work on a formula as one value of `Operation`, with what it leaves behind and
whether it succeeded.  The reachable formulas are those that operations, failing ones included,
make out of the empty formula or out of one that an encoding was translated to.  An addition
that fails is not without effect: it may have raised the literal count.
-/

namespace Clausal.Formula

inductive Operation where
  | addClause (clause : Clause Int32)
  | addHard (literals : List Int32)
  | addSoft (cost : UInt64) (literals : List Int32)
  | comment (text : String)
  | commentHard (text : String)
  | commentSoft (text : String)
  /-- A copy is the same value, and the original stays as it is. -/
  | clone
  deriving DecidableEq, Repr

namespace Operation

/-- What an attempt leaves of a formula: the new one, or the old one after a failure. -/
def settle (f : Formula) :
    Except EncodingError Formula → Formula × Except EncodingError Unit
  | .ok next => (next, .ok ())
  | .error failure => (f, .error failure)

/-- What holds of a formula and of what the attempt makes of it holds of what is left. -/
theorem settle_induction {P : Formula → Prop} {f : Formula}
    {attempt : Except EncodingError Formula} (h : P f)
    (next : ∀ f', attempt = .ok f' → P f') : P (settle f attempt).1 := by
  cases attempt with
  | error failure => exact h
  | ok f' => exact next f' rfl

def run (f : Formula) : Operation → Formula × Except EncodingError Unit
  | addClause clause => f.addClause clause
  | addHard literals => f.addHard literals
  | addSoft cost literals => f.addSoft cost literals
  | comment text => settle f (f.comment text)
  | commentHard text => settle f (f.commentHard text)
  | commentSoft text => settle f (f.commentSoft text)
  | clone => (f, .ok ())

/-- The clause that the operation is to add. -/
def clause? : Operation → Option (Clause Int32)
  | addClause clause => some clause
  | addHard literals => some (.hard literals)
  | addSoft cost literals => some (.soft cost literals)
  | comment _ | commentHard _ | commentSoft _ | clone => none

theorem run_of_clause? {op : Operation} {clause : Clause Int32} (h : op.clause? = some clause)
    (f : Formula) : op.run f = f.addClause clause := by
  cases op <;> cases h <;> rfl

end Operation

/-- The formulas that operations make out of the empty one or of a translated encoding. -/
inductive Reachable : Formula → Prop
  | empty : Reachable empty
  | ofEncoding {e : Encoding} {n : Numbering} {f : Formula} (he : e.Reachable)
      (hn : n.Reachable) (made : ofEncoding e n = .ok f) : Reachable f
  | step {f : Formula} (op : Operation) (h : Reachable f) : Reachable (op.run f).1

/-! ### Additions that fail -/

/-- An addition fails only at a zero, and then keeps clauses and comments; but the literals
before the zero have been counted, so the formula is as it was exactly when none of them is
wider than the count. -/
theorem failed_add_raises_count {f : Formula} {op : Operation} {clause : Clause Int32}
    {failure : EncodingError} (adds : op.clause? = some clause)
    (failed : (op.run f).2 = .error failure) :
    failure = .zeroLiteral ∧
      (op.run f).1 =
        { f with literalCount := raised f.literalCount (beforeZero clause.literals) } ∧
      ((op.run f).1 = f ↔
        ∀ literal ∈ beforeZero clause.literals,
          literal.toInt.natAbs ≤ f.literalCount.toNat) := by
  rw [Operation.run_of_clause? adds] at failed ⊢
  by_cases hzero : (0 : Int32) ∈ clause.literals
  · rw [addClause_of_zero hzero] at failed ⊢
    refine ⟨(Except.error.inj failed).symm, rfl, ?_⟩
    rw [← raised_eq_self_iff]
    constructor
    · intro heq
      exact congrArg literalCount heq
    · intro hcount
      rw [hcount]
  · rw [addClause_of_nonzero hzero] at failed
    cases failed

/-- The clause 3, 0, 9 fails at its second literal. -/
theorem failed_add_raises_count_three :
    ((Operation.addHard [3, 0, 9]).run empty).2 = .error .zeroLiteral ∧
      ((Operation.addHard [3, 0, 9]).run empty).1 = { empty with literalCount := 3 } ∧
      ((Operation.addHard [3, 0, 9]).run empty).1 ≠ empty := by
  have failed : ((Operation.addHard [3, 0, 9]).run empty).2 = .error .zeroLiteral := by decide
  have adds : (Operation.addHard [3, 0, 9]).clause? = some (.hard [3, 0, 9]) := rfl
  obtain ⟨-, hleft, hsame⟩ := failed_add_raises_count adds failed
  refine ⟨failed, hleft, ?_⟩
  intro heq
  exact absurd (hsame.mp heq 3 (by decide)) (by decide)

/-- Seven variables are left behind by a clause that was refused. -/
theorem not_failed_add_keeps_formula :
    ¬ ∀ (f : Formula) (clause : Clause Int32) (failure : EncodingError), f.Reachable →
      (f.addClause clause).2 = .error failure → (f.addClause clause).1 = f := by
  intro h
  have hsame := h empty (.hard [7, 0]) .zeroLiteral .empty (by decide)
  have hcount : ((empty.addClause (.hard [7, 0])).1).literalCount = 7 := by decide
  rw [hsame] at hcount
  exact absurd hcount (by decide)

end Clausal.Formula

/-!
## Sides and comments

A clause stands on the side that its cost names, and a comment is one line, wherever it was
attached.  Both are said of two clause lists and the comments above them, whatever the clauses
are over, so that they pass from encodings to the formulas made of them.
-/

namespace Clausal

/-- Hard clauses on one side, soft ones on the other, and comments of one line each. -/
structure Tidy {α : Type} (comments : Array String) (hard soft : ClauseList α) : Prop where
  hardCosts : ∀ clause ∈ hard.toList, clause.isHard = true
  softCosts : ∀ clause ∈ soft.toList, clause.isHard = false
  header : ∀ text ∈ comments, Text.hasLineBreak text = false
  hardComments : ∀ comment ∈ hard.comments, Text.hasLineBreak comment.text = false
  softComments : ∀ comment ∈ soft.comments, Text.hasLineBreak comment.text = false

namespace Tidy

variable {α : Type} {comments : Array String} {hard soft : ClauseList α}

theorem empty : Tidy (α := α) #[] .empty .empty := by
  constructor <;> simp [ClauseList.empty, ClauseList.toList]

theorem addHard (h : Tidy comments hard soft) {clause : Clause α}
    (hc : clause.isHard = true) : Tidy comments (hard.add clause) soft :=
  { h with
    hardCosts := by
      rw [ClauseList.toList_add, List.forall_mem_append, List.forall_mem_singleton]
      exact ⟨h.hardCosts, hc⟩ }

theorem addSoft (h : Tidy comments hard soft) {clause : Clause α}
    (hc : clause.isHard = false) : Tidy comments hard (soft.add clause) :=
  { h with
    softCosts := by
      rw [ClauseList.toList_add, List.forall_mem_append, List.forall_mem_singleton]
      exact ⟨h.softCosts, hc⟩ }

section

variable {text : String} (oneLine : Text.hasLineBreak text = false)

include oneLine

theorem remark (h : Tidy comments hard soft) : Tidy (comments.push text) hard soft :=
  { h with
    header := by
      intro other hother
      rcases Array.mem_push.mp hother with hother | rfl
      · exact h.header other hother
      · exact oneLine }

theorem forall_mem_addComment {list : ClauseList α}
    (h : ∀ comment ∈ list.comments, Text.hasLineBreak comment.text = false) :
    ∀ comment ∈ (list.addComment text).comments, Text.hasLineBreak comment.text = false := by
  intro comment hcomment
  rcases Array.mem_push.mp hcomment with hcomment | rfl
  · exact h comment hcomment
  · exact oneLine

theorem remarkHard (h : Tidy comments hard soft) :
    Tidy comments (hard.addComment text) soft :=
  { h with hardComments := forall_mem_addComment oneLine h.hardComments }

theorem remarkSoft (h : Tidy comments hard soft) :
    Tidy comments hard (soft.addComment text) :=
  { h with softComments := forall_mem_addComment oneLine h.softComments }

end

end Tidy

namespace Encoding

theorem Change.tidy {e e' : Encoding} (h : e.Change e') (ht : Tidy e.comments e.hard e.soft) :
    Tidy e'.comments e'.hard e'.soft := by
  cases h with
  | allocate name room => exact ht
  | enroll literal positive found unknown => exact ht
  | demand clause hard covered => exact ht.addHard hard
  | prefer clause soft covered => exact ht.addSoft soft
  | remark text oneLine => exact ht.remark oneLine
  | remarkHard text oneLine => exact ht.remarkHard oneLine
  | remarkSoft text oneLine => exact ht.remarkSoft oneLine

theorem Grows.tidy {e e' : Encoding} (h : e.Grows e') (ht : Tidy e.comments e.hard e.soft) :
    Tidy e'.comments e'.hard e'.soft := by
  induction h with
  | refl => exact ht
  | tail _ hstep ih => exact hstep.tidy ih

theorem Reachable.tidy {e : Encoding} (h : e.Reachable) : Tidy e.comments e.hard e.soft := by
  obtain ⟨id, grown⟩ := h.grown
  exact grown.tidy Tidy.empty

end Encoding

/-! ## What a translation leaves -/

namespace Numbering

theorem Bijective.signed_ne_zero {n : Numbering} (h : n.Bijective) {literal : Literal}
    {signed : Int32} (hs : n.signedValueOf literal = .ok signed) : signed ≠ 0 := by
  obtain ⟨value, hv, rfl⟩ := signedValueOf_eq_ok_iff.mp hs
  have hlow := h.one_le_of_valueOf hv
  have hneg := toInt_neg_of_pos hlow
  intro hzero
  have hint := congrArg Int32.toInt hzero
  rw [Int32.toInt_zero] at hint
  cases hn : literal.negated with
  | false =>
      rw [hn, if_neg Bool.false_ne_true] at hint
      omega
  | true =>
      rw [hn, if_pos rfl] at hint
      omega

theorem Numbers.isHard {n : Numbering} {clause : Clause Literal} {image : Clause Int32}
    (h : n.Numbers clause image) : image.isHard = clause.isHard := by
  rw [Clause.isHard, h.cost, Clause.isHard]

theorem Numbers.exists_of_mem {n : Numbering} {clauses : List (Clause Literal)}
    {images : List (Clause Int32)} (hn : List.Forall₂ n.Numbers clauses images)
    {image : Clause Int32} (hi : image ∈ images) :
    ∃ clause ∈ clauses, n.Numbers clause image := by
  obtain ⟨i, hlt, rfl⟩ := List.getElem_of_mem hi
  have hlt' : i < clauses.length := hn.length_eq ▸ hlt
  exact ⟨clauses[i], List.getElem_mem hlt', hn.get hlt' hlt⟩

theorem Numbers.nonzero {n : Numbering} (h : n.Bijective) {clause : Clause Literal}
    {image : Clause Int32} (hn : n.Numbers clause image) : (0 : Int32) ∉ image.literals := by
  intro hzero
  obtain ⟨i, hlt, heq⟩ := List.getElem_of_mem hzero
  have hlt' : i < clause.literals.length := hn.literals.length_eq ▸ hlt
  exact h.signed_ne_zero (hn.literals.get hlt' hlt) heq

end Numbering

namespace Formula

structure WellFormed (f : Formula) : Prop where
  tidy : Tidy f.comments f.hard f.soft
  nonzero : ∀ clause ∈ f.clauses, (0 : Int32) ∉ clause.literals
  covered : ∀ clause ∈ f.clauses, ∀ literal ∈ clause.literals,
    literal.toInt.natAbs ≤ f.literalCount.toNat

theorem wellFormed_empty : empty.WellFormed where
  tidy := Tidy.empty
  nonzero := by simp [clauses, empty]
  covered := by simp [clauses, empty]

/-! ### Additions -/

theorem mem_clauses_addHard {f : Formula} {count : UInt32} {added clause : Clause Int32} :
    clause ∈ ({ f with literalCount := count, hard := f.hard.add added } : Formula).clauses ↔
      clause ∈ f.clauses ∨ clause = added := by
  simp only [clauses, ClauseList.toList_add, List.mem_append, List.mem_singleton]
  tauto

theorem mem_clauses_addSoft {f : Formula} {count : UInt32} {added clause : Clause Int32} :
    clause ∈ ({ f with literalCount := count, soft := f.soft.add added } : Formula).clauses ↔
      clause ∈ f.clauses ∨ clause = added := by
  simp only [clauses, ClauseList.toList_add, List.mem_append, List.mem_singleton]
  tauto

/-- A larger count still covers every literal. -/
theorem WellFormed.raised {f : Formula} (h : f.WellFormed) (literals : List Int32) :
    ({ f with literalCount := raised f.literalCount literals } : Formula).WellFormed where
  tidy := h.tidy
  nonzero := h.nonzero
  covered := fun clause hclause literal hl =>
    Nat.le_trans (h.covered clause hclause literal hl) (le_raised f.literalCount literals)

theorem WellFormed.addClause {f : Formula} (h : f.WellFormed) (clause : Clause Int32) :
    (f.addClause clause).1.WellFormed := by
  have hraised := h.raised clause.literals
  by_cases hzero : (0 : Int32) ∈ clause.literals
  · rw [addClause_of_zero hzero]
    exact h.raised (beforeZero clause.literals)
  · rw [addClause_of_nonzero hzero]
    cases hc : clause.isHard with
    | true =>
        refine ⟨h.tidy.addHard hc, ?_, ?_⟩
        · intro other hother
          rcases mem_clauses_addHard.mp hother with hold | rfl
          · exact h.nonzero other hold
          · exact hzero
        · intro other hother
          rcases mem_clauses_addHard.mp hother with hold | rfl
          · exact hraised.covered other hold
          · exact fun literal hl => natAbs_le_raised hl
    | false =>
        refine ⟨h.tidy.addSoft hc, ?_, ?_⟩
        · intro other hother
          rcases mem_clauses_addSoft.mp hother with hold | rfl
          · exact h.nonzero other hold
          · exact hzero
        · intro other hother
          rcases mem_clauses_addSoft.mp hother with hold | rfl
          · exact hraised.covered other hold
          · exact fun literal hl => natAbs_le_raised hl

/-! ### Comments -/

theorem WellFormed.comment {f f' : Formula} {text : String} (h : f.WellFormed)
    (made : f.comment text = .ok f') : f'.WellFormed := by
  obtain ⟨checked, hc, rfl⟩ := map_eq_ok_iff.mp made
  obtain ⟨oneLine, rfl⟩ := Encoding.check_eq_ok_iff.mp hc
  exact ⟨h.tidy.remark oneLine, h.nonzero, h.covered⟩

theorem WellFormed.commentHard {f f' : Formula} {text : String} (h : f.WellFormed)
    (made : f.commentHard text = .ok f') : f'.WellFormed := by
  obtain ⟨hard, hh, rfl⟩ := map_eq_ok_iff.mp made
  obtain ⟨oneLine, rfl⟩ := ClauseList.comment_eq_ok_iff.mp hh
  exact ⟨h.tidy.remarkHard oneLine, h.nonzero, h.covered⟩

theorem WellFormed.commentSoft {f f' : Formula} {text : String} (h : f.WellFormed)
    (made : f.commentSoft text = .ok f') : f'.WellFormed := by
  obtain ⟨soft, hs, rfl⟩ := map_eq_ok_iff.mp made
  obtain ⟨oneLine, rfl⟩ := ClauseList.comment_eq_ok_iff.mp hs
  exact ⟨h.tidy.remarkSoft oneLine, h.nonzero, h.covered⟩

theorem WellFormed.run {f : Formula} (h : f.WellFormed) (op : Operation) :
    (op.run f).1.WellFormed := by
  cases op with
  | addClause clause => exact h.addClause clause
  | addHard literals => exact h.addClause (.hard literals)
  | addSoft cost literals => exact h.addClause (.soft cost literals)
  | comment text => exact Operation.settle_induction h fun _ made => h.comment made
  | commentHard text => exact Operation.settle_induction h fun _ made => h.commentHard made
  | commentSoft text => exact Operation.settle_induction h fun _ made => h.commentSoft made
  | clone => exact h

/-! ### Translated encodings -/

open Clausal.Numbering (Numbers)

theorem tidy_ofEncoding {e : Encoding} {n : Numbering} {f : Formula}
    (ht : Tidy e.comments e.hard e.soft) (made : ofEncoding e n = .ok f) :
    Tidy f.comments f.hard f.soft := by
  obtain ⟨-, ⟨hhard, hhardComments⟩, ⟨hsoft, hsoftComments⟩, hcomments, -⟩ :=
    ofEncoding_eq_ok_iff.mp made
  constructor
  · intro image hi
    obtain ⟨clause, hclause, hn⟩ := Numbers.exists_of_mem hhard hi
    exact hn.isHard.trans (ht.hardCosts clause hclause)
  · intro image hi
    obtain ⟨clause, hclause, hn⟩ := Numbers.exists_of_mem hsoft hi
    exact hn.isHard.trans (ht.softCosts clause hclause)
  · exact hcomments ▸ ht.header
  · exact hhardComments ▸ ht.hardComments
  · exact hsoftComments ▸ ht.softComments

theorem wellFormed_ofEncoding {e : Encoding} {n : Numbering} {f : Formula}
    (ht : Tidy e.comments e.hard e.soft) (hn : n.Bijective) (made : ofEncoding e n = .ok f) :
    f.WellFormed := by
  obtain ⟨-, ⟨hhard, -⟩, ⟨hsoft, -⟩, -, hcount⟩ := ofEncoding_eq_ok_iff.mp made
  refine ⟨tidy_ofEncoding ht made, ?_, ?_⟩
  · intro image hi
    rcases List.mem_append.mp hi with hi | hi
    · obtain ⟨clause, -, hnumbers⟩ := Numbers.exists_of_mem hhard hi
      exact hnumbers.nonzero hn
    · obtain ⟨clause, -, hnumbers⟩ := Numbers.exists_of_mem hsoft hi
      exact hnumbers.nonzero hn
  · rw [clauses, ← widest_le_iff, hcount, UInt32.toNat_max]
    exact Nat.le_max_right _ _

theorem Reachable.wellFormed {f : Formula} (h : f.Reachable) : f.WellFormed := by
  induction h with
  | empty => exact wellFormed_empty
  | ofEncoding he hn made => exact wellFormed_ofEncoding he.tidy hn.bijective made
  | step op _ ih => exact ih.run op

end Formula

end Clausal

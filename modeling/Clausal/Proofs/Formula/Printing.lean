import Clausal.Proofs.Formula.Lines
import Clausal.Proofs.Formula.Top

/-!
# What a reader finds in a printed formula

The format refuses a formula only for its soft clauses.  Of any other well-formed formula a
reader finds one problem line with the right counts and then the stored clauses in their order,
and comments make no difference to that.
-/

namespace Clausal.Formula

open Dimacs Text

/-! ## What is to be read -/

def header (f : Formula) : Format → Header
  | .cnf => .cnf f.literalCount.toNat f.clauses.length
  | .wcnf => .wcnf f.literalCount.toNat f.clauses.length f.top.toNat

/-- The clauses as a reader should find them. -/
def entries (f : Formula) : Format → List Entry
  | .cnf => f.clauses.map fun clause => ⟨none, closed clause.literals⟩
  | .wcnf =>
      (f.hard.toList.map fun clause => ⟨some f.top.toNat, closed clause.literals⟩) ++
        f.soft.toList.map fun clause => ⟨some clause.cost.toNat, closed clause.literals⟩

/-! ## What is printed -/

def problemLine (f : Formula) : Format → String
  | .cnf => cnfProblemLine f.literalCount f.clauses.length
  | .wcnf => wcnfProblemLine f.literalCount f.clauses.length f.top

def clauseLine (f : Formula) : Format → Clause Int32 → String
  | .cnf, clause => cnfClauseLine clause.literals
  | .wcnf, clause => f.wcnfClause clause

theorem length_clauses (f : Formula) : f.clauses.length = f.clauseCount := by
  rw [clauses, List.length_append, ClauseList.length_toList, ClauseList.length_toList,
    clauseCount]

theorem isRow_clauseLine (f : Formula) (format : Format) (clause : Clause Int32) :
    IsRow (f.clauseLine format clause).toList := by
  cases format with
  | cnf => exact .cnf clause.literals
  | wcnf => exact .wcnf clause.literals (f.weight clause)

theorem isProblem_problemLine (f : Formula) (format : Format) :
    isProblem (f.problemLine format).toList = true := by
  cases format with
  | cnf => exact isProblem_cnf _ _
  | wcnf => exact isProblem_wcnf _ _ _

theorem readHeader?_problemLine (f : Formula) (format : Format) :
    readHeader? (f.problemLine format).toList = some (f.header format) := by
  cases format with
  | cnf => exact readHeader?_cnf _ _
  | wcnf => exact readHeader?_wcnf _ _ _

theorem hasLineBreak_problemLine (f : Formula) (format : Format) :
    hasLineBreak (f.problemLine format) = false := by
  cases format with
  | cnf => exact hasLineBreak_cnfProblemLine _ _
  | wcnf => exact hasLineBreak_wcnfProblemLine _ _ _

/-- The plain format has no part for soft clauses. -/
def softLines (f : Formula) : Format → List String
  | .cnf => []
  | .wcnf => Comment.line "Soft clauses" :: f.soft.lines (f.clauseLine .wcnf)

/-- The lines of a formula that the format accepts, comments included. -/
def printedLines (f : Formula) (format : Format) : List String :=
  f.commentLines ++ f.problemLine format :: Comment.line "Hard clauses" ::
    (f.hard.lines (f.clauseLine format) ++ f.softLines format)

/-- Only soft clauses in the plain format are refused. -/
theorem dimacsLines_eq (f : Formula) (format : Format) :
    f.dimacsLines format =
      if format = .cnf ∧ f.soft.toList ≠ [] then .error (.softClausesInCnf f.soft.size)
      else .ok (f.printedLines format) := by
  cases format with
  | wcnf =>
      rw [if_neg (by rintro ⟨h, -⟩; cases h), dimacsLines, wcnfLines, printedLines, problemLine,
        length_clauses, softLines]
      simp only [List.append_assoc, List.cons_append, List.nil_append]
      rfl
  | cnf =>
      rw [dimacsLines, cnfLines]
      by_cases hsoft : f.soft.toList = []
      · have hlength : f.clauses.length = f.hard.size := by
          rw [clauses, hsoft, List.append_nil, ClauseList.length_toList]
        rw [if_pos (ClauseList.isEmpty_iff.mpr hsoft), if_neg (fun h => h.2 hsoft), printedLines,
          problemLine, hlength, softLines]
        simp only [List.append_assoc, List.cons_append, List.nil_append, List.append_nil]
        rfl
      · rw [if_neg (fun h => hsoft (ClauseList.isEmpty_iff.mp h)), if_pos ⟨rfl, hsoft⟩]

section

variable {f : Formula} {format : Format} {text : String}

theorem dimacs_eq_error_iff {failure : EncodingError} :
    f.dimacs format = .error failure ↔
      format = .cnf ∧ f.soft.toList ≠ [] ∧ failure = .softClausesInCnf f.soft.size := by
  rw [dimacs, dimacsLines_eq]
  split
  · rename_i hrefused
    simp [Except.map, hrefused, eq_comm]
  · rename_i haccepted
    simp only [Except.map, reduceCtorEq, false_iff]
    exact fun h => haccepted ⟨h.1, h.2.1⟩

theorem dimacs_eq_ok_iff :
    f.dimacs format = .ok text ↔
      (format = .cnf → f.soft.toList = []) ∧ text = unlines (f.printedLines format) := by
  rw [dimacs, dimacsLines_eq]
  split
  · rename_i hrefused
    simp [Except.map, hrefused]
  · rename_i haccepted
    have hplain : format = .cnf → f.soft.toList = [] :=
      fun hcnf => Decidable.byContradiction fun hsoft => haccepted ⟨hcnf, hsoft⟩
    rw [Except.map, Except.ok.injEq, eq_comm]
    exact (and_iff_right hplain).symm

theorem dimacsLines_of_ok (h : f.dimacs format = .ok text) :
    f.dimacsLines format = .ok (f.printedLines format) := by
  rw [dimacsLines_eq, if_neg]
  exact fun hrefused => hrefused.2 ((dimacs_eq_ok_iff.mp h).1 hrefused.1)

/-! ## What is read -/

theorem WellFormed.hasLineBreak_printedLines (h : f.WellFormed) :
    ∀ line ∈ f.printedLines format, hasLineBreak line = false := by
  have hheader : ∀ line ∈ f.commentLines, hasLineBreak line = false := by
    intro line hline
    obtain ⟨comment, hcomment, rfl⟩ := List.mem_map.mp hline
    exact hasLineBreak_comment (h.tidy.header comment (Array.mem_toList_iff.mp hcomment))
  have hhard := hasLineBreak_lines h.tidy.hardComments
    fun clause _ => f.isRow_clauseLine format clause
  have hsoft := hasLineBreak_lines h.tidy.softComments
    fun clause _ => f.isRow_clauseLine format clause
  have hproblem := f.hasLineBreak_problemLine format
  rw [printedLines, List.forall_mem_append, List.forall_mem_cons, List.forall_mem_cons,
    List.forall_mem_append]
  refine ⟨hheader, hproblem, hasLineBreak_comment rfl, hhard, ?_⟩
  cases format with
  | cnf => exact fun line hline => absurd hline List.not_mem_nil
  | wcnf =>
      rw [softLines, List.forall_mem_cons]
      exact ⟨hasLineBreak_comment rfl, hsoft⟩

theorem dataOf_printedLines (plain : format = .cnf → f.soft.toList = []) :
    dataOf (f.printedLines format) =
      (f.problemLine format).toList ::
        f.clauses.map fun clause => (f.clauseLine format clause).toList := by
  have hheader : dataOf f.commentLines = [] := dataOf_comments f.comments.toList id
  have hhard := dataOf_lines fun clause (_ : clause ∈ f.hard.toList) =>
    f.isRow_clauseLine format clause
  have hsoft := dataOf_lines fun clause (_ : clause ∈ f.soft.toList) =>
    f.isRow_clauseLine format clause
  have hproblem := isData_of_isProblem (f.isProblem_problemLine format)
  rw [printedLines, dataOf_append, hheader, List.nil_append, dataOf_cons_of_isData hproblem,
    dataOf_cons_of_skipped (isData_comment _), dataOf_append, hhard, clauses, List.map_append]
  cases format with
  | cnf => rw [plain rfl]; rfl
  | wcnf => rw [softLines, dataOf_cons_of_skipped (isData_comment _), hsoft]

theorem WellFormed.dataLines_eq (h : f.WellFormed) (made : f.dimacs format = .ok text) :
    dataLines text =
      (f.problemLine format).toList ::
        f.clauses.map fun clause => (f.clauseLine format clause).toList := by
  obtain ⟨plain, rfl⟩ := dimacs_eq_ok_iff.mp made
  rw [dataLines_unlines h.hasLineBreak_printedLines, dataOf_printedLines plain]

/-- What the line of a clause should say. -/
def entry (f : Formula) : Format → Clause Int32 → Entry
  | .cnf, clause => ⟨none, closed clause.literals⟩
  | .wcnf, clause => ⟨some (f.weight clause).toNat, closed clause.literals⟩

theorem readRow?_clauseLine (f : Formula) (format : Format) (clause : Clause Int32) :
    readRow? format (f.clauseLine format clause).toList = some (f.entry format clause) := by
  cases format with
  | cnf => exact readRow?_cnf clause.literals
  | wcnf => exact readRow?_wcnf clause.literals (f.weight clause)

/-- The lines of the clauses read back as what they should say. -/
theorem mapM_readRow? (f : Formula) (format : Format) :
    (f.clauses.map fun clause => (f.clauseLine format clause).toList).mapM (readRow? format) =
      some (f.clauses.map (f.entry format)) := by
  rw [List.mapM_map]
  exact mapM_eq_some fun clause _ => f.readRow?_clauseLine format clause

theorem numbers_entry (f : Formula) (format : Format) (clause : Clause Int32) :
    (f.entry format clause).numbers = closed clause.literals := by
  cases format <;> rfl

theorem WellFormed.entries_eq (h : f.WellFormed) :
    f.entries format = f.clauses.map (f.entry format) := by
  cases format with
  | cnf => rfl
  | wcnf =>
      rw [entries, clauses, List.map_append]
      congr 1
      · refine List.map_congr_left fun clause hclause => ?_
        rw [entry, weight, if_pos (h.tidy.hardCosts clause hclause)]
      · refine List.map_congr_left fun clause hclause => ?_
        rw [entry, weight_of_soft h hclause]

/-- A problem line and the lines after it say what the formula is. -/
structure Reads (f : Formula) (format : Format) (problem : List Char)
    (body : List (List Char)) : Prop where
  isProblem : isProblem problem = true
  only : ∀ line ∈ body, Dimacs.isProblem line = false
  header : readHeader? problem = some (f.header format)
  count : (f.header format).clauseCount = body.length
  clauses : body.mapM (readRow? format) = some (f.entries format)
  covered : ∀ entry ∈ f.entries format, ∀ number ∈ entry.numbers,
    number.natAbs ≤ (f.header format).variableCount
  closed : ∀ entry ∈ f.entries format, entry.IsClosed

theorem WellFormed.reads (h : f.WellFormed) (plain : format = .cnf → f.soft.toList = []) :
    f.Reads format (f.problemLine format).toList
      (f.clauses.map fun clause => (f.clauseLine format clause).toList) where
  isProblem := f.isProblem_problemLine format
  only := List.forall_mem_map.mpr fun clause _ => (f.isRow_clauseLine format clause).isProblem
  header := f.readHeader?_problemLine format
  count := by
    rw [List.length_map]
    cases format <;> rfl
  clauses := by
    rw [h.entries_eq]
    exact f.mapM_readRow? format
  covered := by
    have hcount : (f.header format).variableCount = f.literalCount.toNat := by
      cases format <;> rfl
    rw [h.entries_eq, List.forall_mem_map, hcount]
    intro clause hclause number hnumber
    rw [numbers_entry, Dimacs.closed, List.mem_append, List.mem_map, List.mem_singleton] at hnumber
    rcases hnumber with ⟨literal, hl, rfl⟩ | rfl
    · exact h.covered clause hclause literal hl
    · exact Nat.zero_le _
  closed := by
    rw [h.entries_eq, List.forall_mem_map]
    intro clause hclause
    cases format with
    | cnf => exact isClosed_closed (h.nonzero clause hclause) _
    | wcnf => exact isClosed_closed (h.nonzero clause hclause) _

/-! ## Comments -/

/-- Both formulas have the same clauses and the same count; their comments may differ. -/
structure SameProblem (f g : Formula) : Prop where
  literalCount : g.literalCount = f.literalCount
  hard : g.hard.toList = f.hard.toList
  soft : g.soft.toList = f.soft.toList

namespace SameProblem

variable {g : Formula}

theorem of_run {op : Operation} (h : op.clause? = none) (f : Formula) :
    f.SameProblem (op.run f).1 := by
  cases op with
  | addClause clause => cases h
  | addHard literals => cases h
  | addSoft cost literals => cases h
  | clone => exact ⟨rfl, rfl, rfl⟩
  | comment text =>
      refine Operation.settle_induction ⟨rfl, rfl, rfl⟩ fun g made => ?_
      obtain ⟨checked, -, rfl⟩ := map_eq_ok_iff.mp made
      exact ⟨rfl, rfl, rfl⟩
  | commentHard text =>
      refine Operation.settle_induction ⟨rfl, rfl, rfl⟩ fun g made => ?_
      obtain ⟨hard, hh, rfl⟩ := map_eq_ok_iff.mp made
      obtain ⟨-, rfl⟩ := ClauseList.comment_eq_ok_iff.mp hh
      exact ⟨rfl, rfl, rfl⟩
  | commentSoft text =>
      refine Operation.settle_induction ⟨rfl, rfl, rfl⟩ fun g made => ?_
      obtain ⟨soft, hs, rfl⟩ := map_eq_ok_iff.mp made
      obtain ⟨-, rfl⟩ := ClauseList.comment_eq_ok_iff.mp hs
      exact ⟨rfl, rfl, rfl⟩

theorem clauses (same : f.SameProblem g) : g.clauses = f.clauses := by
  rw [Formula.clauses, same.hard, same.soft, ← Formula.clauses]

theorem top (same : f.SameProblem g) : g.top = f.top := by
  rw [Formula.top, ClauseList.totalCost, same.soft, ← ClauseList.totalCost, ← Formula.top]

theorem problemLine (same : f.SameProblem g) (format : Format) :
    g.problemLine format = f.problemLine format := by
  cases format with
  | cnf => rw [Formula.problemLine, same.literalCount, same.clauses, ← Formula.problemLine]
  | wcnf =>
      rw [Formula.problemLine, same.literalCount, same.clauses, same.top, ← Formula.problemLine]

theorem clauseLine (same : f.SameProblem g) (format : Format) :
    g.clauseLine format = f.clauseLine format := by
  funext clause
  cases format with
  | cnf => rfl
  | wcnf =>
      rw [Formula.clauseLine, wcnfClause, weight, same.top, ← weight, ← wcnfClause,
        ← Formula.clauseLine]

/-- Whatever the comments, the format accepts both or neither, and the same lines are read. -/
theorem dataLines_eq (same : f.SameProblem g) (hf : f.WellFormed) (hg : g.WellFormed)
    (made : f.dimacs format = .ok text) :
    ∃ other, g.dimacs format = .ok other ∧ dataLines other = dataLines text := by
  have plain : format = .cnf → g.soft.toList = [] :=
    fun hcnf => same.soft.trans ((dimacs_eq_ok_iff.mp made).1 hcnf)
  have made' : g.dimacs format = .ok (unlines (g.printedLines format)) :=
    dimacs_eq_ok_iff.mpr ⟨plain, rfl⟩
  refine ⟨_, made', ?_⟩
  rw [hg.dataLines_eq made', hf.dataLines_eq made, same.problemLine, same.clauses,
    same.clauseLine]

end SameProblem

end

end Clausal.Formula

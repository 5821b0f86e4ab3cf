import Clausal.Formula.Dimacs
import Clausal.Proofs.Outcome
import Clausal.Proofs.Text.Numeral

/-!
# Printed lines read back

A reader for what formulas print, written from the format alone.  It cuts at line breaks, skips
what starts with a c and what is empty, and takes the other lines as words: a problem line starts
with a p and counts variables and clauses, a clause line is a row of numbers, after its weight in
the weighted format.

Each kind of line is one line, and a reader takes it for what it is: a comment is skipped
whatever it says, a problem line gives its counts, and a clause line gives its weight and its
numbers.  So of a clause list printed with its comments the clauses are what is read.
-/

namespace Clausal.Dimacs

open Text

/-! ## The reader -/

/-- Whether a line is no comment and not empty. -/
def isData (line : List Char) : Bool := !line.isEmpty && line.head? != some 'c'

/-- The lines that are not skipped. -/
def dataLines (text : String) : List (List Char) := (split isLineBreak text.toList).filter isData

def isProblem (line : List Char) : Bool := line.head? == some 'p'

inductive Header where
  | cnf (variableCount clauseCount : Nat)
  | wcnf (variableCount clauseCount top : Nat)
  deriving DecidableEq, Repr

namespace Header

def variableCount : Header → Nat
  | cnf count _ | wcnf count _ _ => count

def clauseCount : Header → Nat
  | cnf _ count | wcnf _ count _ => count

end Header

def readHeader? (line : List Char) : Option Header :=
  match fields line with
  | [['p'], ['c', 'n', 'f'], first, second] => do
      return .cnf (← readDigits? first) (← readDigits? second)
  | [['p'], ['w', 'c', 'n', 'f'], first, second, third] => do
      return .wcnf (← readDigits? first) (← readDigits? second) (← readDigits? third)
  | _ => none

/-- What a clause line says: its weight, if the format has weights, and all its numbers. -/
structure Entry where
  weight? : Option Nat
  numbers : List Int
  deriving DecidableEq, Repr

/-- Whether a zero ends the numbers and there is no other. -/
def Entry.IsClosed (entry : Entry) : Prop :=
  ∃ literals, entry.numbers = literals ++ [0] ∧ (0 : Int) ∉ literals

def readRow? : Format → List Char → Option Entry
  | .cnf, line => ((fields line).mapM readInt?).map fun numbers => ⟨none, numbers⟩
  | .wcnf, line =>
      match fields line with
      | [] => none
      | weight :: numbers => do
          return ⟨some (← readDigits? weight), ← numbers.mapM readInt?⟩

/-! ## Data lines -/

/-- What a reader looks at in these lines. -/
def dataOf (lines : List String) : List (List Char) := (lines.map String.toList).filter isData

@[simp] theorem dataOf_append (first second : List String) :
    dataOf (first ++ second) = dataOf first ++ dataOf second := by
  rw [dataOf, List.map_append, List.filter_append]
  rfl

theorem dataOf_cons_of_isData {line : String} (h : isData line.toList = true)
    (rest : List String) : dataOf (line :: rest) = line.toList :: dataOf rest := by
  rw [dataOf, List.map_cons, List.filter_cons_of_pos h]
  rfl

theorem dataOf_cons_of_skipped {line : String} (h : isData line.toList = false)
    (rest : List String) : dataOf (line :: rest) = dataOf rest := by
  rw [dataOf, List.map_cons, List.filter_cons_of_neg (by rw [h]; exact Bool.false_ne_true)]
  rfl

theorem dataLines_unlines {lines : List String}
    (h : ∀ line ∈ lines, hasLineBreak line = false) :
    dataLines (unlines lines) = dataOf lines := by
  rw [dataLines, split_unlines h, List.filter_append]
  exact List.append_nil _

/-! ## Comments -/

theorem comment_line_eq (text : String) : Comment.line text = "c " ++ text := rfl

theorem isData_comment (text : String) : isData (Comment.line text).toList = false := by
  simp [comment_line_eq, isData]

theorem hasLineBreak_comment {text : String} (oneLine : hasLineBreak text = false) :
    hasLineBreak (Comment.line text) = false := by
  rw [comment_line_eq, hasLineBreak_append, oneLine]
  rfl

theorem dataOf_comments {α : Type} (comments : List α) (textOf : α → String) :
    dataOf (comments.map fun comment => Comment.line (textOf comment)) = [] := by
  induction comments with
  | nil => rfl
  | cons comment rest ih => rw [List.map_cons, dataOf_cons_of_skipped (isData_comment _), ih]

/-! ## Problem lines -/

theorem cnfProblemLine_eq (literalCount : UInt32) (clauseCount : Nat) :
    cnfProblemLine literalCount clauseCount =
      "p cnf " ++ toString literalCount.toNat ++ " " ++ toString clauseCount := rfl

theorem wcnfProblemLine_eq (literalCount : UInt32) (clauseCount : Nat) (top : UInt64) :
    wcnfProblemLine literalCount clauseCount top =
      "p wcnf " ++ toString literalCount.toNat ++ " " ++ toString clauseCount ++ " " ++
        toString top.toNat := rfl

theorem isWord_p : IsWord ['p'] where
  nonempty := List.cons_ne_nil _ _
  unbroken := by
    rw [List.forall_mem_singleton]
    rfl

theorem isWord_cnf : IsWord ['c', 'n', 'f'] where
  nonempty := List.cons_ne_nil _ _
  unbroken := by
    simp only [List.forall_mem_cons]
    exact ⟨rfl, rfl, rfl, nofun⟩

theorem isWord_wcnf : IsWord ['w', 'c', 'n', 'f'] where
  nonempty := List.cons_ne_nil _ _
  unbroken := List.forall_mem_cons.mpr ⟨rfl, isWord_cnf.unbroken⟩

theorem readHeader?_cnf (literalCount : UInt32) (clauseCount : Nat) :
    readHeader? (cnfProblemLine literalCount clauseCount).toList =
      some (.cnf literalCount.toNat clauseCount) := by
  have hline : (cnfProblemLine literalCount clauseCount).toList =
      ['p'] ++ ' ' :: (['c', 'n', 'f'] ++ ' ' ::
        ((toString literalCount.toNat).toList ++ ' ' :: (toString clauseCount).toList)) := by
    simp [cnfProblemLine_eq]
  rw [readHeader?, hline, isWord_p.fields_append, isWord_cnf.fields_append,
    (isWord_toString_nat _).fields_append, (isWord_toString_nat _).fields_eq]
  simp only [readDigits?_toString]
  rfl

theorem readHeader?_wcnf (literalCount : UInt32) (clauseCount : Nat) (top : UInt64) :
    readHeader? (wcnfProblemLine literalCount clauseCount top).toList =
      some (.wcnf literalCount.toNat clauseCount top.toNat) := by
  have hline : (wcnfProblemLine literalCount clauseCount top).toList =
      ['p'] ++ ' ' :: (['w', 'c', 'n', 'f'] ++ ' ' ::
        ((toString literalCount.toNat).toList ++ ' ' ::
          ((toString clauseCount).toList ++ ' ' :: (toString top.toNat).toList))) := by
    simp [wcnfProblemLine_eq]
  rw [readHeader?, hline, isWord_p.fields_append, isWord_wcnf.fields_append,
    (isWord_toString_nat _).fields_append, (isWord_toString_nat _).fields_append,
    (isWord_toString_nat _).fields_eq]
  simp only [readDigits?_toString]
  rfl

/-- What starts with a p is read, and for a problem line. -/
theorem isData_of_isProblem {line : List Char} (h : isProblem line = true) :
    isData line = true := by
  cases line with
  | nil => cases h
  | cons c rest =>
      have hc : c = 'p' := by simpa [isProblem] using h
      rw [hc]
      rfl

theorem isProblem_cnf (literalCount : UInt32) (clauseCount : Nat) :
    isProblem (cnfProblemLine literalCount clauseCount).toList = true := by
  simp [cnfProblemLine_eq, isProblem]

theorem isProblem_wcnf (literalCount : UInt32) (clauseCount : Nat) (top : UInt64) :
    isProblem (wcnfProblemLine literalCount clauseCount top).toList = true := by
  simp [wcnfProblemLine_eq, isProblem]

theorem hasLineBreak_cnfProblemLine (literalCount : UInt32) (clauseCount : Nat) :
    hasLineBreak (cnfProblemLine literalCount clauseCount) = false := by
  simp only [cnfProblemLine_eq, hasLineBreak_append, hasLineBreak_toString]
  rfl

theorem hasLineBreak_wcnfProblemLine (literalCount : UInt32) (clauseCount : Nat)
    (top : UInt64) : hasLineBreak (wcnfProblemLine literalCount clauseCount top) = false := by
  simp only [wcnfProblemLine_eq, hasLineBreak_append, hasLineBreak_toString]
  rfl

/-! ## Clause lines -/

/-- The numbers of a clause line: the literals and the zero that ends them. -/
def closed (literals : List Int32) : List Int := literals.map Int32.toInt ++ [0]

theorem isClosed_closed {literals : List Int32} (nonzero : (0 : Int32) ∉ literals)
    (weight? : Option Nat) : (Entry.mk weight? (closed literals)).IsClosed := by
  refine ⟨literals.map Int32.toInt, rfl, ?_⟩
  intro hzero
  obtain ⟨literal, hl, heq⟩ := List.mem_map.mp hzero
  have hliteral : literal = 0 := Int32.toInt_inj.mp (heq.trans Int32.toInt_zero.symm)
  exact nonzero (hliteral ▸ hl)

theorem toList_cnfClauseLine (literals : List Int32) :
    (cnfClauseLine literals).toList =
      (literals.map fun literal => (toString literal.toInt).toList).flatMap (· ++ [' ']) ++
        (toString (0 : Int)).toList := by
  have hzero : "0".toList = (toString (0 : Int)).toList := rfl
  have hliteral (literal : Int32) : toString literal = toString literal.toInt := rfl
  simp only [cnfClauseLine, String.toList_append, String.toList_join, List.flatMap_map, hliteral,
    hzero]
  rfl

theorem toList_wcnfClauseLine (literals : List Int32) (weight : UInt64) :
    (wcnfClauseLine literals weight).toList =
      (toString weight.toNat).toList ++ ' ' :: (cnfClauseLine literals).toList := by
  have happend : wcnfClauseLine literals weight =
      toString weight.toNat ++ " " ++ cnfClauseLine literals := rfl
  simp [happend]

theorem fields_cnfClauseLine (literals : List Int32) :
    fields (cnfClauseLine literals).toList =
      (closed literals).map fun number => (toString number).toList := by
  have hwords : ∀ word ∈ literals.map fun literal => (toString literal.toInt).toList,
      IsWord word :=
    List.forall_mem_map.mpr fun literal _ => isWord_toString literal.toInt
  rw [toList_cnfClauseLine, fields_flatMap_append hwords, (isWord_toString 0).fields_eq, closed,
    List.map_append, List.map_map]
  rfl

theorem fields_wcnfClauseLine (literals : List Int32) (weight : UInt64) :
    fields (wcnfClauseLine literals weight).toList =
      (toString weight.toNat).toList ::
        (closed literals).map fun number => (toString number).toList := by
  rw [toList_wcnfClauseLine, (isWord_toString_nat _).fields_append, fields_cnfClauseLine]

theorem mapM_readInt?_toString (numbers : List Int) :
    (numbers.map fun number => (toString number).toList).mapM readInt? = some numbers := by
  have hread : ∀ number ∈ numbers,
      (readInt? ∘ fun number => (toString number).toList) number = some (id number) :=
    fun number _ => readInt?_toString number
  rw [List.mapM_map, mapM_eq_some hread, List.map_id]

theorem readRow?_cnf (literals : List Int32) :
    readRow? .cnf (cnfClauseLine literals).toList = some ⟨none, closed literals⟩ := by
  rw [readRow?, fields_cnfClauseLine, mapM_readInt?_toString]
  rfl

theorem readRow?_wcnf (literals : List Int32) (weight : UInt64) :
    readRow? .wcnf (wcnfClauseLine literals weight).toList =
      some ⟨some weight.toNat, closed literals⟩ := by
  rw [readRow?, fields_wcnfClauseLine]
  simp only [readDigits?_toString, mapM_readInt?_toString]
  rfl

/-- A line of numbers with single spaces between them. -/
structure IsRow (line : List Char) : Prop where
  nonempty : line ≠ []
  plain : ∀ c ∈ line, isNumeralChar c = true ∨ c = ' '

namespace IsRow

theorem cnf (literals : List Int32) : IsRow (cnfClauseLine literals).toList := by
  rw [toList_cnfClauseLine]
  constructor
  · intro h
    exact absurd (List.append_eq_nil_iff.mp h).2 (toString_int_ne_nil 0)
  · intro c hc
    rcases List.mem_append.mp hc with hc | hc
    · obtain ⟨word, hword, hc⟩ := List.mem_flatMap.mp hc
      obtain ⟨literal, -, rfl⟩ := List.mem_map.mp hword
      rcases List.mem_append.mp hc with hc | hc
      · exact .inl (isNumeralChar_of_mem hc)
      · exact .inr (List.mem_singleton.mp hc)
    · exact .inl (isNumeralChar_of_mem hc)

theorem wcnf (literals : List Int32) (weight : UInt64) :
    IsRow (wcnfClauseLine literals weight).toList := by
  rw [toList_wcnfClauseLine]
  constructor
  · simp
  · intro c hc
    rcases List.mem_append.mp hc with hc | hc
    · exact .inl (isNumeralChar_of_mem (i := weight.toNat) hc)
    · rcases List.mem_cons.mp hc with rfl | hc
      · exact .inr rfl
      · exact (cnf literals).plain c hc

variable {line : List Char}

theorem isData (h : IsRow line) : isData line = true := by
  cases line with
  | nil => exact absurd rfl h.nonempty
  | cons c rest =>
      have hc : c ≠ 'c' := by
        rintro rfl
        exact absurd (h.plain 'c' List.mem_cons_self) (by decide)
      simp [Dimacs.isData, hc]

theorem isProblem (h : IsRow line) : isProblem line = false := by
  cases line with
  | nil => rfl
  | cons c rest =>
      have hc : c ≠ 'p' := by
        rintro rfl
        exact absurd (h.plain 'p' List.mem_cons_self) (by decide)
      simp [Dimacs.isProblem, hc]

theorem hasLineBreak {text : String} (h : IsRow text.toList) :
    hasLineBreak text = false := by
  rw [hasLineBreak_eq_false_iff]
  intro c hc
  rcases h.plain c hc with hnumeral | rfl
  · exact isLineBreak_of_isNumeralChar hnumeral
  · rfl

end IsRow

/-! ## Clause lists -/

section

variable {α : Type} {format : Clause α → String}

theorem dataOf_replay {clauses : List (Clause α)}
    (rows : ∀ clause ∈ clauses, IsRow (format clause).toList) (position : Nat)
    (comments : List Comment) :
    dataOf (ClauseList.replay format position comments clauses) =
      clauses.map fun clause => (format clause).toList := by
  induction clauses generalizing position comments with
  | nil => exact dataOf_comments _ Comment.text
  | cons clause rest ih =>
      rw [List.forall_mem_cons] at rows
      -- The comments that are due here are skipped, whatever their number, then comes the clause.
      rw [ClauseList.replay, dataOf_append, dataOf_comments _ Comment.text, List.nil_append,
        dataOf_cons_of_isData rows.1.isData, ih rows.2, List.map_cons]

theorem mem_due {comments : List Comment} {position : Nat} {line : String}
    (h : line ∈ (comments.takeWhile fun comment => comment.anchor ≤ position).map fun comment =>
      Comment.line comment.text) : ∃ comment ∈ comments, line = Comment.line comment.text := by
  obtain ⟨comment, hcomment, rfl⟩ := List.mem_map.mp h
  exact ⟨comment, (List.takeWhile_prefix _).subset hcomment, rfl⟩

/-- What is printed is a comment of the list or one of its clauses. -/
theorem mem_replay {clauses : List (Clause α)} {position : Nat} {comments : List Comment}
    {line : String} (h : line ∈ ClauseList.replay format position comments clauses) :
    (∃ comment ∈ comments, line = Comment.line comment.text) ∨
      ∃ clause ∈ clauses, line = format clause := by
  induction clauses generalizing position comments with
  | nil => exact .inl (mem_due h)
  | cons clause rest ih =>
      rw [ClauseList.replay] at h
      rcases List.mem_append.mp h with h | h
      · exact .inl (mem_due h)
      rcases List.mem_cons.mp h with rfl | h
      · exact .inr ⟨clause, List.mem_cons_self, rfl⟩
      rcases ih h with ⟨comment, hcomment, rfl⟩ | ⟨other, hother, rfl⟩
      · exact .inl ⟨comment, (List.dropWhile_suffix _).subset hcomment, rfl⟩
      · exact .inr ⟨other, List.mem_cons_of_mem clause hother, rfl⟩

theorem hasLineBreak_lines {list : ClauseList α}
    (comments : ∀ comment ∈ list.comments, hasLineBreak comment.text = false)
    (rows : ∀ clause ∈ list.toList, IsRow (format clause).toList) :
    ∀ line ∈ list.lines format, hasLineBreak line = false := by
  intro line hline
  rcases mem_replay hline with ⟨comment, hcomment, rfl⟩ | ⟨clause, hclause, rfl⟩
  · exact hasLineBreak_comment (comments comment (Array.mem_toList_iff.mp hcomment))
  · exact (rows clause hclause).hasLineBreak

theorem dataOf_lines {list : ClauseList α}
    (rows : ∀ clause ∈ list.toList, IsRow (format clause).toList) :
    dataOf (list.lines format) = list.toList.map fun clause => (format clause).toList :=
  dataOf_replay rows 0 list.comments.toList

end

end Clausal.Dimacs

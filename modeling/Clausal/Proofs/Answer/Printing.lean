import Clausal.Proofs.Outcome
import Clausal.Proofs.Search.Procedure
import Clausal.Proofs.Text.Numeral
import Clausal.Proofs.Text.Words

/-!
# Printed answers read back

An answer is printed as two lines, or three in the weighted format, and each says one thing of
it.  Reading them gives the answer back, less what the lines cannot say: the plain format has no
objective value, and only an optimum has values.  An answer that was read, or that a solver has
given, has nothing else to lose, so printing and reading are inverse on those.
-/

namespace Clausal

theorem Status.isLineBreak_render (status : Status) :
    ∀ c ∈ status.render.toList, Text.isLineBreak c = false := by
  cases status <;> simp [render, Text.isLineBreak]

namespace Answer

open Text

/-- An answer without what reading would not find: an objective value in the plain format, and
values where no optimum was found. -/
def kept (answer : Answer) : Answer :=
  { answer with
    cost := if answer.format = .cnf then 0 else answer.cost
    assignment := if answer.status = .optimumFound then answer.assignment else #[] }

/-! ## The lines -/

/-- What follows the letter and the space on each line. -/
def statusLine (answer : Answer) : List Char := 's' :: ' ' :: answer.status.render.toList

def objectiveLine (answer : Answer) : List Char := 'o' :: ' ' :: (toString answer.cost).toList

def valuesLine (answer : Answer) : List Char := 'v' :: ' ' :: (bits answer.assignment).toList

def printedLines (answer : Answer) : List (List Char) :=
  match answer.format with
  | .cnf => [answer.statusLine, answer.valuesLine]
  | .wcnf => [answer.statusLine, answer.objectiveLine, answer.valuesLine]

theorem isLineBreak_letter {letter : Char} (h : isLineBreak letter = false) {rest : List Char}
    (hrest : ∀ c ∈ rest, isLineBreak c = false) :
    ∀ c ∈ letter :: ' ' :: rest, isLineBreak c = false := by
  rw [List.forall_mem_cons, List.forall_mem_cons]
  exact ⟨h, rfl, hrest⟩

theorem isLineBreak_statusLine (answer : Answer) :
    ∀ c ∈ answer.statusLine, isLineBreak c = false :=
  isLineBreak_letter rfl answer.status.isLineBreak_render

theorem isLineBreak_objectiveLine (answer : Answer) :
    ∀ c ∈ answer.objectiveLine, isLineBreak c = false :=
  isLineBreak_letter rfl fun _ hc =>
    isLineBreak_of_isNumeralChar (isNumeralChar_of_mem (i := answer.cost.toNat) hc)

theorem eq_bitChar_of_mem_bits {assignment : Assignment} {c : Char}
    (hc : c ∈ (bits assignment).toList) : ∃ value, c = bitChar value := by
  rw [bits, String.toList_ofList, List.mem_map] at hc
  obtain ⟨value, -, rfl⟩ := hc
  exact ⟨value, rfl⟩

theorem isLineBreak_valuesLine (answer : Answer) :
    ∀ c ∈ answer.valuesLine, isLineBreak c = false := by
  refine isLineBreak_letter rfl fun c hc => ?_
  obtain ⟨value, rfl⟩ := eq_bitChar_of_mem_bits hc
  cases value <;> rfl

theorem lines_valuesLine (answer : Answer) : lines answer.valuesLine = [answer.valuesLine] :=
  lines_of_not_mem (feed_not_mem answer.isLineBreak_valuesLine) (List.cons_ne_nil _ _)

theorem toList_render (answer : Answer) :
    answer.render.toList =
      match answer.format with
      | .cnf => answer.statusLine ++ '\n' :: answer.valuesLine
      | .wcnf =>
          answer.statusLine ++ '\n' :: (answer.objectiveLine ++ '\n' :: answer.valuesLine) := by
  cases hformat : answer.format with
  | cnf => simp [render, hformat, statusLine, valuesLine, toString]
  | wcnf => simp [render, hformat, statusLine, objectiveLine, valuesLine, toString]

theorem lines_render (answer : Answer) : lines answer.render.toList = answer.printedLines := by
  rw [toList_render, printedLines]
  cases answer.format with
  | cnf => rw [lines_line_cons answer.isLineBreak_statusLine, lines_valuesLine]
  | wcnf =>
      rw [lines_line_cons answer.isLineBreak_statusLine,
        lines_line_cons answer.isLineBreak_objectiveLine, lines_valuesLine]

/-! ## Reading them -/

/-- What the printed lines have said. -/
def printedReadings (answer : Answer) : Readings where
  status := some answer.status.render.toList
  values := (bits answer.assignment).toList
  cost := if answer.format = .cnf then none else some answer.cost

namespace Readings

theorem trim_toString (word : UInt64) : trim (toString word).toList = (toString word).toList :=
  trim_of_unbroken (isWord_toString_nat word.toNat).unbroken

theorem read_objectiveLine (r : Readings) (answer : Answer) :
    r.read .wcnf answer.objectiveLine = .ok (r.withCost answer.cost) := by
  simp only [read, objectiveLine, trim_toString, readUInt64?_toString]

theorem readAll_printedLines (answer : Answer) :
    start.readAll answer.format answer.printedLines = .ok answer.printedReadings := by
  rw [printedLines, printedReadings]
  cases answer.format with
  | cnf => rfl
  | wcnf => simp only [readAll, statusLine, read_objectiveLine]; rfl

theorem outcome_printedReadings (answer : Answer) :
    answer.printedReadings.outcome = .ok answer.status := by
  rw [outcome, printedReadings]
  cases answer.status <;> rfl

theorem objective_printedReadings (answer : Answer) :
    answer.printedReadings.objective answer.format =
      .ok (if answer.format = .cnf then 0 else answer.cost) := by
  rw [objective.eq_def, printedReadings]
  cases answer.format <;> rfl

theorem assignment_printedReadings (answer : Answer) :
    answer.printedReadings.assignment = answer.assignment := by
  have hall : ∀ c ∈ (bits answer.assignment).toList, (!isBlank c) = true := by
    intro c hc
    obtain ⟨value, rfl⟩ := eq_bitChar_of_mem_bits hc
    cases value <;> decide
  have hread : ((· == '1') ∘ bitChar) = id := by
    funext value
    cases value <;> rfl
  rw [assignment, printedReadings, List.filter_eq_self.mpr hall, bits, String.toList_ofList,
    List.map_map, hread, List.map_id, Array.toArray_toList]

end Readings

/-- A printed answer is read as what it keeps. -/
theorem parse_render (answer : Answer) : parse answer.format answer.render = .ok answer.kept := by
  have hne : answer.render.toList ≠ [] := by
    intro hnil
    have hlines := answer.lines_render
    rw [hnil, lines_nil, printedLines] at hlines
    cases hformat : answer.format <;> rw [hformat] at hlines <;> cases hlines
  rw [parse, if_neg hne, lines_render, Readings.readAll_printedLines]
  simp only [bind, Except.bind, Readings.outcome_printedReadings,
    Readings.objective_printedReadings, Readings.assignment_printedReadings]
  rfl

/-! ## Answers with nothing to lose -/

namespace Readings

theorem cost_of_readAll {r r' : Readings} {text : List (List Char)}
    (h : r.readAll .cnf text = .ok r') : r'.cost = r.cost := by
  induction text generalizing r with
  | nil => cases h; rfl
  | cons line rest ih =>
      rw [readAll] at h
      have hline : ∀ next, r.read .cnf line = .ok next → next.cost = r.cost := by
        intro next hnext
        unfold read at hnext
        split at hnext <;> cases hnext <;> rfl
      cases hread : r.read .cnf line with
      | error failure => rw [hread] at h; cases h
      | ok next =>
          rw [hread] at h
          exact (ih h).trans (hline next hread)

end Readings

theorem kept_of_parse {format : Format} {text : String} {answer : Answer}
    (h : parse format text = .ok answer) : answer.format = format ∧ answer.kept = answer := by
  unfold parse at h
  split at h
  · cases h
  obtain ⟨readings, hreadings, h⟩ := bind_eq_ok_iff.mp h
  obtain ⟨status, -, h⟩ := bind_eq_ok_iff.mp h
  obtain ⟨cost, hcost, h⟩ := bind_eq_ok_iff.mp h
  rw [pure_eq_ok_iff] at h
  subst h
  refine ⟨rfl, ?_⟩
  have hvalues : (if status = .optimumFound then
      (if status = .optimumFound then readings.assignment else #[]) else #[]) =
      if status = .optimumFound then readings.assignment else #[] := by
    split <;> rfl
  cases format with
  | wcnf => simp [kept, hvalues]
  | cnf =>
      have hnone := Readings.cost_of_readAll hreadings
      rw [Readings.objective.eq_def, hnone] at hcost
      cases hcost
      simp [kept, hvalues, Readings.start]

/-- Just the answers with nothing to lose are ever read. -/
theorem exists_parse_iff {format : Format} {answer : Answer} :
    (∃ text, parse format text = .ok answer) ↔ answer.format = format ∧ answer.kept = answer := by
  constructor
  · rintro ⟨text, h⟩
    exact kept_of_parse h
  · rintro ⟨rfl, hkept⟩
    exact ⟨answer.render, by rw [parse_render, hkept]⟩

theorem kept_verdict (width : Nat) (verdict : Search.Verdict) :
    (verdict.answer width).kept = verdict.answer width := by
  cases verdict <;> rfl

theorem kept_of_solveBy {procedure : Search.Procedure} {f : Formula} {answer : Answer}
    (h : f.solveBy procedure = .ok answer) : answer.kept = answer := by
  cases plain : f.soft.isEmpty with
  | false =>
      rw [Formula.solveBy, plain] at h
      cases h
  | true =>
      rw [Formula.solveBy, plain] at h
      simp only [Bool.not_true, Bool.false_eq_true, if_false] at h
      obtain ⟨clauses, -, h⟩ := bind_eq_ok_iff.mp h
      rw [pure_eq_ok_iff] at h
      exact h ▸ kept_verdict _ _

/-- A printed answer is read as what it keeps, whatever it is; so an answer that was read from
some text, or that a procedure has given, is read back as itself. -/
theorem printing_inverts_reading :
    (∀ answer : Answer, parse answer.format answer.render = .ok answer.kept) ∧
    (∀ format text answer, parse format text = .ok answer →
      parse format answer.render = .ok answer) ∧
    ∀ (procedure : Search.Procedure) (f : Formula) (answer : Answer),
      f.solveBy procedure = .ok answer → parse answer.format answer.render = .ok answer := by
  refine ⟨parse_render, ?_, ?_⟩
  · intro format text answer h
    obtain ⟨rfl, hkept⟩ := exists_parse_iff.mp ⟨text, h⟩
    rw [parse_render, hkept]
  · intro procedure f answer h
    rw [parse_render, kept_of_solveBy h]

/-- Two objective values, a value that is neither 0 nor 1, and a blank. -/
def verbose : String := "o 10\no 6\nc done\nv 1 0x\ns OPTIMUM FOUND\n"

/-- Not 1, or 2. -/
def implication : Formula := (Formula.empty.addHard [-1, 2]).1

/-- Solving comes to a model, since there is one. -/
theorem solveBy_implication :
    ∃ answer, implication.solveBy Search.verdict = .ok answer ∧ answer.status = .optimumFound := by
  let clauses : List (List Choice) := [[.of 0 false, .of 1 true]]
  have within : Search.Within 2 clauses := by unfold Search.Within; decide
  refine ⟨(Search.verdict 2 clauses).answer 2, rfl, ?_⟩
  cases hverdict : Search.verdict 2 clauses with
  | satisfiable choices => rfl
  | unsatisfiable =>
      have hnone := Search.verdict_correct.unsatisfiable within hverdict #[false, false]
      exact absurd hnone (by decide)
  | undecided => exact absurd hverdict (Search.verdict_correct.decided within)

theorem verbose_read_back :
    parse .wcnf verbose = .ok ⟨.wcnf, .optimumFound, 6, #[true, false, false]⟩ ∧
      parse .wcnf (render ⟨.wcnf, .optimumFound, 6, #[true, false, false]⟩) =
        .ok ⟨.wcnf, .optimumFound, 6, #[true, false, false]⟩ ∧
      ∃ answer, implication.solveBy Search.verdict = .ok answer ∧
        answer.status = .optimumFound ∧ parse answer.format answer.render = .ok answer := by
  obtain ⟨-, hread, hsolved⟩ := printing_inverts_reading
  have hverbose : parse .wcnf verbose = .ok ⟨.wcnf, .optimumFound, 6, #[true, false, false]⟩ :=
    rfl
  obtain ⟨answer, hsolve, hfound⟩ := solveBy_implication
  exact ⟨hverbose, hread _ _ _ hverbose, answer, hsolve, hfound, hsolved _ _ _ hsolve⟩

end Answer

end Clausal

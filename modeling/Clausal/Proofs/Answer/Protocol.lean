import Mathlib.Order.Bounds.Basic
import Clausal.Answer
import Clausal.Proofs.Outcome
import Clausal.Proofs.Text.Numeral

/-!
# What the lines of an answer convey

A solver's lines are read one after the other into three readings, and the first objective value
that is malformed ends it.  `Conveys` says what the lines as a whole amount to, without going
through them: the last outcome, the last values and the smallest objective value count, and of
several failures the first in a fixed order.  Reading gives exactly that, so it makes no difference
which other lines there are, or in which order lines of different kinds stand.
-/

namespace Clausal

/-! ## Outcomes -/

/-- An outcome is written by its name; any text that is no such name stands for an unknown one. -/
inductive Status.Names (text : List Char) : Status → Prop
  | name {status : Status} (written : text = status.render.toList) : Names text status
  | other (foreign : ∀ known : Status, text ≠ known.render.toList) : Names text .unknown

namespace Status

theorem render_injective {a b : Status} (h : a.render.toList = b.render.toList) : a = b := by
  cases a <;> cases b <;> revert h <;> decide

theorem Names.unique {text : List Char} {a b : Status} (ha : Names text a) (hb : Names text b) :
    a = b := by
  cases ha with
  | name written =>
      cases hb with
      | name written' => exact render_injective (written.symm.trans written')
      | other foreign => exact absurd written (foreign a)
  | other foreign =>
      cases hb with
      | name written => exact absurd written (foreign b)
      | other _ => rfl

theorem names_ofText (text : List Char) : Names text (ofText text) := by
  by_cases hnamed : ∃ known : Status, text = known.render.toList
  · obtain ⟨known, rfl⟩ := hnamed
    have hread : ofText known.render.toList = known := by cases known <;> decide
    rw [hread]
    exact .name rfl
  · have foreign : ∀ known : Status, text ≠ known.render.toList := fun known heq =>
      hnamed ⟨known, heq⟩
    rw [ofText, if_neg (foreign optimumFound), if_neg (foreign unsatisfiable)]
    exact .other foreign

end Status

namespace Answer

open Text

/-! ## What lines say -/

/-- What a line of this letter says: what stands behind the letter and a space, without blanks
around it. -/
def told? (letter : Char) : List Char → Option (List Char)
  | first :: ' ' :: rest => if first = letter then some (trim rest) else none
  | _ => none

/-- What the lines of this letter say, in their order. -/
def said (letter : Char) (lines : List (List Char)) : List (List Char) :=
  lines.filterMap (told? letter)

/-- An unsigned numeral of 64 bits. -/
def IsCost (text : List Char) : Prop := ∃ cost, Unsigned text cost ∧ cost < UInt64.size

/-- The values that the text shows, one for each character that is not blank. -/
def shown (text : List Char) : List Bool := (text.filter fun c => !isBlank c).map (· == '1')

/-- In the weighted format every objective value has to be readable; in the plain one none is
read. -/
def Readable (format : Format) (objectives : List (List Char)) : Prop :=
  format = .wcnf → ∀ objective ∈ objectives, IsCost objective

/-- The numbers that objective values stand for. -/
def costs (objectives : List (List Char)) : Set Nat :=
  {cost | ∃ objective ∈ objectives, Unsigned objective cost}

theorem costs_nil : costs [] = ∅ := by simp [costs]

theorem ne_nil_of_isLeast {objectives : List (List Char)} {cost : Nat}
    (h : IsLeast (costs objectives) cost) : objectives ≠ [] := by
  rintro rfl
  have hmem := h.1
  rw [costs_nil] at hmem
  exact hmem

/-- What lines amount to.  Each failure is reported only where those before it do not arise. -/
inductive Conveys (format : Format) (lines : List (List Char)) : Except AnswerError Answer → Prop
  | invalidCost {before after : List (List Char)} {bad : List Char} (weighted : format = .wcnf)
      (objectives : said 'o' lines = before ++ bad :: after)
      (first : ∀ objective ∈ before, IsCost objective) (malformed : ¬ IsCost bad) :
      Conveys format lines (.error (.invalidCost (String.ofList bad)))
  | missingStatus (readable : Readable format (said 'o' lines))
      (blank : ∀ status ∈ (said 's' lines).getLast?, status = []) :
      Conveys format lines (.error .missingStatus)
  | missingCost {status : List Char} (last : (said 's' lines).getLast? = some status)
      (stated : status ≠ []) (weighted : format = .wcnf) (absent : said 'o' lines = []) :
      Conveys format lines (.error .missingCost)
  | answer {answer : Answer} {status : List Char} (readable : Readable format (said 'o' lines))
      (last : (said 's' lines).getLast? = some status) (stated : status ≠ [])
      (same : answer.format = format) (names : answer.status.Names status)
      (plain : format = .cnf → answer.cost = 0)
      (least : format = .wcnf → IsLeast (costs (said 'o' lines)) answer.cost.toNat)
      (values : answer.assignment.toList =
        if answer.status = .optimumFound then shown ((said 'v' lines).getLast?.getD []) else []) :
      Conveys format lines (.ok answer)

/-! ## One kind of lines -/

theorem told?_eq_some_iff {letter : Char} {line payload : List Char} :
    told? letter line = some payload ↔
      ∃ rest, line = letter :: ' ' :: rest ∧ payload = trim rest := by
  unfold told?
  split
  · rename_i first rest
    by_cases hletter : first = letter
    · simp [hletter, eq_comm]
    · simp [hletter]
  · rename_i hother
    simp only [reduceCtorEq, false_iff]
    rintro ⟨rest, rfl, -⟩
    exact hother letter rest rfl

theorem told?_eq_none {letter : Char} {line : List Char}
    (h : ∀ rest, line = letter :: ' ' :: rest → False) : told? letter line = none := by
  rw [Option.eq_none_iff_forall_ne_some]
  intro payload htold
  obtain ⟨rest, hline, -⟩ := told?_eq_some_iff.mp htold
  exact h rest hline

@[simp] theorem told?_cons (letter first : Char) (rest : List Char) :
    told? letter (first :: ' ' :: rest) = if first = letter then some (trim rest) else none := rfl

theorem said_concat (letter : Char) (lines : List (List Char)) (line : List Char) :
    said letter (lines ++ [line]) = said letter lines ++ (told? letter line).toList := by
  rw [said, said, List.filterMap_append, List.filterMap_cons]
  cases told? letter line with
  | none => rfl
  | some payload => rfl

theorem shown_trim (text : List Char) : shown (trim text) = shown text := by
  have hdrop (cs : List Char) :
      (cs.dropWhile isBlank).filter (fun c => !isBlank c) = cs.filter fun c => !isBlank c := by
    induction cs with
    | nil => rfl
    | cons c rest ih =>
        cases hc : isBlank c with
        | true => simp [hc, ih]
        | false => simp [hc]
  rw [shown, shown, trim, List.filter_reverse, hdrop, ← List.filter_reverse, List.reverse_reverse,
    hdrop]

/-! ## Objective values -/

/-- The objective value that readings hold is what these texts tell. -/
structure Tells (format : Format) (objectives : List (List Char)) (cost? : Option UInt64) :
    Prop where
  readable : Readable format objectives
  plain : format = .cnf → cost? = none
  absent : format = .wcnf → cost? = none → objectives = []
  least : ∀ cost, cost? = some cost → IsLeast (costs objectives) cost.toNat

namespace Tells

variable {format : Format} {objectives : List (List Char)} {r : Readings}

theorem nil (format : Format) : Tells format [] none where
  readable := fun _ _ hmem => absurd hmem List.not_mem_nil
  plain := fun _ => rfl
  absent := fun _ _ => rfl
  least := nofun

theorem plain_concat {cost? : Option UInt64} (h : Tells .cnf objectives cost?)
    (objective : List Char) : Tells .cnf (objectives ++ [objective]) cost? where
  readable := nofun
  plain := h.plain
  absent := nofun
  least := by
    rw [h.plain rfl]
    exact nofun

theorem costs_concat {objective : List Char} {cost : Nat} (value : Unsigned objective cost)
    (objectives : List (List Char)) :
    costs (objectives ++ [objective]) = insert cost (costs objectives) := by
  ext other
  simp only [costs, List.mem_append, List.mem_singleton, Set.mem_ofPred_eq, Set.mem_insert_iff]
  constructor
  · rintro ⟨known, hold | rfl, hvalue⟩
    · exact .inr ⟨known, hold, hvalue⟩
    · exact .inl (hvalue.unique value)
  · rintro (rfl | ⟨known, hold, hvalue⟩)
    · exact ⟨objective, .inr rfl, value⟩
    · exact ⟨known, .inl hold, hvalue⟩

theorem toNat_min (a b : UInt64) : (min a b).toNat = min a.toNat b.toNat := by
  change (if a ≤ b then a else b).toNat = _
  split
  · rename_i hle
    exact (min_eq_left (UInt64.le_iff_toNat_le.mp hle)).symm
  · rename_i hlt
    exact (min_eq_right (Nat.le_of_lt (UInt64.lt_iff_toNat_lt.mp (UInt64.not_le.mp hlt)))).symm

theorem weighted_concat (h : Tells .wcnf objectives r.cost) {objective : List Char}
    {cost : UInt64} (value : Unsigned objective cost.toNat) :
    Tells .wcnf (objectives ++ [objective]) (r.withCost cost).cost where
  readable := fun _ => by
    rw [List.forall_mem_append, List.forall_mem_singleton]
    exact ⟨h.readable rfl, cost.toNat, value, cost.toNat_lt⟩
  plain := nofun
  absent := nofun
  least := by
    intro least hleast
    rw [costs_concat value]
    cases hcost : r.cost with
    | none =>
        have hnew : (r.withCost cost).cost = some cost := by simp only [Readings.withCost, hcost]
        have hempty : costs objectives = ∅ := by rw [h.absent rfl hcost, costs_nil]
        cases hnew.symm.trans hleast
        rw [hempty, insert_empty_eq]
        exact isLeast_singleton
    | some earlier =>
        have hnew : (r.withCost cost).cost = some (min earlier cost) := by
          simp only [Readings.withCost, hcost]
        cases hnew.symm.trans hleast
        rw [toNat_min, min_comm]
        exact (h.least earlier hcost).insert cost.toNat

end Tells

/-! ## Reading line by line -/

/-- These readings are what the lines have said so far. -/
structure Heard (format : Format) (lines : List (List Char)) (r : Readings) : Prop where
  status : r.status.map trim = (said 's' lines).getLast?
  values : shown r.values = shown ((said 'v' lines).getLast?.getD [])
  cost : Tells format (said 'o' lines) r.cost

namespace Heard

variable {format : Format} {lines : List (List Char)} {r next : Readings} {line : List Char}

theorem start (format : Format) : Heard format [] .start := ⟨rfl, rfl, .nil format⟩

theorem status_line (h : Heard format lines r) (rest : List Char) :
    Heard format (lines ++ ['s' :: ' ' :: rest]) { r with status := some rest } where
  status := by simp [said_concat]
  values := by simpa [said_concat] using h.values
  cost := by simpa [said_concat] using h.cost

theorem values_line (h : Heard format lines r) (rest : List Char) :
    Heard format (lines ++ ['v' :: ' ' :: rest]) { r with values := rest } where
  status := by simpa [said_concat] using h.status
  values := by simp [said_concat, shown_trim]
  cost := by simpa [said_concat] using h.cost

theorem objective_line (h : Heard format lines r) (rest : List Char) {cost? : Option UInt64}
    (hcost : Tells format (said 'o' lines ++ [trim rest]) cost?) :
    Heard format (lines ++ ['o' :: ' ' :: rest]) { r with cost := cost? } where
  status := by simpa [said_concat] using h.status
  values := by simpa [said_concat] using h.values
  cost := by simpa [said_concat] using hcost

theorem other_line (h : Heard format lines r) (hstatus : told? 's' line = none)
    (hvalues : told? 'v' line = none) (hobjective : told? 'o' line = none) :
    Heard format (lines ++ [line]) r where
  status := by simpa [said_concat, hstatus] using h.status
  values := by simpa [said_concat, hvalues] using h.values
  cost := by simpa [said_concat, hobjective] using h.cost

theorem read (h : Heard format lines r) (hread : r.read format line = .ok next) :
    Heard format (lines ++ [line]) next := by
  unfold Readings.read at hread
  split at hread
  · cases hread
    exact h.status_line _
  · cases hread
    exact h.values_line _
  · split at hread
    · cases hread
      exact h.objective_line _ (h.cost.plain_concat _)
    · split at hread
      · rename_i cost hcost
        cases hread
        exact h.objective_line _
          (h.cost.weighted_concat (readUInt64?_eq_some_iff_unsigned.mp hcost))
      · cases hread
  · rename_i hstatus hvalues hobjective
    cases hread
    exact h.other_line (told?_eq_none hstatus) (told?_eq_none hvalues) (told?_eq_none hobjective)

theorem readAll {more : List (List Char)} (h : Heard format lines r)
    (hread : r.readAll format more = .ok next) : Heard format (lines ++ more) next := by
  induction more generalizing lines r with
  | nil =>
      cases hread
      rwa [List.append_nil]
  | cons line rest ih =>
      rw [Readings.readAll] at hread
      cases hline : r.read format line with
      | error failure =>
          rw [hline] at hread
          cases hread
      | ok middle =>
          rw [hline] at hread
          rw [List.append_cons]
          exact ih (h.read hline) hread

end Heard

/-- Only an objective value can make a line unreadable. -/
theorem read_eq_error {format : Format} {r : Readings} {line : List Char} {failure : AnswerError}
    (h : r.read format line = .error failure) :
    format = .wcnf ∧ ∃ bad, told? 'o' line = some bad ∧ ¬ IsCost bad ∧
      failure = .invalidCost (String.ofList bad) := by
  unfold Readings.read at h
  split at h
  · cases h
  · cases h
  · rename_i rest
    split at h
    · cases h
    · split at h
      · cases h
      · rename_i hbad
        cases h
        exact ⟨rfl, trim rest, rfl, readUInt64?_eq_none_iff.mp hbad, rfl⟩
  · cases h

theorem isCost_of_readUInt64? {text : List Char} {cost : UInt64}
    (h : readUInt64? text = some cost) : IsCost text :=
  ⟨cost.toNat, readUInt64?_eq_some_iff_unsigned.mp h, cost.toNat_lt⟩

theorem isCost_of_read {r next : Readings} {line objective : List Char}
    (h : r.read .wcnf line = .ok next) (htold : told? 'o' line = some objective) :
    IsCost objective := by
  obtain ⟨rest, rfl, rfl⟩ := told?_eq_some_iff.mp htold
  simp only [Readings.read] at h
  split at h
  · rename_i cost hcost
    exact isCost_of_readUInt64? hcost
  · cases h

theorem readAll_eq_error {format : Format} {r : Readings} {lines : List (List Char)}
    {failure : AnswerError} (h : r.readAll format lines = .error failure) :
    format = .wcnf ∧ ∃ before bad after, said 'o' lines = before ++ bad :: after ∧
      (∀ objective ∈ before, IsCost objective) ∧ ¬ IsCost bad ∧
      failure = .invalidCost (String.ofList bad) := by
  induction lines generalizing r with
  | nil => cases h
  | cons line rest ih =>
      rw [Readings.readAll] at h
      cases hline : r.read format line with
      | error first =>
          rw [hline] at h
          cases h
          obtain ⟨weighted, bad, htold, malformed, rfl⟩ := read_eq_error hline
          exact ⟨weighted, [], bad, said 'o' rest, List.filterMap_cons_some htold, nofun, malformed,
            rfl⟩
      | ok next =>
          rw [hline] at h
          obtain ⟨rfl, before, bad, after, hsaid, first, malformed, rfl⟩ := ih h
          cases htold : told? 'o' line with
          | none =>
              refine ⟨rfl, before, bad, after, ?_, first, malformed, rfl⟩
              rw [← hsaid]
              exact List.filterMap_cons_none htold
          | some objective =>
              refine ⟨rfl, objective :: before, bad, after, ?_, ?_, malformed, rfl⟩
              · rw [List.cons_append, ← hsaid]
                exact List.filterMap_cons_some htold
              · exact List.forall_mem_cons.mpr ⟨isCost_of_read hline htold, first⟩

/-! ## What readings amount to -/

namespace Heard

variable {format : Format} {lines : List (List Char)} {r : Readings}

theorem outcome (h : Heard format lines r) :
    ((∀ status ∈ (said 's' lines).getLast?, status = []) ∧ r.outcome = .error .missingStatus) ∨
      ∃ status, (said 's' lines).getLast? = some status ∧ status ≠ [] ∧
        r.outcome = .ok (.ofText status) := by
  rw [← h.status]
  cases hstatus : r.status with
  | none =>
      left
      refine ⟨nofun, ?_⟩
      rw [Readings.outcome, hstatus]
  | some text =>
      rw [Option.map_some]
      cases htrim : trim text with
      | nil =>
          left
          refine ⟨fun status hmem => (Option.mem_some_iff.mp hmem).symm, ?_⟩
          simp only [Readings.outcome, hstatus, htrim]
      | cons c rest =>
          right
          refine ⟨c :: rest, rfl, List.cons_ne_nil c rest, ?_⟩
          simp only [Readings.outcome, hstatus, htrim]

theorem objective (h : Heard format lines r) :
    (format = .wcnf ∧ said 'o' lines = [] ∧ r.objective format = .error .missingCost) ∨
      ∃ cost, r.objective format = .ok cost ∧ (format = .cnf → cost = 0) ∧
        (format = .wcnf → IsLeast (costs (said 'o' lines)) cost.toNat) := by
  cases format with
  | cnf =>
      right
      refine ⟨0, ?_, fun _ => rfl, nofun⟩
      simp only [Readings.objective, h.cost.plain rfl, Option.getD_none]
  | wcnf =>
      cases hcost : r.cost with
      | none =>
          left
          refine ⟨rfl, h.cost.absent rfl hcost, ?_⟩
          simp only [Readings.objective, hcost]
      | some cost =>
          right
          refine ⟨cost, ?_, nofun, fun _ => h.cost.least cost hcost⟩
          simp only [Readings.objective, hcost, Option.getD_some]

end Heard

theorem conveys_parse (format : Format) {text : String} (h : text ≠ "") :
    Conveys format (lines text.toList) (parse format text) := by
  have hnonempty : text.toList ≠ [] := fun hnil => h (String.toList_eq_nil_iff.mp hnil)
  rw [parse, if_neg hnonempty]
  cases hread : Readings.start.readAll format (lines text.toList) with
  | error failure =>
      obtain ⟨weighted, before, bad, after, hsaid, first, malformed, rfl⟩ := readAll_eq_error hread
      exact .invalidCost weighted hsaid first malformed
  | ok r =>
      have hheard : Heard format (lines text.toList) r := (Heard.start format).readAll hread
      -- A missing outcome is found before a missing objective value.
      obtain ⟨blank, houtcome⟩ | ⟨status, last, stated, houtcome⟩ := hheard.outcome
      · change Conveys _ _ (r.outcome >>= _)
        rw [houtcome]
        exact .missingStatus hheard.cost.readable blank
      change Conveys _ _ (r.outcome >>= fun status => r.objective format >>= _)
      rw [houtcome]
      obtain ⟨weighted, absent, hcost⟩ | ⟨cost, hcost, plain, least⟩ := hheard.objective
      · change Conveys _ _ (r.objective format >>= _)
        rw [hcost]
        exact .missingCost last stated weighted absent
      · change Conveys _ _ (r.objective format >>= _)
        rw [hcost]
        have names := Status.names_ofText status
        refine .answer hheard.cost.readable last stated rfl names plain least ?_
        rw [← hheard.values]
        change (if Status.ofText status = .optimumFound then r.assignment else #[]).toList = _
        rw [apply_ite Array.toList]
        rfl

/-! ## Lines convey one thing only -/

theorem first_unique {α : Type} {P : α → Prop} {before before' after after' : List α} {x x' : α}
    (hsame : before ++ x :: after = before' ++ x' :: after') (hbefore : ∀ y ∈ before, P y)
    (hx : ¬ P x) (hbefore' : ∀ y ∈ before', P y) (hx' : ¬ P x') : x = x' := by
  classical
  -- Each decomposition is what a search for the first such item finds.
  have hfind {before after : List α} {x : α} (hbefore : ∀ y ∈ before, P y) (hx : ¬ P x) :
      (before ++ x :: after).find? (fun y => ¬ P y) = some x := by
    rw [List.find?_append, List.find?_cons_of_pos (by simpa using hx),
      List.find?_eq_none.mpr (by simpa using hbefore), Option.none_or]
  have hfirst : (before ++ x :: after).find? (fun y => ¬ P y) = some x := hfind hbefore hx
  rw [hsame, hfind hbefore' hx'] at hfirst
  exact (Option.some.inj hfirst).symm

theorem not_readable {objectives before after : List (List Char)} {bad : List Char}
    (hsaid : objectives = before ++ bad :: after) (malformed : ¬ IsCost bad) :
    ¬ Readable .wcnf objectives := fun h => malformed (h rfl bad (by simp [hsaid]))

namespace Conveys

variable {format : Format} {lines : List (List Char)} {a b : Except AnswerError Answer}

theorem unique (ha : Conveys format lines a) (hb : Conveys format lines b) : a = b := by
  cases ha with
  | invalidCost weighted hsaid first malformed =>
      subst weighted
      have hnot := not_readable hsaid malformed
      cases hb with
      | invalidCost _ hsaid' first' malformed' =>
          rw [first_unique (hsaid.symm.trans hsaid') first malformed first' malformed']
      | missingStatus readable _ => exact absurd readable hnot
      | missingCost _ _ _ absent => simp [absent] at hsaid
      | answer readable => exact absurd readable hnot
  | missingStatus readable blank =>
      cases hb with
      | invalidCost weighted hsaid _ malformed =>
          subst weighted
          exact absurd readable (not_readable hsaid malformed)
      | missingStatus => rfl
      | missingCost last stated => exact absurd (blank _ last) stated
      | answer _ last stated => exact absurd (blank _ last) stated
  | missingCost last stated weighted absent =>
      cases hb with
      | invalidCost _ hsaid => simp [absent] at hsaid
      | missingStatus _ blank => exact absurd (blank _ last) stated
      | missingCost => rfl
      | answer _ _ _ _ _ _ least =>
          exact absurd absent (ne_nil_of_isLeast (least weighted))
  | @answer first status readable last stated same names plain least values =>
      cases hb with
      | invalidCost weighted hsaid _ malformed =>
          subst weighted
          exact absurd readable (not_readable hsaid malformed)
      | missingStatus _ blank => exact absurd (blank _ last) stated
      | missingCost _ _ weighted absent =>
          exact absurd absent (ne_nil_of_isLeast (least weighted))
      | @answer second status' _ last' _ same' names' plain' least' values' =>
          cases last.symm.trans last'
          have hstatus : first.status = second.status := names.unique names'
          have hcost : first.cost = second.cost := by
            cases format with
            | cnf => rw [plain rfl, plain' rfl]
            | wcnf => exact UInt64.toNat_inj.mp ((least rfl).unique (least' rfl))
          have hassignment : first.assignment = second.assignment := by
            rw [← Array.toList_inj, values, values', hstatus]
          cases first
          cases second
          simp only at same same' hstatus hcost hassignment
          rw [same, same', hstatus, hcost, hassignment]

end Conveys

/-! ## What makes no difference -/

/-- In the weighted format the objective values are the same, or readable ones in another order. -/
def SameObjectives (format : Format) (objectives others : List (List Char)) : Prop :=
  format = .wcnf →
    others = objectives ∨ others.Perm objectives ∧ ∀ objective ∈ objectives, IsCost objective

namespace SameObjectives

variable {format : Format} {objectives others : List (List Char)}

theorem readable (h : SameObjectives format objectives others)
    (hreadable : Readable format objectives) : Readable format others := by
  intro weighted objective hmem
  obtain hsame | ⟨hperm, hcosts⟩ := h weighted
  · rw [hsame] at hmem
    exact hreadable weighted objective hmem
  · exact hcosts objective (hperm.mem_iff.mp hmem)

theorem costs_eq (h : SameObjectives format objectives others) (weighted : format = .wcnf) :
    costs others = costs objectives := by
  obtain hsame | ⟨hperm, -⟩ := h weighted
  · rw [hsame]
  · simp only [costs, hperm.mem_iff]

end SameObjectives

theorem Conveys.congr {format : Format} {lines other : List (List Char)}
    {result : Except AnswerError Answer} (h : Conveys format lines result)
    (hstatus : said 's' other = said 's' lines) (hvalues : said 'v' other = said 'v' lines)
    (hsame : SameObjectives format (said 'o' lines) (said 'o' other)) :
    Conveys format other result := by
  cases h with
  | @invalidCost before after bad weighted hsaid first malformed =>
      obtain heq | ⟨-, hcosts⟩ := hsame weighted
      · exact .invalidCost weighted (heq.trans hsaid) first malformed
      · exact absurd (hcosts bad (by simp [hsaid])) malformed
  | missingStatus readable blank =>
      rw [← hstatus] at blank
      exact .missingStatus (hsame.readable readable) blank
  | missingCost last stated weighted absent =>
      rw [← hstatus] at last
      refine .missingCost last stated weighted ?_
      obtain heq | ⟨hperm, -⟩ := hsame weighted
      · rw [heq, absent]
      · rw [absent] at hperm
        exact hperm.eq_nil
  | answer readable last stated same names plain least values =>
      rw [← hstatus] at last
      rw [← hvalues] at values
      refine .answer (hsame.readable readable) last stated same names plain ?_ values
      intro weighted
      rw [hsame.costs_eq weighted]
      exact least weighted

theorem parse_eq_iff_conveys {format : Format} {text : String} (h : text ≠ "")
    {result : Except AnswerError Answer} :
    parse format text = result ↔ Conveys format (lines text.toList) result := by
  constructor
  · rintro rfl
    exact conveys_parse format h
  · exact (conveys_parse format h).unique

/-- Texts whose lines say the same have the same answer. -/
theorem parse_congr {format : Format} {text other : String} (h : text ≠ "") (hother : other ≠ "")
    (hstatus : said 's' (lines other.toList) = said 's' (lines text.toList))
    (hvalues : said 'v' (lines other.toList) = said 'v' (lines text.toList))
    (hsame : SameObjectives format (said 'o' (lines text.toList))
      (said 'o' (lines other.toList))) : parse format other = parse format text := by
  rw [parse_eq_iff_conveys hother]
  exact (conveys_parse format h).congr hstatus hvalues hsame

theorem parse_eq_empty_iff {format : Format} {text : String} :
    parse format text = .error .empty ↔ text = "" := by
  constructor
  · intro hempty
    by_contra h
    rw [parse_eq_iff_conveys h] at hempty
    cases hempty
  · rintro rfl
    rfl

/-- Only the empty text is refused as empty.  What any other text is read as is what its lines
convey, so texts that agree line by line in each of the three kinds are read alike, whatever other
lines they have and however the kinds are mixed; readable objective values may even stand in another
order. -/
theorem lines_convey_answer (format : Format) (text : String) :
    (parse format text = .error .empty ↔ text = "") ∧
      (text ≠ "" → ∀ result,
        parse format text = result ↔ Conveys format (lines text.toList) result) ∧
      ∀ other : String, text ≠ "" → other ≠ "" →
        said 's' (lines other.toList) = said 's' (lines text.toList) →
        said 'v' (lines other.toList) = said 'v' (lines text.toList) →
        SameObjectives format (said 'o' (lines text.toList)) (said 'o' (lines other.toList)) →
        parse format other = parse format text :=
  ⟨parse_eq_empty_iff, fun h _ => parse_eq_iff_conveys h,
    fun _ h hother hstatus hvalues hsame => parse_congr h hother hstatus hvalues hsame⟩

theorem reordered_lines_convey_answer :
    Conveys .wcnf (lines "o 7\ns UNKNOWN\no 5\nv 10\ns OPTIMUM FOUND\n".toList)
        (.ok ⟨.wcnf, .optimumFound, 5, #[true, false]⟩) ∧
      parse .wcnf "v 10\ns UNKNOWN\nc done\ns OPTIMUM FOUND\no 5\no 7" =
        .ok ⟨.wcnf, .optimumFound, 5, #[true, false]⟩ := by
  obtain ⟨-, hconveys, hother⟩ :=
    lines_convey_answer .wcnf "o 7\ns UNKNOWN\no 5\nv 10\ns OPTIMUM FOUND\n"
  have hsame : SameObjectives .wcnf ["7".toList, "5".toList] ["5".toList, "7".toList] := by
    intro _
    right
    refine ⟨.swap _ _ _, ?_⟩
    rw [List.forall_mem_cons, List.forall_mem_singleton]
    have hseven : readUInt64? "7".toList = some 7 := by decide
    have hfive : readUInt64? "5".toList = some 5 := by decide
    exact ⟨isCost_of_readUInt64? hseven, isCost_of_readUInt64? hfive⟩
  have hparse : parse .wcnf "o 7\ns UNKNOWN\no 5\nv 10\ns OPTIMUM FOUND\n" =
      .ok ⟨.wcnf, .optimumFound, 5, #[true, false]⟩ := by rfl
  refine ⟨(hconveys (by decide) _).mp hparse, ?_⟩
  rw [← hparse]
  exact hother _ (by decide) (by decide) (by decide) (by decide) hsame

end Answer

end Clausal

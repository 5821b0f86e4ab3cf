import Clausal.Answer
import Clausal.Proofs.Formula.Complete
import Clausal.Proofs.Formula.Meaning
import Clausal.Proofs.Numbering.Lookup
import Clausal.Proofs.Valuation

/-!
# The readings of an answer

What an answer says of a literal can be read in three ways: look the literal's number up and take
the value at that place, evaluate its signed number, or list all values as literals.  The number
of a key is at least 1, so its place is the number less 1, and the three agree.  The answer makes
a formula's hard clauses true exactly when it makes some literal of each clause true.
-/

namespace Clausal

namespace Numbering

theorem numberAt_eq_ok_iff {place : Nat} {number : Int32} :
    numberAt place = .ok number ↔ number.toInt = place + 1 := by
  constructor
  · intro h
    unfold numberAt at h
    split at h
    · rename_i room
      cases h
      exact toInt_ofNat_of_le (Nat.le_of_lt_succ room)
    · cases h
  · intro h
    have hlt := number.toInt_lt
    have room : place + 1 ≤ capacity := by
      have hcapacity : capacity = 2 ^ 31 - 1 := rfl
      omega
    rw [numberAt_eq_ok room, Except.ok.injEq]
    exact Int32.toInt_inj.mp ((toInt_ofNat_of_le room).trans h.symm)

/-- The literal that a value at a place stands for: the key with the next number, negated where
the value is false. -/
def Shows (n : Numbering) (place : Nat) (value : Bool) (literal : Literal) : Prop :=
  ∃ (number : Int32) (key : Literal), number.toInt = place + 1 ∧ n.literalOf number = .ok key ∧
    literal = if value then key else key.neg

theorem exists_shows_iff {n : Numbering} {place : Nat} {value : Bool} :
    (∃ literal, n.Shows place value literal) ↔
      ∃ (number : Int32) (key : Literal),
        number.toInt = place + 1 ∧ n.literalOf number = .ok key := by
  constructor
  · rintro ⟨literal, number, key, hnumber, hkey, -⟩
    exact ⟨number, key, hnumber, hkey⟩
  · rintro ⟨number, key, hnumber, hkey⟩
    exact ⟨_, number, key, hnumber, hkey, rfl⟩

theorem valueOf_neg_eq_ok_iff {n : Numbering} {literal : Literal} {value : Int32} :
    n.valueOf literal.neg = .ok value ↔ n.valueOf literal = .ok value := by
  rw [valueOf_eq_ok_iff, valueOf_eq_ok_iff, Literal.atom_neg]

section

variable {n : Numbering} (h : n.Bijective) {place : Nat} {value : Bool} {literal : Literal}

include h

/-- What stands at a place has the place's number, the key's atom and label, and the value's
polarity. -/
theorem Bijective.of_shows (hs : n.Shows place value literal) :
    ∃ number : Int32, number.toInt = place + 1 ∧ n.literalOf number = .ok literal.pos ∧
      n.valueOf literal = .ok number ∧ literal.negated = !value := by
  obtain ⟨number, key, hnumber, hkey, rfl⟩ := hs
  obtain ⟨positive, hvalue⟩ := h.twoWay.backward number key hkey
  have hpos : key.pos = key := by rw [Literal.pos, ← positive]
  refine ⟨number, hnumber, ?_⟩
  cases value with
  | true =>
      rw [if_pos rfl, hpos]
      exact ⟨hkey, hvalue, positive⟩
  | false =>
      have hneg : key.neg.pos = key := hpos
      rw [if_neg Bool.false_ne_true, hneg, Literal.negated_neg, positive]
      exact ⟨hkey, valueOf_neg_eq_ok_iff.mpr hvalue, rfl⟩

end

end Numbering

namespace Answer

open Clausal.Numbering (Shows HasKey)

/-! ## Single literals -/

theorem valueOf_eq_literalTruth? {n : Numbering} (h : n.Bijective) (answer : Answer)
    {literal : Literal} {signed : Int32} (hs : n.signedValueOf literal = .ok signed) :
    answer.valueOf n literal = .ok (literalTruth? answer.assignment signed) := by
  obtain ⟨value, hv, rfl⟩ := Numbering.signedValueOf_eq_ok_iff.mp hs
  have hlow := h.one_le_of_valueOf hv
  rw [valueOf, hv, Except.map]
  cases hn : literal.negated with
  | false =>
      rw [if_neg Bool.false_ne_true, Numbering.literalTruth?_of_pos hlow]
      simp
  | true =>
      rw [if_pos rfl, Numbering.literalTruth?_neg hlow]
      simp

/-! ## All values as literals -/

theorem literalsFrom_eq_ok_iff {n : Numbering} {place : Nat} {values : List Bool}
    {literals : List Literal} :
    literalsFrom n place values = .ok literals ↔
      List.Forall₂ (fun entry literal => n.Shows entry.2 entry.1 literal)
        (values.zipIdx place) literals := by
  induction values generalizing place literals with
  | nil =>
      rw [literalsFrom, List.zipIdx_nil, List.forall₂_nil_left_iff, Except.ok.injEq]
      exact eq_comm
  | cons value rest ih =>
      rw [literalsFrom, List.zipIdx_cons, List.forall₂_cons_left_iff, bind_eq_ok_iff]
      simp only [bind_eq_ok_iff, pure_eq_ok_iff, ih, Numbering.numberAt_eq_ok_iff]
      constructor
      · rintro ⟨number, hnumber, key, hkey, others, hothers, rfl⟩
        exact ⟨_, others, ⟨number, key, hnumber, hkey, rfl⟩, hothers, rfl⟩
      · rintro ⟨_, others, ⟨number, key, hnumber, hkey, rfl⟩, hothers, rfl⟩
        exact ⟨number, hnumber, key, hkey, others, hothers, rfl⟩

theorem literals_eq_ok_iff {n : Numbering} {answer : Answer} {literals : List Literal} :
    answer.literals n = .ok literals ↔
      literals.length = answer.assignment.size ∧
        ∀ place literal, literals[place]? = some literal →
          ∃ value, answer.assignment[place]? = some value ∧ n.Shows place value literal := by
  rw [Answer.literals, literalsFrom_eq_ok_iff, List.forall₂_iff_get]
  have hsame : (answer.assignment.toList.zipIdx 0).length = answer.assignment.size := by simp
  constructor
  · rintro ⟨hboth, hall⟩
    have hlength := hboth.symm.trans hsame
    refine ⟨hlength, fun place literal hl => ?_⟩
    obtain ⟨hlt, rfl⟩ := List.getElem?_eq_some_iff.mp hl
    have hplace : place < answer.assignment.size := hlength ▸ hlt
    have hshows := hall place (by simpa using hplace) hlt
    simp only [List.get_eq_getElem, List.getElem_zipIdx, Array.getElem_toList, Nat.zero_add]
      at hshows
    exact ⟨_, Array.getElem?_eq_getElem hplace, hshows⟩
  · rintro ⟨hlength, hall⟩
    refine ⟨hsame.trans hlength.symm, fun place hplace hlt => ?_⟩
    obtain ⟨value, hvalue, hshows⟩ := hall place _ (List.getElem?_eq_getElem hlt)
    have hsize : place < answer.assignment.size := hlength ▸ hlt
    rw [Array.getElem?_eq_getElem hsize, Option.some.injEq] at hvalue
    simp only [List.get_eq_getElem, List.getElem_zipIdx, Array.getElem_toList, Nat.zero_add]
    rw [hvalue]
    exact hshows

theorem exists_literals_iff {n : Numbering} {answer : Answer} :
    (∃ literals, answer.literals n = .ok literals) ↔
      ∀ number : Nat, 1 ≤ number → number ≤ answer.assignment.size →
        ∃ (value : Int32) (key : Literal), value.toInt = number ∧ n.literalOf value = .ok key := by
  simp only [Answer.literals, literalsFrom_eq_ok_iff]
  rw [exists_forall₂_iff]
  simp only [Numbering.exists_shows_iff]
  constructor
  · intro hall number hlow hhigh
    have hplace : number - 1 < answer.assignment.size := by omega
    obtain ⟨value, key, hvalue, hkey⟩ :=
      hall (answer.assignment[number - 1], number - 1) (List.mem_zipIdx_iff_getElem?.mpr (by simp))
    exact ⟨value, key, by omega, hkey⟩
  · rintro hall ⟨value, place⟩ hmem
    have hlt : place < answer.assignment.toList.length :=
      (List.getElem?_eq_some_iff.mp (List.mem_zipIdx_iff_getElem?.mp hmem)).1
    rw [Array.length_toList] at hlt
    exact_mod_cast hall (place + 1) (by omega) (by omega)

/-- The literals are true and distinct, and they are the keys whose numbers the assignment reaches,
up to polarity and by number. -/
structure Lists (answer : Answer) (n : Numbering) (literals : List Literal) : Prop where
  keys : ∀ (value : Int32) (key : Literal),
    (n.literalOf value = .ok key ∧ value.toInt ≤ answer.assignment.size) ↔
      ∃ literal ∈ literals, literal.pos = key ∧ n.valueOf literal = .ok value
  increasing : literals.Pairwise fun a b =>
    ∃ x y : Int32, n.valueOf a = .ok x ∧ n.valueOf b = .ok y ∧ x < y
  distinct : literals.Pairwise fun a b => a.same b = false
  holds : ∀ literal ∈ literals, answer.valueOf n literal = .ok (some true)

section

variable {n : Numbering} (h : n.Bijective) {answer : Answer} {literals : List Literal}
  (made : answer.literals n = .ok literals)

include h made

theorem getElem?_literals {place : Nat} {literal : Literal} (hl : literals[place]? = some literal) :
    ∃ number : Int32, number.toInt = place + 1 ∧ n.literalOf number = .ok literal.pos ∧
      n.valueOf literal = .ok number ∧ answer.valueOf n literal = .ok (some true) := by
  obtain ⟨value, hvalue, hshows⟩ := (literals_eq_ok_iff.mp made).2 place literal hl
  obtain ⟨number, hnumber, hkey, hv, hpolarity⟩ := h.of_shows hshows
  refine ⟨number, hnumber, hkey, hv, ?_⟩
  have hplace : number.toInt.toNat - 1 = place := by omega
  rw [valueOf, hv, Except.map, hplace, hvalue, hpolarity, Option.map_some]
  cases value <;> rfl

theorem lists_literals : answer.Lists n literals := by
  have hlength := (literals_eq_ok_iff.mp made).1
  have hincreasing : literals.Pairwise fun a b =>
      ∃ x y : Int32, n.valueOf a = .ok x ∧ n.valueOf b = .ok y ∧ x < y := by
    rw [List.pairwise_iff_getElem]
    intro i j hi hj hij
    obtain ⟨x, hx, -, hvx, -⟩ := getElem?_literals h made (List.getElem?_eq_getElem hi)
    obtain ⟨y, hy, -, hvy, -⟩ := getElem?_literals h made (List.getElem?_eq_getElem hj)
    exact ⟨x, y, hvx, hvy, Int32.lt_iff_toInt_lt.mpr (by omega)⟩
  refine ⟨fun value key => ⟨?_, ?_⟩, hincreasing, ?_, ?_⟩
  · rintro ⟨hkey, hhigh⟩
    have hlow := h.one_le_of_valueOf (h.twoWay.backward value key hkey).2
    have hplace : value.toInt.toNat - 1 < literals.length := by omega
    obtain ⟨number, hnumber, hpos, hv, -⟩ :=
      getElem?_literals h made (List.getElem?_eq_getElem hplace)
    have hsame : number = value := Int32.toInt_inj.mp (by omega)
    rw [hsame, hkey, Except.ok.injEq] at hpos
    exact ⟨_, List.getElem_mem hplace, hpos.symm, hsame ▸ hv⟩
  · rintro ⟨literal, hmem, rfl, hv⟩
    obtain ⟨place, hplace⟩ := List.getElem?_of_mem hmem
    obtain ⟨number, hnumber, hpos, hnv, -⟩ := getElem?_literals h made hplace
    have hlt := (List.getElem?_eq_some_iff.mp hplace).1
    rw [hv, Except.ok.injEq] at hnv
    subst hnv
    exact ⟨hpos, by omega⟩
  · refine hincreasing.imp ?_
    rintro a b ⟨x, y, hx, hy, hlt⟩
    refine Bool.eq_false_iff.mpr fun hsame => ?_
    rw [(h.valueOf_inj hx hy).mpr hsame] at hlt
    exact Int32.lt_irrefl hlt
  · intro literal hmem
    obtain ⟨place, hplace⟩ := List.getElem?_of_mem hmem
    obtain ⟨-, -, -, -, htrue⟩ := getElem?_literals h made hplace
    exact htrue

end

/-! ## Formulas -/

theorem satisfies_iff_valueOf {n : Numbering} (h : n.Bijective) (answer : Answer)
    {clause : Clause Literal} {image : Clause Int32} (hn : n.Numbers clause image) :
    satisfies answer.assignment image = true ↔
      ∃ literal ∈ clause.literals, answer.valueOf n literal = .ok (some true) := by
  simp only [satisfies, beq_iff_eq, clauseTruth?_eq_true_iff]
  refine (exists_mem_iff_of_forall₂ hn.literals fun literal signed hs => ?_).symm
  rw [valueOf_eq_literalTruth? h answer hs, Except.ok.injEq]

theorem all_satisfies_iff_valueOf {n : Numbering} (h : n.Bijective) (answer : Answer)
    {clauses : List (Clause Literal)} {images : List (Clause Int32)}
    (hn : List.Forall₂ n.Numbers clauses images) :
    images.all (satisfies answer.assignment) = true ↔
      ∀ clause ∈ clauses, ∃ literal ∈ clause.literals,
        answer.valueOf n literal = .ok (some true) := by
  induction hn with
  | nil => simp
  | cons hfirst _ ih =>
      rw [List.all_cons, Bool.and_eq_true, ih, satisfies_iff_valueOf h answer hfirst,
        List.forall_mem_cons]

theorem hardSatisfied_iff_valueOf {n : Numbering} (h : n.Bijective) (answer : Answer)
    {e : Encoding} {f : Formula} (made : Formula.ofEncoding e n = .ok f) :
    (f.evaluate answer.assignment).hardSatisfied = true ↔
      ∀ clause ∈ e.hard.toList, ∃ literal ∈ clause.literals,
        answer.valueOf n literal = .ok (some true) :=
  all_satisfies_iff_valueOf h answer (Formula.ofEncoding_eq_ok_iff.mp made).2.1.1

/-- Looking a key up, evaluating its signed number and listing the assignment as literals say
the same of it, whatever its polarity; and a formula's hard clauses hold under the assignment
exactly when each has a literal that the answer makes true. -/
theorem readings_agree {n : Numbering} (h : n.Reachable) (answer : Answer) :
    (∀ literal, n.HasKey literal → ∃ value signed,
      n.valueOf literal = .ok value ∧ 1 ≤ value.toInt ∧ n.signedValueOf literal = .ok signed ∧
        answer.valueOf n literal = .ok (literalTruth? answer.assignment signed)) ∧
    ((∃ literals, answer.literals n = .ok literals) ↔
      ∀ number : Nat, 1 ≤ number → number ≤ answer.assignment.size →
        ∃ (value : Int32) (key : Literal),
          value.toInt = number ∧ n.literalOf value = .ok key) ∧
    (∀ literals, answer.literals n = .ok literals → answer.Lists n literals) ∧
    ∀ e f, Formula.ofEncoding e n = .ok f →
      ((f.evaluate answer.assignment).hardSatisfied = true ↔
        ∀ clause ∈ e.hard.toList, ∃ literal ∈ clause.literals,
          answer.valueOf n literal = .ok (some true)) := by
  have hb := h.bijective
  refine ⟨?_, exists_literals_iff, fun _ made => lists_literals hb made,
    fun _ _ made => hardSatisfied_iff_valueOf hb answer made⟩
  intro literal hkey
  obtain ⟨value, hv⟩ := Numbering.hasKey_iff.mp hkey
  have hs := Numbering.signedValueOf_eq_ok_iff.mpr ⟨value, hv, rfl⟩
  exact ⟨value, _, hv, hb.one_le_of_valueOf hv, hs, valueOf_eq_literalTruth? hb answer hs⟩

def decided : Answer := ⟨.cnf, .optimumFound, 0, #[true, false]⟩

/-- Under numbers that go against the order of the atoms, the denied key comes second, and the
clause that denies it holds. -/
theorem decided_readings_agree :
    Formula.crossed.Reachable ∧
    (∃ signed, Formula.crossed.signedValueOf (Formula.sample 4).neg = .ok signed ∧
      decided.valueOf Formula.crossed (Formula.sample 4).neg =
        .ok (literalTruth? #[true, false] signed)) ∧
    decided.Lists Formula.crossed [Formula.sample 7, (Formula.sample 4).neg] ∧
    ∃ f, Formula.ofEncoding Formula.mixed Formula.crossed = .ok f ∧
      (f.evaluate #[true, false]).hardSatisfied = true := by
  obtain ⟨hkeys, -, hlists, hhard⟩ := readings_agree Formula.crossed_reachable decided
  obtain ⟨f, hf⟩ :=
    (Formula.exists_ofEncoding_iff Formula.crossed_reachable.bijective.size_lt).mpr
      Formula.mixed_keyed
  have hkey : Formula.crossed.HasKey (Formula.sample 4).neg := by
    simp [Formula.crossed, Numbering.HasKey, Formula.sample, Literal.ofAtom]
  obtain ⟨value, signed, -, -, hs, hv⟩ := hkeys _ hkey
  refine ⟨Formula.crossed_reachable, ⟨signed, hs, hv⟩, hlists _ ?_, f, hf, (hhard _ f hf).mpr ?_⟩
  · simp [literals, literalsFrom, decided, Formula.crossed, Numbering.numberAt,
      Numbering.literalOf, Numbering.key?_cons, bind, Except.bind, pure, Except.pure]
  · simp [valueOf, decided, Formula.crossed, Formula.mixed, Formula.sample, ClauseList.toList,
      Clause.hard, Literal.ofAtom, Numbering.valueOf, Numbering.number?_cons, Except.map]

end Answer

/-!
## Assignments and valuations

Under a complete numbering, the assignments as long as the numbering and the valuations of the
registered atoms are the same thing: each assignment agrees with some valuation, and each
valuation with some assignment.  An answer then gives every registered literal the truth value
that the valuation gives it.
-/

namespace Numbering

/-- The value that an assignment has at an atom's number; false where there is none. -/
def valuationOf (n : Numbering) (a : Assignment) : Valuation := fun atom =>
  match n.number? atom with
  | some value => a[value.toInt.toNat - 1]?.getD false
  | none => false

/-- At each place the value of the atom with the next number. -/
def assignmentOf (n : Numbering) (s : Valuation) : Assignment :=
  Array.ofFn fun place : Fin n.size =>
    match n.key? (Int32.ofNat (place + 1)) with
    | some key => s key.atom
    | none => false

theorem size_assignmentOf (n : Numbering) (s : Valuation) : (n.assignmentOf s).size = n.size :=
  Array.size_ofFn

theorem Complete.agrees_valuationOf {e : Encoding} {n : Numbering} (h : n.Complete e)
    {a : Assignment} (hsize : a.size = n.size) : n.Agrees (n.valuationOf a) a := by
  intro literal value hv
  have hnumber := valueOf_eq_ok_iff.mp hv
  obtain ⟨hlow, hhigh⟩ := h.valueOf_iff.mp ⟨literal, hv⟩
  have hplace : value.toInt.toNat - 1 < a.size := by omega
  simp only [valuationOf, hnumber]
  rw [Array.getElem?_eq_getElem hplace, Option.getD_some]

theorem Complete.agrees_assignmentOf {e : Encoding} {n : Numbering} (h : n.Complete e)
    (s : Valuation) : n.Agrees s (n.assignmentOf s) := by
  rw [h.bijective.agrees_iff]
  rintro ⟨key, value⟩ hpair
  obtain ⟨hlow, hhigh⟩ := (h.values value).mp ⟨key, hpair⟩
  have hplace : value.toInt.toNat - 1 < n.size := by omega
  have hback : Int32.ofNat (value.toInt.toNat - 1 + 1) = value := by
    apply Int32.toInt_inj.mp
    have hlt := value.toInt_lt
    rw [Int32.toInt_ofNat_of_lt (by omega)]
    omega
  have hkey := h.bijective.key?_eq_some_iff.mpr hpair
  rw [assignmentOf, Array.getElem?_ofFn, dif_pos hplace, hback, hkey]

theorem Agrees.answer_valueOf {n : Numbering} {s : Valuation} (answer : Answer)
    (hagree : n.Agrees s answer.assignment) {literal : Literal} (hkey : n.HasKey literal) :
    answer.valueOf n literal = .ok (some (literal.holds s)) := by
  obtain ⟨value, hv⟩ := hasKey_iff.mp hkey
  rw [Answer.valueOf, hv, Except.map, hagree literal value hv]
  rfl

end Numbering

end Clausal

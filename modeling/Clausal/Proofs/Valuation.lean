import Clausal.Formula.Evaluation
import Clausal.Proofs.Numbering.Bijection

/-!
# Valuations

A valuation gives every atom a truth value.  It says what an encoding means before any literal
has a number: which clauses hold, and what the violated soft ones cost.  An assignment agrees
with a valuation through a numbering when it reaches every number and has there the value of
the atom that the number stands for; a signed number then has the value of its literal.
-/

namespace Clausal

abbrev Valuation := Atom → Bool

/-- The variable that an empty encoding allocates first. -/
def firstVariable : VariableId := ⟨0, by decide⟩

/-- A negated literal is true where its atom is false. -/
def Literal.holds (s : Valuation) (literal : Literal) : Bool := s literal.atom != literal.negated

@[simp] theorem Literal.holds_ofAtom (s : Valuation) (atom : Atom) :
    (Literal.ofAtom atom).holds s = s atom := by
  simp [holds, ofAtom]

@[simp] theorem Literal.holds_neg (s : Valuation) (literal : Literal) :
    literal.neg.holds s = !literal.holds s := by
  simp [holds]

@[simp] theorem Literal.holds_named (s : Valuation) (literal : Literal) (name : String)
    (coords : List UInt64) : (literal.named name coords).holds s = literal.holds s := by
  simp [holds, named]

def Clause.holds (s : Valuation) (clause : Clause Literal) : Bool :=
  clause.literals.any (Literal.holds s)

theorem Clause.holds_iff {s : Valuation} {clause : Clause Literal} :
    clause.holds s = true ↔ ∃ literal ∈ clause.literals, literal.holds s = true :=
  List.any_eq_true

@[simp] theorem Clause.holds_hard_pair (s : Valuation) (a b : Literal) :
    (Clause.hard [a, b]).holds s = (a.holds s || b.holds s) := by
  simp [holds, hard]

/-- The costs of these clauses together, however large. -/
def exactCost {α : Type} : List (Clause α) → Nat
  | [] => 0
  | clause :: rest => clause.cost.toNat + exactCost rest

@[simp] theorem exactCost_nil {α : Type} : exactCost ([] : List (Clause α)) = 0 := rfl

@[simp] theorem exactCost_cons {α : Type} (clause : Clause α) (rest : List (Clause α)) :
    exactCost (clause :: rest) = clause.cost.toNat + exactCost rest := rfl

namespace Encoding

/-- The soft clauses without a true literal. -/
def violatedBy (e : Encoding) (s : Valuation) : List (Clause Literal) :=
  e.soft.toList.filter fun clause => !clause.holds s

end Encoding

/-! ## Numbers of literals -/

theorem exists_natAbs_eq {literal : Int32} (nonzero : literal ≠ 0) :
    ∃ var, literal.toInt.natAbs = var + 1 := by
  have hint : literal.toInt ≠ 0 :=
    fun h => nonzero (Int32.toInt_inj.mp (h.trans Int32.toInt_zero.symm))
  exact ⟨literal.toInt.natAbs - 1, by omega⟩

/-! ## Agreement -/

namespace Numbering

/-- Whether a literal's atom is numbered; polarity does not matter. -/
def HasKey (n : Numbering) (literal : Literal) : Prop :=
  ∃ pair ∈ n.pairs, pair.1.atom = literal.atom

/-- The assignment reaches the number of every key and has the key's value there. -/
def Agrees (n : Numbering) (s : Valuation) (a : Assignment) : Prop :=
  ∀ literal value, n.valueOf literal = .ok value →
    a[value.toInt.toNat - 1]? = some (s literal.atom)

theorem hasKey_iff {n : Numbering} {literal : Literal} :
    n.HasKey literal ↔ ∃ value, n.valueOf literal = .ok value := by
  simp only [valueOf_eq_ok_iff, ← Option.ne_none_iff_exists', ne_eq, number?_eq_none_iff, HasKey]
  simp

theorem signedValueOf_eq_ok_iff {n : Numbering} {literal : Literal} {signed : Int32} :
    n.signedValueOf literal = .ok signed ↔
      ∃ value, n.valueOf literal = .ok value ∧
        signed = if literal.negated then -value else value := by
  rw [signedValueOf, map_eq_ok_iff]
  exact exists_congr fun value => and_congr_right fun _ => eq_comm

theorem Bijective.one_le_of_valueOf {n : Numbering} (h : n.Bijective) {literal : Literal}
    {value : Int32} (hv : n.valueOf literal = .ok value) : 1 ≤ value.toInt := by
  obtain ⟨key, hmem, -⟩ := h.number?_eq_some_iff.mp (valueOf_eq_ok_iff.mp hv)
  exact h.atLeastOne (key, value) hmem

theorem Bijective.agrees_iff {n : Numbering} (h : n.Bijective) {s : Valuation}
    {a : Assignment} :
    n.Agrees s a ↔
      ∀ pair ∈ n.pairs, a[pair.2.toInt.toNat - 1]? = some (s pair.1.atom) := by
  constructor
  · rintro hagree ⟨key, value⟩ hpair
    exact hagree key value
      (valueOf_eq_ok_iff.mpr (h.number?_eq_some_iff.mpr ⟨key, hpair, rfl⟩))
  · intro hpairs literal value hv
    obtain ⟨key, hmem, hatom⟩ := h.number?_eq_some_iff.mp (valueOf_eq_ok_iff.mp hv)
    rw [← hatom]
    exact hpairs (key, value) hmem

/-! ## Signed numbers -/

/-- The only number whose negation overflows is not positive. -/
theorem toInt_neg_of_pos {value : Int32} (h : 1 ≤ value.toInt) :
    (-value).toInt = -value.toInt := by
  have hlt := value.toInt_lt
  rw [Int32.toInt_neg]
  exact Int.bmod_eq_of_le (by omega) (by omega)

theorem Bijective.natAbs_signed {n : Numbering} (h : n.Bijective) {literal : Literal}
    {signed value : Int32} (hs : n.signedValueOf literal = .ok signed)
    (hv : n.valueOf literal = .ok value) : (signed.toInt.natAbs : Int) = value.toInt := by
  obtain ⟨other, hother, rfl⟩ := signedValueOf_eq_ok_iff.mp hs
  rw [hv, Except.ok.injEq] at hother
  subst hother
  have hlow := h.one_le_of_valueOf hv
  cases literal.negated with
  | false =>
      rw [if_neg Bool.false_ne_true]
      omega
  | true =>
      rw [if_pos rfl, toInt_neg_of_pos hlow]
      omega

theorem literalTruth?_of_pos {a : Assignment} {value : Int32} (h : 1 ≤ value.toInt) :
    literalTruth? a value = a[value.toInt.toNat - 1]? := by
  obtain ⟨place, hplace⟩ : ∃ place, value.toInt.natAbs = place + 1 :=
    ⟨value.toInt.natAbs - 1, by omega⟩
  have hpos : (0 : Int32) < value := Int32.lt_iff_toInt_lt.mpr h
  have hback : value.toInt.toNat - 1 = place := by omega
  simp only [Clausal.literalTruth?, hplace, hpos, hback, if_true, Option.map_id']

theorem literalTruth?_neg {a : Assignment} {value : Int32} (h : 1 ≤ value.toInt) :
    literalTruth? a (-value) = a[value.toInt.toNat - 1]?.map fun bit => !bit := by
  have hneg := toInt_neg_of_pos h
  obtain ⟨place, hplace⟩ : ∃ place, (-value).toInt.natAbs = place + 1 :=
    ⟨(-value).toInt.natAbs - 1, by omega⟩
  have hnot : ¬ (0 : Int32) < -value := by
    rw [Int32.lt_iff_toInt_lt, hneg, Int32.toInt_zero]
    omega
  have hback : value.toInt.toNat - 1 = place := by omega
  simp only [Clausal.literalTruth?, hplace, hnot, hback, if_false]

theorem Agrees.literalTruth? {n : Numbering} {s : Valuation} {a : Assignment}
    (hagree : n.Agrees s a) (h : n.Bijective) {literal : Literal} {signed : Int32}
    (hsigned : n.signedValueOf literal = .ok signed) :
    literalTruth? a signed = some (literal.holds s) := by
  obtain ⟨value, hv, rfl⟩ := signedValueOf_eq_ok_iff.mp hsigned
  have hlow := h.one_le_of_valueOf hv
  have hread := hagree literal value hv
  cases hn : literal.negated with
  | false =>
      rw [if_neg Bool.false_ne_true, literalTruth?_of_pos hlow, hread, Literal.holds, hn]
      simp
  | true =>
      rw [if_pos rfl, literalTruth?_neg hlow, hread, Literal.holds, hn]
      simp

end Numbering

end Clausal

import Mathlib.Logic.Equiv.Basic
import Clausal.Proofs.Formula.Complete
import Clausal.Proofs.Formula.Printing
import Clausal.Proofs.Formula.WellFormed

/-!
# Renumbering a formula

The formulas that two complete numberings make of one encoding differ in names only: moving the
magnitudes of all literals by the permutation between the numberings turns one into the other.
Renumbering keeps what does not look at names, and an assignment whose values are moved with the
numbers satisfies the same clauses.
-/

/-!
## Exchanging one numbering for another

Two complete numberings of an encoding number the same atoms with the same numbers, each atom
perhaps differently.  Giving every number the number that its atom has in the other numbering is
therefore a permutation, and it moves nothing beyond the registered literals.
-/

namespace Clausal.Numbering

/-- The number that the atom of a number has in another numbering; what is no number, or what
the other numbering does not know, stays. -/
def exchange (n other : Numbering) (number : Nat) : Nat :=
  match n.pairs.find? fun pair => pair.2.toInt = (number : Int) with
  | some pair => ((other.number? pair.1.atom).map fun value => value.toInt.toNat).getD number
  | none => number

section

variable {n other : Numbering} (h : n.Bijective)

include h

theorem Bijective.find?_toInt_iff {number : Nat} {pair : Literal × Int32} :
    (n.pairs.find? fun pair => pair.2.toInt = (number : Int)) = some pair ↔
      pair ∈ n.pairs ∧ pair.2.toInt = (number : Int) := by
  have hmap : (n.pairs.map fun pair => pair.2.toInt) =
      (n.pairs.map fun pair => pair.2).map Int32.toInt := by
    rw [List.map_map]
    rfl
  have unique : (n.pairs.map fun pair => pair.2.toInt).Nodup := by
    rw [hmap]
    exact h.values.map fun _ _ => Int32.toInt_inj.mp
  exact find?_eq_some_iff_mem unique

theorem Bijective.exchange_of_valueOf {literal : Literal} {value image : Int32}
    (hv : n.valueOf literal = .ok value) (himage : other.valueOf literal = .ok image) :
    n.exchange other value.toInt.toNat = image.toInt.toNat := by
  obtain ⟨key, hpair, hatom⟩ := h.number?_eq_some_iff.mp (valueOf_eq_ok_iff.mp hv)
  have hlow := h.atLeastOne _ hpair
  have hfind := h.find?_toInt_iff.mpr ⟨hpair, (Int.toNat_of_nonneg (by omega)).symm⟩
  rw [exchange, hfind]
  simp only [hatom, valueOf_eq_ok_iff.mp himage, Option.map_some, Option.getD_some]

theorem Bijective.exchange_of_free {number : Nat}
    (free : ∀ literal value, n.valueOf literal = .ok value → value.toInt ≠ (number : Int)) :
    n.exchange other number = number := by
  rw [exchange]
  cases hfind : n.pairs.find? fun pair => pair.2.toInt = (number : Int) with
  | none => rfl
  | some pair =>
      obtain ⟨hpair, hnumber⟩ := h.find?_toInt_iff.mp hfind
      have hv : n.valueOf pair.1 = .ok pair.2 :=
        valueOf_eq_ok_iff.mpr (h.number?_eq_some_iff.mpr ⟨pair.1, hpair, rfl⟩)
      exact absurd hnumber (free pair.1 pair.2 hv)

end

section

variable {e : Encoding} {n other : Numbering} (h : n.Complete e) (hother : other.Complete e)
  (room : e.registeredCount ≤ capacity)

include h

theorem Complete.range_of_valueOf {literal : Literal} {value : Int32}
    (hv : n.valueOf literal = .ok value) :
    1 ≤ value.toInt.toNat ∧ value.toInt.toNat ≤ e.registeredCount := by
  have hsize := h.size
  have hrange := h.valueOf_iff.mp ⟨literal, hv⟩
  omega

theorem Complete.exchange_of_beyond {number : Nat}
    (beyond : ¬ (1 ≤ number ∧ number ≤ e.registeredCount)) :
    n.exchange other number = number := by
  refine h.bijective.exchange_of_free fun literal value hv heq => beyond ?_
  have hrange := h.range_of_valueOf hv
  omega

include room in
theorem Complete.exists_literal {number : Nat} (low : 1 ≤ number)
    (high : number ≤ e.registeredCount) :
    ∃ literal value, n.valueOf literal = .ok value ∧ value.toInt.toNat = number := by
  have hsize := h.size
  have hvalue : (Int32.ofNat number).toInt = number := toInt_ofNat_of_le (by omega)
  have hrange : 1 ≤ (Int32.ofNat number).toInt ∧ (Int32.ofNat number).toInt ≤ n.size := by omega
  obtain ⟨literal, hv⟩ := h.valueOf_iff.mpr hrange
  exact ⟨literal, _, hv, by omega⟩

include hother

theorem Complete.exists_valueOf_of {literal : Literal} {value : Int32}
    (hv : n.valueOf literal = .ok value) : ∃ image, other.valueOf literal = .ok image := by
  obtain ⟨key, hpair, hatom⟩ := h.bijective.number?_eq_some_iff.mp (valueOf_eq_ok_iff.mp hv)
  obtain ⟨⟨counterpart, image⟩, hmem, heq⟩ :=
    (hother.atoms literal.atom).mpr ((h.atoms literal.atom).mp ⟨(key, value), hpair, hatom⟩)
  exact ⟨image, valueOf_eq_ok_iff.mpr
    (hother.bijective.number?_eq_some_iff.mpr ⟨counterpart, hmem, heq⟩)⟩

include room in
theorem Complete.exchange_exchange (number : Nat) :
    other.exchange n (n.exchange other number) = number := by
  by_cases range : 1 ≤ number ∧ number ≤ e.registeredCount
  · obtain ⟨literal, value, hv, rfl⟩ := h.exists_literal room range.1 range.2
    obtain ⟨image, himage⟩ := h.exists_valueOf_of hother hv
    rw [h.bijective.exchange_of_valueOf hv himage, hother.bijective.exchange_of_valueOf himage hv]
  · rw [h.exchange_of_beyond range, hother.exchange_of_beyond range]

end

/-- The permutation that takes the numbers of one complete numbering to those of another. -/
def Complete.permutation {e : Encoding} {n other : Numbering} (h : n.Complete e)
    (hother : other.Complete e) (room : e.registeredCount ≤ capacity) : Equiv.Perm Nat where
  toFun := n.exchange other
  invFun := other.exchange n
  left_inv := h.exchange_exchange hother room
  right_inv := hother.exchange_exchange h room

end Clausal.Numbering

namespace Clausal

open Clausal.Numbering (capacity keysInOrder)

variable {σ : Equiv.Perm Nat} {count : Nat}

/-! ## Moving numbers -/

/-- The signed number with its magnitude moved; the sign stays. -/
def renumber (σ : Equiv.Perm Nat) (literal : Int32) : Int32 :=
  let magnitude := Int32.ofNat (σ literal.toInt.natAbs)
  if literal < 0 then -magnitude else magnitude

def Clause.renumber (σ : Equiv.Perm Nat) (clause : Clause Int32) : Clause Int32 :=
  ⟨clause.cost, clause.literals.map (Clausal.renumber σ)⟩

def ClauseList.renumber (σ : Equiv.Perm Nat) (list : ClauseList Int32) : ClauseList Int32 :=
  { list with clauses := list.clauses.map (Clause.renumber σ) }

/-- Moves the magnitude of every literal and leaves everything else as it is. -/
def Formula.renumber (σ : Equiv.Perm Nat) (f : Formula) : Formula :=
  { f with hard := f.hard.renumber σ, soft := f.soft.renumber σ }

/-- The value that stood at a number's place stands at the place of the moved number. -/
def Assignment.renumber (σ : Equiv.Perm Nat) (a : Assignment) : Assignment :=
  Array.ofFn fun place : Fin a.size => a[σ.symm (place + 1) - 1]?.getD false

/-- Only the numbers from 1 to a count are moved. -/
def Renames (σ : Equiv.Perm Nat) (count : Nat) : Prop :=
  ∀ number, ¬ (1 ≤ number ∧ number ≤ count) → σ number = number

theorem Renames.range_iff (h : Renames σ count) {number : Nat} :
    1 ≤ σ number ∧ σ number ≤ count ↔ 1 ≤ number ∧ number ≤ count := by
  constructor
  · intro himage
    by_contra hnumber
    rw [h number hnumber] at himage
    exact hnumber himage
  · intro hnumber
    by_contra himage
    have hsame : σ number = number := σ.injective (h (σ number) himage)
    rw [hsame] at himage
    exact himage hnumber

theorem Renames.mono (h : Renames σ count) {larger : Nat} (hle : count ≤ larger) :
    Renames σ larger :=
  fun number hnumber => h number fun hrange => hnumber ⟨hrange.1, hrange.2.trans hle⟩

theorem size_renumber (σ : Equiv.Perm Nat) (a : Assignment) : (a.renumber σ).size = a.size :=
  Array.size_ofFn

theorem Renames.getElem?_renumber {a : Assignment} (h : Renames σ a.size) {number : Nat}
    (low : 1 ≤ number) : (a.renumber σ)[σ number - 1]? = a[number - 1]? := by
  by_cases high : number ≤ a.size
  · obtain ⟨hlow, hhigh⟩ := h.range_iff.mpr ⟨low, high⟩
    have hplace : σ number - 1 < a.size := by omega
    have hplace' : number - 1 < a.size := by omega
    rw [Assignment.renumber, Array.getElem?_ofFn, dif_pos hplace, Nat.sub_add_cancel hlow,
      Equiv.symm_apply_apply, Array.getElem?_eq_getElem hplace', Option.getD_some]
  · -- There is no value at such a place, before and after.
    have hfixed : σ number = number := h number fun hrange => high hrange.2
    have hsize := size_renumber σ a
    rw [hfixed, Array.getElem?_eq_none (by omega), Array.getElem?_eq_none (by omega)]

/-! ## Literals -/

theorem toInt_renumber (h : Renames σ count) (room : count ≤ capacity) {literal : Int32}
    (nonzero : literal ≠ 0) (covered : literal.toInt.natAbs ≤ count) :
    (renumber σ literal).toInt =
      if literal.toInt < 0 then -(σ literal.toInt.natAbs : Int) else σ literal.toInt.natAbs := by
  obtain ⟨var, hvar⟩ := exists_natAbs_eq nonzero
  obtain ⟨hlow, hhigh⟩ := h.range_iff.mpr ⟨by omega, covered⟩
  have hvalue : (Int32.ofNat (σ literal.toInt.natAbs)).toInt = σ literal.toInt.natAbs :=
    Numbering.toInt_ofNat_of_le (hhigh.trans room)
  have hsign : literal < 0 ↔ literal.toInt < 0 := Int32.lt_iff_toInt_lt
  by_cases hneg : literal.toInt < 0
  · rw [if_pos hneg, renumber, if_pos (hsign.mpr hneg), Numbering.toInt_neg_of_pos (by omega),
      hvalue]
  · rw [if_neg hneg, renumber, if_neg (mt hsign.mp hneg), hvalue]

theorem literalTruth?_of_ne_zero {a : Assignment} {literal : Int32} (nonzero : literal ≠ 0) :
    literalTruth? a literal =
      a[literal.toInt.natAbs - 1]?.map fun value => if 0 < literal then value else !value := by
  obtain ⟨var, hvar⟩ := exists_natAbs_eq nonzero
  simp only [literalTruth?, hvar, Nat.add_sub_cancel]

/-- A moved literal is as true as the literal, if its value was moved. -/
theorem literalTruth?_renumber (h : Renames σ count) (room : count ≤ capacity) {literal : Int32}
    (nonzero : literal ≠ 0) (covered : literal.toInt.natAbs ≤ count) {a b : Assignment}
    (moved : b[σ literal.toInt.natAbs - 1]? = a[literal.toInt.natAbs - 1]?) :
    literalTruth? b (renumber σ literal) = literalTruth? a literal := by
  have himage := toInt_renumber h room nonzero covered
  obtain ⟨var, hvar⟩ := exists_natAbs_eq nonzero
  obtain ⟨hlow, -⟩ := h.range_iff.mpr ⟨by omega, covered⟩
  have hzero : (0 : Int32).toInt = 0 := Int32.toInt_zero
  have hnonzero : renumber σ literal ≠ 0 := by
    intro heq
    rw [heq, hzero] at himage
    split at himage <;> omega
  have hmagnitude : (renumber σ literal).toInt.natAbs = σ literal.toInt.natAbs := by
    rw [himage]
    split <;> omega
  have hsign : 0 < renumber σ literal ↔ 0 < literal := by
    rw [Int32.lt_iff_toInt_lt, Int32.lt_iff_toInt_lt, himage, hzero]
    split <;> omega
  rw [literalTruth?_of_ne_zero hnonzero, literalTruth?_of_ne_zero nonzero, hmagnitude, moved]
  simp only [hsign]

/-! ## Clauses and formulas -/

theorem ClauseList.toList_renumber (σ : Equiv.Perm Nat) (list : ClauseList Int32) :
    (list.renumber σ).toList = list.toList.map (Clause.renumber σ) := by
  simp [renumber, toList]

theorem ClauseList.eq_renumber {list image : ClauseList Int32}
    (hclauses : image.toList = list.toList.map (Clause.renumber σ))
    (hcomments : image.comments = list.comments) : image = list.renumber σ := by
  rw [← toList_renumber, toList, toList, Array.toList_inj] at hclauses
  cases image
  cases hclauses
  cases hcomments
  rfl

theorem clauseTruth?_renumber {a b : Assignment} {literals : List Int32}
    (h : ∀ literal ∈ literals, literalTruth? b (renumber σ literal) = literalTruth? a literal) :
    clauseTruth? b (literals.map (renumber σ)) = clauseTruth? a literals := by
  induction literals with
  | nil => rfl
  | cons literal rest ih =>
      rw [List.forall_mem_cons] at h
      rw [List.map_cons, clauseTruth?, clauseTruth?, h.1, ih h.2]

namespace Formula

theorem top_renumber (σ : Equiv.Perm Nat) (f : Formula) : (f.renumber σ).top = f.top := by
  rw [top, top, renumber, ClauseList.totalCost, ClauseList.toList_renumber, List.foldl_map]
  rfl

theorem dimacs_renumber_eq_error_iff (σ : Equiv.Perm Nat) (f : Formula) {format : Format}
    {failure : EncodingError} :
    (f.renumber σ).dimacs format = .error failure ↔ f.dimacs format = .error failure := by
  rw [dimacs_eq_error_iff, dimacs_eq_error_iff, ← ClauseList.length_toList,
    ← ClauseList.length_toList, renumber, ClauseList.toList_renumber, List.length_map, ne_eq,
    List.map_eq_nil_iff]

theorem evaluate_renumber {f : Formula} {a b : Assignment}
    (h : ∀ clause ∈ f.clauses, ∀ literal ∈ clause.literals,
      literalTruth? b (Clausal.renumber σ literal) = literalTruth? a literal) :
    (f.renumber σ).evaluate b = f.evaluate a := by
  have hsat : ∀ clause ∈ f.clauses, satisfies b (clause.renumber σ) = satisfies a clause := by
    intro clause hclause
    rw [satisfies, Clause.renumber, clauseTruth?_renumber (h clause hclause)]
    rfl
  have hhard : (f.renumber σ).hard.toList.all (satisfies b) = f.hard.toList.all (satisfies a) := by
    rw [renumber, ClauseList.toList_renumber, List.all_map, Bool.eq_iff_iff, List.all_eq_true,
      List.all_eq_true]
    refine forall₂_congr fun clause hmem => ?_
    rw [Function.comp_apply, hsat clause (List.mem_append_left _ hmem)]
  have hsoft : (f.renumber σ).violatedSoft b = (f.violatedSoft a).map (Clause.renumber σ) := by
    rw [violatedSoft, renumber, ClauseList.toList_renumber, List.filter_map]
    refine congrArg _ (List.filter_congr fun clause hmem => ?_)
    rw [Function.comp_apply, hsat clause (List.mem_append_right _ hmem)]
  rw [evaluate, hhard, hsoft, List.length_map, List.foldl_map]
  rfl

end Formula

/-! ## From one numbering to another -/

namespace Numbering

variable {e : Encoding} {n other : Numbering} (h : n.Complete e) (hother : other.Complete e)
  (room : e.registeredCount ≤ capacity)

include h in
theorem Complete.renames : Renames (h.permutation hother room) e.registeredCount :=
  fun _ beyond => h.exchange_of_beyond beyond

/-- The signed numbers of a literal have the same sign, and their magnitudes correspond. -/
theorem Complete.renumber_signed {literal : Literal} {signed image : Int32}
    (hs : n.signedValueOf literal = .ok signed) (himage : other.signedValueOf literal = .ok image) :
    image = renumber (h.permutation hother room) signed := by
  have hcovered := h.natAbs_le hs
  rw [h.size] at hcovered
  have hint := toInt_renumber (h.renames hother room) room (h.bijective.signed_ne_zero hs) hcovered
  obtain ⟨value, hv, rfl⟩ := signedValueOf_eq_ok_iff.mp hs
  obtain ⟨number, hnumber, rfl⟩ := signedValueOf_eq_ok_iff.mp himage
  have hmoved : h.permutation hother room value.toInt.toNat = number.toInt.toNat :=
    h.bijective.exchange_of_valueOf hv hnumber
  have hlow := h.bijective.one_le_of_valueOf hv
  have hlow' := hother.bijective.one_le_of_valueOf hnumber
  apply Int32.toInt_inj.mp
  rw [hint]
  cases literal.negated with
  | false =>
      have hmagnitude : value.toInt.natAbs = value.toInt.toNat := by omega
      rw [if_neg Bool.false_ne_true, if_neg Bool.false_ne_true, if_neg (by omega), hmagnitude,
        hmoved]
      omega
  | true =>
      have hneg := toInt_neg_of_pos hlow
      have hmagnitude : (-value).toInt.natAbs = value.toInt.toNat := by omega
      rw [if_pos rfl, if_pos rfl, if_pos (by omega), hmagnitude, hmoved, toInt_neg_of_pos hlow']
      omega

theorem Complete.renumber_clause {clause : Clause Literal} {image counterpart : Clause Int32}
    (himage : n.Numbers clause image) (hcounterpart : other.Numbers clause counterpart) :
    counterpart = image.renumber (h.permutation hother room) := by
  have hliterals := eq_map_of_forall₂ himage.literals hcounterpart.literals
    fun _ _ _ hs hs' => h.renumber_signed hother room hs hs'
  rw [Clause.renumber, ← hliterals, himage.cost, ← hcounterpart.cost]

theorem Complete.renumber_side {list : ClauseList Literal} {images counterparts : ClauseList Int32}
    (himages : List.Forall₂ n.Numbers list.toList images.toList ∧ images.comments = list.comments)
    (hcounterparts : List.Forall₂ other.Numbers list.toList counterparts.toList ∧
      counterparts.comments = list.comments) :
    counterparts = images.renumber (h.permutation hother room) :=
  ClauseList.eq_renumber
    (eq_map_of_forall₂ himages.1 hcounterparts.1 fun _ _ _ himage hcounterpart =>
      h.renumber_clause hother room himage hcounterpart)
    (hcounterparts.2.trans himages.2.symm)

end Numbering

namespace Formula

theorem eq_renumber_of_complete {e : Encoding} {n other : Numbering} (h : n.Complete e)
    (hother : other.Complete e) (room : e.registeredCount ≤ capacity) {f f' : Formula}
    (hf : ofEncoding e n = .ok f) (hf' : ofEncoding e other = .ok f') :
    f' = f.renumber (h.permutation hother room) := by
  have hcount : f'.literalCount = f.literalCount := UInt32.toNat_inj.mp
    ((literalCount_ofEncoding hother hf').trans (literalCount_ofEncoding h hf).symm)
  obtain ⟨-, hhard, hsoft, hcomments, -⟩ := ofEncoding_eq_ok_iff.mp hf
  obtain ⟨-, hhard', hsoft', hcomments', -⟩ := ofEncoding_eq_ok_iff.mp hf'
  rw [renumber, ← h.renumber_side hother room hhard hhard',
    ← h.renumber_side hother room hsoft hsoft', hcomments, ← hcomments', ← hcount]

/-- Numbering the registered literals of an encoding in another order moves the magnitudes of the
formula's literals by a permutation and changes nothing else, and an assignment whose values are
moved along evaluates to the same. -/
theorem order_changes_names_only {e : Encoding} (h : e.Reachable)
    (room : e.registeredCount ≤ capacity) (order order' : NumberingOrder) :
    ∃ n n' f f', Numbering.ofEncoding e order = .ok n ∧ ofEncoding e n = .ok f ∧
      Numbering.ofEncoding e order' = .ok n' ∧ ofEncoding e n' = .ok f' ∧
      ∃ σ : Equiv.Perm Nat, Renames σ e.registeredCount ∧ f' = f.renumber σ ∧
        f'.top = f.top ∧
        (∀ format failure, f'.dimacs format = .error failure ↔ f.dimacs format = .error failure) ∧
        (∀ a b : Assignment,
          (∀ number, 1 ≤ number → number ≤ e.registeredCount →
            b[σ number - 1]? = a[number - 1]?) → f'.evaluate b = f.evaluate a) ∧
        ∀ a : Assignment, e.registeredCount ≤ a.size → (a.renumber σ).size = a.size ∧
          (∀ number, 1 ≤ number → (a.renumber σ)[σ number - 1]? = a[number - 1]?) ∧
            f'.evaluate (a.renumber σ) = f.evaluate a := by
  obtain ⟨n, f, hn, hcomplete, hf⟩ := exists_translation h.consistent room order
  obtain ⟨n', f', hn', hcomplete', hf'⟩ := exists_translation h.consistent room order'
  have hrenames := hcomplete.renames hcomplete' room
  have hwell := wellFormed_ofEncoding h.tidy hcomplete.bijective hf
  have heq := eq_renumber_of_complete hcomplete hcomplete' room hf hf'
  have hevaluate (a b : Assignment) (moved : ∀ number, 1 ≤ number → number ≤ e.registeredCount →
      b[hcomplete.permutation hcomplete' room number - 1]? = a[number - 1]?) :
      f'.evaluate b = f.evaluate a := by
    rw [heq]
    refine evaluate_renumber fun clause hclause literal hl => ?_
    have nonzero : literal ≠ 0 := fun hzero => hwell.nonzero clause hclause (hzero ▸ hl)
    have covered := hwell.covered clause hclause literal hl
    rw [literalCount_ofEncoding hcomplete hf] at covered
    obtain ⟨var, hvar⟩ := exists_natAbs_eq nonzero
    exact literalTruth?_renumber hrenames room nonzero covered (moved _ (by omega) covered)
  refine ⟨n, n', f, f', hn, hf, hn', hf', hcomplete.permutation hcomplete' room, hrenames, heq,
    ?_, ?_, hevaluate, ?_⟩
  · rw [heq, top_renumber]
  · intro format failure
    rw [heq, dimacs_renumber_eq_error_iff]
  · intro a hsize
    have hmoved (number : Nat) (low : 1 ≤ number) := (hrenames.mono hsize).getElem?_renumber low
    exact ⟨size_renumber _ a, hmoved, hevaluate _ _ fun number low _ => hmoved number low⟩

/-- The formula of the encoding under the numbers of an order. -/
def attemptedIn (order : NumberingOrder) : Except EncodingError Formula :=
  (Numbering.ofEncoding attempted order).bind (ofEncoding attempted)

theorem attempted_keysInOrder :
    keysInOrder attempted .registration =
      [.ofAtom ⟨firstVariable, 7⟩, .ofAtom ⟨firstVariable, 4⟩] ∧
    keysInOrder attempted .sorted =
      [.ofAtom ⟨firstVariable, 4⟩, .ofAtom ⟨firstVariable, 7⟩] := by
  have hregistered : attempted.registered.flatten =
      [.ofAtom ⟨firstVariable, 7⟩, .ofAtom ⟨firstVariable, 4⟩] := by cbv
  have hle : (Literal.ofAtom ⟨firstVariable, 7⟩).atom.le (Literal.ofAtom ⟨firstVariable, 4⟩).atom =
      false := by decide
  refine ⟨hregistered, ?_⟩
  rw [keysInOrder, hregistered]
  simp [List.mergeSort, hle]

theorem hard_ofEncoding_attempted {n : Numbering} {f : Formula} {value : Int32}
    (hf : ofEncoding attempted n = .ok f)
    (hv : n.valueOf (.ofAtom ⟨firstVariable, 7⟩) = .ok value) : f.hard.toList = [.hard [value]] := by
  have hclauses : attempted.hard.toList = [.hard [.ofAtom ⟨firstVariable, 7⟩]] := by cbv
  have hs : n.signedValueOf (.ofAtom ⟨firstVariable, 7⟩) = .ok value :=
    Numbering.signedValueOf_eq_ok_iff.mpr ⟨value, hv, rfl⟩
  have hvalue : n.Numbers (.hard [.ofAtom ⟨firstVariable, 7⟩]) (.hard [value]) :=
    ⟨rfl, .cons hs .nil⟩
  obtain ⟨-, ⟨hhard, -⟩, -⟩ := ofEncoding_eq_ok_iff.mp hf
  rw [hclauses] at hhard
  obtain ⟨image, rest, himage, hrest, heq⟩ := List.forall₂_cons_left_iff.mp hhard
  have hsame : Except.ok image = Except.ok (.hard [value]) :=
    (Numbering.clause_eq_ok_iff.mpr himage).symm.trans (Numbering.clause_eq_ok_iff.mpr hvalue)
  rw [heq, Except.ok.inj hsame, List.forall₂_nil_left_iff.mp hrest]

/-- The literal that was registered first has the larger index. -/
theorem attempted_changes_names_only :
    attempted.Reachable ∧ attempted.registeredCount ≤ capacity ∧
      ∃ f f', attemptedIn .registration = .ok f ∧ attemptedIn .sorted = .ok f' ∧
        f.hard.toList = [.hard [1]] ∧ f'.hard.toList = [.hard [2]] ∧
        ∃ σ, f' = f.renumber σ ∧
          f'.evaluate (Assignment.renumber σ #[true, false]) = f.evaluate #[true, false] := by
  have hcount : attempted.registeredCount = 2 := by cbv
  have room : attempted.registeredCount ≤ capacity := by
    rw [hcount]
    decide
  obtain ⟨n, n', f, f', hn, hf, hn', hf', σ, -, heq, -, -, -, hmoved⟩ :=
    order_changes_names_only attempted_reachable room .registration .sorted
  obtain ⟨-, -, hevaluate⟩ := hmoved #[true, false] (Nat.le_of_eq hcount)
  obtain ⟨hregistration, hsorted⟩ := attempted_keysInOrder
  have hfirst : (keysInOrder attempted .registration)[0]? = some (.ofAtom ⟨firstVariable, 7⟩) := by
    rw [hregistration]
    rfl
  have hsecond : (keysInOrder attempted .sorted)[1]? = some (.ofAtom ⟨firstVariable, 7⟩) := by
    rw [hsorted]
    rfl
  refine ⟨attempted_reachable, room, f, f', ?_, ?_, ?_, ?_, σ, heq, hevaluate⟩
  · rw [attemptedIn, hn]
    exact hf
  · rw [attemptedIn, hn']
    exact hf'
  · exact hard_ofEncoding_attempted hf
      (Numbering.valueOf_of_place attempted_reachable.consistent room hn hfirst)
  · exact hard_ofEncoding_attempted hf'
      (Numbering.valueOf_of_place attempted_reachable.consistent room hn' hsecond)

end Formula

end Clausal

import Mathlib.Data.List.Permutation
import Clausal.Proofs.Valuation

/-!
# Looking up both ways

A numbering finds the number of an atom and the key of a number in two tables.  After any
additions, failing ones included, the two are inverse to each other: one finds a number exactly
where the other finds the key back.  An addition is refused for one of four reasons, and then
changes nothing; otherwise it adds its own pair and no other.
-/

namespace Clausal.Numbering

/-! ## Additions, failing ones included -/

/-- Adds a pair in place: it is checked step by step and then written. -/
def enter (key : Literal) (value : Int32) : EStateM EncodingError Numbering Unit := do
  let n ← get
  if value < 1 then throw (.nonPositiveValue value)
  if key.negated then throw (.negatedKey key)
  if (n.number? key.atom).isSome then throw (.duplicateKey key)
  if (n.key? value).isSome then throw (.duplicateValue value)
  set (n.cons key value)

/-- What an addition in place leaves of a numbering, and whether it has failed. -/
def attempt (n : Numbering) (key : Literal) (value : Int32) :
    Numbering × Except EncodingError Unit :=
  match enter key value n with
  | .ok () next => (next, .ok ())
  | .error failure left => (left, .error failure)

theorem enter_apply (key : Literal) (value : Int32) (n : Numbering) :
    enter key value n = inPlace n ((n.add key value).map fun next => (next, ())) := by
  change (if value < 1 then _ else _ : EStateM EncodingError Numbering Unit) n = _
  rw [add]
  by_cases hlow : value < 1
  · rw [if_pos hlow, if_pos hlow]
    rfl
  rw [if_neg hlow, if_neg hlow]
  by_cases hnegated : key.negated = true
  · rw [if_pos hnegated, if_pos hnegated]
    rfl
  rw [if_neg hnegated, if_neg hnegated]
  by_cases hnumber : (n.number? key.atom).isSome = true
  · rw [if_pos hnumber, if_pos hnumber]
    rfl
  rw [if_neg hnumber, if_neg hnumber]
  by_cases hkey : (n.key? value).isSome = true
  · rw [if_pos hkey, if_pos hkey]
    rfl
  rw [if_neg hkey, if_neg hkey]
  rfl

theorem attempt_eq (n : Numbering) (key : Literal) (value : Int32) :
    n.attempt key value =
      match n.add key value with
      | .ok next => (next, .ok ())
      | .error failure => (n, .error failure) := by
  rw [attempt, enter_apply]
  cases n.add key value with
  | error failure => rfl
  | ok next => rfl

/-- The numberings that additions, failing ones included, leave of the empty one or of that of an
encoding. -/
inductive Attempted : Numbering → Prop
  | empty : Attempted empty
  | ofEncoding {e : Encoding} {order : NumberingOrder} {n : Numbering}
      (made : ofEncoding e order = .ok n) : Attempted n
  | attempt {n : Numbering} (key : Literal) (value : Int32) (h : Attempted n) :
      Attempted (n.attempt key value).1

theorem Attempted.reachable {n : Numbering} (h : n.Attempted) : n.Reachable := by
  induction h with
  | empty => exact .empty
  | ofEncoding made => exact .ofEncoding made
  | @attempt n key value _ ih =>
      rw [attempt_eq]
      cases hadd : n.add key value with
      | error failure => exact ih
      | ok next => exact .add ih hadd

/-- Why an addition is refused; each reason is looked at only if the earlier ones do not apply. -/
inductive Refuses (n : Numbering) (key : Literal) (value : Int32) : EncodingError → Prop
  | nonPositive (low : value.toInt < 1) : Refuses n key value (.nonPositiveValue value)
  | negated (high : 1 ≤ value.toInt) (negated : key.negated = true) :
      Refuses n key value (.negatedKey key)
  | duplicateKey (high : 1 ≤ value.toInt) (positive : key.negated = false) {known : Int32}
      (numbered : n.valueOf key = .ok known) : Refuses n key value (.duplicateKey key)
  | duplicateValue (high : 1 ≤ value.toInt) (positive : key.negated = false)
      (unnumbered : ∀ known, n.valueOf key ≠ .ok known) {holder : Literal}
      (taken : n.literalOf value = .ok holder) : Refuses n key value (.duplicateValue value)

theorem isSome_number?_iff {n : Numbering} {literal : Literal} :
    (n.number? literal.atom).isSome = true ↔ ∃ known, n.valueOf literal = .ok known := by
  simp only [Option.isSome_iff_exists, valueOf_eq_ok_iff]

theorem isSome_key?_iff {n : Numbering} {value : Int32} :
    (n.key? value).isSome = true ↔ ∃ holder, n.literalOf value = .ok holder := by
  simp only [Option.isSome_iff_exists, literalOf_eq_ok_iff]

theorem refuses_of_add {n : Numbering} {key : Literal} {value : Int32} {failure : EncodingError}
    (h : n.add key value = .error failure) : n.Refuses key value failure := by
  unfold add at h
  split at h
  · rename_i hlow
    cases h
    exact .nonPositive (Int.not_le.mp (int32_lt_one_iff.mp hlow))
  rename_i hlow
  have high := not_not.mp (mt int32_lt_one_iff.mpr hlow)
  split at h
  · rename_i negated
    cases h
    exact .negated high negated
  rename_i hnegated
  have positive := Bool.eq_false_iff.mpr hnegated
  split at h
  · rename_i hnumber
    cases h
    obtain ⟨known, numbered⟩ := isSome_number?_iff.mp hnumber
    exact .duplicateKey high positive numbered
  rename_i hnumber
  have unnumbered := not_exists.mp (mt isSome_number?_iff.mpr hnumber)
  split at h
  · rename_i hkey
    cases h
    obtain ⟨holder, taken⟩ := isSome_key?_iff.mp hkey
    exact .duplicateValue high positive unnumbered taken
  · cases h

theorem Refuses.add_eq {n : Numbering} {key : Literal} {value : Int32} {failure : EncodingError}
    (h : n.Refuses key value failure) : n.add key value = .error failure := by
  have hhigh : 1 ≤ value.toInt → ¬ value < 1 := fun high hlow => int32_lt_one_iff.mp hlow high
  unfold add
  cases h with
  | nonPositive low => exact if_pos (int32_lt_one_iff.mpr (Int.not_le.mpr low))
  | negated high negated => rw [if_neg (hhigh high), if_pos negated]
  | duplicateKey high positive numbered =>
      rw [if_neg (hhigh high), positive, if_neg Bool.false_ne_true,
        if_pos (isSome_number?_iff.mpr ⟨_, numbered⟩)]
  | duplicateValue high positive unnumbered taken =>
      rw [if_neg (hhigh high), positive, if_neg Bool.false_ne_true,
        if_neg (mt isSome_number?_iff.mp (not_exists.mpr unnumbered)),
        if_pos (isSome_key?_iff.mpr ⟨_, taken⟩)]

theorem add_eq_error_iff {n : Numbering} {key : Literal} {value : Int32}
    {failure : EncodingError} :
    n.add key value = .error failure ↔ n.Refuses key value failure :=
  ⟨refuses_of_add, Refuses.add_eq⟩

theorem snd_attempt_eq_error_iff {n : Numbering} {key : Literal} {value : Int32}
    {failure : EncodingError} :
    (n.attempt key value).2 = .error failure ↔ n.Refuses key value failure := by
  rw [← add_eq_error_iff, attempt_eq]
  cases n.add key value with
  | error reason => simp
  | ok next => simp

theorem attempt_cases (n : Numbering) (key : Literal) (value : Int32) :
    (∃ failure, n.attempt key value = (n, .error failure)) ∨
      n.attempt key value = (n.cons key value, .ok ()) := by
  rw [attempt_eq]
  cases hadd : n.add key value with
  | error failure => exact .inl ⟨failure, rfl⟩
  | ok next =>
      obtain ⟨-, -, -, -, rfl⟩ := add_eq_ok_iff.mp hadd
      exact .inr rfl

theorem valueOf_cons (n : Numbering) (key : Literal) (value : Int32) (literal : Literal) :
    (n.cons key value).valueOf literal =
      if literal.same key then .ok value else n.valueOf literal := by
  unfold valueOf
  rw [number?_cons]
  by_cases h : key.atom = literal.atom
  · simp [Literal.same, h]
  · simp [Literal.same, h, Ne.symm h]

/-! ## The two tables -/

section

variable {n : Numbering}

theorem Bijective.valueOf_eq_ok_iff_literalOf (h : n.Bijective) {literal : Literal}
    {value : Int32} :
    n.valueOf literal = .ok value ↔
      ∃ key, n.literalOf value = .ok key ∧ key.negated = false ∧ literal.same key = true := by
  rw [valueOf_eq_ok_iff, h.number?_eq_some_iff]
  refine exists_congr fun key => ?_
  rw [literalOf_eq_ok_iff, h.key?_eq_some_iff, Literal.same_iff]
  constructor
  · rintro ⟨hpair, hatom⟩
    exact ⟨hpair, h.positive _ hpair, hatom.symm⟩
  · rintro ⟨hpair, -, hatom⟩
    exact ⟨hpair, hatom.symm⟩

theorem Bijective.same_of_valueOf (h : n.Bijective) {a b : Literal} {value : Int32}
    (ha : n.valueOf a = .ok value) (hb : n.valueOf b = .ok value) : a.same b = true := by
  obtain ⟨key, hkey, -, hakey⟩ := h.valueOf_eq_ok_iff_literalOf.mp ha
  obtain ⟨other, hother, -, hbother⟩ := h.valueOf_eq_ok_iff_literalOf.mp hb
  rw [hkey] at hother
  cases hother
  rw [Literal.same_iff] at hakey hbother ⊢
  exact hakey.trans hbother.symm

theorem Bijective.valueOf_inj (h : n.Bijective) {a b : Literal} {x y : Int32}
    (ha : n.valueOf a = .ok x) (hb : n.valueOf b = .ok y) : x = y ↔ a.same b = true := by
  constructor
  · rintro rfl
    exact h.same_of_valueOf ha hb
  · intro hsame
    rw [valueOf_eq_ok_iff] at ha hb
    rw [Literal.same_iff] at hsame
    rw [hsame, hb] at ha
    exact (Option.some.inj ha).symm

theorem Bijective.signedValueOf_neg (h : n.Bijective) {literal : Literal} {signed : Int32}
    (hs : n.signedValueOf literal = .ok signed) :
    ∃ opposite, n.signedValueOf literal.neg = .ok opposite ∧
      opposite.toInt = -signed.toInt := by
  obtain ⟨value, hv, rfl⟩ := signedValueOf_eq_ok_iff.mp hs
  have hneg : n.valueOf literal.neg = .ok value := by
    rwa [valueOf_eq_ok_iff, Literal.atom_neg, ← valueOf_eq_ok_iff]
  have hexact := toInt_neg_of_pos (h.one_le_of_valueOf hv)
  refine ⟨_, signedValueOf_eq_ok_iff.mpr ⟨value, hneg, rfl⟩, ?_⟩
  rw [Literal.negated_neg]
  cases literal.negated with
  | false => simpa using hexact
  | true => simp [hexact]

theorem Bijective.ncard_atoms (h : n.Bijective) :
    {atom | ∃ value, n.valueOf (.ofAtom atom) = .ok value}.ncard = n.size := by
  have hmem : ∀ atom, atom ∈ {atom | ∃ value, n.valueOf (.ofAtom atom) = .ok value} ↔
      atom ∈ n.pairs.map fun pair => pair.1.atom := by
    intro atom
    simp only [Set.mem_ofPred_eq, List.mem_map, valueOf_eq_ok_iff, h.number?_eq_some_iff]
    constructor
    · rintro ⟨value, key, hpair, hatom⟩
      exact ⟨(key, value), hpair, hatom⟩
    · rintro ⟨⟨key, value⟩, hpair, hatom⟩
      exact ⟨value, key, hpair, hatom⟩
  rw [ncard_of_nodup h.atoms hmem, List.length_map, size]

theorem Bijective.ncard_values (h : n.Bijective) :
    {value | ∃ key, n.literalOf value = .ok key}.ncard = n.size := by
  have hmem : ∀ value, value ∈ {value | ∃ key, n.literalOf value = .ok key} ↔
      value ∈ n.pairs.map fun pair => pair.2 := by
    intro value
    simp only [Set.mem_ofPred_eq, List.mem_map, literalOf_eq_ok_iff, h.key?_eq_some_iff]
    constructor
    · rintro ⟨key, hpair⟩
      exact ⟨(key, value), hpair, rfl⟩
    · rintro ⟨⟨key, _⟩, hpair, rfl⟩
      exact ⟨key, hpair⟩
  rw [ncard_of_nodup h.values hmem, List.length_map, size]

/-- The two tables are inverse to each other, and hold as many pairs each as the numbering. -/
structure TwoWay (n : Numbering) : Prop where
  forward : ∀ literal value, n.valueOf literal = .ok value ↔
    ∃ key, n.literalOf value = .ok key ∧ key.negated = false ∧ literal.same key = true
  backward : ∀ value key, n.literalOf value = .ok key →
    key.negated = false ∧ n.valueOf key = .ok value
  atLeastOne : ∀ literal value, n.valueOf literal = .ok value → 1 ≤ value.toInt
  distinct : ∀ a b value, n.valueOf a = .ok value → n.valueOf b = .ok value → a.same b = true
  opposite : ∀ literal signed, n.signedValueOf literal = .ok signed →
    ∃ other, n.signedValueOf literal.neg = .ok other ∧ other.toInt = -signed.toInt
  atoms : {atom | ∃ value, n.valueOf (.ofAtom atom) = .ok value}.ncard = n.size
  values : {value | ∃ key, n.literalOf value = .ok key}.ncard = n.size

theorem Bijective.twoWay (h : n.Bijective) : n.TwoWay where
  forward _ _ := h.valueOf_eq_ok_iff_literalOf
  backward value key hl := by
    have hpair := h.key?_eq_some_iff.mp (literalOf_eq_ok_iff.mp hl)
    have hnumber := h.number?_eq_some_iff.mpr ⟨key, hpair, rfl⟩
    exact ⟨h.positive _ hpair, valueOf_eq_ok_iff.mpr hnumber⟩
  atLeastOne _ _ := h.one_le_of_valueOf
  distinct _ _ _ := h.same_of_valueOf
  opposite _ _ := h.signedValueOf_neg
  atoms := h.ncard_atoms
  values := h.ncard_values

end

/-- Whatever was added or refused, the tables are inverse to each other.  The next addition is
refused for one of the four reasons and then changes nothing, or it adds its own pair. -/
theorem lookups_stay_inverse {n : Numbering} (h : n.Attempted) :
    n.TwoWay ∧ ∀ key value,
      (∀ failure, (n.attempt key value).2 = .error failure → (n.attempt key value).1 = n) ∧
      (∀ failure, (n.attempt key value).2 = .error failure ↔ n.Refuses key value failure) ∧
      ((n.attempt key value).2 = .ok () →
        (n.attempt key value).1.size = n.size + 1 ∧
        ∀ literal, (n.attempt key value).1.valueOf literal =
          if literal.same key then .ok value else n.valueOf literal) := by
  refine ⟨h.reachable.bijective.twoWay, fun key value => ?_⟩
  obtain ⟨failure, hattempt⟩ | hattempt := n.attempt_cases key value
  · refine ⟨fun _ _ => congrArg Prod.fst hattempt, fun _ => snd_attempt_eq_error_iff, ?_⟩
    rw [hattempt]
    exact nofun
  · refine ⟨?_, fun _ => snd_attempt_eq_error_iff, fun _ => ?_⟩
    · rw [hattempt]
      exact nofun
    · rw [hattempt]
      exact ⟨rfl, n.valueOf_cons key value⟩

/-- The later atom has the smaller number; a second number for it and a second key for 2 are
refused. -/
def exchanged : Numbering :=
  let add (n : Numbering) (pair : Literal × Int32) := (n.attempt pair.1 pair.2).1
  let atom (index : UInt32) : Literal := .ofAtom ⟨firstVariable, index⟩
  [(atom 4, 2), (atom 7, 1), (atom 7, 3), (atom 9, 2), ((atom 9).neg, 5)].foldl add empty

theorem exchanged_lookups :
    exchanged.Attempted ∧ exchanged.size = 2 ∧
      exchanged.valueOf (.ofAtom ⟨firstVariable, 7⟩) = .ok 1 ∧
      (∃ other, exchanged.signedValueOf (Literal.ofAtom ⟨firstVariable, 4⟩).neg = .ok other ∧
        other.toInt = -2) ∧
      (exchanged.attempt (.ofAtom ⟨firstVariable, 9⟩) 1).1 = exchanged := by
  have hattempted : exchanged.Attempted :=
    .attempt _ _ (.attempt _ _ (.attempt _ _ (.attempt _ _ (.attempt _ _ .empty))))
  have hseven : exchanged.valueOf (.ofAtom ⟨firstVariable, 7⟩) = .ok 1 := by
    simp only [exchanged, attempt_eq]
    cbv
  have hfour : exchanged.signedValueOf (.ofAtom ⟨firstVariable, 4⟩) = .ok 2 := by
    simp only [exchanged, attempt_eq]
    cbv
  have hsize : exchanged.size = 2 := by
    simp only [exchanged, attempt_eq]
    cbv
  have hfull : (exchanged.attempt (.ofAtom ⟨firstVariable, 9⟩) 1).2 =
      .error (.duplicateValue 1) := by
    simp only [exchanged, attempt_eq]
    cbv
  obtain ⟨twoWay, hnext⟩ := lookups_stay_inverse hattempted
  exact ⟨hattempted, hsize, hseven, twoWay.opposite _ _ hfour, (hnext _ _).1 _ hfull⟩

end Clausal.Numbering

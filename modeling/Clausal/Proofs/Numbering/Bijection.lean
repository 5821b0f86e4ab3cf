import Mathlib.Data.List.Nodup
import Mathlib.Data.List.Perm.Subperm
import Mathlib.Data.Set.Card
import Clausal.Numbering
import Clausal.Proofs.Outcome

/-!
# Numberings are bijections

In every numbering that additions make out of the empty one, keys are positive, numbers are at
least 1, no two pairs have the same atom and no two the same number.  Looking a pair up by its
atom and by its number is then the same as its membership.  Since numbers have 31 bits, a
numbering has fewer than 2³¹ pairs.
-/

namespace Clausal

namespace Numbering

/-- The numberings that additions make out of an empty one; one that fails changes nothing. -/
inductive Reachable : Numbering → Prop
  | empty : Reachable empty
  | add {n next : Numbering} {key : Literal} {value : Int32} (h : Reachable n)
      (added : n.add key value = .ok next) : Reachable next
  | ofEncoding {e : Encoding} {order : NumberingOrder} {n : Numbering}
      (made : ofEncoding e order = .ok n) : Reachable n

structure Bijective (n : Numbering) : Prop where
  positive : ∀ pair ∈ n.pairs, pair.1.negated = false
  atLeastOne : ∀ pair ∈ n.pairs, 1 ≤ pair.2.toInt
  atoms : (n.pairs.map fun pair => pair.1.atom).Nodup
  values : (n.pairs.map fun pair => pair.2).Nodup

/-! ## Looking up -/

theorem find?_eq_some_iff_mem {ε α : Type} [DecidableEq α] {key : ε → α} {entries : List ε}
    (unique : (entries.map key).Nodup) {wanted : α} {entry : ε} :
    entries.find? (fun entry => key entry = wanted) = some entry ↔
      entry ∈ entries ∧ key entry = wanted := by
  constructor
  · intro h
    exact ⟨List.mem_of_find?_eq_some h, by simpa using List.find?_some h⟩
  · rintro ⟨hmem, hkey⟩
    cases hf : entries.find? fun entry => key entry = wanted with
    | none => exact absurd hkey (by simpa using List.find?_eq_none.mp hf entry hmem)
    | some other =>
        have hother : key other = wanted := by simpa using List.find?_some hf
        rw [List.inj_on_of_nodup_map unique (List.mem_of_find?_eq_some hf) hmem
          (hother.trans hkey.symm)]

theorem Bijective.number?_eq_some_iff {n : Numbering} (h : n.Bijective) {atom : Atom}
    {value : Int32} :
    n.number? atom = some value ↔ ∃ key, (key, value) ∈ n.pairs ∧ key.atom = atom := by
  rw [number?_eq, Option.map_eq_some_iff]
  constructor
  · rintro ⟨⟨key, _⟩, hf, rfl⟩
    exact ⟨key, (find?_eq_some_iff_mem h.atoms).mp hf⟩
  · rintro ⟨key, hmem, hatom⟩
    exact ⟨(key, value), (find?_eq_some_iff_mem h.atoms).mpr ⟨hmem, hatom⟩, rfl⟩

theorem Bijective.key?_eq_some_iff {n : Numbering} (h : n.Bijective) {key : Literal}
    {value : Int32} : n.key? value = some key ↔ (key, value) ∈ n.pairs := by
  rw [key?_eq, Option.map_eq_some_iff]
  constructor
  · rintro ⟨⟨_, number⟩, hf, rfl⟩
    obtain ⟨hmem, hnumber⟩ := (find?_eq_some_iff_mem h.values).mp hf
    cases hnumber
    exact hmem
  · intro hmem
    exact ⟨(key, value), (find?_eq_some_iff_mem h.values).mpr ⟨hmem, rfl⟩, rfl⟩

theorem number?_eq_none_iff {n : Numbering} {atom : Atom} :
    n.number? atom = none ↔ ∀ pair ∈ n.pairs, pair.1.atom ≠ atom := by
  simp [number?_eq]

theorem key?_eq_none_iff {n : Numbering} {value : Int32} :
    n.key? value = none ↔ ∀ pair ∈ n.pairs, pair.2 ≠ value := by
  simp [key?_eq]

theorem valueOf_eq_ok_iff {n : Numbering} {literal : Literal} {value : Int32} :
    n.valueOf literal = .ok value ↔ n.number? literal.atom = some value := by
  unfold valueOf
  cases n.number? literal.atom with
  | none => simp
  | some number => simp

theorem literalOf_eq_ok_iff {n : Numbering} {value : Int32} {key : Literal} :
    n.literalOf value = .ok key ↔ n.key? value = some key := by
  unfold literalOf
  cases n.key? value with
  | none => simp
  | some known => simp

/-! ## Additions -/

theorem int32_lt_one_iff {value : Int32} : value < 1 ↔ ¬ 1 ≤ value.toInt := by
  rw [Int32.lt_iff_toInt_lt, Int.not_le]
  rfl

/-- What a successful addition has checked, and what it leaves. -/
theorem add_eq_ok_iff {n next : Numbering} {key : Literal} {value : Int32} :
    n.add key value = .ok next ↔
      1 ≤ value.toInt ∧ key.negated = false ∧ n.number? key.atom = none ∧
        n.key? value = none ∧ next = n.cons key value := by
  unfold add
  by_cases hlow : value < 1
  · have hvalue := int32_lt_one_iff.mp hlow
    simp [hlow, hvalue]
  · have hvalue := not_not.mp (mt int32_lt_one_iff.mpr hlow)
    cases hn : key.negated with
    | true => simp [hlow]
    | false =>
        cases ha : n.number? key.atom with
        | some known => simp [hlow]
        | none =>
            cases hk : n.key? value with
            | some known => simp [hlow]
            | none =>
                simp only [hlow, hvalue, if_false, Bool.false_eq_true, Option.isSome_none,
                  Except.ok.injEq, true_and]
                exact eq_comm

theorem bijective_empty : empty.Bijective where
  positive := by simp [empty]
  atLeastOne := by simp [empty]
  atoms := by simp [empty]
  values := by simp [empty]

theorem Bijective.add {n next : Numbering} {key : Literal} {value : Int32} (h : n.Bijective)
    (added : n.add key value = .ok next) : next.Bijective := by
  obtain ⟨hvalue, hkey, hatom, hnumber, rfl⟩ := add_eq_ok_iff.mp added
  rw [number?_eq_none_iff] at hatom
  rw [key?_eq_none_iff] at hnumber
  constructor
  · intro pair hpair
    rcases List.mem_cons.mp hpair with rfl | hpair
    · exact hkey
    · exact h.positive pair hpair
  · intro pair hpair
    rcases List.mem_cons.mp hpair with rfl | hpair
    · exact hvalue
    · exact h.atLeastOne pair hpair
  · rw [pairs_cons, List.map_cons, List.nodup_cons]
    refine ⟨?_, h.atoms⟩
    rw [List.mem_map]
    rintro ⟨pair, hpair, heq⟩
    exact hatom pair hpair heq
  · rw [pairs_cons, List.map_cons, List.nodup_cons]
    refine ⟨?_, h.values⟩
    rw [List.mem_map]
    rintro ⟨pair, hpair, heq⟩
    exact hnumber pair hpair heq

theorem Bijective.addFrom {n next : Numbering} {place : Nat} {keys : List Literal}
    (h : n.Bijective) (added : n.addFrom place keys = .ok next) : next.Bijective := by
  induction keys generalizing n place with
  | nil =>
      cases added
      exact h
  | cons key rest ih =>
      obtain ⟨value, -, hrest⟩ := bind_eq_ok_iff.mp added
      obtain ⟨middle, hadd, hrest⟩ := bind_eq_ok_iff.mp hrest
      exact ih (h.add hadd) hrest

theorem Reachable.bijective {n : Numbering} (h : n.Reachable) : n.Bijective := by
  induction h with
  | empty => exact bijective_empty
  | add _ added ih => exact ih.add added
  | ofEncoding made => exact bijective_empty.addFrom made

/-! ## Size -/

theorem length_le_of_nodup_of_lt {values : List Nat} {bound : Nat} (unique : values.Nodup)
    (below : ∀ value ∈ values, value < bound) : values.length ≤ bound := by
  have hsub : values ⊆ List.range bound := fun value hv => List.mem_range.mpr (below value hv)
  simpa using (List.Nodup.subperm unique hsub).length_le

/-- A set that a list without repetitions enumerates has as many members. -/
theorem ncard_of_nodup {α : Type} [DecidableEq α] {members : List α} (unique : members.Nodup)
    {set : Set α} (h : ∀ a, a ∈ set ↔ a ∈ members) : set.ncard = members.length := by
  have hset : set = (members.toFinset : Set α) := by
    ext a
    rw [h, Finset.mem_coe, List.mem_toFinset]
  rw [hset, Set.ncard_coe_finset, List.toFinset_card_of_nodup unique]

/-- There are fewer pairs than numbers of 31 bits. -/
theorem Bijective.size_lt {n : Numbering} (h : n.Bijective) : n.size < UInt32.size := by
  have unique : (n.pairs.map fun pair => pair.2.toInt.toNat).Nodup := by
    refine (List.Nodup.of_map _ h.values).map_on ?_
    intro p hp q hq hpq
    have hp1 := h.atLeastOne p hp
    have hq1 := h.atLeastOne q hq
    exact List.inj_on_of_nodup_map h.values hp hq (Int32.toInt_inj.mp (by omega))
  have below : ∀ value ∈ n.pairs.map fun pair => pair.2.toInt.toNat, value < 2 ^ 31 := by
    intro value hv
    obtain ⟨pair, -, rfl⟩ := List.mem_map.mp hv
    have hlt := pair.2.toInt_lt
    omega
  have hlen := length_le_of_nodup_of_lt unique below
  rw [List.length_map] at hlen
  exact Nat.lt_of_le_of_lt hlen (by decide)

end Numbering

end Clausal

import Clausal.Proofs.Encoding.Registration
import Clausal.Proofs.Numbering.Bijection

/-!
# Numbering a whole encoding

The registered literals of a consistent encoding have distinct atoms, so numbering them never
meets a key or a number twice, and fails only when the numbers run out.  A numbering that
comes out of it is complete: it numbers exactly the registered atoms, with 1 up to their count.
-/

namespace Clausal

namespace Numbering

/-- The pairs that numbering these literals adds, the smallest number first. -/
def numbered (place : Nat) (keys : List Literal) : List (Literal × Int32) :=
  (keys.zipIdx place).map fun entry => (entry.1, Int32.ofNat (entry.2 + 1))

@[simp] theorem numbered_cons (place : Nat) (key : Literal) (rest : List Literal) :
    numbered place (key :: rest) =
      (key, Int32.ofNat (place + 1)) :: numbered (place + 1) rest := rfl

@[simp] theorem length_numbered (place : Nat) (keys : List Literal) :
    (numbered place keys).length = keys.length := by
  simp [numbered]

theorem map_fst_numbered (place : Nat) (keys : List Literal) :
    (numbered place keys).map Prod.fst = keys := by
  induction keys generalizing place with
  | nil => rfl
  | cons key rest ih => rw [numbered_cons, List.map_cons, ih]

theorem mem_numbered_iff {keys : List Literal} {key : Literal} {value : Int32} :
    (key, value) ∈ numbered 0 keys ↔
      ∃ place, keys[place]? = some key ∧ value = Int32.ofNat (place + 1) := by
  simp only [numbered, List.mem_map, Prod.exists, Prod.mk.injEq, List.mem_zipIdx_iff_getElem?]
  constructor
  · rintro ⟨_, place, hkey, rfl, rfl⟩
    exact ⟨place, hkey, rfl⟩
  · rintro ⟨place, hkey, rfl⟩
    exact ⟨key, place, hkey, rfl, rfl⟩

/-- How many numbers there are: the positive ones of 31 bits. -/
def capacity : Nat := 0x7fffffff

theorem toInt_ofNat_of_le {value : Nat} (h : value ≤ capacity) :
    (Int32.ofNat value).toInt = value :=
  Int32.toInt_ofNat_of_lt (Nat.lt_succ_of_le h)

theorem numberAt_eq_ok {place : Nat} (room : place + 1 ≤ capacity) :
    numberAt place = .ok (Int32.ofNat (place + 1)) := if_pos (Nat.lt_succ_of_le room)

/-- Literals of fresh and distinct atoms are numbered as long as there are numbers. -/
theorem addFrom_eq_ok {n : Numbering} {place : Nat} {keys : List Literal}
    (positive : ∀ key ∈ keys, key.negated = false)
    (unique : (keys.map Literal.atom).Nodup)
    (fresh : ∀ key ∈ keys, ∀ pair ∈ n.pairs, pair.1.atom ≠ key.atom)
    (below : ∀ pair ∈ n.pairs, pair.2.toInt ≤ place)
    (room : place + keys.length ≤ capacity) :
    ∃ next, n.addFrom place keys = .ok next ∧
      next.pairs = (numbered place keys).reverse ++ n.pairs := by
  induction keys generalizing n place with
  | nil => exact ⟨n, rfl, rfl⟩
  | cons key rest ih =>
      rw [List.length_cons] at room
      rw [List.map_cons, List.nodup_cons] at unique
      have hvalue : (Int32.ofNat (place + 1)).toInt = place + 1 :=
        toInt_ofNat_of_le (by omega)
      have hadd : n.add key (Int32.ofNat (place + 1)) =
          .ok (n.cons key (Int32.ofNat (place + 1))) := by
        rw [add_eq_ok_iff, number?_eq_none_iff, key?_eq_none_iff]
        refine ⟨by omega, positive key List.mem_cons_self, fresh key List.mem_cons_self, ?_, rfl⟩
        intro pair hpair heq
        have hbelow := below pair hpair
        rw [heq] at hbelow
        omega
      have hfresh : ∀ key' ∈ rest, ∀ pair ∈ (n.cons key (Int32.ofNat (place + 1))).pairs,
          pair.1.atom ≠ key'.atom := by
        intro key' hkey' pair hpair
        rcases List.mem_cons.mp hpair with rfl | hpair
        · intro heq
          exact unique.1 (heq ▸ List.mem_map_of_mem hkey')
        · exact fresh key' (List.mem_cons_of_mem key hkey') pair hpair
      have hbelow : ∀ pair ∈ (n.cons key (Int32.ofNat (place + 1))).pairs,
          pair.2.toInt ≤ (place + 1 : Nat) := by
        intro pair hpair
        rcases List.mem_cons.mp hpair with rfl | hpair
        · simp only [hvalue]
          omega
        · have := below pair hpair
          omega
      obtain ⟨next, hnext, hpairs⟩ := ih (fun key' h => positive key' (List.mem_cons_of_mem key h))
        unique.2 hfresh hbelow (by omega)
      refine ⟨next, ?_, ?_⟩
      · unfold addFrom
        rw [numberAt_eq_ok (by omega)]
        simp only [bind, Except.bind, hadd]
        exact hnext
      · rw [hpairs, pairs_cons, numbered_cons, List.reverse_cons, List.append_assoc]
        rfl

theorem keysInOrder_perm (e : Encoding) (order : NumberingOrder) :
    (keysInOrder e order).Perm e.registered.flatten := by
  cases order with
  | registration => exact .refl _
  | sorted => exact List.mergeSort_perm _ _

theorem ofEncoding_eq_ok {e : Encoding} (h : e.Consistent) (room : e.registeredCount ≤ capacity)
    (order : NumberingOrder) :
    ∃ n, ofEncoding e order = .ok n ∧ n.pairs = (numbered 0 (keysInOrder e order)).reverse := by
  have hperm := keysInOrder_perm e order
  have positive : ∀ key ∈ keysInOrder e order, key.negated = false :=
    fun key hkey => h.positive (hperm.mem_iff.mp hkey)
  have unique : ((keysInOrder e order).map Literal.atom).Nodup :=
    (hperm.map Literal.atom).nodup_iff.mpr h.nodup
  have hroom : 0 + (keysInOrder e order).length ≤ capacity := by
    rw [Nat.zero_add, hperm.length_eq]
    exact room
  obtain ⟨n, hn, hpairs⟩ := addFrom_eq_ok (n := empty) positive unique (by simp [empty])
    (by simp [empty]) hroom
  exact ⟨n, hn, by simpa [empty] using hpairs⟩

/-- The atoms numbered are those registered, and the numbers are 1 up to their count. -/
structure Complete (e : Encoding) (n : Numbering) : Prop where
  bijective : n.Bijective
  size : n.size = e.registeredCount
  atoms : ∀ atom, (∃ pair ∈ n.pairs, pair.1.atom = atom) ↔
    atom ∈ e.registered.flatten.map Literal.atom
  values : ∀ value, (∃ key, (key, value) ∈ n.pairs) ↔
    1 ≤ value.toInt ∧ value.toInt ≤ n.size

theorem complete_of_pairs {e : Encoding} {n : Numbering} {order : NumberingOrder}
    (bijective : n.Bijective) (room : e.registeredCount ≤ capacity)
    (hpairs : n.pairs = (numbered 0 (keysInOrder e order)).reverse) : Complete e n := by
  have hperm := keysInOrder_perm e order
  have hsize : n.size = e.registeredCount := by
    rw [size, hpairs, List.length_reverse, length_numbered, hperm.length_eq]
    rfl
  refine ⟨bijective, hsize, ?_, ?_⟩
  · intro atom
    rw [← (hperm.map Literal.atom).mem_iff, ← map_fst_numbered 0 (keysInOrder e order),
      List.map_map, List.mem_map, hpairs]
    simp only [List.mem_reverse, Function.comp_apply]
  · intro value
    simp only [hpairs, List.mem_reverse, mem_numbered_iff]
    have hlen : (keysInOrder e order).length = e.registeredCount := hperm.length_eq
    constructor
    · rintro ⟨key, place, hplace, rfl⟩
      have hlt : place < (keysInOrder e order).length := (List.getElem?_eq_some_iff.mp hplace).1
      have hvalue : (Int32.ofNat (place + 1)).toInt = ((place + 1 : Nat) : Int) :=
        toInt_ofNat_of_le (by omega)
      omega
    · rintro ⟨hlow, hhigh⟩
      have hlt : value.toInt.toNat - 1 < (keysInOrder e order).length := by omega
      refine ⟨_, value.toInt.toNat - 1, List.getElem?_eq_getElem hlt, ?_⟩
      have hback : value.toInt.toNat - 1 + 1 = value.toInt.toNat := by omega
      rw [hback]
      apply Int32.toInt_inj.mp
      rw [toInt_ofNat_of_le (by omega)]
      omega

/-- The number of a registered literal is one more than its place in the order. -/
theorem valueOf_of_place {e : Encoding} {n : Numbering} {order : NumberingOrder}
    (h : e.Consistent) (room : e.registeredCount ≤ capacity) (made : ofEncoding e order = .ok n)
    {place : Nat} {key : Literal} (hkey : (keysInOrder e order)[place]? = some key) :
    n.valueOf key = .ok (Int32.ofNat (place + 1)) := by
  obtain ⟨other, hother, hpairs⟩ := ofEncoding_eq_ok h room order
  have hsame : n = other := Except.ok.inj (made.symm.trans hother)
  have hpair : (key, Int32.ofNat (place + 1)) ∈ n.pairs := by
    rw [hsame, hpairs, List.mem_reverse, mem_numbered_iff]
    exact ⟨place, hkey, rfl⟩
  exact valueOf_eq_ok_iff.mpr
    ((Reachable.ofEncoding made).bijective.number?_eq_some_iff.mpr ⟨key, hpair, rfl⟩)

/-- A consistent encoding with few enough registered literals has a complete numbering in
either order. -/
theorem exists_complete {e : Encoding} (h : e.Consistent) (room : e.registeredCount ≤ capacity)
    (order : NumberingOrder) : ∃ n, ofEncoding e order = .ok n ∧ Complete e n := by
  obtain ⟨n, hn, hpairs⟩ := ofEncoding_eq_ok h room order
  exact ⟨n, hn, complete_of_pairs (Reachable.ofEncoding hn).bijective room hpairs⟩

theorem le_capacity_of_addFrom {n next : Numbering} {place : Nat} {keys : List Literal}
    (added : n.addFrom place keys = .ok next) (h : place ≤ capacity) :
    place + keys.length ≤ capacity := by
  induction keys generalizing n place with
  | nil => exact h
  | cons key rest ih =>
      obtain ⟨value, hvalue, hrest⟩ := bind_eq_ok_iff.mp added
      obtain ⟨middle, -, hrest⟩ := bind_eq_ok_iff.mp hrest
      have room : place + 1 ≤ capacity := by
        unfold numberAt at hvalue
        split at hvalue
        · rename_i hlt
          exact Nat.le_of_lt_succ hlt
        · cases hvalue
      rw [List.length_cons, Nat.add_comm rest.length, ← Nat.add_assoc]
      exact ih hrest room

theorem complete_of_ofEncoding {e : Encoding} {order : NumberingOrder} {n : Numbering}
    (h : e.Consistent) (made : ofEncoding e order = .ok n) : Complete e n := by
  have room : e.registeredCount ≤ capacity := by
    have := le_capacity_of_addFrom made (Nat.zero_le _)
    rwa [Nat.zero_add, (keysInOrder_perm e order).length_eq] at this
  obtain ⟨other, hother, complete⟩ := exists_complete h room order
  rw [made] at hother
  cases hother
  exact complete

theorem Complete.exists_valueOf {e : Encoding} {n : Numbering} (h : Complete e n)
    (hc : e.Consistent) {literal : Literal} (hl : e.isRegistered literal = true) :
    ∃ value, n.valueOf literal = .ok value := by
  rw [hc.isRegistered_iff, ← h.atoms] at hl
  obtain ⟨⟨key, value⟩, hpair, hatom⟩ := hl
  exact ⟨value, valueOf_eq_ok_iff.mpr (h.bijective.number?_eq_some_iff.mpr ⟨key, hpair, hatom⟩)⟩

theorem Complete.keyed {e : Encoding} {n : Numbering} (h : Complete e n) (hc : e.Consistent)
    {clause : Clause Literal} (hclause : clause ∈ e.clauses) {literal : Literal}
    (hl : literal ∈ clause.literals) : ∃ pair ∈ n.pairs, pair.1.atom = literal.atom := by
  rw [h.atoms, ← hc.isRegistered_iff]
  exact hc.covered clause hclause literal hl

theorem Complete.literalOf_iff {e : Encoding} {n : Numbering} (h : Complete e n)
    {value : Int32} :
    (∃ key, n.literalOf value = .ok key) ↔ 1 ≤ value.toInt ∧ value.toInt ≤ n.size := by
  rw [← h.values]
  exact exists_congr fun _ => literalOf_eq_ok_iff.trans h.bijective.key?_eq_some_iff

theorem Complete.valueOf_iff {e : Encoding} {n : Numbering} (h : Complete e n)
    {value : Int32} :
    (∃ literal, n.valueOf literal = .ok value) ↔ 1 ≤ value.toInt ∧ value.toInt ≤ n.size := by
  rw [← h.values]
  simp only [valueOf_eq_ok_iff, h.bijective.number?_eq_some_iff]
  constructor
  · rintro ⟨literal, key, hmem, -⟩
    exact ⟨key, hmem⟩
  · rintro ⟨key, hmem⟩
    exact ⟨key, key, hmem, rfl⟩

end Numbering

end Clausal

import Clausal.Proofs.Encoding.History
import Clausal.Proofs.Numbering.Complete
import Clausal.Proofs.Valuation

/-!
# Numbers as counts

The number of a registered literal tells how many registered literals come before it.  In sorted
order these are the ones with a smaller variable or index, however the encoding came to register
them.  In the order of registration they are all literals of smaller variables, and those of its own
variable that were registered before it; what is registered later leaves them in their order.
-/

namespace Clausal

namespace Atom

/-- A smaller variable, or the same one and a smaller index. -/
def Before (a b : Atom) : Prop := a.var < b.var ∨ a.var = b.var ∧ a.index < b.index

theorem before_iff {a b : Atom} :
    a.Before b ↔ a.var.val < b.var.val ∨
      a.var.val = b.var.val ∧ a.index.toNat < b.index.toNat := by
  rw [Before, Fin.lt_def, Fin.ext_iff, UInt32.lt_iff_toNat_lt]

theorem le_iff {a b : Atom} :
    a.le b = true ↔ a.var.val < b.var.val ∨
      a.var.val = b.var.val ∧ a.index.toNat ≤ b.index.toNat := by
  simp only [le, Bool.or_eq_true, Bool.and_eq_true, decide_eq_true_eq, Fin.lt_def, Fin.ext_iff,
    UInt32.le_iff_toNat_le]

theorem le_total (a b : Atom) : a.le b = true ∨ b.le a = true := by
  rw [le_iff, le_iff]
  omega

theorem le_trans {a b c : Atom} (hab : a.le b = true) (hbc : b.le c = true) : a.le c = true := by
  rw [le_iff] at hab hbc ⊢
  omega

theorem before_of_le {a b : Atom} (h : a.le b = true) (distinct : a ≠ b) : a.Before b := by
  rw [le_iff] at h
  rw [before_iff]
  by_contra hlate
  have hvar : a.var = b.var := Fin.ext (by omega)
  have hindex : a.index = b.index := UInt32.toNat_inj.mp (by omega)
  exact distinct (eq_iff.mpr ⟨hvar, hindex⟩)

theorem Before.asymm {a b : Atom} (h : a.Before b) : ¬ b.Before a := by
  rw [before_iff] at h ⊢
  omega

end Atom

namespace Encoding

/-! ## The literals in front -/

/-- The registered atoms that are smaller than this one. -/
def smaller (e : Encoding) (atom : Atom) : Set Atom :=
  {other | e.isRegistered (.ofAtom other) = true ∧ other.Before atom}

/-- The atoms of the same variable that the run registered before this one. -/
def earlier (id : EncodingId) (ops : List Operation) (atom : Atom) : Set Atom :=
  {other | other.var = atom.var ∧ RegisteredBefore id ops other atom}

/-- How many literals of the variables below this one are registered. -/
def sizeBelow (e : Encoding) (var : Nat) : Nat := ((e.registered.take var).map List.length).sum

theorem sizeBelow_succ (e : Encoding) (var : Nat) :
    e.sizeBelow (var + 1) = e.sizeBelow var + (e.atomsOf var).length := by
  rw [sizeBelow, List.take_add_one, List.map_append, List.sum_append, atomsOf, List.length_map]
  cases e.registered[var]? <;> rfl

theorem sizeBelow_mono (e : Encoding) : Monotone e.sizeBelow :=
  monotone_nat_of_le_succ fun var => by
    rw [sizeBelow_succ]
    exact Nat.le_add_right _ _

theorem sizeBelow_congr {e e' : Encoding} {var : Nat}
    (h : ∀ below < var, e'.atomsOf below = e.atomsOf below) : e'.sizeBelow var = e.sizeBelow var := by
  induction var with
  | zero => rfl
  | succ var ih =>
      rw [sizeBelow_succ, sizeBelow_succ, h var (Nat.lt_succ_self var),
        ih fun below hbelow => h below (Nat.lt_succ_of_lt hbelow)]

theorem ncard_earlier {id : EncodingId} {ops : List Operation} {atom : Atom}
    {front back : List Atom} (split : (run id ops).atomsOf atom.var.val = front ++ atom :: back) :
    (earlier id ops atom).ncard = front.length := by
  have unique := (run_consistent id ops).nodup_atomsOf atom.var.val
  rw [split] at unique
  exact Numbering.ncard_of_nodup (List.nodup_append.mp unique).1 fun _ => registeredBefore_iff split

theorem Consistent.ncard_registered {e : Encoding} (h : e.Consistent) :
    {atom | e.isRegistered (.ofAtom atom) = true}.ncard = e.registeredCount := by
  have hmem : ∀ other, other ∈ {atom | e.isRegistered (.ofAtom atom) = true} ↔
      other ∈ e.registered.flatten.map Literal.atom := fun other => h.isRegistered_iff (.ofAtom other)
  rw [Numbering.ncard_of_nodup h.nodup hmem, List.length_map]
  rfl

end Encoding

namespace Numbering

open Encoding (run smaller earlier sizeBelow RegisteredBefore)

/-- The literal's number is one more than this count. -/
def Counts (n : Numbering) (literal : Literal) (count : Nat) : Prop :=
  ∃ value, n.valueOf literal = .ok value ∧ value.toInt = 1 + (count : Int)

theorem Counts.unique {n other : Numbering} {literal : Literal} {count : Nat}
    (h : n.Counts literal count) (h' : other.Counts literal count) :
    n.valueOf literal = other.valueOf literal := by
  obtain ⟨value, hv, hcount⟩ := h
  obtain ⟨value', hv', hcount'⟩ := h'
  rw [hv, hv', Int32.toInt_inj.mp (hcount.trans hcount'.symm)]

theorem Counts.lt_iff {n : Numbering} {a b : Literal} {first second : Nat} {x y : Int32}
    (ha : n.Counts a first) (hb : n.Counts b second) (hx : n.valueOf a = .ok x)
    (hy : n.valueOf b = .ok y) : x.toInt < y.toInt ↔ first < second := by
  obtain ⟨_, hv, hfirst⟩ := ha
  obtain ⟨_, hv', hsecond⟩ := hb
  cases hx.symm.trans hv
  cases hy.symm.trans hv'
  omega

section

variable {e : Encoding} {n : Numbering} (h : e.Consistent) (room : e.registeredCount ≤ capacity)

include h room

theorem counts_of_split {order : NumberingOrder} (made : ofEncoding e order = .ok n)
    {front back : List Literal} {key : Literal} (split : keysInOrder e order = front ++ key :: back)
    {literal : Literal} (same : literal.atom = key.atom) : n.Counts literal front.length := by
  have hkey : (keysInOrder e order)[front.length]? = some key := by
    rw [split, List.getElem?_append_right (Nat.le_refl _), Nat.sub_self]
    rfl
  have hplace : front.length < e.registeredCount := by
    have hlength := (keysInOrder_perm e order).length_eq
    rw [split, List.length_append, List.length_cons] at hlength
    have : e.registeredCount = e.registered.flatten.length := rfl
    omega
  have hvalue := valueOf_eq_ok_iff.mp (valueOf_of_place h room made hkey)
  refine ⟨_, valueOf_eq_ok_iff.mpr (same ▸ hvalue), ?_⟩
  rw [toInt_ofNat_of_le (by omega)]
  omega

/-! ## Sorted order -/

omit room in
theorem ncard_smaller {front back : List Literal} {key : Literal}
    (split : keysInOrder e .sorted = front ++ key :: back) :
    (e.smaller key.atom).ncard = front.length := by
  have hperm := (keysInOrder_perm e .sorted).map Literal.atom
  have unique := hperm.nodup_iff.mpr h.nodup
  have htrans : ∀ a b c : Literal, a.atom.le b.atom = true → b.atom.le c.atom = true →
      a.atom.le c.atom = true := fun _ _ _ => Atom.le_trans
  have htotal : ∀ a b : Literal, (a.atom.le b.atom || b.atom.le a.atom) = true := fun a b =>
    (Bool.or_eq_true _ _).mpr (Atom.le_total a.atom b.atom)
  have hle : (keysInOrder e .sorted).Pairwise fun a b => a.atom.le b.atom = true :=
    List.pairwise_mergeSort htrans htotal _
  have hbefore : ((keysInOrder e .sorted).map Literal.atom).Pairwise Atom.Before := by
    rw [List.pairwise_map]
    exact (hle.and (List.pairwise_map.mp unique)).imp fun hab => Atom.before_of_le hab.1 hab.2
  rw [split, List.map_append, List.map_cons] at hperm unique hbefore
  rw [← List.length_map Literal.atom]
  refine ncard_of_nodup (List.nodup_append.mp unique).1 fun other => ?_
  rw [smaller, Set.mem_ofPred_eq, h.isRegistered_iff, ← hperm.mem_iff, List.mem_append,
    List.mem_cons]
  obtain ⟨-, hback, hfront⟩ := List.pairwise_append.mp hbefore
  constructor
  · rintro ⟨hother | heq | hother, hsmaller⟩
    · exact hother
    · exact absurd (heq ▸ hsmaller) (heq ▸ hsmaller).asymm
    · exact absurd (List.rel_of_pairwise_cons hback hother) hsmaller.asymm
  · intro hother
    exact ⟨.inl hother, hfront other hother _ List.mem_cons_self⟩

theorem counts_sorted (made : ofEncoding e .sorted = .ok n) {literal : Literal}
    (hl : e.isRegistered literal = true) : n.Counts literal (e.smaller literal.atom).ncard := by
  rw [h.isRegistered_iff, ← ((keysInOrder_perm e .sorted).map Literal.atom).mem_iff] at hl
  obtain ⟨key, hkey, same⟩ := List.mem_map.mp hl
  obtain ⟨front, back, split⟩ := List.append_of_mem hkey
  rw [← same, ncard_smaller h split]
  exact counts_of_split h room made split same.symm

/-! ## The order of registration -/

theorem counts_registration (made : ofEncoding e .registration = .ok n) {literal : Literal}
    {front back : List Atom}
    (split : e.atomsOf literal.atom.var.val = front ++ literal.atom :: back) :
    n.Counts literal (e.sizeBelow literal.atom.var.val + front.length) := by
  cases found : e.registered[literal.atom.var.val]? with
  | none =>
      rw [Encoding.atomsOf, found] at split
      exact absurd split.symm (List.append_ne_nil_of_right_ne_nil _ (List.cons_ne_nil _ _))
  | some literals =>
      rw [Encoding.atomsOf, found, Option.getD_some] at split
      obtain ⟨before, rest, rfl, rfl, hrest⟩ := List.map_eq_append_iff.mp split
      obtain ⟨key, after, rfl, same, -⟩ := List.map_eq_cons_iff.mp hrest
      obtain ⟨hlt, hget⟩ := List.getElem?_eq_some_iff.mp found
      have hregistered : e.registered = e.registered.take literal.atom.var.val ++
          (before ++ key :: after) :: e.registered.drop (literal.atom.var.val + 1) := by
        rw [← hget, ← List.drop_eq_getElem_cons hlt, List.take_append_drop]
      have hkeys : keysInOrder e .registration =
          ((e.registered.take literal.atom.var.val).flatten ++ before) ++
            key :: (after ++ (e.registered.drop (literal.atom.var.val + 1)).flatten) := by
        rw [keysInOrder]
        nth_rewrite 1 [hregistered]
        simp only [List.flatten_append, List.flatten_cons, List.append_assoc, List.cons_append]
      have hcounts := counts_of_split h room made hkeys same.symm
      rw [List.length_append, List.length_flatten] at hcounts
      rw [List.length_map]
      exact hcounts

end

theorem place_lt_iff {e : Encoding} {a b : Atom} {frontA backA frontB backB : List Atom}
    (splitA : e.atomsOf a.var.val = frontA ++ a :: backA)
    (splitB : e.atomsOf b.var.val = frontB ++ b :: backB) :
    e.sizeBelow a.var.val + frontA.length < e.sizeBelow b.var.val + frontB.length ↔
      a.var.val < b.var.val ∨ a.var.val = b.var.val ∧ frontA.length < frontB.length := by
  have hsuccA := e.sizeBelow_succ a.var.val
  have hsuccB := e.sizeBelow_succ b.var.val
  rw [splitA, List.length_append, List.length_cons] at hsuccA
  rw [splitB, List.length_append, List.length_cons] at hsuccB
  obtain hlt | heq | hgt := Nat.lt_trichotomy a.var.val b.var.val
  · have hmono : e.sizeBelow (a.var.val + 1) ≤ e.sizeBelow b.var.val := e.sizeBelow_mono hlt
    exact iff_of_true (by omega) (.inl hlt)
  · rw [heq]
    omega
  · have hmono : e.sizeBelow (b.var.val + 1) ≤ e.sizeBelow a.var.val := e.sizeBelow_mono hgt
    exact iff_of_false (by omega) (by omega)

/-! ## Runs that go on -/

section

variable {id : EncodingId} {ops : List Operation}

theorem exists_split {e : Encoding} {literal : Literal} (hl : e.isRegistered literal = true) :
    ∃ front back, e.atomsOf literal.atom.var.val = front ++ literal.atom :: back :=
  List.append_of_mem (Encoding.isRegistered_iff_mem_atomsOf.mp hl)

theorem exists_split_run_append (more : List Operation) {atom : Atom} {front back : List Atom}
    (split : (run id ops).atomsOf atom.var.val = front ++ atom :: back) :
    ∃ back', (run id (ops ++ more)).atomsOf atom.var.val = front ++ atom :: back' := by
  obtain ⟨new, hnew⟩ := Encoding.atomsOf_run_grows id ops more atom.var.val
  refine ⟨back ++ new, ?_⟩
  rw [← hnew, split, List.append_assoc, List.cons_append]

theorem atomsOf_run_append {more : List Operation} {var : Nat}
    (new : ∀ literal, (run id (ops ++ more)).isRegistered literal = true →
      (run id ops).isRegistered literal = false → literal.atom.var.val ≠ var) :
    (run id (ops ++ more)).atomsOf var = (run id ops).atomsOf var := by
  obtain ⟨added, hadded⟩ := Encoding.atomsOf_run_grows id ops more var
  cases added with
  | nil => rw [← hadded, List.append_nil]
  | cons atom rest =>
      have hconsistent := Encoding.run_consistent id (ops ++ more)
      have hmem : atom ∈ (run id (ops ++ more)).atomsOf var := by
        rw [← hadded]
        exact List.mem_append_right _ List.mem_cons_self
      have hown := hconsistent.var_of_mem_atomsOf hmem
      have hunknown : atom ∉ (run id ops).atomsOf var := by
        have unique := hconsistent.nodup_atomsOf var
        rw [← hadded] at unique
        exact (List.disjoint_of_nodup_append unique).symm List.mem_cons_self
      subst hown
      refine absurd rfl (new (.ofAtom atom) (Encoding.isRegistered_ofAtom_iff.mpr hmem) ?_)
      rwa [Bool.eq_false_iff, ne_eq, Encoding.isRegistered_ofAtom_iff]

/-- The numbers of a later encoding leave the registered literals in their order, and change no
number up to the variable of the first new literal. -/
structure Continues (e later : Encoding) (n next : Numbering) : Prop where
  order : ∀ a b x y x' y', e.isRegistered a = true → e.isRegistered b = true →
    n.valueOf a = .ok x → n.valueOf b = .ok y →
    next.valueOf a = .ok x' → next.valueOf b = .ok y' → (x.toInt < y.toInt ↔ x'.toInt < y'.toInt)
  number : ∀ l, e.isRegistered l = true →
    (∀ new, later.isRegistered new = true → e.isRegistered new = false →
      l.atom.var ≤ new.atom.var) →
    next.valueOf l = n.valueOf l

theorem continues {more : List Operation} {n next : Numbering}
    (room : (run id ops).registeredCount ≤ capacity)
    (laterRoom : (run id (ops ++ more)).registeredCount ≤ capacity)
    (made : ofEncoding (run id ops) .registration = .ok n)
    (laterMade : ofEncoding (run id (ops ++ more)) .registration = .ok next) :
    Continues (run id ops) (run id (ops ++ more)) n next := by
  have hconsistent := Encoding.run_consistent id ops
  have hlater := Encoding.run_consistent id (ops ++ more)
  constructor
  · intro a b x y x' y' ha hb hx hy hx' hy'
    obtain ⟨frontA, backA, splitA⟩ := exists_split ha
    obtain ⟨frontB, backB, splitB⟩ := exists_split hb
    obtain ⟨backA', splitA'⟩ := exists_split_run_append more splitA
    obtain ⟨backB', splitB'⟩ := exists_split_run_append more splitB
    have hcountA := counts_registration hconsistent room made splitA
    have hcountB := counts_registration hconsistent room made splitB
    have hcountA' := counts_registration hlater laterRoom laterMade splitA'
    have hcountB' := counts_registration hlater laterRoom laterMade splitB'
    rw [hcountA.lt_iff hcountB hx hy, hcountA'.lt_iff hcountB' hx' hy', place_lt_iff splitA splitB,
      place_lt_iff splitA' splitB']
  · intro l hl new
    obtain ⟨front, back, split⟩ := exists_split hl
    obtain ⟨back', split'⟩ := exists_split_run_append more split
    have hcount := counts_registration hconsistent room made split
    have hcount' := counts_registration hlater laterRoom laterMade split'
    have hbelow : (run id (ops ++ more)).sizeBelow l.atom.var.val =
        (run id ops).sizeBelow l.atom.var.val := by
      refine Encoding.sizeBelow_congr fun below hlt => atomsOf_run_append fun literal hnew hold => ?_
      have hvar : l.atom.var.val ≤ literal.atom.var.val := new literal hnew hold
      omega
    rw [hbelow] at hcount'
    exact hcount'.unique hcount

end

theorem Complete.valueOf_of_unregistered {e : Encoding} {n : Numbering} (h : Complete e n)
    (hc : e.Consistent) {literal : Literal} (hl : e.isRegistered literal = false) :
    n.valueOf literal = .error (.unregisteredLiteral literal) := by
  cases hv : n.valueOf literal with
  | error failure =>
      unfold valueOf at hv
      split at hv
      · cases hv
      · rw [← hv]
  | ok value =>
      obtain ⟨key, hpair, hatom⟩ := h.bijective.number?_eq_some_iff.mp (valueOf_eq_ok_iff.mp hv)
      have hregistered := (hc.isRegistered_iff literal).mpr
        ((h.atoms literal.atom).mp ⟨(key, value), hpair, hatom⟩)
      rw [hl] at hregistered
      cases hregistered

theorem exists_sorted_alike {e other : Encoding} {n : Numbering} (h : e.Consistent)
    (hother : other.Consistent) (room : e.registeredCount ≤ capacity)
    (made : ofEncoding e .sorted = .ok n)
    (alike : ∀ l, other.isRegistered l = e.isRegistered l) :
    ∃ n', ofEncoding other .sorted = .ok n' ∧ ∀ l, n'.valueOf l = n.valueOf l := by
  have hroom : other.registeredCount ≤ capacity := by
    rw [← hother.ncard_registered]
    simp only [alike]
    rwa [h.ncard_registered]
  obtain ⟨n', made', complete'⟩ := exists_complete hother hroom .sorted
  refine ⟨n', made', fun l => ?_⟩
  cases hl : e.isRegistered l with
  | false =>
      rw [complete'.valueOf_of_unregistered hother ((alike l).trans hl),
        (complete_of_ofEncoding h made).valueOf_of_unregistered h hl]
  | true =>
      have hsmaller : other.smaller l.atom = e.smaller l.atom := by
        simp only [smaller, alike]
      have hcount' := counts_sorted hother hroom made' ((alike l).trans hl)
      rw [hsmaller] at hcount'
      exact hcount'.unique (counts_sorted h room made hl)

/-- What an encoding registered, and in which order, determines the numbers.  Sorted, a literal's
number counts the registered literals that are smaller, so the order of registration does not
matter.  In the order of registration it counts the literals of smaller variables and those of its
own variable that were registered earlier, so registering more changes neither the order of
literals nor a number up to the first new variable. -/
theorem numbers_count_predecessors (id : EncodingId) (ops : List Operation)
    (room : (run id ops).registeredCount ≤ capacity) :
    ∃ sorted registration, ofEncoding (run id ops) .sorted = .ok sorted ∧
      ofEncoding (run id ops) .registration = .ok registration ∧
      (∀ l, (run id ops).isRegistered l = true →
        sorted.Counts l ((run id ops).smaller l.atom).ncard ∧
        registration.Counts l
          ((run id ops).sizeBelow l.atom.var.val + (earlier id ops l.atom).ncard)) ∧
      (∀ id' ops', (∀ l, (run id' ops').isRegistered l = (run id ops).isRegistered l) →
        ∃ other, ofEncoding (run id' ops') .sorted = .ok other ∧
          ∀ l, other.valueOf l = sorted.valueOf l) ∧
      ∀ more, (run id (ops ++ more)).registeredCount ≤ capacity →
        ∃ next, ofEncoding (run id (ops ++ more)) .registration = .ok next ∧
          Continues (run id ops) (run id (ops ++ more)) registration next := by
  have hconsistent := Encoding.run_consistent id ops
  obtain ⟨sorted, hsorted, -⟩ := exists_complete hconsistent room .sorted
  obtain ⟨registration, hregistration, -⟩ := exists_complete hconsistent room .registration
  refine ⟨sorted, registration, hsorted, hregistration, fun l hl => ⟨?_, ?_⟩, fun id' ops' alike => ?_,
    fun more laterRoom => ?_⟩
  · exact counts_sorted hconsistent room hsorted hl
  · obtain ⟨front, back, split⟩ := exists_split hl
    rw [Encoding.ncard_earlier split]
    exact counts_registration hconsistent room hregistration split
  · exact exists_sorted_alike hconsistent (Encoding.run_consistent id' ops') room hsorted alike
  · obtain ⟨next, hnext, -⟩ :=
      exists_complete (Encoding.run_consistent id (ops ++ more)) laterRoom .registration
    exact ⟨next, hnext, continues room laterRoom hregistration hnext⟩

/-- Two families whose literals are registered in turns, the second one's first. -/
def alternating : List Operation :=
  [.newLine, .newLine, .literal 1 5, .literal 0 2, .literal 0 0, .literal 1 1]

/-- The same literals in another order, some of them more than once. -/
def shuffled : List Operation :=
  [.newLine, .literal 0 0, .newLine, .literal 1 1, .literal 0 0, .literal 0 2, .literal 1 5,
    .literal 1 1]

def secondVariable : VariableId := ⟨1, by decide⟩

/-- Two literals of the first variable and one of its own come before the last literal; a third of
the second variable leaves the numbers of the first as they are. -/
theorem alternating_counted :
    (run 0 alternating).registeredCount ≤ capacity ∧
      ∃ sorted registration reordered next,
        ofEncoding (run 0 alternating) .sorted = .ok sorted ∧
        ofEncoding (run 1 shuffled) .sorted = .ok reordered ∧
        (∀ l, reordered.valueOf l = sorted.valueOf l) ∧
        ofEncoding (run 0 alternating) .registration = .ok registration ∧
        registration.Counts (.ofAtom ⟨secondVariable, 1⟩) 3 ∧
        ofEncoding (run 0 (alternating ++ [.literal 1 7])) .registration = .ok next ∧
        next.valueOf (.ofAtom ⟨firstVariable, 0⟩) =
          registration.valueOf (.ofAtom ⟨firstVariable, 0⟩) := by
  have hcount : (run 0 alternating).registeredCount = 4 := by cbv
  have room : (run 0 alternating).registeredCount ≤ capacity := by
    rw [hcount]
    decide
  obtain ⟨sorted, registration, hsorted, hregistration, hcounts, halike, hmore⟩ :=
    numbers_count_predecessors 0 alternating room
  have hatoms : (run 0 alternating).registered.flatten.map Literal.atom =
      [⟨firstVariable, 2⟩, ⟨firstVariable, 0⟩, ⟨secondVariable, 5⟩, ⟨secondVariable, 1⟩] := by cbv
  have hshuffled : (run 1 shuffled).registered.flatten.map Literal.atom =
      [⟨firstVariable, 0⟩, ⟨firstVariable, 2⟩, ⟨secondVariable, 1⟩, ⟨secondVariable, 5⟩] := by cbv
  have hperm : List.Perm ((run 1 shuffled).registered.flatten.map Literal.atom)
      ((run 0 alternating).registered.flatten.map Literal.atom) := by
    rw [hatoms, hshuffled]
    decide
  obtain ⟨reordered, hreordered, hsame⟩ := halike 1 shuffled fun l => by
    rw [Bool.eq_iff_iff, (Encoding.run_consistent 1 shuffled).isRegistered_iff,
      (Encoding.run_consistent 0 alternating).isRegistered_iff, hperm.mem_iff]
  have hlater : (run 0 (alternating ++ [.literal 1 7])).registeredCount = 5 := by cbv
  obtain ⟨next, hnext, hcontinues⟩ := hmore [.literal 1 7] (by rw [hlater]; decide)
  have hlast : (run 0 alternating).atomsOf (Atom.mk secondVariable 1).var.val =
      [⟨secondVariable, 5⟩] ++ ⟨secondVariable, 1⟩ :: [] := by cbv
  have hbelow : (run 0 alternating).sizeBelow 1 = 2 := by cbv
  have hfirst : (run 0 alternating).isRegistered (.ofAtom ⟨firstVariable, 0⟩) = true := by cbv
  have hnumbers := (hcounts (.ofAtom ⟨secondVariable, 1⟩)
    (Encoding.isRegistered_ofAtom_iff.mpr (hlast ▸ List.mem_append_right _ List.mem_cons_self))).2
  refine ⟨room, sorted, registration, reordered, next, hsorted, hreordered, hsame, hregistration,
    ?_, hnext, hcontinues.number _ hfirst fun new _ _ => Nat.zero_le _⟩
  have hearlier : (earlier 0 alternating ⟨secondVariable, 1⟩).ncard = 1 :=
    Encoding.ncard_earlier hlast
  have hsize : (run 0 alternating).sizeBelow (Literal.ofAtom ⟨secondVariable, 1⟩).atom.var.val +
      (earlier 0 alternating (Literal.ofAtom ⟨secondVariable, 1⟩).atom).ncard = 3 :=
    congrArg₂ (· + ·) hbelow hearlier
  rwa [hsize] at hnumbers

end Numbering

end Clausal

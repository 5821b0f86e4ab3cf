import Clausal.Proofs.World.Run

/-!
# What holds in every world

Identities follow roots: two encodings have the same one exactly when they stem from the same
creation, and a family has the one of the encodings that stem from its root.  The families that
were allocated on the way to one encoding have different variables, because each got a number
that no earlier one had; between two clones this does not hold.  What a fetch has recorded stays
so: the literal is still registered, and its index still leads back to the coordinates.
-/

namespace Clausal

namespace World

/-! ## Lists with one element changed -/

theorem forall_mem_push {α : Type} {items : List α} {new : α} {P : α → Prop}
    (h : ∀ x ∈ items, P x) (hnew : P new) : ∀ x ∈ items ++ [new], P x := by
  rw [List.forall_mem_append, List.forall_mem_singleton]
  exact ⟨h, hnew⟩

theorem forall_mem_set {α : Type} {items : List α} {i : Nat} {new : α} {P : α → Prop}
    (h : ∀ x ∈ items, P x) (hnew : P new) : ∀ x ∈ items.set i new, P x := by
  intro x hx
  rcases List.mem_or_eq_of_mem_set hx with hold | rfl
  · exact h x hold
  · exact hnew

/-- Replacing an element by one of the same value changes no value. -/
theorem map_set_of_eq {α β : Type} {f : α → β} {items : List α} {i : Nat} {old new : α}
    (known : items[i]? = some old) (same : f new = f old) :
    (items.set i new).map f = items.map f := by
  obtain ⟨hlt, rfl⟩ := List.getElem?_eq_some_iff.mp known
  rw [List.map_set, same, ← List.getElem_map f (h := by simpa using hlt), List.set_getElem_self]

/-! ## Roots -/

/-- An identity and the root that it stands for. -/
abbrev Tag := EncodingId × Nat

def Copy.tag (copy : Copy) : Tag := (copy.encoding.id, copy.root)

def Owned.tag (owned : Owned) : Tag := (owned.family.owner, owned.root)

/-- Identities and roots determine each other; the next creation has a new one of both. -/
structure Paired (created places : Nat) (tags : List Tag) : Prop where
  below : ∀ tag ∈ tags, tag.1 < created ∧ tag.2 < places
  same : ∀ a ∈ tags, ∀ b ∈ tags, a.1 = b.1 ↔ a.2 = b.2

namespace Paired

variable {created places : Nat} {tags : List Tag} (h : Paired created places tags)

include h

theorem create : Paired (created + 1) (places + 1) (tags ++ [(created, places)]) where
  below := by
    refine forall_mem_push (fun tag htag => ?_) ⟨Nat.lt_succ_self _, Nat.lt_succ_self _⟩
    have := h.below tag htag
    exact ⟨Nat.lt_succ_of_lt this.1, Nat.lt_succ_of_lt this.2⟩
  same a ha b hb := by
    rw [List.mem_append, List.mem_singleton] at ha hb
    rcases ha with ha | rfl <;> rcases hb with hb | rfl
    · exact h.same a ha b hb
    · have := h.below a ha
      exact iff_of_false (Nat.ne_of_lt this.1) (Nat.ne_of_lt this.2)
    · have := h.below b hb
      exact iff_of_false (Nat.ne_of_gt this.1) (Nat.ne_of_gt this.2)
    · exact iff_of_true rfl rfl

theorem clone {tag : Tag} (known : tag ∈ tags) : Paired created (places + 1) (tags ++ [tag]) := by
  have hsub : ∀ other ∈ tags ++ [tag], other ∈ tags := forall_mem_push (fun _ h => h) known
  refine ⟨fun other hother => ?_, fun a ha b hb => h.same a (hsub a ha) b (hsub b hb)⟩
  have := h.below other (hsub other hother)
  exact ⟨this.1, Nat.lt_succ_of_lt this.2⟩

end Paired

/-- Encodings of one identity stem from one creation, and so does a family of that identity. -/
structure Rooted (w : World) : Prop where
  paired : Paired w.created w.copies.length (w.copies.map Copy.tag)
  owned : ∀ owned ∈ w.families, owned.tag ∈ w.copies.map Copy.tag

theorem Change.rooted {w w' : World} (h : w.Change w') (hr : w.Rooted) : w'.Rooted := by
  cases h with
  | create =>
      constructor
      · rw [List.map_append, List.length_append]
        exact hr.paired.create
      · intro owned howned
        rw [List.map_append]
        exact List.mem_append_left _ (hr.owned owned howned)
  | clone known =>
      constructor
      · rw [List.map_append, List.length_append]
        exact hr.paired.clone (List.mem_map_of_mem known)
      · intro owned howned
        rw [List.map_append]
        exact List.mem_append_left _ (hr.owned owned howned)
  | @grow copy target e known grown =>
      have htag : Copy.tag { target with encoding := e } = target.tag :=
        Prod.ext grown.id_eq rfl
      constructor
      · rw [map_set_of_eq known htag, List.length_set]
        exact hr.paired
      · rw [map_set_of_eq known htag]
        exact hr.owned
  | @allocate copy target e family known allocates =>
      have htag : Copy.tag ⟨e, target.root, w.families.length :: target.held⟩ = target.tag :=
        Prod.ext allocates.grown.id_eq rfl
      constructor
      · rw [map_set_of_eq known htag, List.length_set]
        exact hr.paired
      · have howner : Owned.tag ⟨family, target.root⟩ = target.tag :=
          Prod.ext allocates.owner rfl
        rw [map_set_of_eq known htag]
        apply forall_mem_push hr.owned
        rw [howner]
        exact List.mem_map_of_mem (List.mem_of_getElem? known)
  | @turn family owned next known turns =>
      have howner : Owned.tag { owned with family := next } = owned.tag :=
        Prod.ext turns.owner rfl
      refine ⟨hr.paired, forall_mem_set hr.owned ?_⟩
      rw [howner]
      exact hr.owned owned (List.mem_of_getElem? known)
  | record recorded => exact ⟨hr.paired, hr.owned⟩

/-! ## What is kept -/

/-- What stood at a place is still there, changed as the relation allows. -/
def Kept {α : Type} (rel : α → α → Prop) (before after : List α) : Prop :=
  ∀ (i : Nat) (old : α), before[i]? = some old → ∃ new, after[i]? = some new ∧ rel old new

namespace Kept

variable {α : Type} {rel : α → α → Prop} {items : List α}

theorem refl (hrel : ∀ x, rel x x) : Kept rel items items :=
  fun _ old h => ⟨old, h, hrel old⟩

theorem append (hrel : ∀ x, rel x x) (more : List α) : Kept rel items (items ++ more) := by
  intro i old h
  have hlt := (List.getElem?_eq_some_iff.mp h).1
  exact ⟨old, (List.getElem?_append_left hlt).trans h, hrel old⟩

theorem set (hrel : ∀ x, rel x x) {i : Nat} {old new : α} (known : items[i]? = some old)
    (h : rel old new) : Kept rel items (items.set i new) := by
  intro j other hother
  by_cases hij : i = j
  · subst hij
    rw [known] at hother
    cases hother
    exact ⟨new, List.getElem?_set_self (List.getElem?_eq_some_iff.mp known).1, h⟩
  · exact ⟨other, (List.getElem?_set_ne hij).trans hother, hrel other⟩

end Kept

/-- The same encoding later: it has grown, and holds no fewer families. -/
structure Copy.Later (old new : Copy) : Prop where
  grown : old.encoding.Grows new.encoding
  held : ∀ i ∈ old.held, i ∈ new.held

theorem Copy.Later.refl (copy : Copy) : copy.Later copy := ⟨.refl, fun _ h => h⟩

theorem Change.copies {w w' : World} (h : w.Change w') :
    Kept Copy.Later w.copies w'.copies := by
  cases h with
  | create => exact .append Copy.Later.refl _
  | clone known => exact .append Copy.Later.refl _
  | grow known grown => exact .set Copy.Later.refl known ⟨grown, fun _ h => h⟩
  | allocate known allocates =>
      exact .set Copy.Later.refl known ⟨allocates.grown, fun _ => List.mem_cons_of_mem _⟩
  | turn known turns => exact .refl Copy.Later.refl
  | record recorded => exact .refl Copy.Later.refl

theorem Change.families {w w' : World} (h : w.Change w') :
    Kept (fun old new : Owned => old.family.Turns new.family) w.families w'.families := by
  cases h with
  | create => exact .refl fun owned => .same owned.family
  | clone known => exact .refl fun owned => .same owned.family
  | grow known grown => exact .refl fun owned => .same owned.family
  | allocate known allocates => exact .append (fun owned => .same owned.family) _
  | turn known turns => exact .set (fun owned => .same owned.family) known turns
  | record recorded => exact .refl fun owned => .same owned.family

theorem Change.keeps_recorded {w w' : World} (h : w.Change w') {x : Fetched}
    (hx : w.Recorded x) : w'.Recorded x := by
  obtain ⟨owned, copy, hfamily, hcopy, hvar, hfits, hcoords, hregistered⟩ := hx
  obtain ⟨owned', hfamily', turns⟩ := h.families _ _ hfamily
  obtain ⟨copy', hcopy', later⟩ := h.copies _ _ hcopy
  refine ⟨owned', copy', hfamily', hcopy', ?_, turns.fits.mpr hfits, ?_, ?_⟩
  · rw [hvar, turns.var]
  · rw [turns.canonical]
    exact turns.coordsOf hcoords
  · exact later.grown.isRegistered hregistered

/-! ## Variables -/

def Owned.var (owned : Owned) : VariableId := owned.family.var

/-- The variables of the families. -/
def vars (w : World) : List VariableId := w.families.map Owned.var

/-- An encoding has the variables of the families that it holds, one for each. -/
structure Copy.Holds (vars : List VariableId) (copy : Copy) : Prop where
  known : ∀ i ∈ copy.held, ∃ var, vars[i]? = some var ∧ var.val < copy.encoding.vars.size
  apart : ∀ i ∈ copy.held, ∀ j ∈ copy.held, vars[i]? = vars[j]? → i = j

theorem Copy.Holds.append {vars : List VariableId} {copy : Copy} (h : copy.Holds vars)
    (more : List VariableId) : copy.Holds (vars ++ more) := by
  have hold : ∀ i ∈ copy.held, (vars ++ more)[i]? = vars[i]? := by
    intro i hi
    obtain ⟨var, hvar, -⟩ := h.known i hi
    exact List.getElem?_append_left (List.getElem?_eq_some_iff.mp hvar).1
  constructor
  · intro i hi
    rw [hold i hi]
    exact h.known i hi
  · intro i hi j hj heq
    rw [hold i hi, hold j hj] at heq
    exact h.apart i hi j hj heq

theorem Copy.Holds.grow {vars : List VariableId} {copy : Copy} (h : copy.Holds vars)
    {e : Encoding} (size : copy.encoding.vars.size ≤ e.vars.size) :
    Holds vars { copy with encoding := e } where
  known i hi := by
    obtain ⟨var, hvar, hlt⟩ := h.known i hi
    exact ⟨var, hvar, Nat.lt_of_lt_of_le hlt size⟩
  apart := h.apart

/-- A new family has a variable that none of the others has. -/
theorem Copy.Holds.allocate {vars : List VariableId} {copy : Copy} (h : copy.Holds vars)
    {e : Encoding} {family : AnyFamily} (allocates : copy.encoding.Allocates e family) :
    Holds (vars ++ [family.var]) ⟨e, copy.root, vars.length :: copy.held⟩ := by
  have hold := h.append [family.var]
  have hnew : (vars ++ [family.var])[vars.length]? = some family.var :=
    List.getElem?_concat_length
  have hother : ∀ i ∈ copy.held, (vars ++ [family.var])[i]? ≠ some family.var := by
    intro i hi heq
    obtain ⟨var, hvar, hlt⟩ := hold.known i hi
    rw [hvar, Option.some.injEq] at heq
    rw [heq, allocates.var] at hlt
    exact Nat.lt_irrefl _ hlt
  constructor
  · intro i hi
    rcases List.mem_cons.mp hi with rfl | hi
    · refine ⟨family.var, hnew, ?_⟩
      rw [allocates.var, allocates.size]
      exact Nat.lt_succ_self _
    · obtain ⟨var, hvar, hlt⟩ := hold.known i hi
      exact ⟨var, hvar, Nat.lt_of_lt_of_le hlt allocates.grown.size_le⟩
  · intro i hi j hj heq
    rcases List.mem_cons.mp hi with rfl | hi <;> rcases List.mem_cons.mp hj with rfl | hj
    · rfl
    · rw [hnew] at heq
      exact absurd heq.symm (hother j hj)
    · rw [hnew] at heq
      exact absurd heq (hother i hi)
    · exact hold.apart i hi j hj heq

/-- Every encoding holds its families, and every family is held. -/
structure Holding (w : World) : Prop where
  holds : ∀ copy ∈ w.copies, copy.Holds w.vars
  held : ∀ i < w.vars.length, ∃ copy ∈ w.copies, i ∈ copy.held

theorem Change.still_held {w w' : World} (h : w.Change w') {i : Nat}
    (held : ∃ copy ∈ w.copies, i ∈ copy.held) : ∃ copy ∈ w'.copies, i ∈ copy.held := by
  obtain ⟨copy, hcopy, hi⟩ := held
  obtain ⟨place, hplace⟩ := List.getElem?_of_mem hcopy
  obtain ⟨copy', hcopy', later⟩ := h.copies place copy hplace
  exact ⟨copy', List.mem_of_getElem? hcopy', later.held i hi⟩

theorem Change.holding {w w' : World} (h : w.Change w') (hh : w.Holding) : w'.Holding := by
  have hheld : ∀ i < w.vars.length, ∃ copy ∈ w'.copies, i ∈ copy.held :=
    fun i hi => h.still_held (hh.held i hi)
  cases h with
  | create => exact ⟨forall_mem_push hh.holds ⟨nofun, nofun⟩, hheld⟩
  | clone known => exact ⟨forall_mem_push hh.holds (hh.holds _ known), hheld⟩
  | grow known grown =>
      have hgrown := (hh.holds _ (List.mem_of_getElem? known)).grow grown.size_le
      exact ⟨forall_mem_set hh.holds hgrown, hheld⟩
  | @allocate copy target e family known allocates =>
      have hvars : (w.families ++ [Owned.mk family target.root]).map Owned.var =
          w.vars ++ [family.var] := List.map_append
      have hlength : w.vars.length = w.families.length := List.length_map _
      constructor
      · rw [vars, hvars]
        refine forall_mem_set (fun copy hcopy => (hh.holds copy hcopy).append _) ?_
        rw [← hlength]
        exact (hh.holds _ (List.mem_of_getElem? known)).allocate allocates
      · rw [vars, hvars, List.length_append, List.length_singleton]
        intro i hi
        rcases Nat.lt_or_eq_of_le (Nat.le_of_lt_succ hi) with hlt | rfl
        · exact hheld i hlt
        · have hlt := (List.getElem?_eq_some_iff.mp known).1
          refine ⟨_, List.mem_of_getElem? (List.getElem?_set_self hlt), ?_⟩
          rw [hlength]
          exact List.mem_cons_self
  | @turn family owned next known turns =>
      have hvars : (w.families.set family { owned with family := next }).map Owned.var = w.vars :=
        map_set_of_eq known turns.var
      constructor
      · rw [vars, hvars]
        exact hh.holds
      · rw [vars, hvars]
        exact hheld
  | record recorded => exact ⟨hh.holds, hheld⟩

/-! ## Soundness -/

structure Sound (w : World) : Prop where
  consistent : ∀ copy ∈ w.copies, copy.encoding.Consistent
  valid : ∀ owned ∈ w.families, owned.family.Valid
  rooted : w.Rooted
  holding : w.Holding
  recorded : ∀ x ∈ w.fetched, w.Recorded x

theorem sound_empty : empty.Sound where
  consistent := nofun
  valid := nofun
  rooted := ⟨⟨nofun, nofun⟩, nofun⟩
  holding := ⟨nofun, nofun⟩
  recorded := nofun

theorem Change.consistent {w w' : World} (h : w.Change w')
    (hc : ∀ copy ∈ w.copies, copy.encoding.Consistent) :
    ∀ copy ∈ w'.copies, copy.encoding.Consistent := by
  cases h with
  | create => exact forall_mem_push hc (Encoding.consistent_empty w.created)
  | clone known => exact forall_mem_push hc (hc _ known)
  | grow known grown =>
      exact forall_mem_set hc (grown.consistent (hc _ (List.mem_of_getElem? known)))
  | allocate known allocates =>
      exact forall_mem_set hc (allocates.grown.consistent (hc _ (List.mem_of_getElem? known)))
  | turn known turns => exact hc
  | record recorded => exact hc

theorem Change.valid {w w' : World} (h : w.Change w')
    (hv : ∀ owned ∈ w.families, owned.family.Valid) :
    ∀ owned ∈ w'.families, owned.family.Valid := by
  cases h with
  | create => exact hv
  | clone known => exact hv
  | grow known grown => exact hv
  | allocate known allocates => exact forall_mem_push hv allocates.valid
  | turn known turns => exact forall_mem_set hv (turns.valid (hv _ (List.mem_of_getElem? known)))
  | record recorded => exact hv

theorem Change.recorded {w w' : World} (h : w.Change w')
    (hx : ∀ x ∈ w.fetched, w.Recorded x) : ∀ x ∈ w'.fetched, w'.Recorded x := by
  have hold : ∀ x ∈ w.fetched, w'.Recorded x := fun x hmem => h.keeps_recorded (hx x hmem)
  cases h with
  | create => exact hold
  | clone known => exact hold
  | grow known grown => exact hold
  | allocate known allocates => exact hold
  | turn known turns => exact hold
  | record recorded => exact forall_mem_push hold recorded

theorem Change.sound {w w' : World} (h : w.Change w') (hs : w.Sound) : w'.Sound where
  consistent := h.consistent hs.consistent
  valid := h.valid hs.valid
  rooted := h.rooted hs.rooted
  holding := h.holding hs.holding
  recorded := h.recorded hs.recorded

theorem Changes.sound {w w' : World} (h : w.Changes w') (hs : w.Sound) : w'.Sound := by
  induction h with
  | refl => exact hs
  | tail _ hstep ih => exact hstep.sound ih

theorem Reachable.sound {w : World} (h : w.Reachable) : w.Sound := by
  induction h with
  | empty => exact sound_empty
  | act request _ ih => exact (act_changes _ request).sound ih

end World

end Clausal

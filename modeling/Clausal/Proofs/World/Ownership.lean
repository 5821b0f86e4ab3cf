import Clausal.Proofs.Numbering.Complete
import Clausal.Proofs.Numbering.Lookup
import Clausal.Proofs.World.Sound

/-!
# Families and the encodings they address

A family addresses every encoding that stems from the same creation as the one that allocated it,
and no other.  That includes encodings that never knew the family: the original of the clone that
allocated it, and the other clones.  Families that one encoding holds keep their literals apart in
all of them; two families of different clones may have the same variable, and then the same
literals.
-/

/-!
## Families of one encoding

Two families that one encoding holds never give out the same literal, and a family gives out one
literal for one place only.  So where there is one encoding and no clone of it, two fetches get the
same literal, and the same number, exactly when they went to the same place of the same family.
-/

namespace Clausal

namespace World

def SameTarget (w : World) (x y : Fetched) : Prop :=
  x.family = y.family ∧ ∃ owned, w.families[x.family]? = some owned ∧
    owned.family.SamePlace x.place y.place

section

variable {w : World} (h : w.Sound) {x y : Fetched} (hx : x ∈ w.fetched) (hy : y ∈ w.fetched)

include h hx hy

theorem Sound.family_eq_of_same {copy : Copy} (hcopy : copy ∈ w.copies)
    (heldX : x.family ∈ copy.held) (heldY : y.family ∈ copy.held)
    (same : x.literal.same y.literal = true) : x.family = y.family := by
  obtain ⟨ownedX, -, hfamilyX, -, hvarX, -⟩ := h.recorded x hx
  obtain ⟨ownedY, -, hfamilyY, -, hvarY, -⟩ := h.recorded y hy
  apply (h.holding.holds copy hcopy).apart _ heldX _ heldY
  rw [Literal.same_iff] at same
  rw [vars, List.getElem?_map, List.getElem?_map, hfamilyX, hfamilyY, Option.map_some,
    Option.map_some, Owned.var, Owned.var, ← hvarX, ← hvarY, same]

theorem Sound.same_iff_of_family_eq (family : x.family = y.family) :
    x.literal.same y.literal = true ↔ w.SameTarget x y := by
  obtain ⟨owned, -, hfamily, -, hvarX, fitsX, coordsX, -⟩ := h.recorded x hx
  obtain ⟨_, -, hfamilyY, -, hvarY, fitsY, coordsY, -⟩ := h.recorded y hy
  rw [← family, hfamily] at hfamilyY
  cases hfamilyY
  have hvalid := h.valid owned (List.mem_of_getElem? hfamily)
  rw [Literal.same_iff, Atom.eq_iff, SameTarget]
  constructor
  · rintro ⟨-, hindex⟩
    rw [hindex, coordsY, Except.ok.injEq] at coordsX
    exact ⟨family, owned, hfamily,
      (AnyFamily.canonical_eq_iff fitsX fitsY).mp coordsX.symm⟩
  · rintro ⟨-, _, hother, hplace⟩
    rw [hfamily] at hother
    cases hother
    rw [(AnyFamily.canonical_eq_iff fitsX fitsY).mpr hplace] at coordsX
    exact ⟨hvarX.trans hvarY.symm, AnyFamily.index_unique hvalid coordsX coordsY⟩

theorem Sound.same_iff {copy : Copy} (hcopy : copy ∈ w.copies) (heldX : x.family ∈ copy.held)
    (heldY : y.family ∈ copy.held) :
    x.literal.same y.literal = true ↔ w.SameTarget x y := by
  constructor
  · intro same
    have hfamily := h.family_eq_of_same hx hy hcopy heldX heldY same
    exact (h.same_iff_of_family_eq hx hy hfamily).mp same
  · intro target
    exact (h.same_iff_of_family_eq hx hy target.1).mpr target

end

theorem Sound.held_of_single {w : World} (h : w.Sound) {copy : Copy} (single : w.copies = [copy])
    {x : Fetched} (hx : x ∈ w.fetched) : x.family ∈ copy.held := by
  obtain ⟨owned, -, hfamily, -⟩ := h.recorded x hx
  have hlt : x.family < w.vars.length := by
    rw [vars, List.length_map]
    exact (List.getElem?_eq_some_iff.mp hfamily).1
  obtain ⟨holder, hmem, held⟩ := h.holding.held x.family hlt
  rw [single, List.mem_singleton] at hmem
  exact hmem ▸ held

theorem Sound.registered_of_single {w : World} (h : w.Sound) {copy : Copy}
    (single : w.copies = [copy]) {x : Fetched} (hx : x ∈ w.fetched) :
    copy.encoding.isRegistered x.literal = true := by
  obtain ⟨-, target, -, hcopy, -, -, -, hregistered⟩ := h.recorded x hx
  have hmem := List.mem_of_getElem? hcopy
  rw [single, List.mem_singleton] at hmem
  exact hmem ▸ hregistered

/-- With one encoding, fetches get the same literal exactly when they went to the same place of
the same family.  Whenever it can be numbered, which it can as long as there are numbers, they get
the same number exactly then. -/
theorem fetches_never_alias {w : World} (h : w.Reachable) {copy : Copy}
    (single : w.copies = [copy]) {x y : Fetched} (hx : x ∈ w.fetched) (hy : y ∈ w.fetched) :
    (x.literal.same y.literal = true ↔ w.SameTarget x y) ∧
      ∀ order,
        (copy.encoding.registeredCount ≤ Numbering.capacity →
          ∃ n, Numbering.ofEncoding copy.encoding order = .ok n) ∧
        ∀ n, Numbering.ofEncoding copy.encoding order = .ok n →
          ∃ a b, n.valueOf x.literal = .ok a ∧ n.valueOf y.literal = .ok b ∧
            (a = b ↔ w.SameTarget x y) := by
  have sound := h.sound
  have hcopy : copy ∈ w.copies := single ▸ List.mem_singleton_self copy
  have hconsistent := sound.consistent copy hcopy
  have hsame := sound.same_iff hx hy hcopy (sound.held_of_single single hx)
    (sound.held_of_single single hy)
  refine ⟨hsame, fun order => ⟨fun room => ?_, fun n made => ?_⟩⟩
  · obtain ⟨n, made, -⟩ := Numbering.exists_complete hconsistent room order
    exact ⟨n, made⟩
  · have complete := Numbering.complete_of_ofEncoding hconsistent made
    obtain ⟨a, ha⟩ :=
      complete.exists_valueOf hconsistent (sound.registered_of_single single hx)
    obtain ⟨b, hb⟩ :=
      complete.exists_valueOf hconsistent (sound.registered_of_single single hy)
    exact ⟨a, b, ha, hb, (complete.bijective.valueOf_inj ha hb).trans hsame⟩

/-- A pair of a symmetric grid is fetched both ways around, and a tuple also through a slice. -/
def entwined : World :=
  run [.create, .allocate 0 (.grid 3 true), .allocate 0 (.tuples 2),
    .fetch 0 0 none (.pair 2 1), .fetch 0 0 none (.pair 1 2),
    .fetch 1 0 none (.slice [7] [8]), .fetch 1 0 none (.tuple [7, 8])]

theorem entwined_never_aliases :
    ∃ copy n pair reversed sliced tuple, entwined.Reachable ∧ entwined.copies = [copy] ∧
      Numbering.ofEncoding copy.encoding .sorted = .ok n ∧
      entwined.fetched = [pair, reversed, sliced, tuple] ∧
      pair.place = .pair 2 1 ∧ reversed.place = .pair 1 2 ∧
      sliced.place = .slice [7] [8] ∧ tuple.place = .tuple [7, 8] ∧
      ¬ pair.literal.same sliced.literal = true ∧ sliced.literal.same tuple.literal = true ∧
      ∃ value, n.valueOf pair.literal = .ok value ∧ n.valueOf reversed.literal = .ok value := by
  have reachable : entwined.Reachable := reachable_run _
  have hcount : entwined.copies.map (fun copy => copy.encoding.registeredCount) = [2] := by cbv
  have hfamilies : entwined.families =
      [⟨.grid ⟨0, firstVariable, 3, true⟩, 0⟩,
        ⟨.tuples ⟨0, ⟨1, by decide⟩, 2, [[7, 8]]⟩, 0⟩] := by cbv
  have hfetched : entwined.fetched =
      [⟨0, 0, .pair 2 1, .ofAtom ⟨firstVariable, 5⟩⟩,
        ⟨0, 0, .pair 1 2, .ofAtom ⟨firstVariable, 5⟩⟩,
        ⟨1, 0, .slice [7] [8], .ofAtom ⟨⟨1, by decide⟩, 0⟩⟩,
        ⟨1, 0, .tuple [7, 8], .ofAtom ⟨⟨1, by decide⟩, 0⟩⟩] := by cbv
  obtain ⟨copy, single⟩ : ∃ copy, entwined.copies = [copy] := by
    rw [← List.length_eq_one_iff, ← List.length_map, hcount]
    rfl
  have room : copy.encoding.registeredCount ≤ Numbering.capacity := by
    rw [single, List.map_singleton, List.cons.injEq] at hcount
    rw [hcount.1]
    decide
  have never {x y : Fetched} (hx : x ∈ entwined.fetched) (hy : y ∈ entwined.fetched) :=
    fetches_never_alias reachable single hx hy
  rw [hfetched] at never
  obtain ⟨-, hnumbers⟩ := never (.head _) (.tail _ (.head _))
  obtain ⟨hapart, -⟩ := never (.head _) (.tail _ (.tail _ (.head _)))
  obtain ⟨htuple, -⟩ := never (.tail _ (.tail _ (.head _))) (.tail _ (.tail _ (.tail _ (.head _))))
  obtain ⟨n, made⟩ := (hnumbers .sorted).1 room
  obtain ⟨value, other, hvalue, hother, heq⟩ := (hnumbers .sorted).2 n made
  refine ⟨copy, n, _, _, _, _, reachable, single, made, hfetched, rfl, rfl, rfl, rfl, ?_, ?_,
    value, hvalue, ?_⟩
  · exact mt hapart.mp fun target => absurd target.1 (by decide)
  · exact htuple.mpr ⟨rfl, _, by rw [hfamilies]; rfl, .inl rfl⟩
  · rw [heq.mpr ⟨rfl, _, by rw [hfamilies]; rfl, .inr ⟨rfl, rfl⟩⟩]
    exact hother

/-! ## All that stems from one creation -/

theorem Sound.id_eq_owner_iff {w : World} (h : w.Sound) {owned : Owned} {copy : Copy}
    (howned : owned ∈ w.families) (hcopy : copy ∈ w.copies) :
    copy.encoding.id = owned.family.owner ↔ copy.root = owned.root :=
  h.rooted.paired.same _ (List.mem_map_of_mem hcopy) _ (h.rooted.owned owned howned)

theorem Sound.foreign_iff {w : World} (h : w.Sound) {owned : Owned} {copy : Copy}
    (howned : owned ∈ w.families) (hcopy : copy ∈ w.copies) {name? : Option String}
    {place : Place} {next : AnyFamily} {result : Except EncodingError (Encoding × Literal)}
    (hfetch : owned.family.fetch? copy.encoding name? place = some (next, result)) :
    (result = .error (.foreignFamily owned.family.var) ↔ copy.root ≠ owned.root) ∧
      (copy.root ≠ owned.root → next = owned.family) := by
  rw [ne_eq, ← h.id_eq_owner_iff howned hcopy]
  cases AnyFamily.outcome_of_fetch? hfetch with
  | foreign other => exact ⟨iff_of_true rfl other, fun _ => rfl⟩
  | refused own native =>
      rw [Except.error.injEq]
      exact ⟨iff_of_false (native _) (not_not.mpr own), fun other => absurd own other⟩
  | missing own turns absent =>
      exact ⟨iff_of_false (by simp) (not_not.mpr own), fun other => absurd own other⟩
  | fetched own turns var found adds =>
      exact ⟨iff_of_false (by simp) (not_not.mpr own), fun other => absurd own other⟩

/-- A family is foreign to the encodings of other roots, which leave it as it is, and to no other
encoding.  Fetches through different families that one encoding holds get different literals, from
whatever encodings they were made. -/
theorem families_address_their_root {w : World} (h : w.Reachable) :
    (∀ owned ∈ w.families, ∀ copy ∈ w.copies, ∀ name? place, owned.family.Fits place →
      ∃ next result, owned.family.fetch? copy.encoding name? place = some (next, result) ∧
        (result = .error (.foreignFamily owned.family.var) ↔ copy.root ≠ owned.root) ∧
        (copy.root ≠ owned.root → next = owned.family)) ∧
      ∀ x ∈ w.fetched, ∀ y ∈ w.fetched, x.family ≠ y.family →
        (∃ copy ∈ w.copies, x.family ∈ copy.held ∧ y.family ∈ copy.held) →
          x.literal.same y.literal = false := by
  have sound := h.sound
  constructor
  · intro owned howned copy hcopy name? place fits
    obtain ⟨next, result, hfetch⟩ :=
      (AnyFamily.exists_fetch?_iff copy.encoding name?).mpr fits
    exact ⟨next, result, hfetch, sound.foreign_iff howned hcopy hfetch⟩
  · rintro x hx y hy hne ⟨copy, hcopy, heldX, heldY⟩
    rw [Bool.eq_false_iff]
    exact fun same => hne (sound.family_eq_of_same hx hy hcopy heldX heldY same)

/-- A clone allocates a family that its original accepts and a third encoding does not. -/
def branched : World :=
  run [.create, .allocate 0 .line, .clone 0, .create, .allocate 1 (.grid 2 false),
    .work 0 (.newVariable none), .fetch 0 0 none (.one 4), .fetch 1 0 none (.pair 1 1)]

theorem branched_addresses :
    branched.Reachable ∧
      (∃ owned ∈ branched.families, ∃ copy ∈ branched.copies, ∃ next,
        owned.family.fetch? copy.encoding none (.pair 0 0) =
          some (next, .error (.foreignFamily owned.family.var))) ∧
      ∃ x y, branched.fetched = [x, y] ∧ x.literal.same y.literal = false := by
  have reachable : branched.Reachable := reachable_run _
  obtain ⟨haddress, hapart⟩ := families_address_their_root reachable
  have hfetched : branched.fetched =
      [⟨0, 0, .one 4, .ofAtom ⟨firstVariable, 4⟩⟩,
        ⟨1, 0, .pair 1 1, .ofAtom ⟨⟨1, by decide⟩, 3⟩⟩] := by cbv
  have hgrid : branched.families[1]? = some ⟨.grid ⟨0, ⟨1, by decide⟩, 2, false⟩, 0⟩ := by cbv
  have hthird : branched.copies[2]? = some ⟨.empty 1, 2, []⟩ := by cbv
  have hheld : branched.copies.map Copy.held = [[0], [1, 0], []] := by cbv
  refine ⟨reachable, ?_, _, _, hfetched, ?_⟩
  · have memGrid := List.mem_of_getElem? hgrid
    have memThird := List.mem_of_getElem? hthird
    obtain ⟨next, result, hfetch, hforeign, -⟩ :=
      haddress _ memGrid _ memThird none (.pair 0 0) trivial
    rw [hforeign.mpr (by decide)] at hfetch
    exact ⟨_, memGrid, _, memThird, next, hfetch⟩
  · have hboth : [1, 0] ∈ branched.copies.map Copy.held := by
      rw [hheld]
      decide
    obtain ⟨clone, memClone, hclone⟩ := List.mem_map.mp hboth
    rw [hfetched] at hapart
    refine hapart _ List.mem_cons_self _ (List.mem_cons_of_mem _ List.mem_cons_self) (by decide)
      ⟨clone, memClone, ?_, ?_⟩
    · rw [hclone]
      decide
    · rw [hclone]
      decide

def doubled : World :=
  run [.create, .clone 0, .allocate 0 .line, .allocate 1 .line,
    .fetch 0 0 none (.one 0), .fetch 1 0 none (.one 0)]

/-- The families of different allocations do not keep their literals apart, and the encoding does
not refuse the family of its clone. -/
theorem not_apart_across_clones :
    ¬ ∀ w : World, w.Reachable → ∀ x ∈ w.fetched, ∀ y ∈ w.fetched, x.copy = y.copy →
      x.family ≠ y.family → x.literal.same y.literal = false := by
  intro apart
  have hfetched : doubled.fetched =
      [⟨0, 0, .one 0, .ofAtom ⟨firstVariable, 0⟩⟩, ⟨1, 0, .one 0, .ofAtom ⟨firstVariable, 0⟩⟩] := by
    cbv
  have hmem := hfetched ▸ apart doubled (reachable_run _)
  have := hmem _ List.mem_cons_self _ (List.mem_cons_of_mem _ List.mem_cons_self) rfl (by decide)
  exact absurd this (by decide)

end World

end Clausal

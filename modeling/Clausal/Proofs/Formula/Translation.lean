import Mathlib.Data.List.Forall2
import Clausal.Proofs.Valuation

/-!
# From an encoding to a formula

Making a formula maps the clauses of both sides one by one, in order, and keeps costs and
comments; it succeeds exactly when every literal of every clause has a number.  What one image
is to its clause is `Numbers`, and every statement about the formula comes out of it.
-/

namespace Clausal

/-! ## Partial maps over lists -/

theorem exists_forall₂_iff {α β : Type} {R : α → β → Prop} {items : List α} :
    (∃ images, List.Forall₂ R items images) ↔ ∀ item ∈ items, ∃ image, R item image := by
  induction items with
  | nil => simp
  | cons item rest ih =>
      rw [List.forall_mem_cons, ← ih]
      constructor
      · rintro ⟨_, h⟩
        obtain ⟨image, images, hfirst, hrest, rfl⟩ := List.forall₂_cons_left_iff.mp h
        exact ⟨⟨image, hfirst⟩, images, hrest⟩
      · rintro ⟨⟨image, hfirst⟩, images, hrest⟩
        exact ⟨image :: images, .cons hfirst hrest⟩

theorem exists_mem_iff_of_forall₂ {α β : Type} {R : α → β → Prop} {P : α → Prop} {Q : β → Prop}
    {items : List α} {images : List β} (h : List.Forall₂ R items images)
    (partners : ∀ item image, R item image → (P item ↔ Q image)) :
    (∃ item ∈ items, P item) ↔ ∃ image ∈ images, Q image := by
  induction h with
  | nil => simp
  | cons hfirst _ ih =>
      rw [List.exists_mem_cons_iff, List.exists_mem_cons_iff, ih, partners _ _ hfirst]

theorem forall_mem_iff_of_forall₂ {α β : Type} {R : α → β → Prop} {P : α → Prop} {Q : β → Prop}
    {items : List α} {images : List β} (h : List.Forall₂ R items images)
    (partners : ∀ item image, R item image → (P item ↔ Q image)) :
    (∀ item ∈ items, P item) ↔ ∀ image ∈ images, Q image := by
  induction h with
  | nil => simp
  | cons hfirst _ ih =>
      rw [List.forall_mem_cons, List.forall_mem_cons, ih, partners _ _ hfirst]

/-- Where the second partner of an item is a function of the first, so are the partners in order. -/
theorem eq_map_of_forall₂ {α β : Type} {R S : α → β → Prop} {g : β → β} {items : List α}
    {firsts seconds : List β} (hfirst : List.Forall₂ R items firsts)
    (hsecond : List.Forall₂ S items seconds)
    (partners : ∀ item first second, R item first → S item second → second = g first) :
    seconds = firsts.map g := by
  induction hfirst generalizing seconds with
  | nil => exact List.forall₂_nil_left_iff.mp hsecond
  | cons hr _ ih =>
      obtain ⟨second, rest, hs, hrest, rfl⟩ := List.forall₂_cons_left_iff.mp hsecond
      rw [List.map_cons, ← partners _ _ _ hr hs, ← ih hrest]

theorem ClauseList.mapClauses_eq_ok_iff {α β ε : Type} {f : Clause α → Except ε (Clause β)}
    {clauses : List (Clause α)} {images : List (Clause β)} :
    mapClauses f clauses = .ok images ↔
      List.Forall₂ (fun clause image => f clause = .ok image) clauses images := by
  induction clauses generalizing images with
  | nil =>
      rw [mapClauses, List.forall₂_nil_left_iff, Except.ok.injEq]
      exact eq_comm
  | cons clause rest ih =>
      rw [List.forall₂_cons_left_iff]
      unfold mapClauses
      cases hf : f clause with
      | error failure => simp
      | ok image =>
          simp only [Except.ok.injEq, exists_and_left, ← ih]
          cases hm : mapClauses f rest with
          | error failure => simp
          | ok rest' => simp [eq_comm]

theorem ClauseList.tryMap_eq_ok_iff {α β ε : Type} {f : Clause α → Except ε (Clause β)}
    {list : ClauseList α} {image : ClauseList β} :
    list.tryMap f = .ok image ↔
      List.Forall₂ (fun clause image => f clause = .ok image) list.toList image.toList ∧
        image.comments = list.comments := by
  unfold tryMap
  rw [map_eq_ok_iff]
  constructor
  · rintro ⟨images, hm, rfl⟩
    exact ⟨by simpa [toList] using mapClauses_eq_ok_iff.mp hm, rfl⟩
  · rintro ⟨hmap, hcomments⟩
    refine ⟨image.toList, mapClauses_eq_ok_iff.mpr hmap, ?_⟩
    rw [← hcomments]
    rfl

namespace Numbering

/-! ## One clause -/

/-- The image has the clause's cost and its literals' signed numbers in order. -/
structure Numbers (n : Numbering) (clause : Clause Literal) (image : Clause Int32) : Prop where
  cost : image.cost = clause.cost
  literals : List.Forall₂ (fun literal signed => n.signedValueOf literal = .ok signed)
    clause.literals image.literals

theorem signedValues_eq_ok_iff {n : Numbering} {literals : List Literal}
    {values : List Int32} :
    n.signedValues literals = .ok values ↔
      List.Forall₂ (fun literal signed => n.signedValueOf literal = .ok signed)
        literals values := by
  induction literals generalizing values with
  | nil =>
      rw [signedValues, List.forall₂_nil_left_iff, Except.ok.injEq]
      exact eq_comm
  | cons literal rest ih =>
      rw [List.forall₂_cons_left_iff, signedValues, bind_eq_ok_iff]
      simp only [bind_eq_ok_iff, pure_eq_ok_iff, ih]
      constructor
      · rintro ⟨signed, hsigned, values', hrest, rfl⟩
        exact ⟨signed, values', hsigned, hrest, rfl⟩
      · rintro ⟨signed, values', hsigned, hrest, rfl⟩
        exact ⟨signed, hsigned, values', hrest, rfl⟩

theorem clause_eq_ok_iff {n : Numbering} {c : Clause Literal} {image : Clause Int32} :
    n.clause c = .ok image ↔ n.Numbers c image := by
  rw [clause, map_eq_ok_iff]
  constructor
  · rintro ⟨literals, hl, rfl⟩
    exact ⟨rfl, signedValues_eq_ok_iff.mp hl⟩
  · rintro ⟨hcost, hl⟩
    refine ⟨image.literals, signedValues_eq_ok_iff.mpr hl, ?_⟩
    rw [← hcost]

theorem exists_numbers_iff {n : Numbering} {c : Clause Literal} :
    (∃ image, n.Numbers c image) ↔ ∀ literal ∈ c.literals, n.HasKey literal := by
  have hkey : ∀ literal, n.HasKey literal ↔ ∃ signed, n.signedValueOf literal = .ok signed := by
    intro literal
    rw [hasKey_iff]
    constructor
    · rintro ⟨value, hv⟩
      exact ⟨_, signedValueOf_eq_ok_iff.mpr ⟨value, hv, rfl⟩⟩
    · rintro ⟨signed, hs⟩
      obtain ⟨value, hv, -⟩ := signedValueOf_eq_ok_iff.mp hs
      exact ⟨value, hv⟩
  simp only [hkey]
  rw [← exists_forall₂_iff]
  constructor
  · rintro ⟨image, hn⟩
    exact ⟨image.literals, hn.literals⟩
  · rintro ⟨values, hl⟩
    exact ⟨⟨c.cost, values⟩, rfl, hl⟩

/-- No number of a literal in these clauses is beyond the bound. -/
def Bounds (n : Numbering) (clauses : List (Clause Literal)) (bound : Nat) : Prop :=
  ∀ clause ∈ clauses, ∀ literal ∈ clause.literals, ∀ value,
    n.valueOf literal = .ok value → value.toInt ≤ bound

/-- A bound on the numbers in clauses is one on the magnitudes in their images. -/
theorem Bijective.bounds_iff {n : Numbering} (h : n.Bijective) {clauses : List (Clause Literal)}
    {images : List (Clause Int32)} (hn : List.Forall₂ n.Numbers clauses images) {bound : Nat} :
    n.Bounds clauses bound ↔
      ∀ image ∈ images, ∀ signed ∈ image.literals, signed.toInt.natAbs ≤ bound := by
  refine forall_mem_iff_of_forall₂ hn fun clause image hnumbers =>
    forall_mem_iff_of_forall₂ hnumbers.literals fun literal signed hs => ?_
  obtain ⟨value, hv, -⟩ := signedValueOf_eq_ok_iff.mp hs
  have hwide := h.natAbs_signed hs hv
  rw [hv]
  simp only [Except.ok.injEq, forall_eq']
  omega

end Numbering

namespace Formula

open Clausal.Numbering (Numbers HasKey Bijective)

/-! ## The whole formula -/

theorem ofEncoding_eq_ok_iff {e : Encoding} {n : Numbering} {f : Formula} :
    ofEncoding e n = .ok f ↔
      n.size < UInt32.size ∧
      (List.Forall₂ n.Numbers e.hard.toList f.hard.toList ∧
        f.hard.comments = e.hard.comments) ∧
      (List.Forall₂ n.Numbers e.soft.toList f.soft.toList ∧
        f.soft.comments = e.soft.comments) ∧
      f.comments = e.comments ∧
      f.literalCount = max (UInt32.ofNat n.size) (widest (f.hard.toList ++ f.soft.toList)) := by
  have hclause : (fun c image => n.clause c = .ok image) = n.Numbers := by
    funext c image
    exact propext Numbering.clause_eq_ok_iff
  rw [← hclause, ← ClauseList.tryMap_eq_ok_iff, ← ClauseList.tryMap_eq_ok_iff]
  unfold ofEncoding
  rw [bind_eq_ok_iff]
  simp only [bind_eq_ok_iff]
  constructor
  · rintro ⟨hard, hh, soft, hs, hf⟩
    split at hf
    · rename_i room
      cases hf
      exact ⟨room, hh, hs, rfl, rfl⟩
    · cases hf
  · rintro ⟨room, hh, hs, hcomments, hcount⟩
    refine ⟨f.hard, hh, f.soft, hs, ?_⟩
    rw [if_pos room, pure_eq_ok_iff, ← hcount, ← hcomments]

theorem exists_ofEncoding_iff {e : Encoding} {n : Numbering} (room : n.size < UInt32.size) :
    (∃ f, ofEncoding e n = .ok f) ↔
      ∀ clause ∈ e.hard.toList ++ e.soft.toList, ∀ literal ∈ clause.literals,
        n.HasKey literal := by
  simp only [← Numbering.exists_numbers_iff, List.forall_mem_append, ← exists_forall₂_iff]
  constructor
  · rintro ⟨f, hf⟩
    obtain ⟨-, ⟨hhard, -⟩, ⟨hsoft, -⟩, -⟩ := ofEncoding_eq_ok_iff.mp hf
    exact ⟨⟨_, hhard⟩, ⟨_, hsoft⟩⟩
  · rintro ⟨⟨hard, hhard⟩, ⟨soft, hsoft⟩⟩
    refine ⟨⟨max (UInt32.ofNat n.size) (widest (hard ++ soft)), e.comments,
      ⟨hard.toArray, e.hard.comments⟩, ⟨soft.toArray, e.soft.comments⟩⟩, ?_⟩
    rw [ofEncoding_eq_ok_iff]
    exact ⟨room, ⟨hhard, rfl⟩, ⟨hsoft, rfl⟩, rfl, rfl⟩

end Formula

end Clausal

import Mathlib.Data.List.Pairwise
import Clausal.Proofs.Coloring.Layout
import Clausal.Proofs.Valuation

/-!
# What the clauses of a coloring encoding say

The hard clauses hold under a valuation exactly when it respects the graph: one color for each
node, no color at both ends of an edge, and each color that a node takes marked as used.  Such a
valuation shows a proper coloring, and every proper coloring is painted into such a valuation.
-/

namespace Clausal

namespace Coloring

/-! ## Clauses one by one -/

theorem Grid.holds_cell (s : Valuation) (grid : Grid) (a b : UInt64) :
    (grid.cell a b).holds s = s (grid.cell a b).atom := Literal.holds_ofAtom s _

theorem Line.holds_cell (s : Valuation) (line : Line) (a : UInt64) :
    (line.cell a).holds s = s (line.cell a).atom := Literal.holds_ofAtom s _

section

variable {s : Valuation} {color : Grid} {colors : UInt64}

theorem exclusions_hold_iff {literals : List Literal} :
    (∀ clause ∈ (exclusions literals).map Clause.hard, clause.holds s = true) ↔
      literals.Pairwise fun a b => ¬(a.holds s = true ∧ b.holds s = true) := by
  induction literals with
  | nil => simp [exclusions]
  | cons a rest ih =>
      rw [exclusions, List.map_append, List.forall_mem_append, ih, List.pairwise_cons]
      refine and_congr_left fun _ => ?_
      simp only [List.map_map, List.forall_mem_map, Function.comp_apply, Clause.holds_hard_pair,
        Literal.holds_neg]
      grind

/-- A node has some color and no two. -/
theorem nodeClauses_hold_iff {node : UInt64} :
    (∀ clause ∈ nodeClauses color colors node, clause.holds s = true) ↔
      (∃ k < colors, s (color.cell node k).atom = true) ∧
        ∀ j < colors, ∀ k < colors, s (color.cell node j).atom = true →
          s (color.cell node k).atom = true → j = k := by
  have hsome : (Clause.hard (choices color colors node)).holds s = true ↔
      ∃ k < colors, s (color.cell node k).atom = true := by
    simp [Clause.holds, Clause.hard, choices, Grid.holds_cell]
  have hpairs : (choices color colors node).Pairwise
      (fun a b => ¬(a.holds s = true ∧ b.holds s = true)) ↔
      (upTo colors).Pairwise fun j k => ¬(s (color.cell node j).atom = true ∧
        s (color.cell node k).atom = true) := by
    simp only [choices, List.pairwise_map, Literal.holds_named, Grid.holds_cell]
  rw [nodeClauses, List.forall_mem_cons, exclusions_hold_iff, hsome, hpairs]
  refine and_congr_right fun _ => ?_
  constructor
  · intro h j hj k hk hjs hks
    have hsymm : Std.Symm fun j k => ¬(s (color.cell node j).atom = true ∧
        s (color.cell node k).atom = true) := ⟨fun _ _ hjk hkj => hjk hkj.symm⟩
    by_contra hne
    exact h.forall (mem_upTo.mpr hj) (mem_upTo.mpr hk) hne ⟨hjs, hks⟩
  · intro h
    refine (nodup_upTo colors).pairwise_of_forall_ne fun j hj k hk hne hboth => hne ?_
    exact h j (mem_upTo.mp hj) k (mem_upTo.mp hk) hboth.1 hboth.2

theorem edgeClauses_hold_iff {edge : UInt64 × UInt64} :
    (∀ clause ∈ edgeClauses color colors edge, clause.holds s = true) ↔
      ∀ k < colors, ¬(s (color.cell edge.1 k).atom = true ∧
        s (color.cell edge.2 k).atom = true) := by
  simp only [edgeClauses, conflict, List.forall_mem_map, mem_upTo, Clause.holds_hard_pair,
    Literal.holds_neg, Grid.holds_cell]
  grind

theorem linkClauses_hold_iff {c : Coloring} :
    (∀ clause ∈ c.linkClauses, clause.holds s = true) ↔
      ∀ used, c.used = some used → ∀ k < c.colors, ∀ node < c.nodes,
        s (c.color.cell node k).atom = true → s (used.cell k).atom = true := by
  unfold linkClauses
  cases c.used with
  | none => simp
  | some used =>
      simp only [useClauses, mark, List.forall_mem_flatMap, List.forall_mem_map, mem_upTo,
        Clause.holds_hard_pair, Literal.holds_neg, Literal.holds_named, Grid.holds_cell,
        Line.holds_cell, Option.some.injEq, forall_eq']
      grind

end

/-! ## All hard clauses -/

/-- One color for each node, none at both ends of an edge, and the taken ones marked. -/
structure Respects (edges : List (UInt64 × UInt64)) (c : Coloring) (s : Valuation) : Prop where
  taken : ∀ node < c.nodes, ∃ k < c.colors, s (c.color.cell node k).atom = true
  unique : ∀ node < c.nodes, ∀ j < c.colors, ∀ k < c.colors,
    s (c.color.cell node j).atom = true → s (c.color.cell node k).atom = true → j = k
  apart : ∀ edge ∈ edges, ∀ k < c.colors,
    ¬(s (c.color.cell edge.1 k).atom = true ∧ s (c.color.cell edge.2 k).atom = true)
  marked : ∀ used, c.used = some used → ∀ k < c.colors, ∀ node < c.nodes,
    s (c.color.cell node k).atom = true → s (used.cell k).atom = true

theorem Laid.hard_hold_iff {edges : List (UInt64 × UInt64)} {c : Coloring} (h : Laid edges c)
    {s : Valuation} :
    (∀ clause ∈ c.encoding.hard.toList, clause.holds s = true) ↔ Respects edges c s := by
  simp only [h.hard, List.forall_mem_append, List.forall_mem_flatMap, mem_upTo,
    nodeClauses_hold_iff, edgeClauses_hold_iff, linkClauses_hold_iff]
  constructor
  · rintro ⟨hnodes, hedges, hlinks⟩
    exact ⟨fun node hn => (hnodes node hn).1, fun node hn => (hnodes node hn).2, hedges, hlinks⟩
  · rintro ⟨htaken, hunique, hapart, hmarked⟩
    exact ⟨fun node hn => ⟨htaken node hn, hunique node hn⟩, hapart, hmarked⟩

/-! ## Colorings -/

/-- A color for each node, different ones at the ends of every edge. -/
structure Proper (nodes colors : UInt64) (edges : List (UInt64 × UInt64))
    (g : UInt64 → UInt64) : Prop where
  inRange : ∀ node < nodes, g node < colors
  differs : ∀ edge ∈ edges, g edge.1 ≠ g edge.2

/-- A node's literal is true for its own color only. -/
def Shows (c : Coloring) (s : Valuation) (g : UInt64 → UInt64) : Prop :=
  ∀ node < c.nodes, ∀ k < c.colors, s (c.color.cell node k).atom = decide (g node = k)

section

variable {edges : List (UInt64 × UInt64)} {c : Coloring} {s : Valuation}

theorem Respects.exists_proper (h : Respects edges c s) (within : Within c.nodes edges) :
    ∃ g, Proper c.nodes c.colors edges g ∧ c.Shows s g := by
  classical
  choose! g hrange htrue using h.taken
  have hshows : c.Shows s g := by
    intro node hn k hk
    rw [Bool.eq_iff_iff, decide_eq_true_iff]
    constructor
    · exact h.unique node hn _ (hrange node hn) k hk (htrue node hn)
    · rintro rfl
      exact htrue node hn
  refine ⟨g, ⟨hrange, ?_⟩, hshows⟩
  intro edge hedge heq
  obtain ⟨hleft, hright⟩ := within edge hedge
  refine h.apart edge hedge _ (hrange _ hleft) ⟨htrue _ hleft, ?_⟩
  rw [heq]
  exact htrue _ hright

/-! ## Painting -/

/-- The valuation that makes true each node's own color and the marks of the colors taken. -/
def paint (c : Coloring) (g : UInt64 → UInt64) : Valuation := fun atom =>
  (upTo c.nodes).any fun node => atom == (c.color.cell node (g node)).atom ||
    c.used.any fun used => atom == (used.cell (g node)).atom

variable {g : UInt64 → UInt64}

theorem paint_eq_true_iff {atom : Atom} :
    paint c g atom = true ↔ ∃ node < c.nodes, atom = (c.color.cell node (g node)).atom ∨
      ∃ used, c.used = some used ∧ atom = (used.cell (g node)).atom := by
  simp [paint, Option.any_eq_true]

theorem Laid.paint_shows (h : Laid edges c) (hrange : ∀ node < c.nodes, g node < c.colors) :
    c.Shows (paint c g) g := by
  intro node hn k hk
  have hfits := h.fits node hn k hk
  rw [Bool.eq_iff_iff, paint_eq_true_iff, decide_eq_true_iff]
  constructor
  · rintro ⟨other, ho, heq | ⟨used, hused, heq⟩⟩
    · have hother := h.fits other ho _ (hrange other ho)
      obtain ⟨rfl, rfl⟩ := (Grid.cell_inj hfits hother).mp heq
      rfl
    · exact absurd (congrArg Atom.var heq).symm (h.apart used hused)
  · rintro rfl
    exact ⟨node, hn, .inl rfl⟩

theorem Laid.paint_marks (h : Laid edges c) (hrange : ∀ node < c.nodes, g node < c.colors)
    {used : Line} (hused : c.used = some used) {k : UInt64} (hk : k < c.colors) :
    paint c g (used.cell k).atom = true ↔ ∃ node < c.nodes, g node = k := by
  have hfits := h.usedFits used hused
  rw [paint_eq_true_iff]
  refine exists_congr fun node => and_congr_right fun hn => ?_
  constructor
  · rintro (heq | ⟨other, hother, heq⟩)
    · exact absurd (congrArg Atom.var heq) (h.apart used hused)
    · cases hused.symm.trans hother
      exact ((Line.cell_inj (hfits k hk) (hfits _ (hrange node hn))).mp heq).symm
  · rintro rfl
    exact .inr ⟨used, hused, rfl⟩

theorem Laid.respects_paint (h : Laid edges c) (hg : Proper c.nodes c.colors edges g) :
    Respects edges c (paint c g) := by
  have hshows := h.paint_shows hg.inRange
  have hown : ∀ node < c.nodes, ∀ k < c.colors,
      paint c g (c.color.cell node k).atom = true ↔ g node = k := by
    intro node hn k hk
    rw [hshows node hn k hk, decide_eq_true_iff]
  constructor
  · intro node hn
    exact ⟨g node, hg.inRange node hn, (hown node hn _ (hg.inRange node hn)).mpr rfl⟩
  · intro node hn j hj k hk htrue htrue'
    exact ((hown node hn j hj).mp htrue).symm.trans ((hown node hn k hk).mp htrue')
  · rintro edge hedge k hk ⟨hleft, hright⟩
    obtain ⟨hl, hr⟩ := h.within edge hedge
    exact hg.differs edge hedge
      (((hown _ hl k hk).mp hleft).trans ((hown _ hr k hk).mp hright).symm)
  · intro used hused k hk node hn htrue
    exact (h.paint_marks hg.inRange hused hk).mpr ⟨node, hn, (hown node hn k hk).mp htrue⟩

end

end Coloring

end Clausal

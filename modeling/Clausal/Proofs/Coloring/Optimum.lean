import Mathlib.Data.Finset.Card
import Mathlib.Order.Bounds.Basic
import Clausal.Proofs.Coloring.Correctness

/-!
# The optimum of a minimized coloring encoding

A valuation pays 1 for every color that it marks as used.  One that respects the graph marks at
least the colors that its coloring takes, and the painted one marks exactly those.  So the
least cost of a hard-satisfying assignment is the least number of colors of a proper coloring.
-/

namespace Clausal

namespace Coloring

/-- The colors that the nodes take. -/
def palette (nodes : UInt64) (g : UInt64 → UInt64) : Finset UInt64 :=
  ((upTo nodes).map g).toFinset

theorem mem_palette {nodes : UInt64} {g : UInt64 → UInt64} {k : UInt64} :
    k ∈ palette nodes g ↔ ∃ node < nodes, g node = k := by
  simp [palette]

/-- The colors that a valuation marks as used. -/
def marks (c : Coloring) (used : Line) (s : Valuation) : Finset UInt64 :=
  ((upTo c.colors).filter fun k => s (used.cell k).atom).toFinset

theorem mem_marks {c : Coloring} {used : Line} {s : Valuation} {k : UInt64} :
    k ∈ c.marks used s ↔ k < c.colors ∧ s (used.cell k).atom = true := by
  simp [marks]

section

variable {edges : List (UInt64 × UInt64)} {c : Coloring} {n : Numbering} {s : Valuation}
  {a : Assignment} {f : Formula} {used : Line} {g : UInt64 → UInt64}

theorem card_marks (c : Coloring) (used : Line) (s : Valuation) :
    (c.marks used s).card = ((upTo c.colors).filter fun k => s (used.cell k).atom).length :=
  List.toFinset_card_of_nodup ((nodup_upTo c.colors).filter _)

theorem Laid.violatedBy (h : Laid edges c) (hused : c.used = some used) :
    c.encoding.violatedBy s =
      ((upTo c.colors).filter fun k => s (used.cell k).atom).map (price used) := by
  have hprice : ∀ k, (!(price used k).holds s) = s (used.cell k).atom := by
    intro k
    simp [price, mark, Clause.holds, Clause.soft, Line.holds_cell]
  rw [Encoding.violatedBy, h.soft, prices, hused, List.filter_map]
  simp only [Function.comp_def, hprice]

theorem exactCost_prices (used : Line) (ks : List UInt64) :
    exactCost (ks.map (price used)) = ks.length := by
  induction ks with
  | nil => rfl
  | cons k rest ih =>
      rw [List.map_cons, exactCost_cons, ih, List.length_cons, Nat.add_comm]
      rfl

theorem Laid.cost (h : Laid edges c) (hused : c.used = some used) (hn : n.Bijective)
    (hf : Formula.ofEncoding c.encoding n = .ok f) (hagree : n.Agrees s a) :
    (f.evaluate a).cost.toNat = (c.marks used s).card := by
  have hsum : exactCost (c.encoding.violatedBy s) = (c.marks used s).card := by
    rw [h.violatedBy hused, exactCost_prices, card_marks]
  have hcolors : (c.marks used s).card ≤ c.colors.toNat := by
    rw [card_marks, ← length_upTo]
    exact List.length_filter_le _ _
  have hword := c.colors.toNat_lt
  have hmax : UInt64.size - 1 = 2 ^ 64 - 1 := rfl
  rw [Formula.cost_ofEncoding hn hf hagree, hsum, hmax]
  omega

theorem Respects.palette_subset (h : Respects edges c s) (hused : c.used = some used)
    (hshows : c.Shows s g) (hrange : ∀ node < c.nodes, g node < c.colors) :
    palette c.nodes g ⊆ c.marks used s := by
  intro k hk
  obtain ⟨node, hnode, rfl⟩ := mem_palette.mp hk
  have hin := hrange node hnode
  refine mem_marks.mpr ⟨hin, h.marked used hused _ hin node hnode ?_⟩
  rw [hshows node hnode _ hin, decide_eq_true_iff]

theorem Laid.marks_paint (h : Laid edges c) (hused : c.used = some used)
    (hrange : ∀ node < c.nodes, g node < c.colors) :
    c.marks used (paint c g) = palette c.nodes g := by
  ext k
  rw [mem_marks, mem_palette]
  constructor
  · rintro ⟨hk, htrue⟩
    exact (h.paint_marks hrange hused hk).mp htrue
  · rintro ⟨node, hnode, rfl⟩
    have hin := hrange node hnode
    exact ⟨hin, (h.paint_marks hrange hused hin).mpr ⟨node, hnode, rfl⟩⟩

end

/-- Two sets of numbers have the same least member if one contains the other and goes no
lower. -/
theorem isLeast_iff_of_dominated {S T : Set Nat} (hsub : T ⊆ S)
    (hlower : ∀ x ∈ S, ∃ y ∈ T, y ≤ x) (least : Nat) : IsLeast S least ↔ IsLeast T least := by
  constructor
  · rintro ⟨hmem, hleast⟩
    obtain ⟨y, hy, hle⟩ := hlower least hmem
    have heq : y = least := Nat.le_antisymm hle (hleast (hsub hy))
    exact ⟨heq ▸ hy, fun x hx => hleast (hsub hx)⟩
  · rintro ⟨hmem, hleast⟩
    refine ⟨hsub hmem, fun x hx => ?_⟩
    obtain ⟨y, hy, hle⟩ := hlower x hx
    exact Nat.le_trans (hleast hy) hle

/-- Minimizing the cost minimizes the number of colors: no assignment costs less than the
colors it is decoded to, and every proper coloring has one that costs no more. -/
theorem minimized_optimal {id : EncodingId} {nodes colors : UInt64}
    {edges : List (UInt64 × UInt64)} {c : Coloring}
    (h : ofGraph id nodes edges colors true = .ok c)
    (room : c.encoding.registeredCount ≤ Numbering.capacity) (order : NumberingOrder) :
    c.nodes = nodes ∧ c.colors = colors ∧ ∃ n f,
      Numbering.ofEncoding c.encoding order = .ok n ∧ Formula.ofEncoding c.encoding n = .ok f ∧
      (∀ a : Assignment, a.size = f.literalCount.toNat → (f.evaluate a).hardSatisfied = true →
        ∃ g, Proper nodes colors edges g ∧ c.DecodesTo n a g ∧
          (palette nodes g).card ≤ (f.evaluate a).cost.toNat) ∧
      (∀ g, Proper nodes colors edges g → ∃ a : Assignment, a.size = f.literalCount.toNat ∧
        (f.evaluate a).hardSatisfied = true ∧ c.DecodesTo n a g ∧
          (f.evaluate a).cost.toNat = (palette nodes g).card) ∧
      ∀ least, IsLeast {cost | ∃ a : Assignment, a.size = f.literalCount.toNat ∧
          (f.evaluate a).hardSatisfied = true ∧ (f.evaluate a).cost.toNat = cost} least ↔
        IsLeast {count | ∃ g, Proper nodes colors edges g ∧ (palette nodes g).card = count}
          least := by
  obtain ⟨hlaid, rfl, rfl, hminimizes⟩ := ofGraph_laid h
  obtain ⟨used, hused⟩ := Option.isSome_iff_exists.mp hminimizes
  obtain ⟨n, f, hnumbering, hn, hf⟩ := Formula.exists_translation hlaid.consistent room order
  have hlower : ∀ a : Assignment, a.size = f.literalCount.toNat →
      (f.evaluate a).hardSatisfied = true →
      ∃ g, Proper c.nodes c.colors edges g ∧ c.DecodesTo n a g ∧
        (palette c.nodes g).card ≤ (f.evaluate a).cost.toNat := by
    intro a hsize hhard
    obtain ⟨s, g, hagree, hrespects, hproper, hshows⟩ := hlaid.read hn hf hsize hhard
    refine ⟨g, hproper, (hlaid.assigns hn hagree hshows).decodesTo hproper.inRange, ?_⟩
    rw [hlaid.cost hused hn.bijective hf hagree]
    exact Finset.card_le_card (hrespects.palette_subset hused hshows hproper.inRange)
  have hreached : ∀ g, Proper c.nodes c.colors edges g → ∃ a : Assignment,
      a.size = f.literalCount.toNat ∧ (f.evaluate a).hardSatisfied = true ∧
        c.DecodesTo n a g ∧ (f.evaluate a).cost.toNat = (palette c.nodes g).card := by
    intro g hg
    obtain ⟨a, hsize, hhard, hagree⟩ := hlaid.write hn hf hg
    have hassigns := hlaid.assigns hn hagree (hlaid.paint_shows hg.inRange)
    refine ⟨a, hsize, hhard, hassigns.decodesTo hg.inRange, ?_⟩
    rw [hlaid.cost hused hn.bijective hf hagree, hlaid.marks_paint hused hg.inRange]
  refine ⟨rfl, rfl, n, f, hnumbering, hf, hlower, hreached, isLeast_iff_of_dominated ?_ ?_⟩
  · rintro count ⟨g, hg, rfl⟩
    obtain ⟨a, hsize, hhard, -, hcost⟩ := hreached g hg
    exact ⟨a, hsize, hhard, hcost⟩
  · rintro cost ⟨a, hsize, hhard, rfl⟩
    obtain ⟨g, hg, -, hle⟩ := hlower a hsize hhard
    exact ⟨_, ⟨g, hg, rfl⟩, hle⟩

theorem triangle_optimal :
    ∃ c n f, ofGraph 0 3 triangle 3 true = .ok c ∧
      c.encoding.registeredCount ≤ Numbering.capacity ∧
      Numbering.ofEncoding c.encoding .sorted = .ok n ∧
      Formula.ofEncoding c.encoding n = .ok f ∧
      ∃ a : Assignment, (f.evaluate a).hardSatisfied = true ∧ c.DecodesTo n a id ∧
        (f.evaluate a).cost.toNat = 3 := by
  obtain ⟨c, hc, room⟩ := triangle_exists true
  obtain ⟨-, -, n, f, hn, hf, -, hreached, -⟩ := minimized_optimal hc room .sorted
  obtain ⟨a, -, hhard, hdecodes, hcost⟩ := hreached id triangle_proper
  exact ⟨c, n, f, hc, room, hn, hf, a, hhard, hdecodes, hcost.trans (by decide)⟩

end Coloring

end Clausal

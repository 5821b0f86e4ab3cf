import Clausal.Proofs.Answer.Lookup
import Clausal.Proofs.Coloring.Existence
import Clausal.Proofs.Coloring.Semantics
import Clausal.Proofs.Formula.Complete
import Clausal.Proofs.Formula.Meaning

/-!
# Correctness of the coloring encoding

Numbering and translation succeed, the hard-satisfying assignments of the formula are decoded to
proper colorings, and every proper coloring is decoded from one of them.  Both directions go
through valuations: an assignment is read as one that respects the graph, and a coloring is
painted into one and written down as an assignment.
-/

namespace Clausal

namespace Coloring

open Clausal.Numbering (Agrees HasKey)

/-! ## Decoding -/

def taken? (c : Coloring) (answer : Answer) (n : Numbering) (node color : UInt64) :
    Except EncodingError (Option Bool) := do
  let index ← c.color.indexOf (node, color)
  answer.valueOf n (.ofAtom ⟨c.color.var, index⟩)

theorem colorOf_cons (c : Coloring) (answer : Answer) (n : Numbering) (node color : UInt64)
    (rest : List UInt64) :
    c.colorOf answer n node (color :: rest) = (do
      let value ← c.taken? answer n node color
      if value = some true then return some color
      c.colorOf answer n node rest) := by
  unfold taken?
  rw [bind_assoc]
  rfl

/-- Every answer that found an optimum with this assignment is decoded to this coloring. -/
def DecodesTo (c : Coloring) (n : Numbering) (a : Assignment) (g : UInt64 → UInt64) : Prop :=
  ∀ format cost, c.decode ⟨format, .optimumFound, cost, a⟩ n =
    .ok ((upTo c.nodes).map fun node => some (g node))

/-- In every such answer, the literal of a node and a color is true if the node has the color. -/
def Assigns (c : Coloring) (n : Numbering) (a : Assignment) (g : UInt64 → UInt64) : Prop :=
  ∀ format cost, ∀ node < c.nodes, ∀ k < c.colors,
    c.taken? ⟨format, .optimumFound, cost, a⟩ n node k = .ok (some (decide (g node = k)))

section

variable {edges : List (UInt64 × UInt64)} {c : Coloring} {n : Numbering} {s : Valuation}
  {a : Assignment} {g : UInt64 → UInt64}

theorem Laid.hasKey (h : Laid edges c) (hn : n.Complete c.encoding) {node k : UInt64}
    (hnode : node < c.nodes) (hk : k < c.colors) : n.HasKey (c.color.cell node k) := by
  have hatom : (c.color.cell node k).atom ∈ c.atoms :=
    mem_atoms.mpr (.inl ⟨node, hnode, k, hk, rfl⟩)
  have hregistered := (h.registered _).mpr hatom
  exact (hn.atoms _).mpr ((h.consistent.isRegistered_iff _).mp hregistered)

theorem Laid.assigns (h : Laid edges c) (hn : n.Complete c.encoding) (hagree : n.Agrees s a)
    (hshows : c.Shows s g) : c.Assigns n a g := by
  intro format cost node hnode k hk
  have hindex := Grid.indexOf_eq_ok h.plain (h.fits node hnode k hk)
  have hvalue := Agrees.answer_valueOf ⟨format, .optimumFound, cost, a⟩ hagree
    (h.hasKey hn hnode hk)
  rw [Grid.holds_cell, hshows node hnode k hk] at hvalue
  rw [taken?, hindex]
  exact hvalue

/-- The first color that the node has is the only one. -/
theorem Assigns.colorOf (h : c.Assigns n a g) {format : Format} {cost node : UInt64}
    (hnode : node < c.nodes) {colors : List UInt64} (hrange : ∀ k ∈ colors, k < c.colors)
    (hmem : g node ∈ colors) :
    c.colorOf ⟨format, .optimumFound, cost, a⟩ n node colors = .ok (some (g node)) := by
  induction colors with
  | nil => exact absurd hmem List.not_mem_nil
  | cons k rest ih =>
      rw [List.forall_mem_cons] at hrange
      rw [colorOf_cons, h format cost node hnode k hrange.1]
      by_cases hk : g node = k
      · simp [hk, bind, Except.bind, pure, Except.pure]
      · have hrest := ih hrange.2 ((List.mem_cons.mp hmem).resolve_left hk)
        simp [hk, bind, Except.bind, hrest]

theorem Assigns.decodesTo (h : c.Assigns n a g) (hrange : ∀ node < c.nodes, g node < c.colors) :
    c.DecodesTo n a g := by
  intro format cost
  refine mapM_eq_ok fun node hnode => ?_
  have hn := mem_upTo.mp hnode
  exact h.colorOf hn (fun _ hk => mem_upTo.mp hk) (mem_upTo.mpr (hrange node hn))

/-! ## Both directions -/

variable {f : Formula}

theorem Laid.read (h : Laid edges c) (hn : n.Complete c.encoding)
    (hf : Formula.ofEncoding c.encoding n = .ok f) (hsize : a.size = f.literalCount.toNat)
    (hhard : (f.evaluate a).hardSatisfied = true) :
    ∃ s g, n.Agrees s a ∧ Respects edges c s ∧ Proper c.nodes c.colors edges g ∧
      c.Shows s g := by
  have hsize' : a.size = n.size := by
    rw [hsize, Formula.literalCount_ofEncoding hn hf, hn.size]
  have hagree := hn.agrees_valuationOf hsize'
  have hrespects := h.hard_hold_iff.mp
    ((Formula.hardSatisfied_ofEncoding hn.bijective hf hagree).mp hhard)
  obtain ⟨g, hproper, hshows⟩ := hrespects.exists_proper h.within
  exact ⟨_, g, hagree, hrespects, hproper, hshows⟩

theorem Laid.write (h : Laid edges c) (hn : n.Complete c.encoding)
    (hf : Formula.ofEncoding c.encoding n = .ok f) (hg : Proper c.nodes c.colors edges g) :
    ∃ a : Assignment, a.size = f.literalCount.toNat ∧ (f.evaluate a).hardSatisfied = true ∧
      n.Agrees (paint c g) a := by
  have hagree := hn.agrees_assignmentOf (paint c g)
  refine ⟨_, ?_, ?_, hagree⟩
  · rw [n.size_assignmentOf, Formula.literalCount_ofEncoding hn hf, hn.size]
  · rw [Formula.hardSatisfied_ofEncoding hn.bijective hf hagree, h.hard_hold_iff]
    exact h.respects_paint hg

end

/-- The encoding is correct: assignments that satisfy its hard clauses are decoded to proper
colorings, and every proper coloring is decoded from one of them. -/
theorem ofGraph_correct {id : EncodingId} {nodes colors : UInt64}
    {edges : List (UInt64 × UInt64)} {minimize : Bool} {c : Coloring}
    (h : ofGraph id nodes edges colors minimize = .ok c)
    (room : c.encoding.registeredCount ≤ Numbering.capacity) (order : NumberingOrder) :
    c.nodes = nodes ∧ c.colors = colors ∧ ∃ n f,
      Numbering.ofEncoding c.encoding order = .ok n ∧ Formula.ofEncoding c.encoding n = .ok f ∧
      (∀ a : Assignment, a.size = f.literalCount.toNat → (f.evaluate a).hardSatisfied = true →
        ∃ g, Proper nodes colors edges g ∧ c.DecodesTo n a g ∧ c.Assigns n a g) ∧
      (∀ g, Proper nodes colors edges g → ∃ a : Assignment, a.size = f.literalCount.toNat ∧
        (f.evaluate a).hardSatisfied = true ∧ c.DecodesTo n a g) ∧
      ((∃ a : Assignment, a.size = f.literalCount.toNat ∧ (f.evaluate a).hardSatisfied = true) ↔
        ∃ g, Proper nodes colors edges g) := by
  obtain ⟨hlaid, rfl, rfl, -⟩ := ofGraph_laid h
  obtain ⟨n, f, hnumbering, hn, hf⟩ := Formula.exists_translation hlaid.consistent room order
  have hsound : ∀ a : Assignment, a.size = f.literalCount.toNat →
      (f.evaluate a).hardSatisfied = true →
      ∃ g, Proper c.nodes c.colors edges g ∧ c.DecodesTo n a g ∧ c.Assigns n a g := by
    intro a hsize hhard
    obtain ⟨s, g, hagree, -, hproper, hshows⟩ := hlaid.read hn hf hsize hhard
    have hassigns := hlaid.assigns hn hagree hshows
    exact ⟨g, hproper, hassigns.decodesTo hproper.inRange, hassigns⟩
  have hcomplete : ∀ g, Proper c.nodes c.colors edges g → ∃ a : Assignment,
      a.size = f.literalCount.toNat ∧ (f.evaluate a).hardSatisfied = true ∧
        c.DecodesTo n a g := by
    intro g hg
    obtain ⟨a, hsize, hhard, hagree⟩ := hlaid.write hn hf hg
    have hassigns := hlaid.assigns hn hagree (hlaid.paint_shows hg.inRange)
    exact ⟨a, hsize, hhard, hassigns.decodesTo hg.inRange⟩
  refine ⟨rfl, rfl, n, f, hnumbering, hf, hsound, hcomplete, ?_⟩
  constructor
  · rintro ⟨a, hsize, hhard⟩
    obtain ⟨g, hproper, -⟩ := hsound a hsize hhard
    exact ⟨g, hproper⟩
  · rintro ⟨g, hg⟩
    obtain ⟨a, hsize, hhard, -⟩ := hcomplete g hg
    exact ⟨a, hsize, hhard⟩

def triangle : List (UInt64 × UInt64) := [(0, 1), (1, 2), (2, 0)]

theorem triangle_exists (minimize : Bool) :
    ∃ c, ofGraph 0 3 triangle 3 minimize = .ok c ∧
      c.encoding.registeredCount ≤ Numbering.capacity := by
  obtain ⟨c, hc⟩ : ∃ c, ofGraph 0 3 triangle 3 minimize = .ok c :=
    exists_ofGraph_iff.mpr ⟨by decide, by simp [Within, triangle], by decide, fun _ => by decide⟩
  obtain ⟨hlaid, hnodes, hcolors, -⟩ := ofGraph_laid hc
  refine ⟨c, hc, ?_⟩
  rw [hlaid.registeredCount, length_atoms, hnodes, hcolors]
  cases c.minimizes <;> decide

theorem triangle_proper : Proper 3 3 triangle id where
  inRange := fun _ hnode => hnode
  differs := by simp [triangle]

theorem triangle_correct :
    ∃ c n f, ofGraph 0 3 triangle 3 false = .ok c ∧
      c.encoding.registeredCount ≤ Numbering.capacity ∧
      Numbering.ofEncoding c.encoding .sorted = .ok n ∧
      Formula.ofEncoding c.encoding n = .ok f ∧
      ∃ a : Assignment, (f.evaluate a).hardSatisfied = true ∧ c.DecodesTo n a id := by
  obtain ⟨c, hc, room⟩ := triangle_exists false
  obtain ⟨-, -, n, f, hn, hf, -, hcomplete, -⟩ := ofGraph_correct hc room .sorted
  obtain ⟨a, -, hhard, hdecodes⟩ := hcomplete id triangle_proper
  exact ⟨c, n, f, hc, room, hn, hf, a, hhard, hdecodes⟩

end Coloring

end Clausal

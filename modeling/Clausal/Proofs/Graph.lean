import Mathlib.Data.Nat.Choose.Basic
import Clausal.Proofs.Coloring.Existence

/-!
# Random graphs are simple

However the numbers fall that a random graph is drawn from, as long as each is below its bound,
the edges that have been drawn join distinct nodes, and a pair is kept once.  So a graph that is
finished has as many edges as were asked for, none of them a loop, and it has a coloring encoding.
Graphs are refused only where there are not enough pairs of nodes.
-/

namespace Clausal

/-! ## Numbers below a bound -/

namespace Random

/-- The upper half of a product is below the bound.  Where the lower half asks for a carry it is
not the last number below the bound, so that a carry leaves it there. -/
theorem upper_lt {size word bound : Nat} (hword : word < size) (hbound : 0 < bound) :
    word * bound / size < bound ∧
      (size - bound < word * bound % size → word * bound / size + 1 < bound) := by
  have hsize : 0 < size := Nat.lt_of_le_of_lt (Nat.zero_le _) hword
  have hlt : word * bound / size < bound :=
    Nat.div_lt_of_lt_mul (Nat.mul_lt_mul_of_pos_right hword hbound)
  refine ⟨hlt, fun hlower => ?_⟩
  by_contra hlast
  have hupper : word * bound / size + 1 = bound := by omega
  have hsplit := Nat.div_add_mod (word * bound) size
  have hwords : (word + 1) * bound ≤ size * bound := Nat.mul_le_mul_right bound hword
  have hbounds : size * (word * bound / size + 1) = size * bound := congrArg (size * ·) hupper
  rw [Nat.mul_add, Nat.mul_one] at hbounds
  rw [Nat.add_mul, Nat.one_mul] at hwords
  omega

theorem toNat_wideProduct32 (a b : UInt32) :
    (wideProduct32 a b).1.toNat = a.toNat * b.toNat / UInt32.size ∧
      (wideProduct32 a b).2.toNat = a.toNat * b.toNat % UInt32.size := by
  have hlt : a.toNat * b.toNat < UInt32.size * UInt32.size :=
    Nat.mul_lt_mul'' a.toNat_lt b.toNat_lt
  have hproduct : (a.toUInt64 * b.toUInt64).toNat = a.toNat * b.toNat := by
    rw [UInt64.toNat_mul, UInt32.toNat_toUInt64, UInt32.toNat_toUInt64]
    exact Nat.mod_eq_of_lt (hlt.trans_eq (by decide))
  constructor
  · rw [wideProduct32, UInt64.toNat_toUInt32, UInt64.toNat_shiftRight, hproduct,
      Nat.shiftRight_eq_div_pow]
    exact Nat.mod_eq_of_lt (Nat.div_lt_of_lt_mul hlt)
  · rw [wideProduct32, UInt64.toNat_toUInt32, hproduct]

theorem toNat_wideProduct64 (a b : UInt64) :
    (wideProduct64 a b).1.toNat = a.toNat * b.toNat / UInt64.size ∧
      (wideProduct64 a b).2.toNat = a.toNat * b.toNat % UInt64.size := by
  have hupper : a.toNat * b.toNat / UInt64.size < UInt64.size :=
    Nat.div_lt_of_lt_mul (Nat.mul_lt_mul'' a.toNat_lt b.toNat_lt)
  exact ⟨UInt64.toNat_ofNat_of_lt' hupper, UInt64.toNat_ofNat'⟩

theorem below32_lt (s : Stream) {bound : UInt32} (h : bound ≠ 0) : (below32 s bound).1 < bound := by
  have hbound : 0 < bound.toNat := Nat.pos_of_ne_zero fun hzero => h (UInt32.toNat_inj.mp hzero)
  obtain ⟨hupper, hlower⟩ := toNat_wideProduct32 s.next32.1 bound
  obtain ⟨hlt, hcarry⟩ := upper_lt s.next32.1.toNat_lt hbound
  rw [← hupper] at hlt hcarry
  have hneg : (0 - bound).toNat = UInt32.size - bound.toNat := by
    rw [UInt32.toNat_sub, UInt32.toNat_zero, Nat.add_zero]
    exact Nat.mod_eq_of_lt (Nat.sub_lt (by decide) hbound)
  unfold below32
  simp only [UInt32.lt_iff_toNat_lt, hneg, hlower]
  split
  · rename_i hlate
    have hnext := hcarry hlate
    split
    · exact hlt
    · rw [UInt32.toNat_add]
      exact Nat.lt_of_le_of_lt (Nat.mod_le _ _) hnext
  · exact hlt

theorem below64_lt (s : Stream) {bound : UInt64} (h : bound ≠ 0) : (below64 s bound).1 < bound := by
  have hbound : 0 < bound.toNat := Nat.pos_of_ne_zero fun hzero => h (UInt64.toNat_inj.mp hzero)
  obtain ⟨hupper, hlower⟩ := toNat_wideProduct64 s.next64.1 bound
  obtain ⟨hlt, hcarry⟩ := upper_lt s.next64.1.toNat_lt hbound
  rw [← hupper] at hlt hcarry
  have hneg : (0 - bound).toNat = UInt64.size - bound.toNat := by
    rw [UInt64.toNat_sub, UInt64.toNat_zero, Nat.add_zero]
    exact Nat.mod_eq_of_lt (Nat.sub_lt (by decide) hbound)
  unfold below64
  simp only [UInt64.lt_iff_toNat_lt, hneg, hlower]
  split
  · rename_i hlate
    have hnext := hcarry hlate
    split
    · exact hlt
    · rw [UInt64.toNat_add]
      exact Nat.lt_of_le_of_lt (Nat.mod_le _ _) hnext
  · exact hlt

theorem below_lt (s : Stream) {bound : UInt64} (h : bound ≠ 0) : (below s bound).1 < bound := by
  unfold below
  split
  · rename_i hsmall
    have hsame : bound.toUInt32.toNat = bound.toNat := by
      rw [UInt64.toNat_toUInt32]
      exact Nat.mod_eq_of_lt (Nat.lt_succ_of_le (UInt64.le_iff_toNat_le.mp hsmall))
    have hbound : bound.toUInt32 ≠ 0 := by
      rintro hzero
      rw [hzero] at hsame
      exact h (UInt64.toNat_inj.mp hsame.symm)
    rw [UInt64.lt_iff_toNat_lt, UInt32.toNat_toUInt64, ← hsame]
    exact below32_lt s hbound
  · exact below64_lt s h

end Random

/-! ## Edges in ascending order -/

namespace Edge

/-- A smaller low node, or the same one and a smaller high node. -/
def Before (a b : Edge) : Prop := a.low < b.low ∨ a.low = b.low ∧ a.high < b.high

theorem eq_iff {a b : Edge} : a = b ↔ a.low.toNat = b.low.toNat ∧ a.high.toNat = b.high.toNat := by
  rw [UInt64.toNat_inj, UInt64.toNat_inj]
  cases a
  cases b
  exact Edge.mk.injEq .. ▸ Iff.rfl

theorem before_iff {a b : Edge} :
    a.Before b ↔ a.low.toNat < b.low.toNat ∨
      a.low.toNat = b.low.toNat ∧ a.high.toNat < b.high.toNat := by
  rw [Before, UInt64.lt_iff_toNat_lt, UInt64.lt_iff_toNat_lt, UInt64.toNat_inj]

theorem le_iff {a b : Edge} :
    a.le b = true ↔ a.low.toNat < b.low.toNat ∨
      a.low.toNat = b.low.toNat ∧ a.high.toNat ≤ b.high.toNat := by
  simp only [le, Bool.or_eq_true, Bool.and_eq_true, decide_eq_true_eq, beq_iff_eq,
    UInt64.lt_iff_toNat_lt, UInt64.le_iff_toNat_le, UInt64.toNat_inj]

theorem pairwise_sorted (edges : Std.HashSet Edge) : (sorted edges).Pairwise Before := by
  have htrans : ∀ a b c : Edge, a.le b = true → b.le c = true → a.le c = true := by
    intro a b c hab hbc
    rw [le_iff] at hab hbc ⊢
    omega
  have htotal : ∀ a b : Edge, (a.le b || b.le a) = true := by
    intro a b
    rw [Bool.or_eq_true, le_iff, le_iff]
    omega
  have hle : (sorted edges).Pairwise fun a b => a.le b = true :=
    List.pairwise_mergeSort htrans htotal _
  have unique : (sorted edges).Nodup :=
    (List.mergeSort_perm _ _).nodup_iff.mpr
      (Std.HashSet.distinct_toList.imp fun h => by simpa using h)
  refine (hle.and unique).imp fun {a b} h => ?_
  obtain ⟨hab, hne⟩ := h
  rw [ne_eq, eq_iff] at hne
  rw [le_iff] at hab
  rw [before_iff]
  omega

/-- The edge joins two distinct nodes of those below this number. -/
structure Joins (edge : Edge) (nodes : UInt64) : Prop where
  ordered : edge.low < edge.high
  inside : edge.high < nodes

theorem between_joins {a b nodes : UInt64} (ha : a < nodes) (hb : b < nodes) (hne : a ≠ b) :
    (between a b).Joins nodes := by
  rcases UInt64.lt_or_lt_of_ne hne with hlt | hlt
  · have hle : a ≤ b := UInt64.le_of_lt hlt
    have hedge : between a b = ⟨a, b⟩ := congrArg₂ Edge.mk (if_pos hle) (if_pos hle)
    exact hedge ▸ ⟨hlt, hb⟩
  · have hle : ¬ a ≤ b := UInt64.not_le.mpr hlt
    have hedge : between a b = ⟨b, a⟩ := congrArg₂ Edge.mk (if_neg hle) (if_neg hle)
    exact hedge ▸ ⟨hlt, ha⟩

end Edge

namespace Graph

/-! ## Drawing pairs -/

/-- What has been drawn so far: edges between these nodes, and no more than wanted. -/
structure Partial (nodes : UInt64) (wanted : Nat) (edges : Std.HashSet Edge) : Prop where
  joins : ∀ edge ∈ edges, edge.Joins nodes
  size : edges.size ≤ wanted

theorem partial_empty (nodes : UInt64) (wanted : Nat) : Partial nodes wanted ∅ where
  joins := by simp
  size := by simp

section

variable {σ : Type} {nodes : UInt64} {wanted : Nat} {edges : Std.HashSet Edge}

theorem Partial.drawPair {draw : σ → UInt64 × σ} (below : ∀ source, (draw source).1 < nodes)
    (missing : edges.size < wanted) (h : Partial nodes wanted edges) (source : σ) :
    Partial nodes wanted (drawPair draw source edges).1 := by
  have ha := below source
  have hb := below (draw source).2
  unfold Graph.drawPair
  dsimp only
  split
  · exact h
  · rename_i hne
    constructor
    · intro edge hedge
      rw [Std.HashSet.mem_insert, beq_iff_eq] at hedge
      rcases hedge with rfl | hedge
      · exact Edge.between_joins ha hb hne
      · exact h.joins edge hedge
    · exact Nat.le_trans Std.HashSet.size_insert_le missing

end

section

variable {σ : Type}

/-- The edges after this many pairs, and what they leave of the source. -/
def drawPairs (draw : σ → UInt64 × σ) :
    Nat → σ → Std.HashSet Edge → Std.HashSet Edge × σ
  | 0, source, edges => (edges, source)
  | pairs + 1, source, edges =>
      let (edges, source) := drawPair draw source edges
      drawPairs draw pairs source edges

/-- Edges are missing before each of this many pairs. -/
def Draws (draw : σ → UInt64 × σ) (wanted : Nat) (source : σ) (edges : Std.HashSet Edge)
    (pairs : Nat) : Prop :=
  ∀ earlier < pairs, (drawPairs draw earlier source edges).1.size < wanted

variable {draw : σ → UInt64 × σ} {wanted : Nat} {source : σ} {edges : Std.HashSet Edge}

theorem draws_zero : Draws draw wanted source edges 0 :=
  fun _ hearlier => absurd hearlier (Nat.not_lt_zero _)

theorem draws_succ {pairs : Nat} :
    Draws draw wanted source edges (pairs + 1) ↔ edges.size < wanted ∧
      Draws draw wanted (drawPair draw source edges).2 (drawPair draw source edges).1 pairs := by
  constructor
  · intro h
    exact ⟨h 0 (Nat.succ_pos pairs), fun earlier hearlier =>
      h (earlier + 1) (Nat.succ_lt_succ hearlier)⟩
  · rintro ⟨missing, h⟩ earlier hearlier
    cases earlier with
    | zero => exact missing
    | succ earlier => exact h earlier (Nat.lt_of_succ_lt_succ hearlier)

theorem wanted_pos_of_draws {pairs : Nat} (h : Draws draw wanted source edges pairs)
    (hpairs : 0 < pairs) : 0 < wanted :=
  Nat.zero_lt_of_lt (h 0 hpairs)

theorem collect_of_missing (missing : edges.size < wanted) :
    collect draw wanted (edges, source) = collect draw wanted (drawPair draw source edges) := by
  rw [collect, if_neg (Nat.not_le.mpr missing)]
  rfl

theorem collect_of_draws {pairs : Nat} (h : Draws draw wanted source edges pairs) :
    collect draw wanted (edges, source) =
      collect draw wanted (drawPairs draw pairs source edges) := by
  induction pairs generalizing source edges with
  | zero => rfl
  | succ pairs ih =>
      obtain ⟨missing, hrest⟩ := draws_succ.mp h
      rw [collect_of_missing missing, ih hrest]
      rfl

/-- The draws end at the first number of pairs that gives enough edges. -/
theorem collect_eq_some_iff {result : Std.HashSet Edge × σ} :
    collect draw wanted (edges, source) = some ((), result) ↔ ∃ pairs,
      Draws draw wanted source edges pairs ∧ drawPairs draw pairs source edges = result ∧
        wanted ≤ result.1.size := by
  constructor
  · refine collect.partial_correctness draw wanted
      (fun state result => ∃ pairs, Draws draw wanted state.2 state.1 pairs ∧
        drawPairs draw pairs state.2 state.1 = result.2 ∧ wanted ≤ result.2.1.size)
      (fun collect ih state result h => ?_) (edges, source) ((), result)
    split at h
    · cases h
      exact ⟨0, draws_zero, rfl, ‹_›⟩
    · obtain ⟨pairs, hdraws, hresult, enough⟩ := ih _ _ h
      exact ⟨pairs + 1, draws_succ.mpr ⟨Nat.lt_of_not_le ‹_›, hdraws⟩, hresult, enough⟩
  · rintro ⟨pairs, hdraws, rfl, enough⟩
    rw [collect_of_draws hdraws, collect, if_pos enough]

/-- The draws go on forever if no number of pairs gives enough edges. -/
theorem collect_eq_none_iff :
    collect draw wanted (edges, source) = none ↔
      ∀ pairs, (drawPairs draw pairs source edges).1.size < wanted := by
  constructor
  · intro h pairs
    induction pairs using Nat.strong_induction_on with
    | _ pairs ih =>
        by_contra enough
        have hsome := collect_eq_some_iff.mpr ⟨pairs, ih, rfl, Nat.le_of_not_lt enough⟩
        rw [h] at hsome
        cases hsome
  · intro missing
    rw [Option.eq_none_iff_forall_ne_some]
    rintro ⟨⟨⟩, result⟩ hresult
    obtain ⟨pairs, -, rfl, enough⟩ := collect_eq_some_iff.mp hresult
    exact absurd (missing pairs) (Nat.not_lt.mpr enough)

theorem Partial.drawPairs {nodes : UInt64}
    (below : ∀ source, 0 < wanted → (draw source).1 < nodes) {pairs : Nat}
    (h : Partial nodes wanted edges) (hdraws : Draws draw wanted source edges pairs) :
    Partial nodes wanted (drawPairs draw pairs source edges).1 := by
  induction pairs generalizing source edges with
  | zero => exact h
  | succ pairs ih =>
      obtain ⟨missing, hrest⟩ := draws_succ.mp hdraws
      have hbelow := fun source => below source (Nat.zero_lt_of_lt missing)
      exact ih (h.drawPair hbelow missing source) hrest

theorem Partial.collect {nodes : UInt64}
    (below : ∀ source, 0 < wanted → (draw source).1 < nodes) {rest : σ}
    {graph : Std.HashSet Edge} (h : Partial nodes wanted edges)
    (finished : collect draw wanted (edges, source) = some ((), graph, rest)) :
    Partial nodes wanted graph ∧ graph.size = wanted := by
  obtain ⟨pairs, hdraws, hpairs, enough⟩ := collect_eq_some_iff.mp finished
  have hgraph : Partial nodes wanted graph := by
    have hpartial := h.drawPairs below hdraws
    rw [hpairs] at hpartial
    exact hpartial
  exact ⟨hgraph, Nat.le_antisymm hgraph.size enough⟩

end

/-! ## What the source is asked for -/

section

variable {σ : Type}

/-- Samples with a log of the bounds that were asked for, the latest one first. -/
def recording (sample : σ → UInt64 → UInt64 × σ) (source : σ × List UInt64) (bound : UInt64) :
    UInt64 × σ × List UInt64 :=
  let (value, rest) := sample source.1 bound
  (value, rest, bound :: source.2)

theorem drawPairs_recording (sample : σ → UInt64 → UInt64 × σ) (nodes : UInt64) (pairs : Nat)
    (source : σ) (log : List UInt64) (edges : Std.HashSet Edge) :
    drawPairs (recording sample · nodes) pairs (source, log) edges =
      ((drawPairs (sample · nodes) pairs source edges).1,
        (drawPairs (sample · nodes) pairs source edges).2,
        List.replicate (2 * pairs) nodes ++ log) := by
  induction pairs generalizing source log edges with
  | zero => rfl
  | succ pairs ih =>
      have hpair : drawPair (recording sample · nodes) (source, log) edges =
          ((drawPair (sample · nodes) source edges).1,
            (drawPair (sample · nodes) source edges).2, nodes :: nodes :: log) := rfl
      have hlog : List.replicate (2 * pairs) nodes ++ nodes :: nodes :: log =
          List.replicate (2 * (pairs + 1)) nodes ++ log := by
        rw [Nat.mul_succ, List.replicate_add, List.append_assoc]
        rfl
      rw [drawPairs, hpair]
      dsimp only
      rw [ih, hlog]
      rfl

theorem draws_recording {sample : σ → UInt64 → UInt64 × σ} {nodes : UInt64} {wanted : Nat}
    {source : σ} {log : List UInt64} {edges : Std.HashSet Edge} {pairs : Nat} :
    Draws (recording sample · nodes) wanted (source, log) edges pairs ↔
      Draws (sample · nodes) wanted source edges pairs := by
  simp only [Draws, drawPairs_recording]

end

/-! ## Random graphs -/

theorem toNat_maxEdges {nodes : UInt64}
    (exact : nodes.toNat * (nodes.toNat - 1) < UInt64.size) :
    (maxEdges nodes).toNat = nodes.toNat * (nodes.toNat - 1) / 2 := by
  have hpred : (if nodes = 0 then 0 else nodes - 1).toNat = nodes.toNat - 1 := by
    split
    · rename_i hzero
      rw [hzero]
      rfl
    · rename_i hzero
      have hpos := Coloring.toNat_sub_one hzero
      omega
  have hcap : nodes.toNat * (nodes.toNat - 1) ≤ UInt64.size - 1 := Nat.le_pred_of_lt exact
  rw [maxEdges, UInt64.toNat_div, mulCapped_toNat, hpred, Nat.min_eq_left hcap]
  rfl

/-- A simple graph with this many edges, which can be colored: the edges join distinct nodes, and
they ascend, so that none is repeated. -/
structure Simple (nodes edges : UInt64) (graph : List Edge) : Prop where
  length : graph.length = edges.toNat
  joins : ∀ edge ∈ graph, edge.low < edge.high ∧ edge.high < nodes
  ascending : graph.Pairwise fun a b => a.low < b.low ∨ a.low = b.low ∧ a.high < b.high
  colorable : ∀ id colors minimize, colors ≠ 0 → nodes.toNat * colors.toNat ≤ UInt32.size →
    (minimize = true → colors.toNat ≤ UInt32.size) → ∃ c,
      Coloring.ofGraph id nodes (graph.map fun edge => (edge.low, edge.high)) colors minimize =
        .ok c

theorem Partial.simple {nodes edges : UInt64} {graph : Std.HashSet Edge}
    (h : Partial nodes edges.toNat graph) (full : graph.size = edges.toNat) :
    Simple nodes edges (Edge.sorted graph) := by
  have hjoins : ∀ edge ∈ Edge.sorted graph, edge.low < edge.high ∧ edge.high < nodes := by
    intro edge hedge
    obtain ⟨ordered, inside⟩ := h.joins edge (Edge.mem_sorted.mp hedge)
    exact ⟨ordered, inside⟩
  have within : Coloring.Within nodes
      ((Edge.sorted graph).map fun edge => (edge.low, edge.high)) := by
    intro pair hpair
    obtain ⟨edge, hedge, rfl⟩ := List.mem_map.mp hpair
    obtain ⟨ordered, inside⟩ := hjoins edge hedge
    exact ⟨UInt64.lt_trans ordered inside, inside⟩
  exact {
    length := (Edge.length_sorted graph).trans full
    joins := hjoins
    ascending := Edge.pairwise_sorted graph
    colorable := fun _ _ _ hcolors room marks =>
      Coloring.exists_ofGraph_iff.mpr ⟨hcolors, within, room, marks⟩ }

section

variable {σ : Type} {sample : σ → UInt64 → UInt64 × σ} {nodes edges : UInt64} {source : σ}

theorem drawn_eq_error_iff {failure : GraphError} :
    drawn sample nodes edges source = .error failure ↔
      maxEdges nodes < edges ∧ failure = .tooManyEdges nodes (maxEdges nodes) edges := by
  unfold drawn
  split
  · rename_i hmany
    simp [hmany, eq_comm]
  · rename_i hfew
    simp [hfew]

theorem drawn_eq_ok_iff {result : Option (List Edge × σ)} :
    drawn sample nodes edges source = .ok result ↔
      ¬ maxEdges nodes < edges ∧
        (collect (sample · nodes) edges.toNat (∅, source)).map
          (fun (_, graph, rest) => (Edge.sorted graph, rest)) = result := by
  unfold drawn
  split
  · rename_i hmany
    simp [hmany]
  · rename_i hfew
    simp [hfew]

theorem drawn_eq_some_iff {graph : List Edge} {rest : σ} :
    drawn sample nodes edges source = .ok (some (graph, rest)) ↔
      ¬ maxEdges nodes < edges ∧ ∃ set, Edge.sorted set = graph ∧
        collect (sample · nodes) edges.toNat (∅, source) = some ((), set, rest) := by
  rw [drawn_eq_ok_iff, Option.map_eq_some_iff]
  refine and_congr_right fun _ => ⟨?_, ?_⟩
  · rintro ⟨⟨⟨⟩, set, _⟩, hset, hpair⟩
    cases hpair
    exact ⟨set, rfl, hset⟩
  · rintro ⟨set, rfl, hset⟩
    exact ⟨_, hset, rfl⟩

theorem maxEdges_lt_iff (exact : nodes.toNat * (nodes.toNat - 1) < UInt64.size) :
    maxEdges nodes < edges ↔ nodes.toNat * (nodes.toNat - 1) / 2 < edges.toNat := by
  rw [UInt64.lt_iff_toNat_lt, toNat_maxEdges exact]

theorem nodes_ne_zero (few : ¬ maxEdges nodes < edges) (wanted : 0 < edges.toNat) : nodes ≠ 0 := by
  rintro rfl
  exact few ((maxEdges_lt_iff (by decide)).mpr wanted)

theorem simple_of_drawn (below : ∀ source bound, bound ≠ 0 → (sample source bound).1 < bound)
    {graph : List Edge} {rest : σ}
    (h : drawn sample nodes edges source = .ok (some (graph, rest))) :
    Simple nodes edges graph := by
  obtain ⟨few, set, rfl, hset⟩ := drawn_eq_some_iff.mp h
  obtain ⟨hpartial, full⟩ := Partial.collect
    (fun source wanted => below source nodes (nodes_ne_zero few wanted))
    (partial_empty nodes edges.toNat) hset
  exact hpartial.simple full

theorem drawn_eq_none_iff :
    drawn sample nodes edges source = .ok none ↔ ¬ maxEdges nodes < edges ∧
      ∀ pairs, (drawPairs (sample · nodes) pairs source ∅).1.size < edges.toNat := by
  rw [drawn_eq_ok_iff, Option.map_eq_none_iff, collect_eq_none_iff]

theorem zero_not_mem_asked (few : ¬ maxEdges nodes < edges) {pairs : Nat}
    (h : Draws (sample · nodes) edges.toNat source ∅ pairs) :
    0 ∉ (drawPairs (recording sample · nodes) pairs (source, []) ∅).2.2 := by
  rw [drawPairs_recording, List.append_nil]
  intro hzero
  obtain ⟨hpairs, hnodes⟩ := List.mem_replicate.mp hzero
  have wanted := wanted_pos_of_draws h (by omega)
  exact nodes_ne_zero few wanted hnodes.symm

theorem drawn_recording {graph : List Edge} {rest : σ}
    (h : drawn sample nodes edges source = .ok (some (graph, rest))) :
    ∃ asked, drawn (recording sample) nodes edges (source, []) =
      .ok (some (graph, rest, asked)) ∧ 0 ∉ asked := by
  obtain ⟨few, set, hgraph, hset⟩ := drawn_eq_some_iff.mp h
  obtain ⟨pairs, hdraws, hpairs, enough⟩ := collect_eq_some_iff.mp hset
  have hlog := drawPairs_recording sample nodes pairs source [] ∅
  rw [hpairs] at hlog
  have hnone := zero_not_mem_asked few hdraws
  rw [hlog] at hnone
  exact ⟨_, drawn_eq_some_iff.mpr ⟨few, set, hgraph,
    collect_eq_some_iff.mpr ⟨pairs, draws_recording.mpr hdraws, hlog, enough⟩⟩, hnone⟩

end

theorem random_eq_ok_iff {nodes edges seed : UInt64} {graph : List Edge} :
    random nodes edges seed = .ok graph ↔
      ∃ rest, drawn Random.below nodes edges (.ofSeed seed) = .ok (some (graph, rest)) := by
  unfold random
  split <;> rename_i hdrawn <;> simp [hdrawn]

theorem random_eq_error_iff {nodes edges seed : UInt64} {failure : GraphError} :
    random nodes edges seed = .error failure ↔
      (maxEdges nodes < edges ∧ failure = .tooManyEdges nodes (maxEdges nodes) edges) ∨
        (drawn Random.below nodes edges (.ofSeed seed) = .ok none ∧ failure = .neverEnough) := by
  rw [← @drawn_eq_error_iff _ Random.below nodes edges (.ofSeed seed) failure]
  unfold random
  split <;> rename_i hdrawn <;> simp [hdrawn, eq_comm]

/-- A random graph is refused exactly where there are fewer pairs of nodes than edges are asked for.
Otherwise pairs are drawn without ever asking for a number below 0, and they are drawn forever only
if they never give enough edges; a graph that is complete is simple and has as many edges as were
asked for.  This holds of every source of numbers below a bound, and the streams of all seeds are
such sources. -/
theorem drawn_graphs_are_simple {σ : Type} {sample : σ → UInt64 → UInt64 × σ}
    (below : ∀ source bound, bound ≠ 0 → (sample source bound).1 < bound) {nodes edges : UInt64}
    (exact : nodes.toNat * (nodes.toNat - 1) < UInt64.size) (source : σ) (seed : UInt64) :
    ((∃ failure, drawn sample nodes edges source = .error failure) ↔
        nodes.toNat * (nodes.toNat - 1) / 2 < edges.toNat) ∧
      (drawn sample nodes edges source = .ok none ↔
        edges.toNat ≤ nodes.toNat * (nodes.toNat - 1) / 2 ∧
          ∀ pairs, (drawPairs (sample · nodes) pairs source ∅).1.size < edges.toNat) ∧
      (∀ pairs, edges.toNat ≤ nodes.toNat * (nodes.toNat - 1) / 2 →
        Draws (sample · nodes) edges.toNat source ∅ pairs →
          0 ∉ (drawPairs (recording sample · nodes) pairs (source, []) ∅).2.2) ∧
      (∀ graph rest, drawn sample nodes edges source = .ok (some (graph, rest)) →
        Simple nodes edges graph ∧
          ∃ asked, drawn (recording sample) nodes edges (source, []) =
            .ok (some (graph, rest, asked)) ∧ 0 ∉ asked) ∧
      (∀ failure, random nodes edges seed = .error failure ↔
        (nodes.toNat * (nodes.toNat - 1) / 2 < edges.toNat ∧
          failure = .tooManyEdges nodes (maxEdges nodes) edges) ∨
        (drawn Random.below nodes edges (.ofSeed seed) = .ok none ∧ failure = .neverEnough)) ∧
      (∀ graph, random nodes edges seed = .ok graph ↔
        ∃ rest, drawn Random.below nodes edges (.ofSeed seed) = .ok (some (graph, rest))) ∧
      ∀ graph, random nodes edges seed = .ok graph → Simple nodes edges graph := by
  rw [← Nat.not_lt, ← maxEdges_lt_iff exact]
  refine ⟨by simp [drawn_eq_error_iff], drawn_eq_none_iff,
    fun _ few => zero_not_mem_asked few,
    fun _ _ hgraph => ⟨simple_of_drawn below hgraph, drawn_recording hgraph⟩,
    fun _ => random_eq_error_iff, fun _ => random_eq_ok_iff, fun graph hgraph => ?_⟩
  obtain ⟨rest, hdrawn⟩ := random_eq_ok_iff.mp hgraph
  exact simple_of_drawn (fun s _ => Random.below_lt s) hdrawn

/-- Gives the numbers below the bound in turns. -/
def circling (place bound : UInt64) : UInt64 × UInt64 := (place % bound, place + 1)

theorem circling_below (place bound : UInt64) (h : bound ≠ 0) : (circling place bound).1 < bound :=
  UInt64.mod_lt _ (UInt64.pos_iff_ne_zero.mpr h)

theorem collect_of_draw {σ : Type} {draw : σ → UInt64 × σ} {wanted : Nat} {source : σ}
    {edges : Std.HashSet Edge} (a b : UInt64) (missing : edges.size < wanted)
    (first : (draw source).1 = a) (second : (draw (draw source).2).1 = b) :
    collect draw wanted (edges, source) = collect draw wanted
      (if a = b then edges else edges.insert (.between a b), (draw (draw source).2).2) := by
  subst first second
  exact collect_of_missing missing

/-- Three nodes in turns give two edges with four numbers.  The stream of seed 3 draws the first
edge twice. -/
theorem circling_simple :
    (∃ graph asked, drawn circling 3 2 0 = .ok (some (graph, 4)) ∧
      drawn (recording circling) 3 2 (0, []) = .ok (some (graph, 4, asked)) ∧ 0 ∉ asked ∧
      Simple 3 2 graph) ∧
    (∃ graph, random 3 2 3 = .ok graph ∧ Simple 3 2 graph) ∧
    random 3 4 3 = .error (.tooManyEdges 3 3 4) := by
  have exact : (3 : UInt64).toNat * ((3 : UInt64).toNat - 1) < UInt64.size := by decide
  have h01 : Edge.between 0 1 = ⟨0, 1⟩ := rfl
  have h10 : Edge.between 1 0 = ⟨0, 1⟩ := rfl
  have h20 : Edge.between 2 0 = ⟨0, 2⟩ := rfl
  refine ⟨?_, ?_, ?_⟩
  · have hcollected : ∃ set, collect (circling · 3) 2 (∅, 0) = some ((), set, 4) := by
      rw [collect_of_draw 0 1 (by simp) rfl rfl,
        collect_of_draw 2 0 (by simp [Std.HashSet.size_insert]) rfl rfl,
        collect, if_pos (by simp [Std.HashSet.size_insert, h01, h20])]
      exact ⟨_, rfl⟩
    obtain ⟨set, hset⟩ := hcollected
    have hdrawn : drawn circling 3 2 0 = .ok (some (Edge.sorted set, 4)) :=
      drawn_eq_some_iff.mpr ⟨by decide, set, rfl, hset⟩
    obtain ⟨-, -, -, hgraph, -⟩ := @drawn_graphs_are_simple _ _ circling_below 3 2 exact 0 3
    obtain ⟨hsimple, asked, hlog, hzero⟩ := hgraph _ _ hdrawn
    exact ⟨_, asked, hdrawn, hlog, hzero, hsimple⟩
  · have hcollected : ∃ set rest,
        collect (Random.below · 3) 2 (∅, .ofSeed 3) = some ((), set, rest) := by
      rw [collect_of_draw 0 1 (by simp) (by decide +kernel) (by decide +kernel),
        collect_of_draw 1 0 (by simp [Std.HashSet.size_insert]) (by decide +kernel)
          (by decide +kernel),
        collect_of_draw 2 0 (by simp [Std.HashSet.size_insert, h01, h10]) (by decide +kernel)
          (by decide +kernel),
        collect, if_pos (by simp [Std.HashSet.size_insert, h01, h10, h20])]
      exact ⟨_, _, rfl⟩
    obtain ⟨set, rest, hset⟩ := hcollected
    have hdrawn := drawn_eq_some_iff.mpr
      ⟨show ¬ maxEdges 3 < 2 by decide, set, rfl, hset⟩
    obtain ⟨-, -, -, -, -, hok, hsimple⟩ :=
      @drawn_graphs_are_simple _ _ circling_below 3 2 exact 0 3
    have hrandom := (hok _).mpr ⟨rest, hdrawn⟩
    exact ⟨_, hrandom, hsimple _ hrandom⟩
  · obtain ⟨-, -, -, -, herror, -⟩ :=
      @drawn_graphs_are_simple _ _ circling_below 3 4 exact 0 3
    exact (herror _).mpr (.inl ⟨by decide, rfl⟩)

end Graph

end Clausal

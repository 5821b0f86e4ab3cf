import Mathlib.Data.Nat.Choose.Basic
import Clausal.Formula.Dimacs
import Clausal.Proofs.Coloring.Correctness
import Clausal.Proofs.Numbering.Counting

/-!
# The counts and numbers of a coloring encoding

How many clauses and literals the encoding of a graph has follows from the sizes of the graph
alone.  The nodes fetch their literals row by row, and nothing fetches a new literal later than
the marks of the colors.  So the order of registration is the sorted order, and the number of a
literal is its place in row-major order, whatever the edges are.
-/

namespace Clausal

namespace Numbering

/-- The literal of the family at these coordinates has this number. -/
def Gives {φ γ : Type} [Family φ γ] (n : Numbering) (family : φ) (coords : γ) (number : Nat) :
    Prop :=
  ∃ index next value, Family.indexOf family coords = .ok (index, next) ∧
    n.valueOf (.ofAtom ⟨Family.var family, index⟩) = .ok value ∧ value.toInt = number

theorem Counts.gives {φ γ : Type} [Family φ γ] {n : Numbering} {family next : φ} {coords : γ}
    {index : UInt32} {count number : Nat} (found : Family.indexOf family coords = .ok (index, next))
    (h : n.Counts (.ofAtom ⟨Family.var family, index⟩) count) (hnumber : count + 1 = number) :
    n.Gives family coords number := by
  obtain ⟨value, hvalue, hcount⟩ := h
  exact ⟨index, next, value, found, hvalue, by omega⟩

/-- An atom's number tells how many atoms come before it in the order of the keys. -/
theorem counts_of_atoms_split {e : Encoding} {n : Numbering} {order : NumberingOrder}
    (h : e.Consistent) (room : e.registeredCount ≤ capacity) (made : ofEncoding e order = .ok n)
    {front back : List Atom} {literal : Literal}
    (split : (keysInOrder e order).map Literal.atom = front ++ literal.atom :: back) :
    n.Counts literal front.length := by
  obtain ⟨before, rest, hkeys, rfl, hrest⟩ := List.map_eq_append_iff.mp split
  obtain ⟨key, after, rfl, same, -⟩ := List.map_eq_cons_iff.mp hrest
  rw [List.length_map]
  exact counts_of_split h room made hkeys same.symm

end Numbering

/-- The text of an encoding whose literals are numbered in this order. -/
def Encoding.dimacs (e : Encoding) (order : NumberingOrder) (format : Format) :
    Except EncodingError String := do
  let n ← Numbering.ofEncoding e order
  let f ← Formula.ofEncoding e n
  f.dimacs format

namespace Coloring

/-! ## How many clauses -/

theorem length_exclusions (literals : List Literal) :
    (exclusions literals).length = literals.length.choose 2 := by
  induction literals with
  | nil => rfl
  | cons literal rest ih =>
      rw [exclusions, List.length_append, List.length_map, ih, List.length_cons,
        Nat.choose_succ_succ', Nat.choose_one_right]

theorem length_nodeClauses (color : Grid) (colors node : UInt64) :
    (nodeClauses color colors node).length = 1 + colors.toNat * (colors.toNat - 1) / 2 := by
  have hchoices : (choices color colors node).length = colors.toNat := by simp [choices]
  rw [nodeClauses, List.length_cons, List.length_map, length_exclusions, hchoices,
    Nat.choose_two_right, Nat.add_comm]

section

variable {edges : List (UInt64 × UInt64)} {c : Coloring} (h : Laid edges c)

include h

theorem Laid.hardCount :
    c.encoding.hard.size =
      c.nodes.toNat * (1 + c.colors.toNat * (c.colors.toNat - 1) / 2) +
        edges.length * c.colors.toNat +
        if c.minimizes then c.nodes.toNat * c.colors.toNat else 0 := by
  have hnodes : ((upTo c.nodes).flatMap (nodeClauses c.color c.colors)).length =
      c.nodes.toNat * (1 + c.colors.toNat * (c.colors.toNat - 1) / 2) := by
    simp [List.length_flatMap, length_nodeClauses]
  have hedges : (edges.flatMap (edgeClauses c.color c.colors)).length =
      edges.length * c.colors.toNat := by
    simp [List.length_flatMap, edgeClauses]
  have hlinks : c.linkClauses.length =
      if c.minimizes then c.nodes.toNat * c.colors.toNat else 0 := by
    rw [linkClauses, minimizes]
    cases c.used with
    | none => rfl
    | some used => simp [List.length_flatMap, useClauses, Nat.mul_comm]
  rw [← ClauseList.length_toList, h.hard, List.length_append, List.length_append, hnodes, hedges,
    hlinks, Nat.add_assoc]

theorem Laid.softCount :
    c.encoding.soft.size = if c.minimizes then c.colors.toNat else 0 := by
  rw [← ClauseList.length_toList, h.soft, prices, minimizes]
  cases c.used with
  | none => rfl
  | some used => simp

theorem Laid.softCost {clause : Clause Literal} (hclause : clause ∈ c.encoding.soft.toList) :
    clause.cost = 1 := by
  rw [h.soft, prices] at hclause
  cases hused : c.used with
  | none =>
      rw [hused] at hclause
      cases hclause
  | some used =>
      rw [hused] at hclause
      obtain ⟨k, -, rfl⟩ := List.mem_map.mp hclause
      rfl

/-! ## The registered atoms in their order -/

omit h in
theorem pairwise_upTo (n : UInt64) : (upTo n).Pairwise (· < ·) := by
  rw [upTo, List.pairwise_map]
  refine List.pairwise_lt_range.imp_of_mem fun {i j} hi hj hij => ?_
  have hi' := Nat.lt_trans (List.mem_range.mp hi) n.toNat_lt
  have hj' := Nat.lt_trans (List.mem_range.mp hj) n.toNat_lt
  rw [UInt64.lt_iff_toNat_lt, UInt64.toNat_ofNat_of_lt' hi', UInt64.toNat_ofNat_of_lt' hj']
  exact hij

theorem Laid.before_atoms : c.atoms.Pairwise Atom.Before := by
  have hindex : ∀ node < c.nodes, ∀ k < c.colors,
      (c.color.cell node k).atom.index.toNat = node.toNat * c.colors.toNat + k.toNat := by
    intro node hn k hk
    rw [← h.columns]
    exact UInt32.toNat_ofNat_of_lt' (h.fits node hn k hk).index
  have hnodes : ((upTo c.nodes).flatMap (choiceAtoms c.color c.colors)).Pairwise Atom.Before := by
    rw [List.pairwise_flatMap]
    constructor
    · intro node hnode
      rw [choiceAtoms, List.pairwise_map]
      refine (pairwise_upTo c.colors).imp_of_mem fun {j k} hj hk hlt => ?_
      have hn := mem_upTo.mp hnode
      refine Atom.before_iff.mpr (.inr ⟨rfl, ?_⟩)
      rw [hindex node hn j (mem_upTo.mp hj), hindex node hn k (mem_upTo.mp hk)]
      exact Nat.add_lt_add_left hlt _
    · refine (pairwise_upTo c.nodes).imp_of_mem fun {a b} ha hb hlt => ?_
      intro first hfirst second hsecond
      obtain ⟨j, hj, rfl⟩ := List.mem_map.mp hfirst
      obtain ⟨k, hk, rfl⟩ := List.mem_map.mp hsecond
      have hcolumn : j.toNat < c.colors.toNat := mem_upTo.mp hj
      have hrows : (a.toNat + 1) * c.colors.toNat ≤ b.toNat * c.colors.toNat :=
        Nat.mul_le_mul_right _ hlt
      refine Atom.before_iff.mpr (.inr ⟨rfl, ?_⟩)
      rw [hindex a (mem_upTo.mp ha) j (mem_upTo.mp hj),
        hindex b (mem_upTo.mp hb) k (mem_upTo.mp hk)]
      rw [Nat.succ_mul] at hrows
      omega
  rw [atoms]
  cases hused : c.used with
  | none => simpa using hnodes
  | some used =>
      refine List.pairwise_append.mpr ⟨hnodes, ?_, ?_⟩
      · rw [List.pairwise_map]
        refine (pairwise_upTo c.colors).imp_of_mem fun {j k} hj hk hlt => ?_
        have hfirst := (h.usedFits used hused j (mem_upTo.mp hj)).index
        have hsecond := (h.usedFits used hused k (mem_upTo.mp hk)).index
        refine Atom.before_iff.mpr (.inr ⟨rfl, ?_⟩)
        simp only [Line.cell, Literal.ofAtom, UInt32.toNat_ofNat_of_lt' hfirst,
          UInt32.toNat_ofNat_of_lt' hsecond]
        exact Nat.add_lt_add_left hlt _
      · intro first hfirst second hsecond
        obtain ⟨node, -, hatom⟩ := List.mem_flatMap.mp hfirst
        obtain ⟨j, -, rfl⟩ := List.mem_map.mp hatom
        obtain ⟨k, -, rfl⟩ := List.mem_map.mp hsecond
        exact Atom.before_iff.mpr (.inl (h.order used hused))

omit h in
theorem mem_choiceAtoms {node k : UInt64} (hn : node < c.nodes) (hk : k < c.colors) :
    (c.color.cell node k).atom ∈ (upTo c.nodes).flatMap (choiceAtoms c.color c.colors) :=
  List.mem_flatMap.mpr ⟨node, mem_upTo.mpr hn, List.mem_map.mpr ⟨k, mem_upTo.mpr hk, rfl⟩⟩

theorem Laid.removeAll_edgeAtoms :
    (edges.flatMap (edgeAtoms c.color c.colors)).removeAll
      ((upTo c.nodes).flatMap (choiceAtoms c.color c.colors)) = [] := by
  refine List.filter_eq_nil_iff.mpr fun atom hatom => ?_
  obtain ⟨edge, hedge, hatom⟩ := List.mem_flatMap.mp hatom
  obtain ⟨k, hk, hatom⟩ := List.mem_flatMap.mp hatom
  obtain ⟨hleft, hright⟩ := h.within edge hedge
  rcases List.mem_pair.mp hatom with rfl | rfl
  · simpa using mem_choiceAtoms hleft (mem_upTo.mp hk)
  · simpa using mem_choiceAtoms hright (mem_upTo.mp hk)

theorem Laid.removeAll_useAtoms {used : Line} (hused : c.used = some used) {k : UInt64}
    (hk : k < c.colors) :
    (useAtoms c.color used c.nodes k).removeAll
      ((upTo c.nodes).flatMap (choiceAtoms c.color c.colors)) = [(used.cell k).atom] := by
  have hmark : (used.cell k).atom ∉ (upTo c.nodes).flatMap (choiceAtoms c.color c.colors) := by
    intro hmem
    obtain ⟨node, -, hmem⟩ := List.mem_flatMap.mp hmem
    obtain ⟨j, -, heq⟩ := List.mem_map.mp hmem
    exact h.apart used hused (congrArg Atom.var heq).symm
  have hnodes : ((upTo c.nodes).map fun node => (c.color.cell node k).atom).removeAll
      ((upTo c.nodes).flatMap (choiceAtoms c.color c.colors)) = [] := by
    refine List.filter_eq_nil_iff.mpr fun atom hatom => ?_
    obtain ⟨node, hn, rfl⟩ := List.mem_map.mp hatom
    simpa using mem_choiceAtoms (mem_upTo.mp hn) hk
  rw [useAtoms, List.cons_removeAll, hnodes, if_pos (by simpa using hmark)]

/-- Only the first fetches count: those of the nodes, then those of the marks. -/
theorem Laid.eraseDups_fetched : (c.fetched edges).eraseDups = c.atoms := by
  have unique := h.nodup_atoms
  rw [atoms, List.nodup_append] at unique
  refine eraseDups_append_of_nodup unique.1 ?_ unique.2.1
  rw [List.removeAll, List.filter_append]
  refine (congrArg₂ _ h.removeAll_edgeAtoms rfl).trans ?_
  rw [List.nil_append, linkAtoms]
  cases hused : c.used with
  | none => rfl
  | some used =>
      rw [List.filter_flatMap]
      have hlinks : ∀ k ∈ upTo c.colors, _ = [(used.cell k).atom] :=
        fun k hk => h.removeAll_useAtoms hused (mem_upTo.mp hk)
      exact (List.flatMap_congr hlinks).trans List.map_eq_flatMap.symm

theorem Laid.atomsOf (var : Nat) :
    c.encoding.atomsOf var = c.atoms.filter fun atom => atom.var.val = var := by
  rw [h.lists, h.eraseDups_fetched]

theorem Laid.before_registered :
    (c.encoding.registered.flatten.map Literal.atom).Pairwise Atom.Before := by
  have hatoms : ∀ (var : Nat) (hvar : var < c.encoding.registered.length),
      (c.encoding.registered[var]).map Literal.atom = c.encoding.atomsOf var := by
    intro var hvar
    rw [Encoding.atomsOf, List.getElem?_eq_getElem hvar, Option.getD_some]
  rw [List.map_flatten, List.pairwise_flatten]
  constructor
  · intro atoms hmem
    obtain ⟨literals, hliterals, rfl⟩ := List.mem_map.mp hmem
    obtain ⟨var, hvar, rfl⟩ := List.getElem_of_mem hliterals
    rw [hatoms var hvar, h.atomsOf]
    exact h.before_atoms.filter _
  · rw [List.pairwise_map, List.pairwise_iff_getElem]
    intro i j hi hj hlt first hfirst second hsecond
    rw [hatoms i hi] at hfirst
    rw [hatoms j hj] at hsecond
    refine Atom.before_iff.mpr (.inl ?_)
    rwa [h.consistent.var_of_mem_atomsOf hfirst, h.consistent.var_of_mem_atomsOf hsecond]

theorem Laid.atoms_registered : c.encoding.registered.flatten.map Literal.atom = c.atoms :=
  h.perm_atoms.eq_of_pairwise (fun _ _ _ _ hab hba => absurd hba hab.asymm) h.before_registered
    h.before_atoms

theorem Laid.keysInOrder_eq (order : NumberingOrder) :
    Numbering.keysInOrder c.encoding order = c.encoding.registered.flatten := by
  cases order with
  | registration => rfl
  | sorted =>
      refine List.mergeSort_of_pairwise ((List.pairwise_map.mp h.before_registered).imp ?_)
      intro a b hab
      exact Atom.le_iff.mpr ((Atom.before_iff.mp hab).imp_right fun hb => ⟨hb.1, Nat.le_of_lt hb.2⟩)

omit h in
theorem upTo_split {i n : UInt64} (hlt : i < n) : ∃ rest, upTo n = upTo i ++ i :: rest := by
  obtain ⟨more, hmore⟩ := Nat.exists_eq_add_of_lt (UInt64.lt_iff_toNat_lt.mp hlt)
  rw [Nat.add_assoc] at hmore
  apply Exists.intro
  rw [upTo, hmore, List.range_add, List.map_append, List.range_succ_eq_map, List.map_cons,
    List.map_cons, Nat.add_zero, UInt64.ofNat_toNat]
  rfl

omit h in
/-- The atom of a node and color stands behind the rows of the smaller nodes and the smaller
colors of its own. -/
theorem exists_atoms_split_cell {node k : UInt64} (hn : node < c.nodes) (hk : k < c.colors) :
    ∃ front back, c.atoms = front ++ (c.color.cell node k).atom :: back ∧
      front.length = node.toNat * c.colors.toNat + k.toNat := by
  obtain ⟨nodes, hnodes⟩ := upTo_split hn
  obtain ⟨colors, hcolors⟩ := upTo_split hk
  have hrow : choiceAtoms c.color c.colors node =
      ((upTo k).map fun j => (c.color.cell node j).atom) ++
        (c.color.cell node k).atom :: colors.map fun j => (c.color.cell node j).atom := by
    rw [choiceAtoms, hcolors, List.map_append, List.map_cons]
  have split : ∃ back, c.atoms = ((upTo node).flatMap (choiceAtoms c.color c.colors) ++
      (upTo k).map fun j => (c.color.cell node j).atom) ++ (c.color.cell node k).atom :: back := by
    apply Exists.intro
    rw [atoms, hnodes, List.flatMap_append, List.flatMap_cons, hrow]
    simp only [List.append_assoc, List.cons_append]
    rfl
  obtain ⟨back, hback⟩ := split
  exact ⟨_, back, hback, by simp [List.length_flatMap, choiceAtoms]⟩

omit h in
theorem exists_atoms_split_mark {used : Line} (hused : c.used = some used) {k : UInt64}
    (hk : k < c.colors) :
    ∃ front back, c.atoms = front ++ (used.cell k).atom :: back ∧
      front.length = c.nodes.toNat * c.colors.toNat + k.toNat := by
  obtain ⟨colors, hcolors⟩ := upTo_split hk
  refine ⟨(upTo c.nodes).flatMap (choiceAtoms c.color c.colors) ++
    (upTo k).map fun j => (used.cell j).atom, colors.map fun j => (used.cell j).atom, ?_, ?_⟩
  · rw [atoms, hused, hcolors]
    simp
  · simp [List.length_flatMap, choiceAtoms]

end

/-- The sizes of the graph determine how many clauses and literals its encoding has.  Where the
literals can be numbered at all, both orders give the numbering in row-major order: the nodes with
their colors, then the marks. -/
theorem numbered_in_rows {id : EncodingId} {nodes colors : UInt64}
    {edges : List (UInt64 × UInt64)} {minimize : Bool} {c : Coloring}
    (h : ofGraph id nodes edges colors minimize = .ok c) :
    c.minimizes = minimize ∧
      c.encoding.hard.size =
        nodes.toNat * (1 + colors.toNat * (colors.toNat - 1) / 2) + edges.length * colors.toNat +
          (if minimize then nodes.toNat * colors.toNat else 0) ∧
      c.encoding.soft.size = (if minimize then colors.toNat else 0) ∧
      (∀ clause ∈ c.encoding.soft.toList, clause.cost = 1) ∧
      c.encoding.registeredCount =
        nodes.toNat * colors.toNat + (if minimize then colors.toNat else 0) ∧
      (c.encoding.registeredCount ≤ Numbering.capacity → ∃ n f,
        (∀ order, Numbering.ofEncoding c.encoding order = .ok n) ∧
        Formula.ofEncoding c.encoding n = .ok f ∧
        (∀ node < nodes, ∀ k < colors,
          n.Gives c.color (node, k) (node.toNat * colors.toNat + k.toNat + 1)) ∧
        (∀ used, c.used = some used → ∀ k < colors,
          n.Gives used k (nodes.toNat * colors.toNat + k.toNat + 1)) ∧
        ∀ order format, c.encoding.dimacs order format = f.dimacs format) := by
  obtain ⟨hlaid, rfl, rfl, rfl⟩ := ofGraph_laid h
  refine ⟨rfl, hlaid.hardCount, hlaid.softCount, fun _ => hlaid.softCost, ?_, fun room => ?_⟩
  · rw [hlaid.registeredCount, length_atoms]
  obtain ⟨n, f, made, -, hf⟩ := Formula.exists_translation hlaid.consistent room .registration
  have alike : ∀ order, Numbering.ofEncoding c.encoding order = .ok n := by
    intro order
    rwa [Numbering.ofEncoding, hlaid.keysInOrder_eq]
  have hcounts : ∀ {literal : Literal} {front back : List Atom},
      c.atoms = front ++ literal.atom :: back → n.Counts literal front.length := fun split =>
    Numbering.counts_of_atoms_split hlaid.consistent room made (hlaid.atoms_registered.trans split)
  refine ⟨n, f, alike, hf, fun node hn k hk => ?_, fun used hused k hk => ?_,
    fun order format => ?_⟩
  · obtain ⟨front, back, split, hlength⟩ := exists_atoms_split_cell hn hk
    have hindex := Grid.indexOf_eq_ok hlaid.plain (hlaid.fits node hn k hk)
    exact (hcounts split).gives (map_eq_ok_iff.mpr ⟨_, hindex, rfl⟩) (congrArg (· + 1) hlength)
  · obtain ⟨front, back, split, hlength⟩ := exists_atoms_split_mark hused hk
    have hindex := Line.indexOf_eq_ok (hlaid.usedFits used hused k hk)
    exact (hcounts split).gives (map_eq_ok_iff.mpr ⟨_, hindex, rfl⟩) (congrArg (· + 1) hlength)
  · rw [Encoding.dimacs, alike]
    simp only [bind, Except.bind, hf]

/-- The last color of the second of three nodes has number 6, and the marks follow after 9. -/
theorem triangle_numbered :
    ∃ c used n, ofGraph 0 3 triangle 3 true = .ok c ∧ c.encoding.hard.size = 30 ∧
      c.encoding.soft.size = 3 ∧ c.encoding.registeredCount = 12 ∧
      (∀ order, Numbering.ofEncoding c.encoding order = .ok n) ∧ n.Gives c.color (1, 2) 6 ∧
      c.used = some used ∧ n.Gives used (0 : UInt64) 10 := by
  obtain ⟨c, hc, room⟩ := triangle_exists true
  obtain ⟨hminimizes, hhard, hsoft, -, hcount, hnumbers⟩ := numbered_in_rows hc
  obtain ⟨n, f, hn, -, hcells, hmarks, -⟩ := hnumbers room
  obtain ⟨used, hused⟩ := Option.isSome_iff_exists.mp hminimizes
  exact ⟨c, used, n, hc, hhard, hsoft, hcount, hn, hcells 1 (by decide) 2 (by decide), hused,
    hmarks used hused 0 (by decide)⟩

end Coloring

end Clausal

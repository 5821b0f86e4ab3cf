import Mathlib.Data.List.Nodup
import Clausal.Coloring
import Clausal.Proofs.Family.Placement

/-!
# The clauses of a coloring encoding

Whenever the encoding of a graph can be built, its clauses are known in closed form: the nodes
in order with their exclusions, then the edges with one conflict for each color, then for each
color the nodes that make it used.  Each step of the construction appends its own part, and has
checked that the indices of its literals have 32 bits.
-/

namespace Clausal

namespace Coloring

open Encoding (Extends)

/-! ## Ranges of words -/

@[simp] theorem mem_upTo {n k : UInt64} : k ∈ upTo n ↔ k < n := by
  simp only [upTo, List.mem_map, List.mem_range, UInt64.lt_iff_toNat_lt]
  constructor
  · rintro ⟨i, hi, rfl⟩
    rwa [UInt64.toNat_ofNat_of_lt' (Nat.lt_trans hi n.toNat_lt)]
  · intro h
    exact ⟨k.toNat, h, UInt64.ofNat_toNat⟩

@[simp] theorem length_upTo (n : UInt64) : (upTo n).length = n.toNat := by
  simp [upTo]

theorem nodup_upTo (n : UInt64) : (upTo n).Nodup := by
  refine List.nodup_range.map_on ?_
  intro i hi j hj hij
  have hi' := Nat.lt_trans (List.mem_range.mp hi) n.toNat_lt
  have hj' := Nat.lt_trans (List.mem_range.mp hj) n.toNat_lt
  rw [← UInt64.toNat_ofNat_of_lt' hi', hij, UInt64.toNat_ofNat_of_lt' hj']

/-! ## The clauses in closed form -/

/-- The literals of one node, by color. -/
def choices (color : Grid) (colors node : UInt64) : List Literal :=
  (upTo colors).map fun c => (color.cell node c).named "color" [node, c]

def nodeClauses (color : Grid) (colors node : UInt64) : List (Clause Literal) :=
  .hard (choices color colors node) :: (exclusions (choices color colors node)).map .hard

def conflict (color : Grid) (a b c : UInt64) : Clause Literal :=
  .hard [(color.cell a c).neg, (color.cell b c).neg]

def edgeClauses (color : Grid) (colors : UInt64) (edge : UInt64 × UInt64) :
    List (Clause Literal) :=
  (upTo colors).map (conflict color edge.1 edge.2)

/-- The literal that tells whether a color is used. -/
def mark (used : Line) (c : UInt64) : Literal := (used.cell c).named "used" [c]

def useClauses (color : Grid) (used : Line) (nodes c : UInt64) : List (Clause Literal) :=
  (upTo nodes).map fun node => .hard [(color.cell node c).neg, mark used c]

def price (used : Line) (c : UInt64) : Clause Literal := .soft 1 [(mark used c).neg]

/-- The clauses that tell which colors are used; none where their number is not minimized. -/
def linkClauses (c : Coloring) : List (Clause Literal) :=
  match c.used with
  | none => []
  | some used => (upTo c.colors).flatMap (useClauses c.color used c.nodes)

def prices (c : Coloring) : List (Clause Literal) :=
  match c.used with
  | none => []
  | some used => (upTo c.colors).map (price used)

/-- The atoms of a node, by color. -/
def choiceAtoms (color : Grid) (colors node : UInt64) : List Atom :=
  (upTo colors).map fun c => (color.cell node c).atom

/-- The atoms of all nodes, and of the colors where their number is minimized. -/
def atoms (c : Coloring) : List Atom :=
  (upTo c.nodes).flatMap (choiceAtoms c.color c.colors) ++
    match c.used with
    | none => []
    | some used => (upTo c.colors).map fun k => (used.cell k).atom

theorem mem_atoms {c : Coloring} {atom : Atom} :
    atom ∈ c.atoms ↔
      (∃ node < c.nodes, ∃ k < c.colors, atom = (c.color.cell node k).atom) ∨
        ∃ used, c.used = some used ∧ ∃ k < c.colors, atom = (used.cell k).atom := by
  have hmarks : (atom ∈ match c.used with
      | none => []
      | some used => (upTo c.colors).map fun k => (used.cell k).atom) ↔
      ∃ used, c.used = some used ∧ ∃ k < c.colors, atom = (used.cell k).atom := by
    cases c.used with
    | none => simp
    | some used => simp [eq_comm]
  rw [atoms, List.mem_append, hmarks]
  simp [choiceAtoms, eq_comm]

/-! ## The atoms in the order of their fetches -/

/-- The atoms of the two ends of an edge, by color. -/
def edgeAtoms (color : Grid) (colors : UInt64) (edge : UInt64 × UInt64) : List Atom :=
  (upTo colors).flatMap fun c => [(color.cell edge.1 c).atom, (color.cell edge.2 c).atom]

/-- The mark of a color, and the atoms of the nodes that may take it. -/
def useAtoms (color : Grid) (used : Line) (nodes c : UInt64) : List Atom :=
  (used.cell c).atom :: (upTo nodes).map fun node => (color.cell node c).atom

def linkAtoms (c : Coloring) : List Atom :=
  match c.used with
  | none => []
  | some used => (upTo c.colors).flatMap (useAtoms c.color used c.nodes)

/-- Every atom as often as the construction fetches it. -/
def fetched (c : Coloring) (edges : List (UInt64 × UInt64)) : List Atom :=
  (upTo c.nodes).flatMap (choiceAtoms c.color c.colors) ++
    (edges.flatMap (edgeAtoms c.color c.colors) ++ c.linkAtoms)

theorem mem_linkAtoms {c : Coloring} {atom : Atom} :
    atom ∈ c.linkAtoms ↔ ∃ used, c.used = some used ∧ ∃ k < c.colors,
      atom = (used.cell k).atom ∨ ∃ node < c.nodes, atom = (c.color.cell node k).atom := by
  unfold linkAtoms
  cases c.used with
  | none => simp
  | some used => simp [useAtoms, eq_comm]

/-- Both ends of every edge are nodes. -/
def Within (nodes : UInt64) (edges : List (UInt64 × UInt64)) : Prop :=
  ∀ edge ∈ edges, edge.1 < nodes ∧ edge.2 < nodes

theorem mem_fetched {c : Coloring} {edges : List (UInt64 × UInt64)}
    (within : Within c.nodes edges) {atom : Atom} :
    atom ∈ c.fetched edges ↔ atom ∈ c.atoms := by
  rw [mem_atoms, fetched, List.mem_append, List.mem_append, mem_linkAtoms]
  simp only [List.mem_flatMap, choiceAtoms, edgeAtoms, List.mem_map, mem_upTo, List.mem_cons,
    List.not_mem_nil, or_false]
  constructor
  · rintro (⟨node, hn, k, hk, hatom⟩ | ⟨edge, hedge, k, hk, hatom⟩ |
      ⟨line, hsome, k, hk, hatom | ⟨node, hn, hatom⟩⟩)
    · exact .inl ⟨node, hn, k, hk, hatom.symm⟩
    · rcases hatom with hatom | hatom
      · exact .inl ⟨edge.1, (within edge hedge).1, k, hk, hatom⟩
      · exact .inl ⟨edge.2, (within edge hedge).2, k, hk, hatom⟩
    · exact .inr ⟨line, hsome, k, hk, hatom⟩
    · exact .inl ⟨node, hn, k, hk, hatom⟩
  · rintro (⟨node, hn, k, hk, hatom⟩ | ⟨line, hsome, k, hk, hatom⟩)
    · exact .inl ⟨node, hn, k, hk, hatom.symm⟩
    · exact .inr (.inr ⟨line, hsome, k, hk, .inl hatom⟩)

/-- The encoding of a coloring problem, as it is laid out for these edges. -/
structure Laid (edges : List (UInt64 × UInt64)) (c : Coloring) : Prop where
  consistent : c.encoding.Consistent
  plain : c.color.symmetric = false
  columns : c.color.columns = c.colors
  fits : ∀ node < c.nodes, ∀ k < c.colors, c.color.Fits node k
  order : ∀ used, c.used = some used → c.color.var.val < used.var.val
  usedFits : ∀ used, c.used = some used → ∀ k < c.colors, used.Fits k
  within : Within c.nodes edges
  registered : ∀ literal, c.encoding.isRegistered literal = true ↔ literal.atom ∈ c.atoms
  lists : c.encoding.Lists (c.fetched edges)
  hard : c.encoding.hard.toList = (upTo c.nodes).flatMap (nodeClauses c.color c.colors) ++
    (edges.flatMap (edgeClauses c.color c.colors) ++ c.linkClauses)
  soft : c.encoding.soft.toList = c.prices

theorem Laid.apart {edges : List (UInt64 × UInt64)} {c : Coloring} (h : Laid edges c)
    (used : Line) (hused : c.used = some used) : used.var ≠ c.color.var :=
  fun heq => Nat.lt_irrefl _ (heq ▸ h.order used hused)

/-! ## Steps of the construction -/

section

variable {e e' : Encoding} {color : Grid} {colors : UInt64}

theorem fetchColors_extends (plain : color.symmetric = false) {node : UInt64} {cs : List UInt64}
    {literals : List Literal} (h : fetchColors color node e cs = .ok (e', literals)) :
    literals = (cs.map fun c => (color.cell node c).named "color" [node, c]) ∧
      e.Extends e' (cs.map fun c => (color.cell node c).atom) [] [] ∧
      ∀ c ∈ cs, color.Fits node c := by
  induction cs generalizing e e' literals with
  | nil =>
      cases h
      exact ⟨rfl, .refl e, fun _ hmem => absurd hmem List.not_mem_nil⟩
  | cons c rest ih =>
      obtain ⟨⟨next, literal⟩, hf, h⟩ := bind_eq_ok_iff.mp h
      obtain ⟨⟨last, literals'⟩, hrest, h⟩ := bind_eq_ok_iff.mp h
      cases h
      obtain ⟨plainly, hplainly, rfl⟩ := Family.fetchNamed_eq_ok_iff.mp hf
      obtain ⟨rfl, hfirst, hfits⟩ := Grid.fetched plain hplainly
      obtain ⟨rfl, hlast, hall⟩ := ih hrest
      exact ⟨rfl, hfirst.trans hlast, List.forall_mem_cons.mpr ⟨hfits, hall⟩⟩

theorem exclude_extends {clauses : List (List Literal)}
    (h : clauses.foldlM Encoding.addHard e = .ok e') :
    e.Extends e' [] (clauses.map .hard) [] := by
  have hnone : clauses.flatMap (fun _ => ([] : List Atom)) = [] := by simp
  have hfold := Extends.foldlM_hard (fun _ _ _ hadd => Encoding.extends_of_addHard hadd) h
  rwa [hnone] at hfold

theorem addNode_extends (plain : color.symmetric = false) {node : UInt64}
    (h : addNode color colors e node = .ok e') :
    e.Extends e' (choiceAtoms color colors node) (nodeClauses color colors node) [] ∧
      ∀ c ∈ upTo colors, color.Fits node c := by
  obtain ⟨noted, hnote, h⟩ := bind_eq_ok_iff.mp h
  obtain ⟨⟨fetched, literals⟩, hfetch, h⟩ := bind_eq_ok_iff.mp h
  obtain ⟨chosen, hadd, h⟩ := bind_eq_ok_iff.mp h
  obtain ⟨rfl, hfetched, hfits⟩ := fetchColors_extends plain hfetch
  have hclauses := (Encoding.extends_of_addHard hadd).trans (exclude_extends h)
  have hall := (Encoding.extends_of_commentHard hnote).after (hfetched.trans hclauses)
  simp only [List.append_nil, List.nil_append] at hall
  exact ⟨hall, hfits⟩

theorem addConflict_extends (plain : color.symmetric = false) {a b c : UInt64}
    (h : addConflict color a b e c = .ok e') :
    e.Extends e' [(color.cell a c).atom, (color.cell b c).atom] [conflict color a b c] [] := by
  obtain ⟨⟨first, x⟩, hx, h⟩ := bind_eq_ok_iff.mp h
  obtain ⟨⟨second, y⟩, hy, h⟩ := bind_eq_ok_iff.mp h
  obtain ⟨rfl, hfirst, -⟩ := Grid.fetched plain hx
  obtain ⟨rfl, hsecond, -⟩ := Grid.fetched plain hy
  exact hfirst.trans (hsecond.trans (Encoding.extends_of_addHard h))

theorem addEdge_extends (plain : color.symmetric = false) {edge : UInt64 × UInt64}
    (h : addEdge color colors e edge = .ok e') :
    e.Extends e' (edgeAtoms color colors edge) (edgeClauses color colors edge) [] :=
  Extends.foldlM_hard (fun _ _ _ hadd => addConflict_extends plain hadd) h

theorem addUse_extends (plain : color.symmetric = false) {c node : UInt64} {u : Literal}
    (h : addUse color c u e node = .ok e') :
    e.Extends e' [(color.cell node c).atom] [.hard [(color.cell node c).neg, u]] [] := by
  obtain ⟨⟨fetched, x⟩, hx, h⟩ := bind_eq_ok_iff.mp h
  obtain ⟨rfl, hfetched, -⟩ := Grid.fetched plain hx
  exact hfetched.trans (Encoding.extends_of_addHard h)

theorem addColor_extends (plain : color.symmetric = false) {used : Line} {nodes c : UInt64}
    (h : addColor color used nodes e c = .ok e') :
    e.Extends e' (useAtoms color used nodes c) (useClauses color used nodes c) [price used c] ∧
      used.Fits c := by
  obtain ⟨⟨fetched, u⟩, hu, h⟩ := bind_eq_ok_iff.mp h
  obtain ⟨linked, hlinks, h⟩ := bind_eq_ok_iff.mp h
  obtain ⟨plainly, hplainly, rfl⟩ := Family.fetchNamed_eq_ok_iff.mp hu
  obtain ⟨rfl, hfetched, hfits⟩ := Line.fetched hplainly
  have hlinked := Extends.foldlM_hard (fun _ _ _ hadd => addUse_extends plain hadd) hlinks
  have hall := hfetched.trans (hlinked.trans (Encoding.extends_of_addSoft (by decide) h))
  rw [List.append_nil, List.append_nil, ← List.map_eq_flatMap] at hall
  exact ⟨hall, hfits⟩

end

/-! ## The whole construction -/

/-- The line for the used colors, where their number is minimized. -/
def allocateUsed (minimize : Bool) (e : Encoding) :
    Except EncodingError (Encoding × Option Line) :=
  if minimize then e.newLine.map fun (next, used) => (next, some used) else .ok (e, none)

def noteEdges (edges : List (UInt64 × UInt64)) (e : Encoding) : Except EncodingError Encoding :=
  if edges.isEmpty then .ok e else e.commentHard "adjacent nodes differ"

def linkColors (color : Grid) (nodes colors : UInt64) (e : Encoding) :
    Option Line → Except EncodingError Encoding
  | none => .ok e
  | some used => do
      let e ← e.commentHard "a color is used if any node takes it"
      (upTo colors).foldlM (addColor color used nodes) e

theorem build_eq (id : EncodingId) (nodes : UInt64) (edges : List (UInt64 × UInt64))
    (colors : UInt64) (minimize : Bool) :
    build id nodes edges colors minimize = (do
      let e ← (Encoding.empty id).comment
        s!"coloring nodes={nodes} edges={edges.length} colors={colors}"
      let (e, color) ← e.newGrid colors false
      let (e, used) ← allocateUsed minimize e
      let e ← (upTo nodes).foldlM (addNode color colors) e
      let e ← noteEdges edges e
      let e ← edges.foldlM (addEdge color colors) e
      let e ← linkColors color nodes colors e used
      return { encoding := e, nodes, colors, color, used }) := by
  unfold build
  refine bind_congr fun titled => bind_congr fun gridded => ?_
  cases minimize with
  | false => cases edges <;> rfl
  | true =>
      cases hline : gridded.1.newLine with
      | error failure => simp [allocateUsed, hline, bind, Except.bind, Except.map]
      | ok lined =>
          simp only [allocateUsed, hline, if_true, Except.map]
          cases edges <;> rfl

theorem allocateUsed_extends {minimize : Bool} {e e' : Encoding} {used : Option Line}
    (h : allocateUsed minimize e = .ok (e', used)) :
    used.isSome = minimize ∧ (∀ line, used = some line → line.var.val = e.vars.size) ∧
      e.Extends e' [] [] [] := by
  cases minimize with
  | false =>
      cases h
      exact ⟨rfl, fun _ hnone => absurd hnone (by simp), .refl e⟩
  | true =>
      obtain ⟨⟨next, line⟩, hline, hpair⟩ := map_eq_ok_iff.mp h
      cases hpair
      obtain ⟨-, hvar, -, -, -, hextends⟩ := Encoding.extends_of_newLine hline
      exact ⟨rfl, fun _ hsome => Option.some.inj hsome ▸ hvar, hextends⟩

theorem noteEdges_extends {edges : List (UInt64 × UInt64)} {e e' : Encoding}
    (h : noteEdges edges e = .ok e') : e.Extends e' [] [] [] := by
  unfold noteEdges at h
  split at h
  · cases h
    exact .refl e
  · exact Encoding.extends_of_commentHard h

/-- Linking registers the marks of the colors, and no literal that is not a node's. -/
theorem linkColors_extends {color : Grid} (plain : color.symmetric = false)
    {nodes colors : UInt64} {used : Option Line} {e e' : Encoding}
    (h : linkColors color nodes colors e used = .ok e') :
    e.Extends e' (linkAtoms ⟨e, nodes, colors, color, used⟩)
        (linkClauses ⟨e, nodes, colors, color, used⟩) (prices ⟨e, nodes, colors, color, used⟩) ∧
      ∀ line, used = some line → ∀ k < colors, line.Fits k := by
  cases used with
  | none =>
      cases h
      exact ⟨.refl e, fun _ hnone => absurd hnone (by simp)⟩
  | some line =>
      obtain ⟨noted, hnote, h⟩ := bind_eq_ok_iff.mp h
      obtain ⟨hlinked, hfits⟩ :=
        Extends.foldlM (fun _ _ _ hadd => addColor_extends plain hadd) h
      have hextends := (Encoding.extends_of_commentHard hnote).after hlinked
      rw [← List.map_eq_flatMap] at hextends
      refine ⟨hextends, ?_⟩
      intro _ hsome k hk
      cases hsome
      exact hfits k (mem_upTo.mpr hk)

theorem build_laid {id : EncodingId} {nodes colors : UInt64} {edges : List (UInt64 × UInt64)}
    {minimize : Bool} {c : Coloring} (within : Within nodes edges)
    (h : build id nodes edges colors minimize = .ok c) :
    Laid edges c ∧ c.nodes = nodes ∧ c.colors = colors ∧ c.minimizes = minimize := by
  rw [build_eq] at h
  obtain ⟨titled, htitle, h⟩ := bind_eq_ok_iff.mp h
  obtain ⟨⟨gridded, color⟩, hgrid, h⟩ := bind_eq_ok_iff.mp h
  obtain ⟨⟨ready, used⟩, hused, h⟩ := bind_eq_ok_iff.mp h
  obtain ⟨noded, hnodes, h⟩ := bind_eq_ok_iff.mp h
  obtain ⟨noted, hnote, h⟩ := bind_eq_ok_iff.mp h
  obtain ⟨edged, hedges, h⟩ := bind_eq_ok_iff.mp h
  obtain ⟨last, hlast, h⟩ := bind_eq_ok_iff.mp h
  cases h
  obtain ⟨-, hvar, hcolumns, plain, hsize, hgridded⟩ := Encoding.extends_of_newGrid hgrid
  obtain ⟨hminimize, hline, hready⟩ := allocateUsed_extends hused
  obtain ⟨hnoded, hfits⟩ :=
    Extends.foldlM_hards (fun _ _ _ hadd => addNode_extends plain hadd) hnodes
  obtain ⟨hedged, -⟩ := Extends.foldlM_hards
    (fun _ _ _ hadd => ⟨addEdge_extends plain hadd, trivial⟩) hedges
  obtain ⟨hlinked, hmarks⟩ := linkColors_extends plain hlast
  have hstart := ((Encoding.extends_of_comment htitle).after hgridded).after hready
  have hwhole := hstart.after (hnoded.trans ((noteEdges_extends hnote).after
    (hedged.trans hlinked)))
  refine ⟨?_, rfl, rfl, hminimize⟩
  exact {
    consistent := hwhole.grown.consistent (Encoding.consistent_empty id)
    plain
    columns := hcolumns
    fits := fun node hn k hk => hfits node (mem_upTo.mpr hn) k (mem_upTo.mpr hk)
    order := by
      intro line hsome
      rw [hvar, hline line hsome, hsize]
      exact Nat.lt_succ_self _
    usedFits := hmarks
    within
    registered := by
      intro literal
      have hempty : (Encoding.empty id).isRegistered literal = false := by
        simp [Encoding.isRegistered]
      rw [hwhole.registered, hempty]
      exact (or_iff_right Bool.false_ne_true).trans
        (mem_fetched (c := ⟨last, nodes, colors, color, used⟩) within)
    lists := hwhole.lists [] (Encoding.lists_empty id)
    hard := hwhole.hard
    soft := hwhole.soft }

theorem ofGraph_eq_ok_iff {id : EncodingId} {nodes colors : UInt64}
    {edges : List (UInt64 × UInt64)} {minimize : Bool} {c : Coloring} :
    ofGraph id nodes edges colors minimize = .ok c ↔
      colors ≠ 0 ∧ Within nodes edges ∧ build id nodes edges colors minimize = .ok c := by
  unfold ofGraph
  by_cases hcolors : colors = 0
  · simp [hcolors]
  · rw [if_neg hcolors]
    cases hfind : edges.find? fun edge => decide (nodes ≤ edge.1) || decide (nodes ≤ edge.2) with
    | none =>
        have within : Within nodes edges := by simpa [Within] using hfind
        simp only [ne_eq, hcolors, not_false_eq_true, within, true_and]
        exact mapError_eq_ok_iff
    | some edge =>
        have hstray := List.find?_some hfind
        have hmem := List.mem_of_find?_eq_some hfind
        simp only [reduceCtorEq, false_iff]
        rintro ⟨-, within, -⟩
        obtain ⟨hleft, hright⟩ := within edge hmem
        simp [UInt64.not_le.mpr hleft, UInt64.not_le.mpr hright] at hstray

theorem ofGraph_laid {id : EncodingId} {nodes colors : UInt64} {edges : List (UInt64 × UInt64)}
    {minimize : Bool} {c : Coloring} (h : ofGraph id nodes edges colors minimize = .ok c) :
    Laid edges c ∧ c.nodes = nodes ∧ c.colors = colors ∧ c.minimizes = minimize := by
  obtain ⟨-, within, hbuild⟩ := ofGraph_eq_ok_iff.mp h
  exact build_laid within hbuild

/-! ## The registered literals -/

theorem Laid.nodup_atoms {edges : List (UInt64 × UInt64)} {c : Coloring} (h : Laid edges c) :
    c.atoms.Nodup := by
  have hnodes : ((upTo c.nodes).flatMap (choiceAtoms c.color c.colors)).Nodup := by
    rw [List.nodup_flatMap]
    constructor
    · intro node hnode
      refine (nodup_upTo c.colors).map_on fun j hj k hk heq => ?_
      have hn := mem_upTo.mp hnode
      exact ((Grid.cell_inj (h.fits node hn j (mem_upTo.mp hj))
        (h.fits node hn k (mem_upTo.mp hk))).mp heq).2
    · refine (nodup_upTo c.nodes).pairwise_of_forall_ne fun a ha b hb hne atom hleft hright => ?_
      obtain ⟨j, hj, rfl⟩ := List.mem_map.mp hleft
      obtain ⟨k, hk, heq⟩ := List.mem_map.mp hright
      exact hne ((Grid.cell_inj (h.fits b (mem_upTo.mp hb) k (mem_upTo.mp hk))
        (h.fits a (mem_upTo.mp ha) j (mem_upTo.mp hj))).mp heq).1.symm
  rw [atoms]
  cases hused : c.used with
  | none => simpa using hnodes
  | some used =>
      refine List.nodup_append.mpr ⟨hnodes, ?_, ?_⟩
      · refine (nodup_upTo c.colors).map_on fun j hj k hk heq => ?_
        exact (Line.cell_inj (h.usedFits used hused j (mem_upTo.mp hj))
          (h.usedFits used hused k (mem_upTo.mp hk))).mp heq
      · intro atom hleft other hright heq
        obtain ⟨node, -, hatom⟩ := List.mem_flatMap.mp hleft
        obtain ⟨j, -, rfl⟩ := List.mem_map.mp hatom
        obtain ⟨k, -, rfl⟩ := List.mem_map.mp hright
        exact h.apart used hused (congrArg Atom.var heq).symm

theorem Laid.perm_atoms {edges : List (UInt64 × UInt64)} {c : Coloring} (h : Laid edges c) :
    (c.encoding.registered.flatten.map Literal.atom).Perm c.atoms := by
  rw [List.perm_ext_iff_of_nodup h.consistent.nodup h.nodup_atoms]
  intro atom
  exact (h.consistent.isRegistered_iff (.ofAtom atom)).symm.trans (h.registered _)

theorem Laid.registeredCount {edges : List (UInt64 × UInt64)} {c : Coloring}
    (h : Laid edges c) : c.encoding.registeredCount = c.atoms.length := by
  rw [← h.perm_atoms.length_eq, List.length_map]
  rfl

theorem length_atoms (c : Coloring) :
    c.atoms.length =
      c.nodes.toNat * c.colors.toNat + if c.minimizes then c.colors.toNat else 0 := by
  have hnodes : ((upTo c.nodes).flatMap (choiceAtoms c.color c.colors)).length =
      c.nodes.toNat * c.colors.toNat := by
    simp [List.length_flatMap, choiceAtoms]
  rw [atoms, List.length_append, hnodes, minimizes]
  cases c.used with
  | none => rfl
  | some used => simp

end Coloring

end Clausal

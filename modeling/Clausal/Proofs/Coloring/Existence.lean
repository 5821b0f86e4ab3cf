import Clausal.Proofs.Coloring.Layout
import Clausal.Proofs.Text.Numeral

/-!
# Which graphs have a coloring encoding

The construction fails only for want of indices: as long as every pair of a node and a color
has a 32-bit index, and every color one of its own where their number is minimized, each step
finds its variable allocated and its literals registered.
-/

namespace Clausal

namespace Encoding

/-- The encoding owns a family with this variable. -/
structure Hosts (owner : EncodingId) (var : VariableId) (e : Encoding) : Prop where
  owned : e.id = owner
  allocated : var.val < e.vars.size

variable {e e' : Encoding} {owner : EncodingId} {var : VariableId} {atoms : List Atom}
  {hard soft : List (Clause Literal)}

theorem Extends.hosts (h : e.Extends e' atoms hard soft) (hosts : e.Hosts owner var) :
    e'.Hosts owner var where
  owned := h.id.trans hosts.owned
  allocated := Nat.lt_of_lt_of_le hosts.allocated h.size

theorem Extends.keeps (h : e.Extends e' atoms hard soft) {literal : Literal}
    (hl : e.isRegistered literal = true) : e'.isRegistered literal = true :=
  (h.registered literal).mpr (.inl hl)

theorem exists_newVariable (h : e.vars.size < variableCapacity) (name : Option String) :
    ∃ e' var, e.newVariable name = .ok (e', var) := by
  unfold newVariable
  rw [dif_pos h]
  exact ⟨_, _, rfl⟩

theorem comment_eq_ok {text : String} (h : Text.hasLineBreak text = false) :
    e.comment text = .ok { e with comments := e.comments.push text } :=
  map_eq_ok_iff.mpr ⟨text, check_eq_ok_iff.mpr ⟨h, rfl⟩, rfl⟩

theorem exists_commentHard {text : String} (h : Text.hasLineBreak text = false) :
    ∃ e', e.commentHard text = .ok e' :=
  ⟨_, map_eq_ok_iff.mpr ⟨_, map_eq_ok_iff.mpr ⟨text, check_eq_ok_iff.mpr ⟨h, rfl⟩, rfl⟩, rfl⟩⟩

theorem exists_addHard {literals : List Literal}
    (h : ∀ literal ∈ literals, e.isRegistered literal = true) :
    ∃ e', e.addHard literals = .ok e' :=
  ⟨_, addClause_eq_ok_iff.mpr ⟨h, rfl⟩⟩

theorem exists_addSoft {cost : UInt64} {literals : List Literal}
    (h : ∀ literal ∈ literals, e.isRegistered literal = true) :
    ∃ e', e.addSoft cost literals = .ok e' :=
  ⟨_, addClause_eq_ok_iff.mpr ⟨h, rfl⟩⟩

end Encoding

namespace Coloring

open Encoding (Hosts)

section

variable {e : Encoding} {color : Grid} {colors : UInt64}

theorem exists_fetchColors (plain : color.symmetric = false)
    (hosts : e.Hosts color.owner color.var) {node : UInt64} {cs : List UInt64}
    (hfits : ∀ c ∈ cs, color.Fits node c) :
    ∃ e' literals, fetchColors color node e cs = .ok (e', literals) := by
  induction cs generalizing e with
  | nil => exact ⟨e, [], rfl⟩
  | cons c rest ih =>
      rw [List.forall_mem_cons] at hfits
      obtain ⟨next, hnext⟩ :=
        Grid.exists_fetch plain hosts.owned hosts.allocated hfits.1
      obtain ⟨-, hextends, -⟩ := Grid.fetched plain hnext
      obtain ⟨last, literals, hlast⟩ := ih (hextends.hosts hosts) hfits.2
      have hnamed : (Family.fetchNamed color e "color" (node, c)).2 =
          .ok (next, (color.cell node c).named "color" [node, c]) :=
        Family.fetchNamed_eq_ok_iff.mpr ⟨_, hnext, rfl⟩
      refine ⟨last, _, bind_eq_ok_iff.mpr ⟨_, hnamed, bind_eq_ok_iff.mpr ⟨_, hlast, rfl⟩⟩⟩

/-- Exclusions are about the literals they are made of. -/
theorem atom_of_exclusions {literals clause : List Literal} (h : clause ∈ exclusions literals)
    {literal : Literal} (hl : literal ∈ clause) : ∃ known ∈ literals, literal = known.neg := by
  induction literals with
  | nil => exact absurd h List.not_mem_nil
  | cons a rest ih =>
      rw [exclusions, List.mem_append, List.mem_map] at h
      rcases h with ⟨b, hb, rfl⟩ | h
      · rcases List.mem_pair.mp hl with rfl | rfl
        · exact ⟨a, List.mem_cons_self, rfl⟩
        · exact ⟨b, List.mem_cons_of_mem a hb, rfl⟩
      · obtain ⟨known, hk, heq⟩ := ih h
        exact ⟨known, List.mem_cons_of_mem a hk, heq⟩

theorem exists_exclude {literals : List Literal}
    (h : ∀ literal ∈ literals, e.isRegistered literal = true) :
    ∃ e', (exclusions literals).foldlM Encoding.addHard e = .ok e' := by
  have hstep : ∀ s : Encoding, (∀ literal ∈ literals, s.isRegistered literal = true) →
      ∀ clause ∈ exclusions literals, ∃ s', s.addHard clause = .ok s' ∧
        ∀ literal ∈ literals, s'.isRegistered literal = true := by
    intro s hs clause hclause
    have hall : ∀ literal ∈ clause, s.isRegistered literal = true := by
      intro literal hl
      obtain ⟨known, hk, rfl⟩ := atom_of_exclusions hclause hl
      exact hs known hk
    obtain ⟨s', hs'⟩ := Encoding.exists_addHard hall
    exact ⟨s', hs', fun literal hl => (Encoding.extends_of_addHard hs').keeps (hs literal hl)⟩
  obtain ⟨e', he', -⟩ := exists_foldlM hstep h
  exact ⟨e', he'⟩

theorem exists_addNode (plain : color.symmetric = false)
    (hosts : e.Hosts color.owner color.var) {node : UInt64}
    (hfits : ∀ c ∈ upTo colors, color.Fits node c) :
    ∃ e', addNode color colors e node = .ok e' := by
  have htext : Text.hasLineBreak s!"node {node} gets exactly one color" = false := by
    rw [Text.hasLineBreak_append, Text.hasLineBreak_append, Text.hasLineBreak_word]
    decide
  obtain ⟨noted, hnote⟩ := Encoding.exists_commentHard (e := e) htext
  have hnoted := (Encoding.extends_of_commentHard hnote).hosts hosts
  obtain ⟨fetched, literals, hfetch⟩ := exists_fetchColors plain hnoted hfits
  obtain ⟨hliterals, hextends, -⟩ := fetchColors_extends plain hfetch
  have hregistered : ∀ literal ∈ literals, fetched.isRegistered literal = true := by
    intro literal hl
    rw [hliterals] at hl
    obtain ⟨c, hc, rfl⟩ := List.mem_map.mp hl
    refine (hextends.registered _).mpr (.inr ?_)
    rw [Literal.atom_named]
    exact List.mem_map.mpr ⟨c, hc, rfl⟩
  obtain ⟨chosen, hadd⟩ := Encoding.exists_addHard hregistered
  obtain ⟨last, hlast⟩ := exists_exclude fun literal hl =>
    (Encoding.extends_of_addHard hadd).keeps (hregistered literal hl)
  exact ⟨last, bind_eq_ok_iff.mpr ⟨_, hnote, bind_eq_ok_iff.mpr ⟨_, hfetch,
    bind_eq_ok_iff.mpr ⟨_, hadd, hlast⟩⟩⟩⟩

theorem exists_addConflict (plain : color.symmetric = false)
    (hosts : e.Hosts color.owner color.var) {a b c : UInt64} (ha : color.Fits a c)
    (hb : color.Fits b c) : ∃ e', addConflict color a b e c = .ok e' := by
  obtain ⟨first, hx⟩ := Grid.exists_fetch plain hosts.owned hosts.allocated ha
  obtain ⟨-, hfirst, -⟩ := Grid.fetched plain hx
  have hosts' := hfirst.hosts hosts
  obtain ⟨second, hy⟩ := Grid.exists_fetch plain hosts'.owned hosts'.allocated hb
  obtain ⟨-, hsecond, -⟩ := Grid.fetched plain hy
  have hregistered : ∀ literal ∈ [(color.cell a c).neg, (color.cell b c).neg],
      second.isRegistered literal = true := by
    intro literal hl
    rw [(hfirst.trans hsecond).registered]
    rcases List.mem_pair.mp hl with rfl | rfl
    · exact .inr List.mem_cons_self
    · exact .inr (List.mem_cons_of_mem _ List.mem_cons_self)
  obtain ⟨last, hlast⟩ := Encoding.exists_addHard hregistered
  exact ⟨last, bind_eq_ok_iff.mpr ⟨_, hx, bind_eq_ok_iff.mpr ⟨_, hy, hlast⟩⟩⟩

theorem exists_addEdge (plain : color.symmetric = false)
    (hosts : e.Hosts color.owner color.var) {edge : UInt64 × UInt64}
    (hleft : ∀ c ∈ upTo colors, color.Fits edge.1 c)
    (hright : ∀ c ∈ upTo colors, color.Fits edge.2 c) :
    ∃ e', addEdge color colors e edge = .ok e' := by
  have hstep : ∀ s : Encoding, s.Hosts color.owner color.var → ∀ c ∈ upTo colors,
      ∃ s', addConflict color edge.1 edge.2 s c = .ok s' ∧
        s'.Hosts color.owner color.var := by
    intro s hs c hc
    obtain ⟨s', hs'⟩ := exists_addConflict plain hs (hleft c hc) (hright c hc)
    exact ⟨s', hs', (addConflict_extends plain hs').hosts hs⟩
  obtain ⟨last, hlast, -⟩ := exists_foldlM hstep hosts
  exact ⟨last, hlast⟩

/-- The mark is registered before the clauses that link to it. -/
theorem exists_addUse (plain : color.symmetric = false)
    (hosts : e.Hosts color.owner color.var) {c node : UInt64} {u : Literal}
    (hu : e.isRegistered u = true) (hfits : color.Fits node c) :
    ∃ e', addUse color c u e node = .ok e' := by
  obtain ⟨fetched, hx⟩ := Grid.exists_fetch plain hosts.owned hosts.allocated hfits
  obtain ⟨-, hfetched, -⟩ := Grid.fetched plain hx
  have hregistered : ∀ literal ∈ [(color.cell node c).neg, u],
      fetched.isRegistered literal = true := by
    intro literal hl
    rw [hfetched.registered]
    rcases List.mem_pair.mp hl with rfl | rfl
    · exact .inr List.mem_cons_self
    · exact .inl hu
  obtain ⟨last, hlast⟩ := Encoding.exists_addHard hregistered
  exact ⟨last, bind_eq_ok_iff.mpr ⟨_, hx, hlast⟩⟩

theorem exists_addColor (plain : color.symmetric = false) {used : Line}
    (hosts : e.Hosts color.owner color.var) (hosts' : e.Hosts used.owner used.var)
    {nodes c : UInt64} (hfits : ∀ node ∈ upTo nodes, color.Fits node c) (hc : used.Fits c) :
    ∃ e', addColor color used nodes e c = .ok e' := by
  obtain ⟨fetched, hu⟩ := Line.exists_fetch hosts'.owned hosts'.allocated hc
  obtain ⟨-, hfetched, -⟩ := Line.fetched hu
  have hnamed : (Family.fetchNamed used e "used" c).2 = .ok (fetched, mark used c) :=
    Family.fetchNamed_eq_ok_iff.mpr ⟨_, hu, rfl⟩
  have hmark : fetched.isRegistered (mark used c) = true := by
    rw [hfetched.registered, mark, Literal.atom_named]
    exact .inr List.mem_cons_self
  have hstep : ∀ s : Encoding,
      s.Hosts color.owner color.var ∧ s.isRegistered (mark used c) = true →
      ∀ node ∈ upTo nodes, ∃ s', addUse color c (mark used c) s node = .ok s' ∧
        s'.Hosts color.owner color.var ∧ s'.isRegistered (mark used c) = true := by
    intro s hs node hnode
    obtain ⟨s', hs'⟩ := exists_addUse plain hs.1 hs.2 (hfits node hnode)
    have hextends := addUse_extends plain hs'
    exact ⟨s', hs', hextends.hosts hs.1, hextends.keeps hs.2⟩
  obtain ⟨linked, hlinks, -, hkept⟩ := exists_foldlM hstep ⟨hfetched.hosts hosts, hmark⟩
  have hpriced : ∀ literal ∈ [(mark used c).neg], linked.isRegistered literal = true := by
    intro literal hl
    rw [List.mem_singleton.mp hl]
    exact hkept
  obtain ⟨last, hlast⟩ : ∃ last, linked.addSoft 1 [(mark used c).neg] = .ok last :=
    Encoding.exists_addSoft hpriced
  exact ⟨last, bind_eq_ok_iff.mpr ⟨_, hnamed, bind_eq_ok_iff.mpr ⟨_, hlinks, hlast⟩⟩⟩

end

/-! ## The whole construction -/

theorem fits_of_room {color : Grid} {nodes colors : UInt64} (hcolumns : color.columns = colors)
    (room : nodes.toNat * colors.toNat ≤ UInt32.size) {node c : UInt64} (hnode : node < nodes)
    (hc : c < colors) : color.Fits node c where
  column := hcolumns ▸ hc
  index := by
    rw [hcolumns]
    have hc' := UInt64.lt_iff_toNat_lt.mp hc
    calc
      node.toNat * colors.toNat + c.toNat < node.toNat * colors.toNat + colors.toNat := by omega
      _ = (node.toNat + 1) * colors.toNat := (Nat.succ_mul _ _).symm
      _ ≤ nodes.toNat * colors.toNat :=
        Nat.mul_le_mul_right _ (UInt64.lt_iff_toNat_lt.mp hnode)
      _ ≤ UInt32.size := room

/-- The encoding owns the grid, and the line where there is one. -/
structure Ready (color : Grid) (used : Option Line) (e : Encoding) : Prop where
  color : e.Hosts color.owner color.var
  used : ∀ line, used = some line → e.Hosts line.owner line.var

theorem Ready.extends {color : Grid} {used : Option Line} {e e' : Encoding} {atoms : List Atom}
    {hard soft : List (Clause Literal)} (h : Ready color used e)
    (hextends : e.Extends e' atoms hard soft) : Ready color used e' where
  color := hextends.hosts h.color
  used := fun line hsome => hextends.hosts (h.used line hsome)

theorem exists_linkColors {e : Encoding} {color : Grid} (plain : color.symmetric = false)
    {used : Option Line} (ready : Ready color used e) {nodes colors : UInt64}
    (hfits : ∀ node < nodes, ∀ c < colors, color.Fits node c)
    (hmarks : ∀ line, used = some line → ∀ c < colors, line.Fits c) :
    ∃ e', linkColors color nodes colors e used = .ok e' := by
  cases used with
  | none => exact ⟨e, rfl⟩
  | some line =>
      have htext : Text.hasLineBreak "a color is used if any node takes it" = false := by decide
      obtain ⟨noted, hnote⟩ := Encoding.exists_commentHard (e := e) htext
      have hextends := Encoding.extends_of_commentHard hnote
      have hstep : ∀ s, Ready color (some line) s → ∀ c ∈ upTo colors,
          ∃ s', addColor color line nodes s c = .ok s' ∧ Ready color (some line) s' := by
        intro s hs c hc
        have hc' := mem_upTo.mp hc
        obtain ⟨s', hs'⟩ := exists_addColor plain hs.color (hs.used line rfl)
          (fun node hnode => hfits node (mem_upTo.mp hnode) c hc') (hmarks line rfl c hc')
        exact ⟨s', hs', hs.extends (addColor_extends plain hs').1⟩
      obtain ⟨last, hlast, -⟩ := exists_foldlM hstep (ready.extends hextends)
      exact ⟨last, bind_eq_ok_iff.mpr ⟨_, hnote, hlast⟩⟩

theorem exists_allocateUsed {e : Encoding} (room : e.vars.size < variableCapacity)
    (minimize : Bool) :
    ∃ e' used, allocateUsed minimize e = .ok (e', used) ∧
      ∀ line, used = some line → minimize = true ∧ e'.Hosts line.owner line.var ∧
        line.offset = 0 ∧ line.size = none := by
  cases minimize with
  | false => exact ⟨e, none, rfl, fun _ hnone => absurd hnone (by simp)⟩
  | true =>
      obtain ⟨next, var, hnew⟩ := Encoding.exists_newVariable room none
      have hline : e.newLine = .ok (next, ⟨e.id, var, 0, none⟩) :=
        map_eq_ok_iff.mpr ⟨_, hnew, rfl⟩
      obtain ⟨-, hvar, -, -, hsize, hextends⟩ := Encoding.extends_of_newLine hline
      refine ⟨next, some _, map_eq_ok_iff.mpr ⟨_, hline, rfl⟩, ?_⟩
      intro line hsome
      cases hsome
      exact ⟨rfl, ⟨hextends.id, by omega⟩, rfl, rfl⟩

theorem exists_noteEdges (edges : List (UInt64 × UInt64)) (e : Encoding) :
    ∃ e', noteEdges edges e = .ok e' := by
  unfold noteEdges
  split
  · exact ⟨e, rfl⟩
  · exact Encoding.exists_commentHard (by decide)

/-- The title, the grid and the line; all the later steps need is that their encoding is
ready for both. -/
theorem exists_prepared (id : EncodingId) {text : String} (htext : Text.hasLineBreak text = false)
    (colors : UInt64) (minimize : Bool) :
    ∃ titled gridded color ready used, (Encoding.empty id).comment text = .ok titled ∧
      titled.newGrid colors false = .ok (gridded, color) ∧
      allocateUsed minimize gridded = .ok (ready, used) ∧ color.symmetric = false ∧
      color.columns = colors ∧ Ready color used ready ∧
      ∀ line, used = some line → minimize = true ∧ line.offset = 0 ∧ line.size = none := by
  obtain ⟨titled, htitle, hempty⟩ :
      ∃ titled, (Encoding.empty id).comment text = .ok titled ∧ titled.vars.size = 0 :=
    ⟨_, Encoding.comment_eq_ok htext, rfl⟩
  obtain ⟨gridded, var, hnew⟩ := Encoding.exists_newVariable (e := titled)
    (by rw [hempty]; decide) none
  have hgrid : titled.newGrid colors false = .ok (gridded, ⟨titled.id, var, colors, false⟩) :=
    map_eq_ok_iff.mpr ⟨_, hnew, rfl⟩
  obtain ⟨howner, hvar, hcolumns, plain, hsize, hgridded⟩ := Encoding.extends_of_newGrid hgrid
  obtain ⟨ready, used, hused, hlines⟩ := exists_allocateUsed (e := gridded)
    (by rw [hsize, hempty]; decide) minimize
  obtain ⟨-, -, hready⟩ := allocateUsed_extends hused
  have hosts : gridded.Hosts titled.id var := by
    refine ⟨hgridded.id, ?_⟩
    rw [hsize]
    exact Nat.lt_succ_of_le (Nat.le_of_eq hvar)
  refine ⟨titled, gridded, _, ready, used, htitle, hgrid, hused, plain, hcolumns, ?_, ?_⟩
  · exact ⟨hready.hosts hosts, fun line hsome => (hlines line hsome).2.1⟩
  · intro line hsome
    obtain ⟨hminimize, -, hoffset, hopen⟩ := hlines line hsome
    exact ⟨hminimize, hoffset, hopen⟩

theorem exists_build {id : EncodingId} {nodes colors : UInt64} {edges : List (UInt64 × UInt64)}
    {minimize : Bool} (within : Within nodes edges)
    (room : nodes.toNat * colors.toNat ≤ UInt32.size)
    (marks : minimize = true → colors.toNat ≤ UInt32.size) :
    ∃ c, build id nodes edges colors minimize = .ok c := by
  have htext : Text.hasLineBreak
      s!"coloring nodes={nodes} edges={edges.length} colors={colors}" = false := by
    simp only [Text.hasLineBreak_append, Text.hasLineBreak_word, Text.hasLineBreak_toString]
    decide
  obtain ⟨titled, gridded, color, ready, used, htitle, hgrid, hused, plain, hcolumns, hstart,
    hlines⟩ := exists_prepared id htext colors minimize
  have hfits : ∀ node < nodes, ∀ c < colors, color.Fits node c :=
    fun node hnode c hc => fits_of_room hcolumns room hnode hc
  have hmarks : ∀ line, used = some line → ∀ c < colors, line.Fits c := by
    intro line hsome c hc
    obtain ⟨hminimize, hoffset, hopen⟩ := hlines line hsome
    refine ⟨by simp [hopen], ?_⟩
    rw [hoffset, UInt64.toNat_zero, Nat.zero_add]
    exact Nat.lt_of_lt_of_le (UInt64.lt_iff_toNat_lt.mp hc) (marks hminimize)
  have hnode : ∀ s, Ready color used s → ∀ node ∈ upTo nodes,
      ∃ s', addNode color colors s node = .ok s' ∧ Ready color used s' := by
    intro s hs node hnode
    obtain ⟨s', hs'⟩ := exists_addNode plain hs.color
      (fun c hc => hfits node (mem_upTo.mp hnode) c (mem_upTo.mp hc))
    exact ⟨s', hs', hs.extends (addNode_extends plain hs').1⟩
  have hedge : ∀ s, Ready color used s → ∀ edge ∈ edges,
      ∃ s', addEdge color colors s edge = .ok s' ∧ Ready color used s' := by
    intro s hs edge hedge
    obtain ⟨hleft, hright⟩ := within edge hedge
    obtain ⟨s', hs'⟩ := exists_addEdge plain hs.color
      (fun c hc => hfits _ hleft c (mem_upTo.mp hc))
      (fun c hc => hfits _ hright c (mem_upTo.mp hc))
    exact ⟨s', hs', hs.extends (addEdge_extends plain hs')⟩
  obtain ⟨noded, hnodes, hnoded⟩ := exists_foldlM hnode hstart
  obtain ⟨noted, hnote⟩ := exists_noteEdges edges noded
  obtain ⟨edged, hedges, hedged⟩ :=
    exists_foldlM hedge (hnoded.extends (noteEdges_extends hnote))
  obtain ⟨last, hlast⟩ := exists_linkColors plain hedged hfits hmarks
  refine ⟨⟨last, nodes, colors, color, used⟩, ?_⟩
  rw [build_eq]
  refine bind_eq_ok_iff.mpr ⟨_, htitle, bind_eq_ok_iff.mpr ⟨_, hgrid, ?_⟩⟩
  refine bind_eq_ok_iff.mpr ⟨_, hused, bind_eq_ok_iff.mpr ⟨_, hnodes, ?_⟩⟩
  refine bind_eq_ok_iff.mpr ⟨_, hnote, bind_eq_ok_iff.mpr ⟨_, hedges, ?_⟩⟩
  exact bind_eq_ok_iff.mpr ⟨_, hlast, rfl⟩

theorem toNat_sub_one {n : UInt64} (h : n ≠ 0) : (n - 1).toNat + 1 = n.toNat := by
  have hpos : 1 ≤ n.toNat :=
    Nat.one_le_iff_ne_zero.mpr fun hzero => h (UInt64.toNat_inj.mp hzero)
  have hone : (1 : UInt64) ≤ n := UInt64.le_iff_toNat_le.mpr hpos
  rw [UInt64.toNat_sub_of_le _ _ hone]
  exact Nat.sub_add_cancel hpos

/-- The last node in the last color has an index, so all of them have room. -/
theorem Laid.room {edges : List (UInt64 × UInt64)} {c : Coloring} (h : Laid edges c)
    (hcolors : c.colors ≠ 0) : c.nodes.toNat * c.colors.toNat ≤ UInt32.size := by
  by_cases hnodes : c.nodes = 0
  · simp [hnodes]
  · have hn := toNat_sub_one hnodes
    have hc := toNat_sub_one hcolors
    have hlast := (h.fits (c.nodes - 1) (UInt64.lt_iff_toNat_lt.mpr (by omega)) (c.colors - 1)
      (UInt64.lt_iff_toNat_lt.mpr (by omega))).index
    rw [h.columns] at hlast
    rw [← hn, Nat.succ_mul]
    omega

theorem Laid.usedRoom {edges : List (UInt64 × UInt64)} {c : Coloring} (h : Laid edges c)
    (hcolors : c.colors ≠ 0) (hminimizes : c.minimizes = true) :
    c.colors.toNat ≤ UInt32.size := by
  obtain ⟨used, hused⟩ := Option.isSome_iff_exists.mp hminimizes
  have hc := toNat_sub_one hcolors
  have hlast := (h.usedFits used hused (c.colors - 1)
    (UInt64.lt_iff_toNat_lt.mpr (by omega))).index
  omega

/-- A graph has a coloring encoding exactly when its literals have 32-bit indices. -/
theorem exists_ofGraph_iff {id : EncodingId} {nodes colors : UInt64}
    {edges : List (UInt64 × UInt64)} {minimize : Bool} :
    (∃ c, ofGraph id nodes edges colors minimize = .ok c) ↔
      colors ≠ 0 ∧ Within nodes edges ∧ nodes.toNat * colors.toNat ≤ UInt32.size ∧
        (minimize = true → colors.toNat ≤ UInt32.size) := by
  constructor
  · rintro ⟨c, hc⟩
    obtain ⟨hcolors, within, -⟩ := ofGraph_eq_ok_iff.mp hc
    obtain ⟨h, rfl, rfl, rfl⟩ := ofGraph_laid hc
    exact ⟨hcolors, within, h.room hcolors, h.usedRoom hcolors⟩
  · rintro ⟨hcolors, within, room, marks⟩
    obtain ⟨c, hc⟩ := exists_build within room marks
    exact ⟨c, ofGraph_eq_ok_iff.mpr ⟨hcolors, within, hc⟩⟩

end Coloring

end Clausal

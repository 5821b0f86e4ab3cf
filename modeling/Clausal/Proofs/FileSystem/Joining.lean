import Clausal.Proofs.FileSystem.Following
import Clausal.Proofs.Text.Words

/-!
# Joined paths

A relative path that is joined to another one is followed from where that one leads, as if the
current folder were there.  The links that are replaced on the way are counted for both paths
together, so the first one is asked to have none.
-/

namespace Clausal

namespace Path

theorem join_relative {path : Path} (relative : path.isAbsolute = false) (base : Path) :
    (base.octets = [] ∧ base.join path = path) ∨
      (∃ above, base.octets = above ++ ['/'] ∧
        (base.join path).octets = above ++ '/' :: path.octets) ∨
      (base.octets ≠ [] ∧ (base.join path).octets = base.octets ++ '/' :: path.octets) := by
  rw [join, relative, if_neg Bool.false_ne_true]
  by_cases hempty : base.octets = []
  · refine .inl ⟨hempty, ?_⟩
    rw [if_pos (.inl hempty), hempty, List.nil_append]
  by_cases hslash : base.octets.getLast? = some '/'
  · obtain ⟨above, habove⟩ := List.getLast?_eq_some_iff.mp hslash
    refine .inr (.inl ⟨above, habove, ?_⟩)
    rw [if_pos (.inr hslash), habove, List.append_assoc, List.singleton_append]
  · refine .inr (.inr ⟨hempty, ?_⟩)
    rw [if_neg (by simp [hempty, hslash])]

theorem isAbsolute_join (base path : Path) :
    (base.join path).isAbsolute = (path.isAbsolute || base.isAbsolute) := by
  cases relative : path.isAbsolute with
  | true => rw [join_absolute relative, relative, Bool.true_or]
  | false =>
      rw [Bool.false_or]
      rcases join_relative relative base with ⟨hempty, hjoin⟩ | ⟨above, hbase, hjoin⟩ | ⟨hne, hjoin⟩
      · rw [hjoin, relative, isAbsolute, hempty]
        rfl
      · rw [isAbsolute, hjoin, isAbsolute, hbase]
        cases above <;> rfl
      · obtain ⟨c, rest, hbase⟩ := List.exists_cons_of_ne_nil hne
        rw [isAbsolute, hjoin, isAbsolute, hbase]
        rfl

theorem mem_join_iff {base path : Path} (relative : path.isAbsolute = false) {c : Char}
    (hc : c ≠ '/') : c ∈ (base.join path).octets ↔ c ∈ base.octets ∨ c ∈ path.octets := by
  rcases join_relative relative base with ⟨hempty, hjoin⟩ | ⟨above, hbase, hjoin⟩ | ⟨-, hjoin⟩
  · simp [hjoin, hempty]
  · simp [hjoin, hbase, hc]
  · simp [hjoin, hc]

theorem length_le_join {path : Path} (relative : path.isAbsolute = false) (base : Path) :
    path.octets.length ≤ (base.join path).octets.length := by
  rcases join_relative relative base with ⟨-, hjoin⟩ | ⟨above, -, hjoin⟩ | ⟨-, hjoin⟩
  · exact Nat.le_of_eq (by rw [hjoin])
  · rw [hjoin, List.length_append, List.length_cons]
    omega
  · rw [hjoin, List.length_append, List.length_cons]
    omega

end Path

namespace FileSystem

open Text (Octets)

variable {fs : FileSystem} {throughLast : Bool} {place names : List Name}

/-- The path leads to this place, and there is no link on the way. -/
structure LeadsTo (fs : FileSystem) (path : Path) (names : List Name) : Prop where
  proper : path.octets.contains '\x00' = false
  walk : fs.followLinks true 0 (if path.isAbsolute then [] else fs.here.reverse) path.parts =
    .ok names

/-- After parts without links on the way, the rest is followed from where they lead. -/
theorem followWith_append {jump : List Name → List Octets → Except FileError (List Name)}
    {parts : List Octets} (rest : List Octets)
    (h : fs.followLinks true 0 place parts = .ok names) :
    fs.followWith throughLast jump place (parts ++ rest) =
      fs.followWith throughLast jump names.reverse rest := by
  rw [followLinks] at h
  induction parts generalizing place with
  | nil =>
      rw [followWith, Except.ok.injEq] at h
      rw [← h, List.reverse_reverse, List.nil_append]
  | cons part parts ih =>
      have hfolder := folder_of_followWith h
      rw [followWith_of_folder hfolder] at h
      rw [List.cons_append, followWith_of_folder hfolder]
      by_cases hstay : part = [] ∨ part = ['.']
      · rw [if_pos hstay] at h ⊢
        exact ih h
      rw [if_neg hstay] at h ⊢
      by_cases hup : part = ['.', '.']
      · rw [if_pos hup] at h ⊢
        exact ih h
      rw [if_neg hup] at h ⊢
      by_cases hlong : nameLimit < part.length
      · rw [if_pos hlong] at h
        cases h
      rw [if_neg hlong] at h ⊢
      -- With no links left to replace, a link would have been an error in the hypothesis.
      split at h
      · simp at h
      · exact ih h

theorem followLinks_append {parts : List Octets} (rest : List Octets) (links : Nat)
    (h : fs.followLinks true 0 place parts = .ok names) :
    fs.followLinks throughLast links place (parts ++ rest) =
      fs.followLinks throughLast links names.reverse rest := by
  cases links with
  | zero => exact followWith_append rest h
  | succ links => exact followWith_append rest h

/-- Which folder is the current one has no part in following parts from a place. -/
theorem followWith_here (current : List Name)
    (jump : List Name → List Octets → Except FileError (List Name)) (parts : List Octets) :
    { fs with here := current }.followWith throughLast jump place parts =
      fs.followWith throughLast jump place parts := by
  induction parts generalizing place with
  | nil => rfl
  | cons part rest ih => simp only [followWith, node?, ih]

theorem followLinks_here (fs : FileSystem) (current : List Name) (links : Nat) :
    { fs with here := current }.followLinks throughLast links =
      fs.followLinks throughLast links := by
  induction links with
  | zero =>
      funext place parts
      exact followWith_here current _ parts
  | succ links ih =>
      funext place parts
      rw [followLinks, followLinks, ih]
      exact followWith_here current _ parts

theorem followWith_skip {jump : List Name → List Octets → Except FileError (List Name)}
    {after : List Octets} (more : after ≠ [])
    (hjump : ∀ place before, jump place (before ++ [] :: after) = jump place (before ++ after))
    (before : List Octets) :
    fs.followWith throughLast jump place (before ++ [] :: after) =
      fs.followWith throughLast jump place (before ++ after) := by
  induction before generalizing place with
  | nil =>
      obtain ⟨part, rest, rfl⟩ := List.exists_cons_of_ne_nil more
      rw [List.nil_append, List.nil_append, followWith]
      cases hnode : fs.node? place.reverse with
      | none => rw [followWith, hnode]
      | some node =>
          cases node with
          | file id => rw [followWith, hnode]
          | link target => rw [followWith, hnode]
          | folder attributes entries => exact if_pos (.inl rfl)
  | cons part rest ih =>
      have hlast : ∀ parts, parts ≠ [] → (rest ++ parts = [] ∧ !throughLast) = False :=
        fun parts hparts => eq_false fun h => hparts (List.append_eq_nil_iff.mp h.1).2
      simp only [List.cons_append, followWith, ih, hlast _ more, hlast _ (List.cons_ne_nil _ _),
        ← List.append_assoc, hjump]

theorem followLinks_skip {after : List Octets} (more : after ≠ []) (links : Nat)
    (before : List Octets) :
    fs.followLinks throughLast links place (before ++ [] :: after) =
      fs.followLinks throughLast links place (before ++ after) := by
  induction links generalizing place before with
  | zero => exact followWith_skip more (fun _ _ => rfl) before
  | succ links ih => exact followWith_skip more (fun _ before => ih before) before

/-- Parts of a joined path are followed as the parts of both, one after the other. -/
theorem followLinks_parts_join {base path : Path} (relative : path.isAbsolute = false)
    (named : base.octets ≠ []) (links : Nat) :
    fs.followLinks throughLast links place (base.join path).parts =
      fs.followLinks throughLast links place (base.parts ++ path.parts) := by
  have hsplit (before after : Octets) : Text.split (· = '/') (before ++ '/' :: after) =
      Text.split (· = '/') before ++ Text.split (· = '/') after :=
    Text.split_append_cons (by decide) before after
  rcases Path.join_relative relative base with ⟨hempty, -⟩ | ⟨above, hbase, hjoin⟩ | ⟨-, hjoin⟩
  · exact absurd hempty named
  · -- The slash at the end left an empty part between the two.
    rw [Path.parts, hjoin, hsplit, Path.parts, hbase, hsplit, List.append_assoc]
    exact (followLinks_skip (Text.split_ne_nil _ _) links _).symm
  · rw [Path.parts, hjoin, hsplit]
    rfl

theorem LeadsTo.eq_here {base : Path} (h : fs.LeadsTo base place) (hempty : base.octets = []) :
    place = fs.here := by
  have hwalk := h.walk
  rw [Path.isAbsolute, Path.parts, hempty] at hwalk
  have hfolder := folder_of_followWith hwalk
  rw [followLinks, Text.split, followWith_of_folder hfolder, if_pos (.inl rfl)] at hwalk
  exact (Except.ok.inj hwalk).symm.trans (List.reverse_reverse _)

theorem LeadsTo.locate_join {base path : Path} (h : fs.LeadsTo base place)
    (relative : path.isAbsolute = false) (named : path.octets ≠ [])
    (short : (base.join path).octets.length ≤ pathLimit) :
    fs.locate throughLast (base.join path) = { fs with here := place }.locate throughLast path := by
  have hlength := Path.length_le_join relative base
  have hnamed : (base.join path).octets ≠ [] := by
    intro hempty
    rw [hempty, List.length_nil, Nat.le_zero, List.length_eq_zero_iff] at hlength
    exact named hlength
  have hzero : (base.join path).octets.contains '\x00' = path.octets.contains '\x00' := by
    rw [Bool.eq_iff_iff, List.contains_iff_mem, List.contains_iff_mem,
      Path.mem_join_iff relative (by decide)]
    refine or_iff_right fun hmem => ?_
    rw [← List.contains_iff_mem, h.proper] at hmem
    cases hmem
  have hfollow : fs.followLinks throughLast linkLimit
      (if (base.join path).isAbsolute then [] else fs.here.reverse) (base.join path).parts =
        fs.followLinks throughLast linkLimit place.reverse path.parts := by
    rw [Path.isAbsolute_join, relative, Bool.false_or]
    by_cases hempty : base.octets = []
    · have hbase : base.isAbsolute = false := by rw [Path.isAbsolute, hempty]; rfl
      have hjoin : base.join path = path := by simp [Path.join, relative, hempty]
      rw [hbase, if_neg Bool.false_ne_true, hjoin, h.eq_here hempty]
    · rw [followLinks_parts_join relative hempty]
      exact followLinks_append path.parts linkLimit h.walk
  rw [locate, locate, hzero, if_neg hnamed, if_neg named, if_neg (Nat.not_lt.mpr short),
    if_neg (Nat.not_lt.mpr (Nat.le_trans hlength short)), hfollow, relative,
    if_neg Bool.false_ne_true, followLinks_here fs place]

end FileSystem

end Clausal

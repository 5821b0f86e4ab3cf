import Clausal.Proofs.FileSystem.Joining
import Clausal.Proofs.FileSystem.Writing
import Clausal.Proofs.Text.Numeral

/-!
# Paths below a folder

Joining the name of an entry to a path adds one component at its end.  So paths that were joined
from different names differ in their components, by which paths are ordered: a total order, in
which paths that come before each other have the same components.  The last name of a path says
whether the path is that of an instance: the name has to end in a dot and the extension of a format,
with something in front of the dot.
-/

namespace Clausal

/-! ## Names of instances -/

/-- The name ends in a dot and the extension of a format, and does not start with that dot. -/
def IsInstanceName (name : Name) : Prop :=
  ∃ stem, ∃ format : Format, stem ≠ [] ∧ name = stem ++ '.' :: format.extension.toList

/-- A name whose only dot is in front has no extension. -/
theorem not_isInstanceName_of_undotted {rest : Name} (undotted : '.' ∉ rest) :
    ¬ IsInstanceName ('.' :: rest) := by
  rintro ⟨_ | ⟨c, stem⟩, format, hstem, heq⟩
  · exact hstem rfl
  · rw [List.cons_append, List.cons.injEq] at heq
    exact undotted (heq.2 ▸ List.mem_append_right stem List.mem_cons_self)

theorem Format.isSome_ofExtension?_iff {text : String} :
    (ofExtension? text).isSome = true ↔ ∃ format : Format, text = format.extension := by
  rw [Option.isSome_iff_exists]
  constructor
  · rintro ⟨format, h⟩
    exact ⟨format, extension_of_ofExtension? h⟩
  · rintro ⟨format, rfl⟩
    exact ⟨format, ofExtension?_extension format⟩

theorem Format.isAscii_extension (format : Format) : Text.IsAscii format.extension.toList := by
  cases format <;> simp [Text.IsAscii, extension]

namespace Path

theorem extensionOf?_append {stem : Name} {ending : Text.Octets} (hstem : stem ≠ [])
    (undotted : '.' ∉ ending) : extensionOf? (stem ++ '.' :: ending) = some ending := by
  have hafter : ∀ c ∈ ending.reverse, decide (c = '.') = false := fun c hc =>
    decide_eq_false fun h => undotted (h ▸ List.mem_reverse.mp hc)
  rw [extensionOf?, List.reverse_append, List.reverse_cons, List.append_assoc,
    List.singleton_append, Text.splitOnce?_append_cons hafter (by decide)]
  simp only [List.reverse_eq_nil_iff, if_neg hstem, List.reverse_reverse]

theorem eq_of_extensionOf? {name : Name} {ending : Text.Octets}
    (h : extensionOf? name = some ending) :
    ∃ stem, stem ≠ [] ∧ name = stem ++ '.' :: ending := by
  rw [extensionOf?] at h
  split at h
  · rename_i after before hsplit
    split at h
    · cases h
    · rename_i hbefore
      cases h
      obtain ⟨x, hx, hname⟩ := Text.eq_of_splitOnce? hsplit
      refine ⟨before.reverse, fun hnil => hbefore (List.reverse_eq_nil_iff.mp hnil), ?_⟩
      rw [← List.reverse_reverse name, hname, of_decide_eq_true hx, List.reverse_append,
        List.reverse_cons, List.append_assoc, List.singleton_append]
  · cases h

/-- Behind a dot that is not the first character, the extension is that of its format. -/
theorem format?_of_name {path : Path} {stem : Name} {format : Format}
    (hname : path.fileName? = some (stem ++ '.' :: format.extension.toList)) (hstem : stem ≠ []) :
    path.format? = some format := by
  have undotted : '.' ∉ format.extension.toList := by cases format <;> decide
  have bytes : Text.Octets.AreBytes format.extension.toList := fun c hc =>
    Nat.lt_trans (format.isAscii_extension c hc).2 (by decide)
  have htext : Text.Octets.toText format.extension.toList = format.extension :=
    (Text.Octets.toText_eq_iff bytes format.isAscii_extension).mpr rfl
  rw [format?, extension?, hname, Option.bind_some, extensionOf?_append hstem undotted,
    Option.bind_some, htext, Format.ofExtension?_extension]

theorem isSome_format?_iff {path : Path} {name : Name} (hname : path.fileName? = some name)
    (bytes : Text.Octets.AreBytes name) : path.format?.isSome = true ↔ IsInstanceName name := by
  constructor
  · intro h
    rw [format?, extension?, hname, Option.bind_some] at h
    cases hending : extensionOf? name with
    | none => rw [hending] at h; cases h
    | some ending =>
        rw [hending, Option.bind_some, Format.isSome_ofExtension?_iff] at h
        obtain ⟨format, hformat⟩ := h
        obtain ⟨stem, hstem, rfl⟩ := eq_of_extensionOf? hending
        have hbytes : Text.Octets.AreBytes ending := fun c hc =>
          bytes c (List.mem_append_right stem (List.mem_cons_of_mem _ hc))
        rw [Text.Octets.toText_eq_iff hbytes format.isAscii_extension] at hformat
        exact ⟨stem, format, hstem, by rw [hformat]⟩
  · rintro ⟨stem, format, hstem, rfl⟩
    rw [format?_of_name hname hstem, Option.isSome_some]

end Path

namespace Path

namespace Component

/-! ## The order of components -/

theorem lt_or_lt_of_ne {a b : Component} (h : a ≠ b) : a.lt b = true ∨ b.lt a = true := by
  cases a <;> cases b
  case name.name m n =>
    simp only [lt, decide_eq_true_eq]
    refine Classical.or_iff_not_imp_left.mpr fun hlt => ?_
    refine Classical.byContradiction fun hgt => h (congrArg name ?_)
    exact List.le_antisymm (List.not_lt.mp hgt) (List.not_lt.mp hlt)
  all_goals simp_all [lt, rank]

theorem lt_asymm {a b : Component} (h : a.lt b = true) : b.lt a = false := by
  cases a <;> cases b
  case name.name m n =>
    simp only [lt, decide_eq_true_eq, decide_eq_false_iff_not] at h ⊢
    exact List.lt_asymm h
  all_goals simp_all [lt, rank]

theorem lt_trans {a b c : Component} (hab : a.lt b = true) (hbc : b.lt c = true) :
    a.lt c = true := by
  cases a <;> cases b <;> cases c
  case name.name.name m n o =>
    simp only [lt, decide_eq_true_eq] at hab hbc ⊢
    exact List.lt_trans hab hbc
  all_goals simp_all [lt, rank]

end Component

/-! ## The order of lists of components -/

theorem componentsLe_cons_self (c : Component) (as bs : List Component) :
    componentsLe (c :: as) (c :: bs) = componentsLe as bs := by
  rw [componentsLe, if_pos rfl]

theorem componentsLe_cons_of_ne {a b : Component} (h : a ≠ b) (as bs : List Component) :
    componentsLe (a :: as) (b :: bs) = a.lt b := by
  rw [componentsLe, if_neg h]

theorem componentsLe_total (as bs : List Component) :
    componentsLe as bs = true ∨ componentsLe bs as = true := by
  induction as generalizing bs with
  | nil => exact .inl rfl
  | cons a as ih =>
      cases bs with
      | nil => exact .inr rfl
      | cons b bs =>
          by_cases h : a = b
          · subst h
            simp only [componentsLe_cons_self]
            exact ih bs
          · rw [componentsLe_cons_of_ne h, componentsLe_cons_of_ne (Ne.symm h)]
            exact Component.lt_or_lt_of_ne h

theorem componentsLe_trans {as bs cs : List Component} (hab : componentsLe as bs = true)
    (hbc : componentsLe bs cs = true) : componentsLe as cs = true := by
  induction as generalizing bs cs with
  | nil => rfl
  | cons a as ih =>
      cases bs with
      | nil => cases hab
      | cons b bs =>
          cases cs with
          | nil => cases hbc
          | cons c cs =>
              by_cases hb : a = b
              · subst hb
                rw [componentsLe_cons_self] at hab
                by_cases hc : a = c
                · subst hc
                  rw [componentsLe_cons_self] at hbc ⊢
                  exact ih hab hbc
                · rw [componentsLe_cons_of_ne hc] at hbc ⊢
                  exact hbc
              · rw [componentsLe_cons_of_ne hb] at hab
                by_cases hc : b = c
                · rwa [← hc, componentsLe_cons_of_ne hb]
                · rw [componentsLe_cons_of_ne hc] at hbc
                  have hac := Component.lt_trans hab hbc
                  have hne : a ≠ c := by
                    rintro rfl
                    exact Bool.false_ne_true ((Component.lt_asymm hab).symm.trans hbc)
                  rwa [componentsLe_cons_of_ne hne]

theorem componentsLe_antisymm {as bs : List Component} (hab : componentsLe as bs = true)
    (hba : componentsLe bs as = true) : as = bs := by
  induction as generalizing bs with
  | nil =>
      cases bs with
      | nil => rfl
      | cons b bs => cases hba
  | cons a as ih =>
      cases bs with
      | nil => cases hab
      | cons b bs =>
          by_cases h : a = b
          · subst h
            rw [componentsLe_cons_self] at hab hba
            rw [ih hab hba]
          · rw [componentsLe_cons_of_ne h] at hab
            rw [componentsLe_cons_of_ne (Ne.symm h), Component.lt_asymm hab] at hba
            cases hba

theorem le_total (a b : Path) : (a.le b || b.le a) = true := by
  rw [Bool.or_eq_true]
  exact componentsLe_total _ _

theorem le_trans (a b c : Path) (hab : a.le b = true) (hbc : b.le c = true) : a.le c = true :=
  componentsLe_trans hab hbc

/-! ## Joined names -/

/-- What an entry of a folder can be called. -/
structure IsEntryName (name : Name) : Prop where
  nonempty : name ≠ []
  notHere : name ≠ ['.']
  notParent : name ≠ ['.', '.']
  undivided : '/' ∉ name
  proper : '\x00' ∉ name
  bytes : Text.Octets.AreBytes name
  short : name.length ≤ FileSystem.nameLimit

theorem isEntryName_iff {name : Name} :
    IsEntryName name ↔ name ≠ [] ∧ name ≠ ['.'] ∧ name ≠ ['.', '.'] ∧
      (name.all fun c => c ≠ '/' && c ≠ '\x00' && decide (c.toNat < 256)) = true ∧
      name.length ≤ FileSystem.nameLimit := by
  simp only [List.all_eq_true, Bool.and_eq_true, decide_eq_true_eq]
  constructor
  · rintro ⟨hempty, hhere, hparent, hslash, hzero, hbytes, hshort⟩
    exact ⟨hempty, hhere, hparent,
      fun c hc => ⟨⟨fun h => hslash (h ▸ hc), fun h => hzero (h ▸ hc)⟩, hbytes c hc⟩, hshort⟩
  · rintro ⟨hempty, hhere, hparent, hall, hshort⟩
    exact ⟨hempty, hhere, hparent, fun hmem => (hall _ hmem).1.1 rfl,
      fun hmem => (hall _ hmem).1.2 rfl, fun c hc => (hall c hc).2, hshort⟩

instance (name : Name) : Decidable (IsEntryName name) := decidable_of_iff' _ isEntryName_iff

/-- The components that stand for the first part. -/
def firstComponents (path : Path) (first : Text.Octets) : List Component :=
  if path.isAbsolute then [.root]
  else if first = ['.'] then [.here]
  else (laterComponent? first).toList

theorem components_of_parts {path : Path} {first : Text.Octets} {rest : List Text.Octets}
    (h : path.parts = first :: rest) :
    path.components = path.firstComponents first ++ rest.filterMap laterComponent? := by
  rw [components, h]
  rfl

section

variable {name : Name} (named : IsEntryName name)

include named

theorem laterComponent?_of_name : laterComponent? name = some (.name name) := by
  have hsilent : ¬ (name = [] ∨ name = ['.']) := fun h => h.elim named.nonempty named.notHere
  rw [laterComponent?, if_neg hsilent, if_neg named.notParent]

theorem isAbsolute_of_name : isAbsolute ⟨name⟩ = false := by
  obtain ⟨c, rest, rfl⟩ := List.exists_cons_of_ne_nil named.nonempty
  have hc : c ≠ '/' := fun h => named.undivided (h ▸ List.mem_cons_self)
  simpa [isAbsolute] using hc

theorem split_name : Text.split (· = '/') name = [name] :=
  Text.split_piece fun _ hc => decide_eq_false fun h => named.undivided (h ▸ hc)

/-- A name is one component more, wherever it is joined. -/
theorem components_join (base : Path) :
    (base.join ⟨name⟩).components = base.components ++ [.name name] := by
  have hsplit (above below : Text.Octets) : Text.split (· = '/') (above ++ '/' :: below) =
      Text.split (· = '/') above ++ Text.split (· = '/') below :=
    Text.split_append_cons (by decide) above below
  have habsolute : (base.join ⟨name⟩).isAbsolute = base.isAbsolute := by
    rw [isAbsolute_join, isAbsolute_of_name named, Bool.false_or]
  have hlater : [name].filterMap laterComponent? = [.name name] := by
    rw [List.filterMap_cons_some (laterComponent?_of_name named), List.filterMap_nil]
  have hempty : [[]].filterMap laterComponent? = [] := rfl
  rcases join_relative (isAbsolute_of_name named) base with
    ⟨hnone, hjoin⟩ | ⟨above, hbase, hjoin⟩ | ⟨-, hjoin⟩
  · have hbase : base = ⟨[]⟩ := by rw [← hnone]
    have hparts : Path.parts ⟨name⟩ = [name] := split_name named
    rw [hjoin, hbase, components_of_parts hparts, firstComponents, isAbsolute_of_name named,
      if_neg Bool.false_ne_true, if_neg named.notHere, laterComponent?_of_name named]
    rfl
  · obtain ⟨first, rest, habove⟩ := List.exists_cons_of_ne_nil (Text.split_ne_nil (· = '/') above)
    have hparts : base.parts = first :: (rest ++ [[]]) := by
      rw [parts, hbase, hsplit, habove]
      rfl
    have hjoined : (base.join ⟨name⟩).parts = first :: (rest ++ [name]) := by
      rw [parts, hjoin, hsplit, split_name named, habove]
      rfl
    rw [components_of_parts hparts, components_of_parts hjoined, firstComponents, habsolute,
      ← firstComponents, List.filterMap_append, List.filterMap_append, hempty, hlater,
      List.append_nil, List.append_assoc]
  · obtain ⟨first, rest, hparts⟩ :=
      List.exists_cons_of_ne_nil (Text.split_ne_nil (· = '/') base.octets)
    have hjoined : (base.join ⟨name⟩).parts = first :: (rest ++ [name]) := by
      rw [parts, hjoin, hsplit, split_name named, hparts]
      rfl
    rw [components_of_parts hparts, components_of_parts hjoined, firstComponents, habsolute,
      ← firstComponents, List.filterMap_append, hlater, List.append_assoc]

end

/-- The path that names lead to from another one. -/
def joinAll (base : Path) (names : List Name) : Path :=
  names.foldl (fun path name => path.join ⟨name⟩) base

theorem components_joinAll {names : List Name} (named : ∀ name ∈ names, IsEntryName name)
    (base : Path) : (base.joinAll names).components = base.components ++ names.map .name := by
  induction names generalizing base with
  | nil => rw [joinAll, List.foldl_nil, List.map_nil, List.append_nil]
  | cons name rest ih =>
      rw [List.forall_mem_cons] at named
      have hrest := ih named.2 (base.join ⟨name⟩)
      rw [joinAll] at hrest ⊢
      rw [List.foldl_cons, hrest, components_join named.1, List.append_assoc, List.map_cons,
        List.singleton_append]

/-- The names can be told from the components. -/
theorem eq_of_components_joinAll {names names' : List Name}
    (named : ∀ name ∈ names, IsEntryName name) (named' : ∀ name ∈ names', IsEntryName name)
    {base : Path} (h : (base.joinAll names).components = (base.joinAll names').components) :
    names = names' := by
  rw [components_joinAll named, components_joinAll named', List.append_cancel_left_eq] at h
  exact (List.map_inj_right fun _ _ => Component.name.inj).mp h

theorem fileName?_joinAll {names : List Name} (named : ∀ name ∈ names, IsEntryName name)
    {name : Name} (last : names.getLast? = some name) (base : Path) :
    (base.joinAll names).fileName? = some name := by
  obtain ⟨above, rfl⟩ := List.getLast?_eq_some_iff.mp last
  rw [fileName?, components_joinAll named, List.map_append, List.map_singleton,
    ← List.append_assoc, List.getLast?_concat]

end Path

/-! ## Entries of folders -/

namespace FileSystem

open Text (Octets)

variable {fs : FileSystem} {place names : List Name} {name : Name}

theorem followWith_concat {jump : List Name → List Octets → Except FileError (List Name)}
    {parts : List Octets} (named : Path.IsEntryName name)
    (inside : fs.root.kindAt? names = some .folder)
    (unlinked : ∀ target, fs.root.kindAt? (names ++ [name]) ≠ some (.link target))
    (hjump : ∀ place parts, jump place parts = .ok names →
      jump place (parts ++ [name]) = .ok (names ++ [name]))
    (h : fs.followWith true jump place parts = .ok names) :
    fs.followWith true jump place (parts ++ [name]) = .ok (names ++ [name]) := by
  induction parts generalizing place with
  | nil =>
      obtain rfl : place.reverse = names := Except.ok.inj h
      have hsilent : ¬ (name = [] ∨ name = ['.']) := fun h => h.elim named.nonempty named.notHere
      rw [← List.reverse_cons] at unlinked ⊢
      rw [List.nil_append, followWith_of_folder inside, if_neg hsilent, if_neg named.notParent,
        if_neg (Nat.not_lt.mpr named.short)]
      split
      · rename_i target hlink
        exact absurd hlink (unlinked target)
      · rfl
  | cons part rest ih =>
      have hfolder := folder_of_followWith h
      rw [followWith_of_folder hfolder] at h
      rw [List.cons_append, followWith_of_folder hfolder]
      by_cases hstay : part = [] ∨ part = ['.']
      · rw [if_pos hstay] at h ⊢
        exact ih h
      rw [if_neg hstay] at h ⊢
      by_cases hup : part = ['.', '.']
      · rw [if_pos hup] at h ⊢
        exact ih h
      rw [if_neg hup] at h ⊢
      by_cases hlong : nameLimit < part.length
      · rw [if_pos hlong] at h
        cases h
      rw [if_neg hlong] at h ⊢
      split at h
      · rename_i target hlink
        simp only [Bool.not_true, Bool.false_eq_true, and_false, if_false] at h ⊢
        rw [← List.append_assoc]
        exact hjump _ _ h
      · exact ih h

theorem followLinks_concat {parts : List Octets} (named : Path.IsEntryName name)
    (inside : fs.root.kindAt? names = some .folder)
    (unlinked : ∀ target, fs.root.kindAt? (names ++ [name]) ≠ some (.link target)) {links : Nat}
    (h : fs.followLinks true links place parts = .ok names) :
    fs.followLinks true links place (parts ++ [name]) = .ok (names ++ [name]) := by
  induction links generalizing place parts with
  | zero => exact followWith_concat named inside unlinked (fun _ _ hjump => by cases hjump) h
  | succ links ih => exact followWith_concat named inside unlinked (fun _ _ hjump => ih hjump) h

/-- The path to a folder joined with the name of an entry leads to the entry, unless it is a link or
the path is too long. -/
theorem get_join {path : Path} {attributes : Attributes} {entries : List (Name × Node)}
    {node : Node} (leads : fs.get path = .ok (.folder attributes entries))
    (entry : entries.lookup name = some node) (named : Path.IsEntryName name)
    (unlinked : ∀ target, node ≠ .link target)
    (short : (path.join ⟨name⟩).octets.length ≤ pathLimit) :
    fs.get (path.join ⟨name⟩) = .ok node := by
  obtain ⟨names, hfollow, hnames⟩ := get_eq_ok_iff.mp leads
  obtain ⟨hproper, hempty, -, hlinks⟩ := locate_eq_ok_iff.mp hfollow
  have hnode : fs.node? (names ++ [name]) = some node := by
    rw [node?, Node.find?_append, ← node?, hnames, Option.bind_some, Node.find?_folder_cons, entry,
      Option.bind_some, Node.find?_nil]
  have inside : fs.root.kindAt? names = some .folder := by
    rw [kindAt?_eq, hnames]
    rfl
  have unlinked' : ∀ target, fs.root.kindAt? (names ++ [name]) ≠ some (.link target) := by
    intro target hlink
    rw [kindAt?_eq, hnode, Option.map_some, Option.some.injEq] at hlink
    cases node with
    | file id => cases hlink
    | folder attributes entries => cases hlink
    | link other => exact unlinked other rfl
  have relative := Path.isAbsolute_of_name named
  have hparts : Path.parts ⟨name⟩ = [name] := Path.split_name named
  refine get_eq_ok_iff.mpr ⟨_, locate_eq_ok_iff.mpr ⟨?_, ?_, short, ?_⟩, hnode⟩
  · rw [← Bool.not_eq_true, List.contains_iff_mem, Path.mem_join_iff relative (by decide)]
    rintro (hmem | hmem)
    · rw [← List.contains_iff_mem, hproper] at hmem
      cases hmem
    · exact named.proper hmem
  · intro hnone
    have hlength := Path.length_le_join relative path
    rw [hnone, List.length_nil, Nat.le_zero, List.length_eq_zero_iff] at hlength
    exact named.nonempty hlength
  · rw [Path.isAbsolute_join, relative, Bool.false_or, followLinks_parts_join relative hempty,
      hparts]
    exact followLinks_concat named inside unlinked' hlinks

end FileSystem

end Clausal

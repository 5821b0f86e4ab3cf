import Clausal.Proofs.FileSystem.Writing

/-!
# Removing a file

Removing a file takes its name out of the folder that it stands in.  Every other name leads on to
what it led to, and what the files hold is left alone, so where no links are, nothing is found any
more under the path that was removed, and under other paths everything that was there.
-/

/-! ## Taking a name out of the tree -/

namespace Clausal.Node

theorem lookup_dropEntry (name : Name) (entries : List (Name × Node)) (wanted : Name) :
    (dropEntry name entries).lookup wanted =
      if wanted = name then none else entries.lookup wanted := by
  induction entries with
  | nil => simp [dropEntry]
  | cons entry rest ih =>
      obtain ⟨other, node⟩ := entry
      rw [dropEntry] at ih ⊢
      by_cases hother : other = name
      · subst hother
        rw [List.filter_cons_of_neg (by simp), ih]
        by_cases hwanted : wanted = other
        · rw [if_pos hwanted, if_pos hwanted]
        · rw [if_neg hwanted, if_neg hwanted, List.lookup_cons, beq_false_of_ne hwanted]
      · rw [List.filter_cons_of_pos (by simpa using hother), List.lookup_cons, List.lookup_cons,
          ih]
        by_cases hwanted : wanted = other
        · subst hwanted
          simp only [beq_self_eq_true, if_neg hother]
        · rw [beq_false_of_ne hwanted]

theorem update_last_none {moment : Int} {name : Name} {attributes : Attributes}
    {entries : List (Name × Node)} :
    (folder attributes entries).update moment (fun _ => none) [name] =
      folder { attributes with changed := moment } (dropEntry name entries) := rfl

/-- Where a file is taken out, all other names lead to what they led to, as far as that is seen
without looking into folders. -/
theorem map_find?_update_none {α : Type} (view : Node → α)
    (blind : ∀ attributes entries attributes' entries',
      view (folder attributes entries) = view (folder attributes' entries'))
    (moment : Int) {node : Node} {above : List Name} {name : Name}
    (present : node.kindAt? (above ++ [name]) = some .file) (other : List Name) :
    ((node.update moment (fun _ => none) (above ++ [name])).find? other).map view =
      if other = above ++ [name] then none else (node.find? other).map view := by
  induction above generalizing node other with
  | nil =>
      obtain ⟨attributes, entries, inner, rfl, hinner, hfile⟩ := exists_of_kindAt?_cons present
      rw [List.nil_append, update_last_none]
      cases other with
      | nil =>
          rw [find?_nil, find?_nil, if_neg (by simp)]
          exact congrArg some (blind _ _ _ _)
      | cons first rest =>
          rw [find?_folder_cons, lookup_dropEntry, find?_folder_cons]
          by_cases hfirst : first = name
          · subst hfirst
            rw [if_pos rfl, hinner]
            -- Below a file nothing was found before.
            cases rest with
            | nil => rw [if_pos rfl]; rfl
            | cons next more =>
                rw [if_neg (by simp)]
                cases inner with
                | file id => rfl
                | folder _ _ => cases hfile
                | link target => cases hfile
          · rw [if_neg hfirst, if_neg (by simp [hfirst])]
  | cons outer rest ih =>
      obtain ⟨attributes, entries, inner, rfl, hinner, hfile⟩ := exists_of_kindAt?_cons present
      rw [List.cons_append, update_of_lookup (by simp) hinner]
      cases other with
      | nil =>
          rw [find?_nil, find?_nil, if_neg (by simp)]
          exact congrArg some (blind _ _ _ _)
      | cons first more =>
          by_cases hfirst : first = outer
          · subst hfirst
            rw [find?_putEntry_self, find?_folder_cons, hinner, Option.bind_some, ih hfile more]
            simp only [List.cons.injEq, true_and]
          · rw [find?_folder_cons, lookup_putEntry, if_neg hfirst, find?_folder_cons,
              if_neg (by simp [hfirst])]

/-- The file that is seen, if it is one. -/
def fileId? : Node → Option FileId
  | file id => some id
  | _ => none

end Clausal.Node

namespace Clausal.FileSystem

open Text (Octets)

/-! ## What is there -/

section

variable {fs fs' : FileSystem} {path : Path} {names : List Name}

theorem contains_of_follow (h : fs.follow path = .ok names) :
    fs.contains path = (fs.root.kindAt? names).isSome := by
  rw [contains, get, h, kindAt?_eq, Option.isSome_map]
  simp only [bind, Except.bind]
  cases fs.node? names <;> rfl

theorem contains_of_follow_error {failure : FileError} (h : fs.follow path = .error failure) :
    fs.contains path = false := by
  rw [contains, get, h]
  rfl

theorem exists_of_contains (h : fs.contains path = true) :
    ∃ names, fs.follow path = .ok names ∧ (fs.root.kindAt? names).isSome = true := by
  cases hfollow : fs.follow path with
  | error failure => rw [contains_of_follow_error hfollow] at h; cases h
  | ok names => exact ⟨names, rfl, contains_of_follow hfollow ▸ h⟩

theorem isFolder_of_follow (h : fs.follow path = .ok names) :
    fs.isFolder path = decide (fs.root.kindAt? names = some .folder) := by
  rw [isFolder, get, h, kindAt?_eq]
  simp only [bind, Except.bind]
  cases fs.node? names with
  | none => rfl
  | some node => cases node <;> rfl

theorem exists_of_isFolder (h : fs.isFolder path = true) :
    ∃ names, fs.follow path = .ok names ∧ fs.root.kindAt? names = some .folder := by
  cases hfollow : fs.follow path with
  | error failure => rw [isFolder, get, hfollow] at h; cases h
  | ok names => exact ⟨names, rfl, of_decide_eq_true (isFolder_of_follow hfollow ▸ h)⟩

end

/-! ## Without links -/

/-- No names lead to links. -/
def Unlinked (fs : FileSystem) : Prop :=
  ∀ names target, fs.root.kindAt? names ≠ some (.link target)

section

variable {fs fs' : FileSystem} {path : Path} {names : List Name}

theorem Unlinked.of_sameFolders (unlinked : fs.Unlinked) (same : fs.SameFolders fs') :
    fs'.Unlinked :=
  fun names target hlink => unlinked names target ((same.link names target).mp hlink)

theorem Unlinked.followWith (unlinked : fs.Unlinked) {throughLast throughLast' : Bool}
    {jump jump' : List Name → List Octets → Except FileError (List Name)}
    (place : List Name) (parts : List Octets) :
    fs.followWith throughLast jump place parts = fs.followWith throughLast' jump' place parts := by
  induction parts generalizing place with
  | nil => rfl
  | cons part rest ih =>
      rw [FileSystem.followWith, FileSystem.followWith, ih, ih, ih]
      split
      · rfl
      · rfl
      · rfl
      · split
        · rfl
        split
        · rfl
        split
        · rfl
        split
        · rename_i target hlink
          refine absurd ?_ (unlinked (part :: place).reverse target)
          rw [kindAt?_eq, hlink]
          rfl
        · rfl

theorem Unlinked.locate (unlinked : fs.Unlinked) (throughLast : Bool) (path : Path) :
    fs.locate throughLast path = fs.follow path := by
  have hlinks (place : List Name) (parts : List Octets) :
      fs.followLinks throughLast linkLimit place parts =
        fs.followLinks true linkLimit place parts := by
    rw [linkLimit, followLinks, followLinks]
    exact unlinked.followWith place parts
  rw [follow, FileSystem.locate, FileSystem.locate, hlinks]

/-- A path is followed from a folder, so the root is one. -/
theorem kindAt?_nil_of_locate {throughLast : Bool} (h : fs.locate throughLast path = .ok names) :
    fs.root.kindAt? [] = some .folder := by
  have hlinks := (locate_eq_ok_iff.mp h).2.2.2
  rw [linkLimit, followLinks] at hlinks
  cases hparts : path.parts with
  | nil => exact absurd hparts (Text.split_ne_nil _ _)
  | cons part rest =>
      rw [hparts] at hlinks
      have hfolder := folder_of_followWith hlinks
      cases hplace : (if path.isAbsolute then [] else fs.here.reverse).reverse with
      | nil => rwa [hplace] at hfolder
      | cons name below =>
          rw [hplace] at hfolder
          exact Node.kindAt?_of_append hfolder

/-! ## What is left -/

/-- The first file system has a file at these names and the second has nothing there; all other
names lead to the same kinds of things in both, and to the same files. -/
structure Without (fs fs' : FileSystem) (names : List Name) : Prop where
  present : fs.root.kindAt? names = some .file
  absent : fs'.root.kindAt? names = none
  elsewhere : ∀ other, other ≠ names → fs'.root.kindAt? other = fs.root.kindAt? other
  file : ∀ other id, other ≠ names →
    (fs'.node? other = some (.file id) ↔ fs.node? other = some (.file id))
  here : fs'.here = fs.here

theorem node?_eq_file_iff {id : FileId} :
    fs.node? names = some (.file id) ↔
      (fs.root.find? names).map Node.fileId? = some (some id) := by
  rw [node?]
  cases fs.root.find? names with
  | none => simp
  | some node => cases node <;> simp [Node.fileId?]

theorem without_updateAt (root : fs.root.kindAt? [] = some .folder)
    (present : fs.root.kindAt? names = some .file) :
    fs.Without (fs.updateAt names fun _ => none) names := by
  obtain hnil | ⟨above, name, rfl⟩ := names.eq_nil_or_concat
  · rw [hnil, root] at present
    cases present
  rw [List.concat_eq_append] at present ⊢
  have hkinds := Node.map_find?_update_none Node.kind (fun _ _ _ _ => rfl) fs.moment present
  have hfiles := Node.map_find?_update_none Node.fileId? (fun _ _ _ _ => rfl) fs.moment present
  refine ⟨present, (hkinds _).trans (if_pos rfl), ?_, ?_, rfl⟩
  · exact fun other hne => (hkinds other).trans (if_neg hne)
  · intro other id hne
    rw [node?_eq_file_iff, node?_eq_file_iff, ← (hfiles other).trans (if_neg hne)]
    rfl

namespace Without

variable (without : fs.Without fs' names)

include without

theorem sameFolders : fs.SameFolders fs' :=
  .of_kindAt? without.here (.inr without.present) (.inl without.absent) without.elsewhere

theorem get_eq_file {id : FileId} (h : fs.get path = .ok (.file id))
    (hother : fs.follow path ≠ .ok names) : fs'.get path = .ok (.file id) := by
  obtain ⟨found, hfollow, hnode⟩ := get_eq_ok_iff.mp h
  have hne : found ≠ names := fun heq => hother (heq ▸ hfollow)
  exact get_eq_ok_iff.mpr
    ⟨found, without.sameFolders.locate hfollow, (without.file found id hne).mpr hnode⟩

theorem contains_eq_false (hfollow : fs.follow path = .ok names) : fs'.contains path = false := by
  rw [contains_of_follow (without.sameFolders.locate hfollow), without.absent]
  rfl

end Without

/-- What is at a path is removed unless it is a folder. -/
theorem removeFile_of_unlinked (unlinked : fs.Unlinked) (apart : fs.isFolder path = false) :
    fs.removeFile path = fs ∧ fs.contains path = false ∨
      ∃ names, fs.follow path = .ok names ∧ fs.Without (fs.removeFile path) names := by
  rw [removeFile, unlinked.locate]
  cases hfollow : fs.follow path with
  | error failure => exact .inl ⟨rfl, contains_of_follow_error hfollow⟩
  | ok names =>
      dsimp only
      have hkind := kindAt?_eq fs names
      cases hnode : fs.node? names with
      | none =>
          refine .inl ⟨rfl, ?_⟩
          rw [contains_of_follow hfollow, hkind, hnode]
          rfl
      | some node =>
          rw [hnode] at hkind
          cases node with
          | file id =>
              exact .inr ⟨names, rfl, without_updateAt (kindAt?_nil_of_locate hfollow) hkind⟩
          | folder attributes entries =>
              rw [isFolder_of_follow hfollow, hkind] at apart
              cases apart
          | link target => exact absurd hkind (unlinked names target)

theorem bodies_removeFile (fs : FileSystem) (path : Path) :
    (fs.removeFile path).bodies = fs.bodies := by
  rw [removeFile]
  split
  · rfl
  · split <;> rfl

/-! ## Files that came meanwhile -/

/-- Where no links are, the names that a path leads to can be told from the path alone. -/
theorem followWith_unique (unlinked : fs.Unlinked) (unlinked' : fs'.Unlinked)
    {throughLast : Bool} {jump jump' : List Name → List Octets → Except FileError (List Name)}
    {place names names' : List Name} {parts : List Octets}
    (h : fs.followWith throughLast jump place parts = .ok names)
    (h' : fs'.followWith throughLast jump' place parts = .ok names') : names = names' := by
  induction parts generalizing place with
  | nil => exact Except.ok.inj (h.symm.trans h')
  | cons part rest ih =>
      rw [followWith_of_folder (folder_of_followWith h)] at h
      rw [followWith_of_folder (folder_of_followWith h')] at h'
      by_cases hstay : part = [] ∨ part = ['.']
      · rw [if_pos hstay] at h h'
        exact ih h h'
      rw [if_neg hstay] at h h'
      by_cases hup : part = ['.', '.']
      · rw [if_pos hup] at h h'
        exact ih h h'
      rw [if_neg hup] at h h'
      by_cases hlong : nameLimit < part.length
      · rw [if_pos hlong] at h
        cases h
      rw [if_neg hlong] at h h'
      split at h
      · exact absurd ‹_› (unlinked _ _)
      split at h'
      · exact absurd ‹_› (unlinked' _ _)
      exact ih h h'

theorem follow_unique (unlinked : fs.Unlinked) (unlinked' : fs'.Unlinked)
    (here : fs'.here = fs.here) {names' : List Name} (h : fs.follow path = .ok names)
    (h' : fs'.follow path = .ok names') : names = names' := by
  have hlinks := (locate_eq_ok_iff.mp h).2.2.2
  have hlinks' := (locate_eq_ok_iff.mp h').2.2.2
  rw [linkLimit, followLinks] at hlinks hlinks'
  rw [here] at hlinks'
  exact followWith_unique unlinked unlinked' hlinks hlinks'

/-- In the second file system there are no links, and no new folders that the path passes through or
leads to. -/
structure SameWay (fs fs' : FileSystem) (path : Path) : Prop where
  here : fs'.here = fs.here
  unlinked : fs'.Unlinked
  leads : ∀ names, fs'.follow path = .ok names → fs.follow path = .ok names
  apart : fs.contains path = false → fs'.isFolder path = false

theorem SameFolders.sameWay (same : fs.SameFolders fs') (unlinked : fs.Unlinked) (path : Path) :
    fs.SameWay fs' path where
  here := same.here
  unlinked := unlinked.of_sameFolders same
  leads _ hfollow := same.symm.locate hfollow
  apart free := by
    refine Bool.eq_false_iff.mpr fun hfolder => ?_
    obtain ⟨names, hfollow, hkind⟩ := exists_of_isFolder hfolder
    rw [contains_of_follow (same.symm.locate hfollow), (same.folder names).mp hkind] at free
    cases free

namespace SameWay

variable (way : fs.SameWay fs' path) (free : fs.contains path = false)

include way free

/-- Where nothing was at a path, nothing but a file can have come there, which is removed. -/
theorem removeFile_cases : fs'.removeFile path = fs' ∧ fs'.contains path = false ∨
    ∃ names, fs'.follow path = .ok names ∧ fs'.Without (fs'.removeFile path) names :=
  removeFile_of_unlinked way.unlinked (way.apart free)

theorem contains_removeFile : (fs'.removeFile path).contains path = false := by
  rcases way.removeFile_cases free with ⟨hsame, hnone⟩ | ⟨names, hfollow, without⟩
  · rw [hsame, hnone]
  · exact without.contains_eq_false hfollow

theorem get_removeFile (unlinked : fs.Unlinked) {other : Path} {id : FileId}
    (former : fs.contains other = true) (h : fs'.get other = .ok (.file id)) :
    (fs'.removeFile path).get other = .ok (.file id) := by
  rcases way.removeFile_cases free with ⟨hsame, -⟩ | ⟨names, hfollow, without⟩
  · rw [hsame, h]
  · refine without.get_eq_file h fun hother => ?_
    -- Otherwise both paths led to these names from the start.
    obtain ⟨found, hfound, hkind⟩ := exists_of_contains former
    cases follow_unique unlinked way.unlinked way.here hfound hother
    rw [contains_of_follow (way.leads _ hfollow), hkind] at free
    cases free

end SameWay

/-! ## Making and writing files -/

theorem sameFolders_of_root_eq (root : fs'.root = fs.root) (here : fs'.here = fs.here) :
    fs.SameFolders fs' :=
  ⟨here, fun _ => by rw [root], fun _ _ => by rw [root]⟩

theorem sameFolders_of_create {id : FileId} (h : fs.create path = .ok (fs', id)) :
    fs.SameFolders fs' := by
  obtain ⟨names, hfollow, ⟨hnode, rfl⟩ | ⟨hnode, rfl, rfl⟩⟩ := create_eq_ok h
  · exact sameFolders_of_root_eq rfl rfl
  · exact (filed_placeFile hfollow hnode _).sameFolders rfl

theorem sameFolders_of_put {handle : FileHandle} (h : fs.openNew path = .ok (fs', handle))
    (bytes : List UInt8) :
    fs.SameFolders ((FileWriter.mk fs' handle).put bytes).1.files := by
  obtain ⟨root, here⟩ := FileWriter.respects_put fs'.root fs'.here ⟨fs', handle⟩ bytes ⟨rfl, rfl⟩
  exact (sameFolders_of_create (create_of_openNew h).1).trans (sameFolders_of_root_eq root here)

end

end Clausal.FileSystem

import Clausal.FileSystem

/-!
# Where paths lead

A path that leads to where nothing is leads into a folder.  A path leads to the same place in every
file system that has the same folders and links, whatever files come and go.
-/

/-!
## Names in the tree

Following a path asks of the nodes that names lead to only what kind they are: a folder, a
file, or a link with its path.  Putting a file where a folder has nothing leaves the kind of
everything else as it is.
-/

namespace Clausal.Node

/-- What a path sees of a node. -/
inductive Kind where
  | file
  | folder
  | link (target : Path)
  deriving DecidableEq, Repr

def kind : Node → Kind
  | file _ => .file
  | folder .. => .folder
  | link target => .link target

/-- The kind of what these names lead to. -/
def kindAt? (node : Node) (names : List Name) : Option Kind := (node.find? names).map kind

theorem kindAt?_eq_none_iff {node : Node} {names : List Name} :
    node.kindAt? names = none ↔ node.find? names = none := Option.map_eq_none_iff

@[simp] theorem find?_nil (node : Node) : node.find? [] = some node := by
  cases node <;> rfl

theorem find?_folder_cons (attributes : Attributes) (entries : List (Name × Node)) (name : Name)
    (rest : List Name) :
    (folder attributes entries).find? (name :: rest) =
      (entries.lookup name).bind fun node => node.find? rest := rfl

theorem find?_append (above below : List Name) (node : Node) :
    node.find? (above ++ below) = (node.find? above).bind fun found => found.find? below := by
  induction above generalizing node with
  | nil => rw [find?_nil]; rfl
  | cons name rest ih =>
      cases node with
      | file id => rfl
      | link target => rfl
      | folder attributes entries =>
          rw [List.cons_append, find?_folder_cons, find?_folder_cons, Option.bind_assoc]
          exact congrArg _ (funext fun found => ih found)

/-! ### Folders -/

theorem exists_of_kind_folder {node : Node} (h : node.kind = .folder) :
    ∃ attributes entries, node = folder attributes entries := by
  cases node with
  | file id => cases h
  | folder attributes entries => exact ⟨attributes, entries, rfl⟩
  | link target => cases h

/-- Only in a folder do more names lead on. -/
theorem exists_of_kindAt?_cons {node : Node} {name : Name} {rest : List Name} {kind : Kind}
    (h : node.kindAt? (name :: rest) = some kind) :
    ∃ attributes entries inner, node = folder attributes entries ∧
      entries.lookup name = some inner ∧ inner.kindAt? rest = some kind := by
  cases node with
  | file id => cases h
  | link target => cases h
  | folder attributes entries =>
      rw [kindAt?, find?_folder_cons] at h
      cases hentry : entries.lookup name with
      | none => rw [hentry] at h; cases h
      | some inner => exact ⟨attributes, entries, inner, rfl, hentry, by rwa [hentry] at h⟩

theorem kindAt?_of_append {node : Node} {above : List Name} {name : Name} {below : List Name}
    {kind : Kind} (h : node.kindAt? (above ++ name :: below) = some kind) :
    node.kindAt? above = some .folder := by
  rw [kindAt?, find?_append] at h
  cases hfound : node.find? above with
  | none => rw [hfound] at h; cases h
  | some found =>
      rw [hfound] at h
      obtain ⟨attributes, entries, -, rfl, -⟩ := exists_of_kindAt?_cons h
      rw [kindAt?, hfound]
      rfl

/-! ### Putting a node into a folder -/

theorem update_of_lookup {moment : Int} {change : Option Node → Option Node} {name : Name}
    {rest : List Name} (hrest : rest ≠ []) {attributes : Attributes}
    {entries : List (Name × Node)} {inner : Node} (h : entries.lookup name = some inner) :
    (folder attributes entries).update moment change (name :: rest) =
      folder attributes (putEntry name (inner.update moment change rest) entries) := by
  cases rest with
  | nil => exact absurd rfl hrest
  | cons next more => rw [update, h, Option.getD_some]

theorem update_last {moment : Int} {name : Name} {attributes : Attributes}
    {entries : List (Name × Node)} {added : Node} :
    (folder attributes entries).update moment (fun _ => some added) [name] =
      folder { attributes with changed := moment } (putEntry name added entries) := rfl

theorem find?_putEntry_self (attributes : Attributes) (entries : List (Name × Node))
    (name : Name) (added : Node) (rest : List Name) :
    (folder attributes (putEntry name added entries)).find? (name :: rest) =
      added.find? rest := by
  rw [find?_folder_cons, lookup_putEntry, if_pos rfl, Option.bind_some]

theorem kindAt?_putEntry_of_ne {attributes former : Attributes} {entries : List (Name × Node)}
    {name : Name} {added : Node} {other : Name} (hne : other ≠ name) (rest : List Name) :
    (folder attributes (putEntry name added entries)).kindAt? (other :: rest) =
      (folder former entries).kindAt? (other :: rest) := by
  rw [kindAt?, find?_folder_cons, lookup_putEntry, if_neg hne, kindAt?, find?_folder_cons]

section

variable {moment : Int} {node added : Node} {above : List Name} {name : Name}

theorem find?_update_self (room : node.kindAt? above = some .folder) :
    (node.update moment (fun _ => some added) (above ++ [name])).find? (above ++ [name]) =
      some added := by
  induction above generalizing node with
  | nil =>
      obtain ⟨attributes, entries, rfl⟩ := exists_of_kind_folder (Option.some.inj room)
      rw [List.nil_append, update_last, find?_putEntry_self, find?_nil]
  | cons first rest ih =>
      obtain ⟨attributes, entries, inner, rfl, hinner, inside⟩ := exists_of_kindAt?_cons room
      rw [List.cons_append, update_of_lookup (by simp) hinner, find?_putEntry_self]
      exact ih inside

/-- Where a new file is put, everything else stays of the kind that it was. -/
theorem kindAt?_update_of_ne (room : node.kindAt? above = some .folder)
    (free : node.kindAt? (above ++ [name]) = none) {id : FileId} {other : List Name}
    (hne : other ≠ above ++ [name]) :
    (node.update moment (fun _ => some (file id)) (above ++ [name])).kindAt? other =
      node.kindAt? other := by
  induction above generalizing node other with
  | nil =>
      obtain ⟨attributes, entries, rfl⟩ := exists_of_kind_folder (Option.some.inj room)
      rw [List.nil_append] at free hne ⊢
      rw [update_last]
      cases other with
      | nil => rfl
      | cons first rest =>
          by_cases hfirst : first = name
          · subst hfirst
            have hlookup : entries.lookup first = none := by
              simpa [kindAt?, find?_folder_cons] using free
            rw [kindAt?, find?_putEntry_self, kindAt?, find?_folder_cons, hlookup]
            -- Below the new file there is as little as there was below nothing.
            cases rest with
            | nil => exact absurd rfl hne
            | cons next more => rfl
          · exact kindAt?_putEntry_of_ne hfirst rest
  | cons outer rest ih =>
      obtain ⟨attributes, entries, inner, rfl, hinner, inside⟩ := exists_of_kindAt?_cons room
      rw [List.cons_append] at free hne ⊢
      rw [kindAt?, find?_folder_cons, hinner, Option.bind_some] at free
      rw [update_of_lookup (by simp) hinner]
      cases other with
      | nil => rfl
      | cons first more =>
          by_cases hfirst : first = outer
          · subst hfirst
            have hmore : more ≠ rest ++ [name] := fun heq => hne (by rw [heq])
            rw [kindAt?, find?_putEntry_self, kindAt?, find?_folder_cons, hinner,
              Option.bind_some]
            exact ih inside free hmore
          · exact kindAt?_putEntry_of_ne hfirst more

end

end Clausal.Node

/-! ## Following a path -/

namespace Clausal.FileSystem

open Text (Octets)

theorem kindAt?_eq (fs : FileSystem) (names : List Name) :
    fs.root.kindAt? names = (fs.node? names).map Node.kind := rfl

/-- If nothing is at these names, they are a name in a folder. -/
def HasRoom (fs : FileSystem) (names : List Name) : Prop :=
  fs.root.kindAt? names = none →
    ∃ above name, names = above ++ [name] ∧ fs.root.kindAt? above = some .folder

section

variable {fs : FileSystem} {throughLast : Bool}
  {jump : List Name → List Octets → Except FileError (List Name)} {place names : List Name}
  {part : Octets} {rest : List Octets}

/-! ### One part -/

/-- Only from a folder does a part lead on. -/
theorem folder_of_followWith (h : fs.followWith throughLast jump place (part :: rest) = .ok names) :
    fs.root.kindAt? place.reverse = some .folder := by
  rw [kindAt?_eq]
  rw [followWith] at h
  split at h
  · cases h
  · cases h
  · cases h
  · rename_i attributes entries hfolder
    rw [hfolder]
    rfl

theorem followWith_of_folder (hfolder : fs.root.kindAt? place.reverse = some .folder) :
    fs.followWith throughLast jump place (part :: rest) =
      if part = [] ∨ part = ['.'] then fs.followWith throughLast jump place rest
      else if part = ['.', '.'] then fs.followWith throughLast jump place.tail rest
      else if nameLimit < part.length then .error .nameTooLong
      else
        match fs.root.kindAt? (part :: place).reverse with
        | some (.link target) =>
            if rest = [] ∧ !throughLast then .ok (part :: place).reverse
            else jump (if target.isAbsolute then [] else place) (target.parts ++ rest)
        | _ => fs.followWith throughLast jump (part :: place) rest := by
  rw [kindAt?_eq] at hfolder ⊢
  rw [followWith]
  cases hnode : fs.node? place.reverse with
  | none => rw [hnode] at hfolder; cases hfolder
  | some node =>
      rw [hnode] at hfolder
      obtain ⟨attributes, entries, rfl⟩ := Node.exists_of_kind_folder (Option.some.inj hfolder)
      cases fs.node? (part :: place).reverse with
      | none => rfl
      | some next => cases next <;> rfl

/-! ### Room -/

theorem HasRoom.of_folder (h : fs.root.kindAt? names = some .folder) : fs.HasRoom names :=
  fun hnone => by rw [h] at hnone; cases hnone

theorem HasRoom.tail (h : fs.root.kindAt? place.reverse = some .folder) :
    fs.HasRoom place.tail.reverse := by
  cases place with
  | nil => exact .of_folder h
  | cons name above =>
      rw [List.reverse_cons] at h
      exact .of_folder (Node.kindAt?_of_append h)

theorem HasRoom.of_followWith {parts : List Octets}
    (hjump : ∀ place parts, parts ≠ [] → jump place parts = .ok names → fs.HasRoom names)
    (start : parts = [] → fs.HasRoom place.reverse)
    (h : fs.followWith throughLast jump place parts = .ok names) : fs.HasRoom names := by
  induction parts generalizing place with
  | nil =>
      have hplace : place.reverse = names := Except.ok.inj h
      exact hplace ▸ start rfl
  | cons part rest ih =>
      -- The next part is looked up in a folder, so a name that is missing has room there.
      have hfolder := folder_of_followWith h
      have below : fs.HasRoom (part :: place).reverse :=
        fun _ => ⟨place.reverse, part, List.reverse_cons, hfolder⟩
      rw [followWith_of_folder hfolder] at h
      by_cases hstay : part = [] ∨ part = ['.']
      · rw [if_pos hstay] at h
        exact ih (fun _ => .of_folder hfolder) h
      rw [if_neg hstay] at h
      by_cases hup : part = ['.', '.']
      · rw [if_pos hup] at h
        exact ih (fun _ => .tail hfolder) h
      rw [if_neg hup] at h
      by_cases hlong : nameLimit < part.length
      · rw [if_pos hlong] at h
        cases h
      rw [if_neg hlong] at h
      split at h
      · split at h
        · exact Except.ok.inj h ▸ below
        · rename_i target _ _
          exact hjump _ _ (by simp [Path.parts, Text.split_ne_nil]) h
      · exact ih (fun _ => below) h

theorem HasRoom.of_followLinks {links : Nat} {parts : List Octets} (hparts : parts ≠ [])
    (h : fs.followLinks throughLast links place parts = .ok names) : fs.HasRoom names := by
  induction links generalizing place parts with
  | zero =>
      exact .of_followWith (fun _ _ _ hjump => by cases hjump) (fun hnil => absurd hnil hparts) h
  | succ links ih =>
      exact .of_followWith (fun _ _ hne hjump => ih hne hjump) (fun hnil => absurd hnil hparts) h

theorem locate_eq_ok_iff {path : Path} :
    fs.locate throughLast path = .ok names ↔
      path.octets.contains '\x00' = false ∧ path.octets ≠ [] ∧ path.octets.length ≤ pathLimit ∧
        fs.followLinks throughLast linkLimit (if path.isAbsolute then [] else fs.here.reverse)
          path.parts = .ok names := by
  rw [locate]
  split
  · simp_all
  · split
    · simp_all
    · split
      · simp only [reduceCtorEq, false_iff]
        omega
      · simp_all

theorem HasRoom.of_locate {path : Path} (h : fs.locate throughLast path = .ok names) :
    fs.HasRoom names :=
  .of_followLinks (Text.split_ne_nil _ _) (locate_eq_ok_iff.mp h).2.2.2

end

/-! ### Agreement -/

/-- In both file systems the same names lead to folders, the same ones to links, and the current
folder is the same. -/
structure SameFolders (fs fs' : FileSystem) : Prop where
  here : fs'.here = fs.here
  folder : ∀ names, fs'.root.kindAt? names = some .folder ↔ fs.root.kindAt? names = some .folder
  link : ∀ names target, fs'.root.kindAt? names = some (.link target) ↔
    fs.root.kindAt? names = some (.link target)

namespace SameFolders

variable {fs fs' fs'' : FileSystem} {throughLast : Bool} {place names : List Name}

theorem symm (same : fs.SameFolders fs') : fs'.SameFolders fs :=
  ⟨same.here.symm, fun names => (same.folder names).symm,
    fun names target => (same.link names target).symm⟩

theorem trans (same : fs.SameFolders fs') (more : fs'.SameFolders fs'') : fs.SameFolders fs'' :=
  ⟨more.here.trans same.here, fun names => (more.folder names).trans (same.folder names),
    fun names target => (more.link names target).trans (same.link names target)⟩

/-- What stands at these names does not matter as long as it is neither folder nor link. -/
theorem of_kindAt? (here : fs'.here = fs.here)
    (before : fs.root.kindAt? names = none ∨ fs.root.kindAt? names = some .file)
    (after : fs'.root.kindAt? names = none ∨ fs'.root.kindAt? names = some .file)
    (elsewhere : ∀ other, other ≠ names → fs'.root.kindAt? other = fs.root.kindAt? other) :
    fs.SameFolders fs' := by
  have apart (kind : Node.Kind) (hkind : kind ≠ .file) (other : List Name) :
      fs'.root.kindAt? other = some kind ↔ fs.root.kindAt? other = some kind := by
    by_cases hother : other = names
    · subst hother
      rcases before with hbefore | hbefore <;> rcases after with hafter | hafter <;>
        simp [hbefore, hafter, hkind.symm]
    · rw [elsewhere other hother]
  exact ⟨here, apart .folder nofun, fun other target => apart (.link target) nofun other⟩

theorem followWith (same : fs.SameFolders fs')
    {jump jump' : List Name → List Octets → Except FileError (List Name)}
    (hjump : ∀ place parts, jump place parts = .ok names → jump' place parts = .ok names)
    {parts : List Octets} (h : fs.followWith throughLast jump place parts = .ok names) :
    fs'.followWith throughLast jump' place parts = .ok names := by
  induction parts generalizing place with
  | nil => exact h
  | cons part rest ih =>
      have hfolder := folder_of_followWith h
      rw [followWith_of_folder hfolder] at h
      rw [followWith_of_folder ((same.folder _).mpr hfolder)]
      by_cases hstay : part = [] ∨ part = ['.']
      · rw [if_pos hstay] at h ⊢
        exact ih h
      rw [if_neg hstay] at h ⊢
      by_cases hup : part = ['.', '.']
      · rw [if_pos hup] at h ⊢
        exact ih h
      rw [if_neg hup] at h ⊢
      by_cases hlong : nameLimit < part.length
      · rw [if_pos hlong] at h
        cases h
      rw [if_neg hlong] at h ⊢
      split at h
      · rename_i target hlink
        rw [(same.link _ target).mpr hlink]
        split at h
        · rename_i hend
          simp only [if_pos hend]
          exact h
        · rename_i hend
          simp only [if_neg hend]
          exact hjump _ _ h
      · -- Files and what is missing are told apart at the next part only.
        rename_i hnone
        split
        · rename_i target hlink
          exact absurd ((same.link _ target).mp hlink) (hnone target)
        · exact ih h

theorem followLinks (same : fs.SameFolders fs') {links : Nat} {parts : List Octets}
    (h : fs.followLinks throughLast links place parts = .ok names) :
    fs'.followLinks throughLast links place parts = .ok names := by
  induction links generalizing place parts with
  | zero => exact same.followWith (fun _ _ hjump => by cases hjump) h
  | succ links ih => exact same.followWith (fun _ _ hjump => ih hjump) h

theorem locate (same : fs.SameFolders fs') {path : Path}
    (h : fs.locate throughLast path = .ok names) : fs'.locate throughLast path = .ok names := by
  obtain ⟨hname, hsome, hshort, hlinks⟩ := locate_eq_ok_iff.mp h
  exact locate_eq_ok_iff.mpr ⟨hname, hsome, hshort, same.here ▸ same.followLinks hlinks⟩

end SameFolders

/-- In the second file system a file is at these names, in the first one a file or nothing, and
elsewhere both have the same kinds. -/
structure Filed (fs fs' : FileSystem) (names : List Name) : Prop where
  before : fs.root.kindAt? names = none ∨ fs.root.kindAt? names = some .file
  after : fs'.root.kindAt? names = some .file
  elsewhere : ∀ other, other ≠ names → fs'.root.kindAt? other = fs.root.kindAt? other

namespace Filed

variable {fs fs' : FileSystem} {throughLast : Bool} {names : List Name}

theorem sameFolders (filed : fs.Filed fs' names) (same : fs'.here = fs.here) :
    fs.SameFolders fs' :=
  .of_kindAt? same filed.before (.inr filed.after) filed.elsewhere

/-- The path to the file leads there also once it has been made. -/
theorem locate (filed : fs.Filed fs' names) (same : fs'.here = fs.here) {path : Path}
    (h : fs.locate throughLast path = .ok names) : fs'.locate throughLast path = .ok names :=
  (filed.sameFolders same).locate h

end Filed

end Clausal.FileSystem

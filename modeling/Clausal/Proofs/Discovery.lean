import Mathlib.Data.List.Nodup
import Mathlib.Logic.Relation
import Clausal.Discovery
import Clausal.Proofs.FileSystem.Writing
import Clausal.Proofs.Outcome
import Clausal.Proofs.Path

/-!
# What is found below a folder

The path of an instance is made of the folder's path by joining names, one for each folder on
the way, and it has an extension that names a format.  Below a folder without links, every file
whose name ends in such an extension is found, and found once.  Folders are searched whatever they
are called, and are not found themselves.  In path order there is one way only to put the paths, so
it does not matter how the folders list their entries.
-/

namespace Clausal

/-- Whether a path has a property and is that of an instance. -/
def Path.IsFound (P : Path → Prop) (path : Path) : Prop := P path ∧ path.format?.isSome = true

section

variable {fs : FileSystem} {through : Path → List Path} {P : Path → Prop}

theorem Path.isFound_of_mem_asInstance {path found : Path} (h : P path)
    (hmem : found ∈ path.asInstance) : found.IsFound P := by
  rw [asInstance] at hmem
  split at hmem
  · rename_i hformat
    rw [List.mem_singleton.mp hmem]
    exact ⟨h, hformat⟩
  · cases hmem

/-- A property that joining names keeps, and that what is found through links has. -/
structure Path.IsKept (P : Path → Prop) (through : Path → List Path) : Prop where
  joins : ∀ path name, P path → P (path.join ⟨name⟩)
  through : ∀ path, P path → ∀ found ∈ through path, found.IsFound P

mutual

theorem Node.isFound_of_mem_instances (kept : Path.IsKept P through) {path : Path} (h : P path) :
    (node : Node) → ∀ found ∈ node.instances fs through path, found.IsFound P
  | .file _, found, hmem => Path.isFound_of_mem_asInstance h hmem
  | .link _, found, hmem => by
      rw [Node.instances] at hmem
      split at hmem
      · exact kept.through path h found hmem
      · exact Path.isFound_of_mem_asInstance h hmem
  | .folder _ entries, found, hmem => by
      rw [Node.instances] at hmem
      split at hmem
      · exact isFound_of_mem_entriesInstances kept h entries found hmem
      · exact Path.isFound_of_mem_asInstance h hmem

theorem isFound_of_mem_entriesInstances (kept : Path.IsKept P through) {path : Path}
    (h : P path) : (entries : List (Name × Node)) →
      ∀ found ∈ entriesInstances fs through path entries, found.IsFound P
  | [], _, hmem => nomatch hmem
  | (name, node) :: rest, found, hmem => by
      rw [entriesInstances, List.mem_append] at hmem
      rcases hmem with hfirst | hrest
      · exact Node.isFound_of_mem_instances kept (kept.joins path name h) node found hfirst
      · exact isFound_of_mem_entriesInstances kept h rest found hrest

end

namespace FileSystem

theorem isKept_instancesThrough (joins : ∀ path name, P path → P (path.join ⟨name⟩))
    (links : Nat) : Path.IsKept P (fs.instancesThrough links) := by
  induction links with
  | zero => exact ⟨joins, fun _ _ _ hmem => nomatch hmem⟩
  | succ links ih =>
      refine ⟨joins, fun path h found hmem => ?_⟩
      rw [instancesThrough] at hmem
      split at hmem
      · exact isFound_of_mem_entriesInstances ih h _ found hmem
      · cases hmem

theorem isFound_of_mem_instances {folder : Path} {paths : List Path}
    (made : fs.instances folder = .ok paths)
    (joins : ∀ path name, P path → P (path.join ⟨name⟩)) (h : P folder) :
    ∀ found ∈ paths, found.IsFound P := by
  obtain ⟨node, -, hnode⟩ := bind_eq_ok_iff.mp made
  cases node with
  | file id => cases hnode
  | link target => cases hnode
  | folder attributes entries =>
      rw [← pure_eq_ok_iff.mp hnode]
      intro found hmem
      rw [List.mem_mergeSort] at hmem
      exact isFound_of_mem_entriesInstances (isKept_instancesThrough joins linkLimit) h entries
        found hmem

end FileSystem

end

open Clausal.Path (IsEntryName)

namespace Node

/-! ## Trees -/

/-- Files, and folders of them to any depth, with entries that have names of their own. -/
inductive IsTree : Node → Prop
  | file (id : FileId) : IsTree (.file id)
  | folder {attributes : Attributes} {entries : List (Name × Node)}
      (distinct : (entries.map Prod.fst).Nodup)
      (named : ∀ entry ∈ entries, IsEntryName entry.1)
      (inner : ∀ entry ∈ entries, IsTree entry.2) : IsTree (.folder attributes entries)

theorem lookup_eq_some_iff_mem {entries : List (Name × Node)}
    (distinct : (entries.map Prod.fst).Nodup) {name : Name} {node : Node} :
    entries.lookup name = some node ↔ (name, node) ∈ entries := by
  induction entries with
  | nil => simp
  | cons entry rest ih =>
      obtain ⟨other, inner⟩ := entry
      rw [List.map_cons, List.nodup_cons] at distinct
      rw [List.lookup_cons, List.mem_cons]
      by_cases h : name = other
      · subst h
        have habsent : (name, node) ∉ rest := fun hmem =>
          distinct.1 (List.mem_map.mpr ⟨_, hmem, rfl⟩)
        simp [habsent, eq_comm]
      · have hother : (name == other) = false := by simpa using h
        simp [hother, h, ih distinct.2]

theorem find?_folder_eq_some_iff {attributes : Attributes} {entries : List (Name × Node)}
    (distinct : (entries.map Prod.fst).Nodup) {name : Name} {rest : List Name} {found : Node} :
    (folder attributes entries).find? (name :: rest) = some found ↔
      ∃ node, (name, node) ∈ entries ∧ node.find? rest = some found := by
  simp only [find?_folder_cons, Option.bind_eq_some_iff, lookup_eq_some_iff_mem distinct]

theorem IsTree.named_of_find? {node found : Node} (tree : node.IsTree) {names : List Name}
    (h : node.find? names = some found) : ∀ name ∈ names, IsEntryName name := by
  induction names generalizing node with
  | nil => exact nofun
  | cons name rest ih =>
      cases tree with
      | file id => cases h
      | folder distinct named inner =>
          obtain ⟨next, hmem, hrest⟩ := (find?_folder_eq_some_iff distinct).mp h
          exact List.forall_mem_cons.mpr ⟨named _ hmem, ih (inner _ hmem) hrest⟩

/-! ## Names of files -/

mutual

/-- The names that lead to files, in the order of the folders' entries. -/
def fileNames : Node → List (List Name)
  | .file _ => [[]]
  | .link _ => []
  | .folder _ entries => entriesFileNames entries

def entriesFileNames : List (Name × Node) → List (List Name)
  | [] => []
  | (name, node) :: rest => node.fileNames.map (name :: ·) ++ entriesFileNames rest

end

theorem entriesFileNames_eq_flatMap (entries : List (Name × Node)) :
    entriesFileNames entries =
      entries.flatMap fun entry => entry.2.fileNames.map (entry.1 :: ·) := by
  induction entries with
  | nil => rfl
  | cons entry rest ih => rw [entriesFileNames, ih, List.flatMap_cons]

theorem mem_entriesFileNames_iff {entries : List (Name × Node)} {names : List Name} :
    names ∈ entriesFileNames entries ↔
      ∃ entry ∈ entries, ∃ rest ∈ entry.2.fileNames, names = entry.1 :: rest := by
  simp only [entriesFileNames_eq_flatMap, List.mem_flatMap, List.mem_map, eq_comm]

theorem IsTree.mem_fileNames_iff {node : Node} (tree : node.IsTree) {names : List Name} :
    names ∈ node.fileNames ↔ ∃ id, node.find? names = some (.file id) := by
  induction tree generalizing names with
  | file id =>
      cases names with
      | nil => simp [fileNames]
      | cons name rest => simp [fileNames, find?]
  | @folder attributes entries distinct named inner ih =>
      rw [fileNames, mem_entriesFileNames_iff]
      cases names with
      | nil => simp
      | cons name rest =>
          simp only [find?_folder_eq_some_iff distinct]
          constructor
          · rintro ⟨entry, hmem, below, hbelow, heq⟩
            obtain ⟨rfl, rfl⟩ := List.cons.inj heq
            obtain ⟨id, hid⟩ := (ih entry hmem).mp hbelow
            exact ⟨id, entry.2, hmem, hid⟩
          · rintro ⟨id, node, hmem, hid⟩
            exact ⟨_, hmem, rest, (ih _ hmem).mpr ⟨id, hid⟩, rfl⟩

theorem IsTree.nodup_fileNames {node : Node} (tree : node.IsTree) : node.fileNames.Nodup := by
  induction tree with
  | file id => simp [fileNames]
  | @folder attributes entries distinct named inner ih =>
      rw [fileNames, entriesFileNames_eq_flatMap, List.nodup_flatMap]
      constructor
      · intro entry hmem
        exact (ih entry hmem).map fun _ _ h => (List.cons.inj h).2
      · -- Names that start differently are different.
        refine (List.pairwise_map.mp distinct).imp fun {first second} hne names hfirst hsecond => ?_
        obtain ⟨below, -, rfl⟩ := List.mem_map.mp hfirst
        obtain ⟨below', -, heq⟩ := List.mem_map.mp hsecond
        exact hne (List.cons.inj heq).1.symm

/-! ## Instances by names -/

/-- The paths of all folders in the tree are short enough to be opened by. -/
def Fits (path : Path) (node : Node) : Prop :=
  ∀ names, node.kindAt? names = some .folder →
    (path.joinAll names).octets.length ≤ FileSystem.pathLimit

theorem fits_file (path : Path) (id : FileId) : (file id).Fits path := by
  intro names hfolder
  cases names with
  | nil => cases hfolder
  | cons name rest => cases hfolder

theorem fits_folder_iff {path : Path} {attributes : Attributes} {entries : List (Name × Node)}
    (distinct : (entries.map Prod.fst).Nodup) :
    (folder attributes entries).Fits path ↔ path.octets.length ≤ FileSystem.pathLimit ∧
      ∀ entry ∈ entries, entry.2.Fits (path.join ⟨entry.1⟩) := by
  constructor
  · refine fun fits => ⟨fits [] rfl, fun entry hmem rest hrest => fits (entry.1 :: rest) ?_⟩
    rw [kindAt?, find?_folder_cons, (lookup_eq_some_iff_mem distinct).mpr hmem]
    exact hrest
  · rintro ⟨short, inner⟩ names hfolder
    cases names with
    | nil => exact short
    | cons name rest =>
        obtain ⟨_, _, node, hnode, hlookup, hrest⟩ := exists_of_kindAt?_cons hfolder
        cases hnode
        exact inner _ ((lookup_eq_some_iff_mem distinct).mp hlookup) rest hrest

theorem Fits.short {path : Path} {node : Node} (fits : node.Fits path)
    (isFolder : node.isFolder = true) : path.octets.length ≤ FileSystem.pathLimit := by
  cases node with
  | file id => cases isFolder
  | link target => cases isFolder
  | folder attributes entries => exact fits [] rfl

theorem IsTree.ne_link {node : Node} (tree : node.IsTree) (target : Path) : node ≠ .link target := by
  rintro rfl
  cases tree

section

variable (fs : FileSystem) (through : Path → List Path)

theorem entriesInstances_eq {path : Path} {entries : List (Name × Node)}
    (h : ∀ entry ∈ entries, entry.2.instances fs through (path.join ⟨entry.1⟩) =
      (entry.2.fileNames.map (path.join ⟨entry.1⟩).joinAll).filter fun path => path.format?.isSome) :
    entriesInstances fs through path entries =
      ((entriesFileNames entries).map path.joinAll).filter fun path => path.format?.isSome := by
  induction entries with
  | nil => rfl
  | cons entry rest ih =>
      rw [List.forall_mem_cons] at h
      rw [entriesInstances, entriesFileNames, List.map_append, List.filter_append, h.1, ih h.2,
        List.map_map]
      rfl

theorem IsTree.instances_eq {node : Node} (tree : node.IsTree) {path : Path}
    (fits : node.Fits path) (leads : node.isFolder = true → fs.get path = .ok node) :
    node.instances fs through path =
      (node.fileNames.map path.joinAll).filter fun path => path.format?.isSome := by
  induction tree generalizing path with
  | file id =>
      rw [instances, fileNames, List.map_singleton, Path.joinAll, List.foldl_nil, Path.asInstance,
        List.filter_singleton, cond_eq_ite]
  | folder distinct named inner ih =>
      have hget := leads rfl
      have hfolder : fs.isFolder path = true := by rw [FileSystem.isFolder, hget]; rfl
      rw [instances, if_pos hfolder]
      refine entriesInstances_eq fs through fun entry hmem => ?_
      have inside := ((fits_folder_iff distinct).mp fits).2 entry hmem
      refine ih entry hmem inside fun isFolder => ?_
      exact FileSystem.get_join hget ((lookup_eq_some_iff_mem distinct).mpr hmem) (named entry hmem)
        (inner entry hmem).ne_link (inside.short isFolder)

theorem instances_of_long {path : Path} (long : FileSystem.pathLimit < path.octets.length)
    (attributes : Attributes) (entries : List (Name × Node)) :
    (folder attributes entries).instances fs through path = path.asInstance := by
  have hnone : fs.isFolder path = false := by
    rw [FileSystem.isFolder]
    cases hget : fs.get path with
    | error failure => rfl
    | ok node =>
        obtain ⟨names, hfollow, -⟩ := FileSystem.get_eq_ok_iff.mp hget
        obtain ⟨-, -, short, -⟩ := FileSystem.locate_eq_ok_iff.mp hfollow
        exact absurd long (Nat.not_lt.mpr short)
  rw [instances, hnone, if_neg Bool.false_ne_true]

end

/-! ## Other orders of entries -/

/-- One folder, at any depth, lists its entries in another order. -/
inductive Relists : Node → Node → Prop
  | here {attributes : Attributes} {entries entries' : List (Name × Node)}
      (perm : entries.Perm entries') :
      Relists (.folder attributes entries) (.folder attributes entries')
  | inside {attributes : Attributes} {name : Name} {node node' : Node}
      {before after : List (Name × Node)} (relists : Relists node node') :
      Relists (.folder attributes (before ++ (name, node) :: after))
        (.folder attributes (before ++ (name, node') :: after))

theorem Relists.isTree {node node' : Node} (h : Relists node node') (tree : node.IsTree) :
    node'.IsTree := by
  induction h with
  | here perm =>
      cases tree with
      | folder distinct named inner =>
          exact .folder ((perm.map Prod.fst).nodup_iff.mp distinct)
            (fun entry hmem => named entry (perm.mem_iff.mpr hmem))
            (fun entry hmem => inner entry (perm.mem_iff.mpr hmem))
  | inside relists ih =>
      cases tree with
      | folder distinct named inner =>
          simp only [List.forall_mem_append, List.forall_mem_cons] at named inner
          refine .folder ?_ ?_ ?_
          · simpa using distinct
          · simpa only [List.forall_mem_append, List.forall_mem_cons] using named
          · simp only [List.forall_mem_append, List.forall_mem_cons]
            exact ⟨inner.1, ih inner.2.1, inner.2.2⟩

theorem Relists.fileNames {node node' : Node} (h : Relists node node') :
    node.fileNames.Perm node'.fileNames := by
  induction h with
  | here perm =>
      rw [Node.fileNames, Node.fileNames, entriesFileNames_eq_flatMap, entriesFileNames_eq_flatMap]
      exact perm.flatMap_right _
  | inside relists ih =>
      simp only [Node.fileNames, entriesFileNames_eq_flatMap, List.flatMap_append,
        List.flatMap_cons]
      exact (ih.map _ |>.append_right _).append_left _

theorem Relists.kindAt? {node node' : Node} (h : Relists node node') (tree : node.IsTree)
    (names : List Name) : node'.kindAt? names = node.kindAt? names := by
  induction h generalizing names with
  | @here attributes entries entries' perm =>
      cases tree with
      | folder distinct named inner =>
          cases names with
          | nil => rfl
          | cons name rest =>
              have hlookup : entries'.lookup name = entries.lookup name := by
                refine Option.ext fun node => ?_
                rw [lookup_eq_some_iff_mem distinct,
                  lookup_eq_some_iff_mem ((perm.map Prod.fst).nodup_iff.mp distinct), perm.mem_iff]
              rw [Node.kindAt?, Node.kindAt?, find?_folder_cons, find?_folder_cons, hlookup]
  | @inside attributes other node node' before after relists ih =>
      cases tree with
      | folder distinct named inner =>
          cases names with
          | nil => rfl
          | cons name rest =>
              have hinner := ih (inner (other, node) (by simp)) rest
              rw [Node.kindAt?, Node.kindAt?, find?_folder_cons, find?_folder_cons,
                List.lookup_append, List.lookup_append]
              cases before.lookup name with
              | some earlier => rfl
              | none =>
                  rw [Option.none_or, Option.none_or, List.lookup_cons, List.lookup_cons]
                  cases name == other with
                  | true => exact hinner
                  | false => rfl

theorem Relists.fits {node node' : Node} {path : Path} (h : Relists node node')
    (tree : node.IsTree) (fits : node.Fits path) : node'.Fits path :=
  fun names hfolder => fits names (by rw [← h.kindAt? tree, hfolder])

theorem Relists.isFolder {node node' : Node} (h : Relists node node') :
    node'.isFolder = true := by
  cases h <;> rfl

theorem fileNames_of_reflTransGen {node node' : Node} (h : Relation.ReflTransGen Relists node node')
    (tree : node.IsTree) (isFolder : node.isFolder = true) {path : Path} (fits : node.Fits path) :
    node'.IsTree ∧ node'.isFolder = true ∧ node'.Fits path ∧
      node.fileNames.Perm node'.fileNames := by
  induction h with
  | refl => exact ⟨tree, isFolder, fits, .refl _⟩
  | tail _ relists ih =>
      obtain ⟨tree', -, fits', files⟩ := ih
      exact ⟨relists.isTree tree', relists.isFolder, relists.fits tree' fits',
        files.trans relists.fileNames⟩

end Node

namespace FileSystem

/-! ## Instances in path order -/

variable {fs fs' : FileSystem} {folder : Path} {node node' : Node}

/-- The paths of the files that are instances, as far as names lead to them from a folder. -/
def instancePaths (folder : Path) (node : Node) : List Path :=
  (node.fileNames.map folder.joinAll).filter fun path => path.format?.isSome

theorem instances_of_isTree (tree : node.IsTree) (isFolder : node.isFolder = true)
    (fits : node.Fits folder) (leads : fs.get folder = .ok node) :
    fs.instances folder = .ok ((instancePaths folder node).mergeSort Path.le) := by
  cases node with
  | file id => cases isFolder
  | link target => cases isFolder
  | folder attributes entries =>
      have hfolder : fs.isFolder folder = true := by rw [FileSystem.isFolder, leads]; rfl
      rw [instances, leads, instancePaths,
        ← tree.instances_eq fs (fs.instancesThrough linkLimit) fits fun _ => leads,
        Node.instances, if_pos hfolder]
      rfl

theorem instances_of_single {attributes : Attributes} {name : Name} {id : FileId}
    (named : IsEntryName name) (isInstance : IsInstanceName name)
    (leads : fs.get folder = .ok (.folder attributes [(name, .file id)])) :
    fs.instances folder = .ok [folder.join ⟨name⟩] := by
  have tree : (Node.folder attributes [(name, .file id)]).IsTree :=
    .folder (List.nodup_singleton name) (List.forall_mem_singleton.mpr named)
      (List.forall_mem_singleton.mpr (.file id))
  have fits : (Node.folder attributes [(name, .file id)]).Fits folder := by
    obtain ⟨_, hfollow, -⟩ := get_eq_ok_iff.mp leads
    have distinct : ([(name, Node.file id)].map Prod.fst).Nodup := List.nodup_singleton name
    exact (Node.fits_folder_iff distinct).mpr
      ⟨(locate_eq_ok_iff.mp hfollow).2.2.1, List.forall_mem_singleton.mpr (Node.fits_file _ id)⟩
  have hname : (folder.join ⟨name⟩).fileName? = some name :=
    Path.fileName?_joinAll (List.forall_mem_singleton.mpr named) rfl folder
  have hformat : (folder.join ⟨name⟩).format?.isSome = true :=
    (Path.isSome_format?_iff hname named.bytes).mpr isInstance
  have hpaths : instancePaths folder (.folder attributes [(name, .file id)]) =
      [folder.join ⟨name⟩] := List.filter_cons_of_pos hformat
  rw [instances_of_isTree tree rfl fits leads, hpaths, List.mergeSort_singleton]

theorem joinAll_inj {found found' : Node} (tree : node.IsTree) {names names' : List Name}
    (h : node.find? names = some found) (h' : node.find? names' = some found')
    (heq : (folder.joinAll names).components = (folder.joinAll names').components) :
    names = names' :=
  Path.eq_of_components_joinAll (tree.named_of_find? h) (tree.named_of_find? h') heq

theorem mem_instancePaths_iff (tree : node.IsTree) (isFolder : node.isFolder = true)
    {path : Path} :
    path ∈ instancePaths folder node ↔ ∃ names id name, node.find? names = some (.file id) ∧
      names.getLast? = some name ∧ IsInstanceName name ∧ path = folder.joinAll names := by
  simp only [instancePaths, List.mem_filter, List.mem_map, tree.mem_fileNames_iff]
  constructor
  · rintro ⟨⟨names, ⟨id, hid⟩, rfl⟩, hformat⟩
    have hnames : names ≠ [] := by
      rintro rfl
      rw [Node.find?_nil, Option.some.injEq] at hid
      rw [hid] at isFolder
      cases isFolder
    have hlast := List.getLast?_eq_getLast_of_ne_nil hnames
    have named := tree.named_of_find? hid
    refine ⟨names, id, _, hid, hlast, ?_, rfl⟩
    exact (Path.isSome_format?_iff (Path.fileName?_joinAll named hlast folder)
      (named _ (List.getLast_mem hnames)).bytes).mp hformat
  · rintro ⟨names, id, name, hid, hlast, hname, rfl⟩
    have named := tree.named_of_find? hid
    refine ⟨⟨names, ⟨id, hid⟩, rfl⟩, ?_⟩
    exact (Path.isSome_format?_iff (Path.fileName?_joinAll named hlast folder)
      (named _ (List.mem_of_getLast? hlast)).bytes).mpr hname

theorem nodup_instancePaths (tree : node.IsTree) : (instancePaths folder node).Nodup := by
  refine List.Nodup.filter _ (tree.nodup_fileNames.map_on ?_)
  intro names hmem names' hmem' heq
  obtain ⟨id, hid⟩ := tree.mem_fileNames_iff.mp hmem
  obtain ⟨id', hid'⟩ := tree.mem_fileNames_iff.mp hmem'
  exact joinAll_inj tree hid hid' (congrArg Path.components heq)

theorem eq_of_le_of_le (tree : node.IsTree) {path path' : Path}
    (hmem : path ∈ instancePaths folder node) (hmem' : path' ∈ instancePaths folder node)
    (hle : path.le path' = true) (hge : path'.le path = true) : path = path' := by
  simp only [instancePaths, List.mem_filter, List.mem_map, tree.mem_fileNames_iff] at hmem hmem'
  obtain ⟨⟨names, ⟨id, hid⟩, rfl⟩, -⟩ := hmem
  obtain ⟨⟨names', ⟨id', hid'⟩, rfl⟩, -⟩ := hmem'
  rw [joinAll_inj tree hid hid' (Path.componentsLe_antisymm hle hge)]

theorem pairwise_mergeSort_le (paths : List Path) :
    (paths.mergeSort Path.le).Pairwise fun a b => a.le b = true :=
  List.pairwise_mergeSort Path.le_trans Path.le_total paths

/-- There is one order only. -/
theorem mergeSort_instancePaths (tree : node.IsTree) (files : node.fileNames.Perm node'.fileNames) :
    (instancePaths folder node').mergeSort Path.le =
      (instancePaths folder node).mergeSort Path.le := by
  have hperm : (instancePaths folder node').Perm (instancePaths folder node) :=
    (files.symm.map _).filter _
  have hsorted : ((instancePaths folder node').mergeSort Path.le).Perm
      ((instancePaths folder node).mergeSort Path.le) :=
    (List.mergeSort_perm _ _).trans (hperm.trans (List.mergeSort_perm _ _).symm)
  refine hsorted.eq_of_pairwise ?_ (pairwise_mergeSort_le _) (pairwise_mergeSort_le _)
  intro path path' hmem hmem'
  exact eq_of_le_of_le tree (hperm.mem_iff.mp (List.mem_mergeSort.mp hmem))
    (List.mem_mergeSort.mp hmem')

/-- The paths are those of the files whose names are those of instances, in path order; each stands
for one file, and is there once. -/
structure Discovers (folder : Path) (node : Node) (paths : List Path) : Prop where
  mem : ∀ path, path ∈ paths ↔ ∃ names id name, node.find? names = some (.file id) ∧
    names.getLast? = some name ∧ IsInstanceName name ∧ path = folder.joinAll names
  apart : ∀ names names' found found', node.find? names = some found →
    node.find? names' = some found' → folder.joinAll names = folder.joinAll names' →
      names = names'
  once : paths.Nodup
  sorted : paths.Pairwise fun a b => a.le b = true

/-- A folder that is found is searched and is not an instance, whatever its name is. -/
theorem Discovers.folder_not_mem {paths : List Path} (h : Discovers folder node paths)
    {names : List Name} {attributes : Attributes} {entries : List (Name × Node)}
    (hfolder : node.find? names = some (.folder attributes entries)) :
    folder.joinAll names ∉ paths := by
  intro hmem
  obtain ⟨names', id, name, hfile, -, -, heq⟩ := (h.mem _).mp hmem
  cases h.apart _ _ _ _ hfolder hfile heq
  cases hfolder.symm.trans hfile

/-- Below a folder without links just the instances are found, each once and in path order; and the
same paths are found in the same order, however the folders list their entries.  The paths of the
folders are asked to be short enough to be opened by; those of the files may be longer. -/
theorem discovers_instances (tree : node.IsTree) (isFolder : node.isFolder = true)
    (fits : node.Fits folder) (leads : fs.get folder = .ok node) :
    ∃ paths, fs.instances folder = .ok paths ∧ Discovers folder node paths ∧
      (∀ names attributes entries, node.find? names = some (.folder attributes entries) →
        folder.joinAll names ∉ paths) ∧
      ∀ fs' node', Relation.ReflTransGen Node.Relists node node' → fs'.get folder = .ok node' →
        FileSystem.instances fs' folder = .ok paths := by
  have hdiscovers : Discovers folder node ((instancePaths folder node).mergeSort Path.le) :=
    { mem := fun path => List.mem_mergeSort.trans (mem_instancePaths_iff tree isFolder)
      apart := fun _ _ _ _ h h' heq => joinAll_inj tree h h' (congrArg Path.components heq)
      once := List.nodup_mergeSort.mpr (nodup_instancePaths tree)
      sorted := pairwise_mergeSort_le _ }
  refine ⟨_, instances_of_isTree tree isFolder fits leads, hdiscovers,
    fun names attributes entries => hdiscovers.folder_not_mem, ?_⟩
  intro fs' node' relists leads'
  obtain ⟨tree', isFolder', fits', files⟩ :=
    Node.fileNames_of_reflTransGen relists tree isFolder fits
  rw [instances_of_isTree tree' isFolder' fits' leads', mergeSort_instancePaths tree files]

/-- In this order, a folder called like an instance with an instance in it, a file that starts with
its only dot, and an instance; the folder lists what is in it in the order given. -/
def rack (inner : List (Name × Node)) : List (Name × Node) :=
  [(['x', '.', 'c', 'n', 'f'], .folder Node.plainFolder inner),
    (['.', 'c', 'n', 'f'], .file 0), (['a', '.', 'c', 'n', 'f'], .file 1)]

def bottles : List (Name × Node) := [(['n'], .file 2), (['b', '.', 'w', 'c', 'n', 'f'], .file 3)]

def cellar (entries : List (Name × Node)) : FileSystem where
  root := .folder Node.plainFolder [(['d'], .folder Node.plainFolder entries)]
  bodies := Array.replicate 4 (.ofBytes #[] 0o644)
  here := []
  mask := 0o022
  moment := 0

theorem isTree_rack : (Node.folder Node.plainFolder (rack bottles)).IsTree := by
  have hinner : (Node.folder Node.plainFolder bottles).IsTree := by
    refine .folder (by decide) (by decide) ?_
    simp only [bottles, List.forall_mem_cons]
    exact ⟨.file 2, .file 3, nofun⟩
  refine .folder (by decide) (by decide) ?_
  simp only [rack, List.forall_mem_cons]
  exact ⟨hinner, .file 0, .file 1, nofun⟩

theorem fits_rack : (Node.folder Node.plainFolder (rack bottles)).Fits ⟨['d']⟩ := by
  have hinner : (Node.folder Node.plainFolder bottles).Fits ⟨"d/x.cnf".toList⟩ := by
    refine (Node.fits_folder_iff (by decide)).mpr ⟨by decide, ?_⟩
    simp only [bottles, List.forall_mem_cons]
    exact ⟨Node.fits_file _ 2, Node.fits_file _ 3, nofun⟩
  refine (Node.fits_folder_iff (by decide)).mpr ⟨by decide, ?_⟩
  simp only [rack, List.forall_mem_cons]
  exact ⟨hinner, Node.fits_file _ 0, Node.fits_file _ 1, nofun⟩

/-- The folder is searched and not found, and the dot file is passed over, also when both folders
list what is in them the other way round. -/
theorem discovers_in_cellar :
    ∃ paths, (cellar (rack bottles)).instances ⟨['d']⟩ = .ok paths ∧
      (cellar (rack bottles.reverse).reverse).instances ⟨['d']⟩ = .ok paths ∧
      ⟨"d/a.cnf".toList⟩ ∈ paths ∧ ⟨"d/x.cnf/b.wcnf".toList⟩ ∈ paths ∧
      ⟨"d/x.cnf".toList⟩ ∉ paths ∧ ⟨"d/.cnf".toList⟩ ∉ paths := by
  have hinside : Node.Relists (.folder Node.plainFolder (rack bottles))
      (.folder Node.plainFolder (rack bottles.reverse)) :=
    @Node.Relists.inside Node.plainFolder _ _ _ [] _ (.here (List.reverse_perm bottles).symm)
  have hhere : Node.Relists (.folder Node.plainFolder (rack bottles.reverse))
      (.folder Node.plainFolder (rack bottles.reverse).reverse) :=
    .here (List.reverse_perm _).symm
  have hleads : (cellar (rack bottles)).get ⟨['d']⟩ =
      .ok (.folder Node.plainFolder (rack bottles)) := rfl
  obtain ⟨paths, hpaths, hfound, hfolders, hrelisted⟩ :=
    discovers_instances isTree_rack rfl fits_rack hleads
  refine ⟨paths, hpaths, hrelisted _ _ (.tail (.single hinside) hhere) rfl, ?_, ?_, ?_, ?_⟩
  · exact (hfound.mem _).mpr ⟨["a.cnf".toList], 1, "a.cnf".toList, rfl, rfl,
      ⟨['a'], .cnf, by decide, rfl⟩, rfl⟩
  · exact (hfound.mem _).mpr ⟨["x.cnf".toList, "b.wcnf".toList], 3, "b.wcnf".toList, rfl, rfl,
      ⟨['b'], .wcnf, by decide, rfl⟩, rfl⟩
  · exact hfolders ["x.cnf".toList] Node.plainFolder bottles rfl
  · intro hmem
    obtain ⟨names, id, name, hfile, hlast, hname, heq⟩ := (hfound.mem _).mp hmem
    have hdotted : (Node.folder Node.plainFolder (rack bottles)).find? [".cnf".toList] =
        some (.file 0) := rfl
    cases hfound.apart _ _ _ _ hdotted hfile heq
    cases hlast
    exact not_isInstanceName_of_undotted (by decide) hname

end FileSystem

end Clausal

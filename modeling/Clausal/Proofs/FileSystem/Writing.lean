import Clausal.Proofs.FileSystem.Following
import Clausal.Proofs.Outcome
import Clausal.Proofs.Writer

/-!
# Writing a file

What was written to a path is what is read from it, whether the file was there before or was
made.  Names may also lead to devices and pipes, which keep no bytes, so the file is asked to be one
that stores bytes.  The only device that refuses bytes is the full one.
-/

namespace Clausal

namespace FileSystem

/-- If the path leads to a file, then it is one that stores bytes. -/
def Stores (fs : FileSystem) (path : Path) : Prop :=
  ∀ names id, fs.follow path = .ok names → fs.node? names = some (.file id) →
    ∃ bytes attributes, fs.bodies[id]? = some ⟨.bytes bytes, attributes⟩

variable {fs fs' : FileSystem} {path : Path} {names : List Name} {id : FileId}

theorem get_eq_ok_iff {node : Node} :
    fs.get path = .ok node ↔
      ∃ names, fs.follow path = .ok names ∧ fs.node? names = some node := by
  rw [get, bind_eq_ok_iff]
  refine exists_congr fun names => and_congr_right fun _ => ?_
  cases fs.node? names with
  | none => exact iff_of_false (fun h => by cases h) (fun h => by cases h)
  | some found => rw [Option.some.injEq]; exact pure_eq_ok_iff

theorem followToFile_eq_ok (h : fs.followToFile path = .ok names) :
    fs.follow path = .ok names := by
  rw [followToFile] at h
  split at h
  · exact h
  · cases hbare : fs.follow path.withoutSlashes with
    | error failure => rw [hbare] at h; cases h
    | ok bare => rw [hbare] at h; cases h

/-- Either a file is emptied, or a new one is put where nothing was. -/
theorem create_eq_ok (h : fs.create path = .ok (fs', id)) :
    ∃ names, fs.follow path = .ok names ∧
      ((fs.node? names = some (.file id) ∧
          fs' = fs.modifyBody id fun body => body.resized fs.moment 0) ∨
        (fs.node? names = none ∧ id = fs.bodies.size ∧
          fs' = fs.placeFile names (fs.freshBody names))) := by
  rw [create] at h
  obtain ⟨names, hnames, h⟩ := bind_eq_ok_iff.mp h
  refine ⟨names, followToFile_eq_ok hnames, ?_⟩
  cases hnode : fs.node? names with
  | none =>
      rw [hnode] at h
      cases h
      exact .inr ⟨rfl, rfl, rfl⟩
  | some node =>
      rw [hnode] at h
      cases node with
      | file old =>
          cases h
          exact .inl ⟨rfl, rfl⟩
      | folder attributes entries => cases h
      | link target => cases h

/-! ## What has been made -/

/-- The path leads to this file, and the file stores no bytes yet. -/
structure HasEmpty (fs : FileSystem) (path : Path) (id : FileId) : Prop where
  found : fs.get path = .ok (.file id)
  empty : ∃ attributes, fs.bodies[id]? = some ⟨.bytes #[], attributes⟩

theorem kindAt?_of_file (h : fs.node? names = some (.file id)) :
    fs.root.kindAt? names = some .file := by
  rw [kindAt?_eq, h]
  rfl

theorem get_of_filed (filed : fs.Filed fs' names) (same : fs'.here = fs.here)
    (hfollow : fs.follow path = .ok names) (hnode : fs'.node? names = some (.file id)) :
    fs'.get path = .ok (.file id) :=
  get_eq_ok_iff.mpr ⟨names, filed.locate same hfollow, hnode⟩

/-- What files hold has no part in where they are. -/
theorem get_of_root_eq (h : fs.get path = .ok (.file id)) (root : fs'.root = fs.root)
    (same : fs'.here = fs.here) : fs'.get path = .ok (.file id) := by
  obtain ⟨names, hfollow, hnode⟩ := get_eq_ok_iff.mp h
  have hkind := kindAt?_of_file hnode
  have filed : fs.Filed fs' names :=
    ⟨.inr hkind, by rw [root, hkind], fun _ _ => by rw [root]⟩
  exact get_of_filed filed same hfollow (by rw [node?, root]; exact hnode)

theorem hasEmpty_of_emptied (stores : fs.Stores path) (hfollow : fs.follow path = .ok names)
    (hnode : fs.node? names = some (.file id)) :
    (fs.modifyBody id fun body => body.resized fs.moment 0).HasEmpty path id := by
  obtain ⟨bytes, attributes, hbody⟩ := stores names id hfollow hnode
  have hget := get_eq_ok_iff.mpr ⟨names, hfollow, hnode⟩
  refine ⟨get_of_root_eq hget rfl rfl, { attributes with changed := fs.moment }, ?_⟩
  rw [modifyBody, Array.getElem?_modify, if_pos rfl, hbody, Option.map_some, FileBody.resized]
  simp

/-- A file that is put where nothing was is found there. -/
theorem node?_placeFile (hfollow : fs.follow path = .ok names) (hnode : fs.node? names = none)
    (body : FileBody) : (fs.placeFile names body).node? names = some (.file fs.bodies.size) := by
  obtain ⟨above, name, rfl, room⟩ := HasRoom.of_locate hfollow (Node.kindAt?_eq_none_iff.mpr hnode)
  exact Node.find?_update_self room

theorem filed_placeFile (hfollow : fs.follow path = .ok names) (hnode : fs.node? names = none)
    (body : FileBody) : fs.Filed (fs.placeFile names body) names := by
  have hfree : fs.root.kindAt? names = none := Node.kindAt?_eq_none_iff.mpr hnode
  refine ⟨.inl hfree, kindAt?_of_file (node?_placeFile hfollow hnode body), fun other hne => ?_⟩
  obtain ⟨above, name, rfl, room⟩ := HasRoom.of_locate hfollow hfree
  exact Node.kindAt?_update_of_ne room hfree hne

theorem hasEmpty_of_placed (hfollow : fs.follow path = .ok names)
    (hnode : fs.node? names = none) :
    (fs.placeFile names (fs.freshBody names)).HasEmpty path fs.bodies.size :=
  ⟨get_of_filed (filed_placeFile hfollow hnode _) rfl hfollow (node?_placeFile hfollow hnode _), _,
    Array.getElem?_push_size⟩

theorem hasEmpty_of_create (stores : fs.Stores path) (h : fs.create path = .ok (fs', id)) :
    fs'.HasEmpty path id := by
  obtain ⟨names, hfollow, ⟨hnode, rfl⟩ | ⟨hnode, rfl, rfl⟩⟩ := create_eq_ok h
  · exact hasEmpty_of_emptied stores hfollow hnode
  · exact hasEmpty_of_placed hfollow hnode

theorem get_of_create (h : fs.create path = .ok (fs', id)) : fs'.get path = .ok (.file id) := by
  obtain ⟨names, hfollow, ⟨hnode, rfl⟩ | ⟨hnode, rfl, rfl⟩⟩ := create_eq_ok h
  · exact get_of_root_eq (get_eq_ok_iff.mpr ⟨names, hfollow, hnode⟩) rfl rfl
  · exact (hasEmpty_of_placed hfollow hnode).found

theorem openNew_of_create (h : fs.create path = .ok (fs', id)) :
    fs.openNew path = .ok (fs', ⟨id, 0⟩) := by
  rw [openNew, h]
  rfl

theorem openNew_of_create_error {failure : FileError} (h : fs.create path = .error failure) :
    fs.openNew path = .error failure := by
  rw [openNew, h]
  rfl

theorem create_of_openNew {handle : FileHandle} (h : fs.openNew path = .ok (fs', handle)) :
    fs.create path = .ok (fs', handle.id) ∧ handle.offset = 0 := by
  obtain ⟨⟨made, id⟩, hcreate, hpair⟩ := bind_eq_ok_iff.mp h
  cases pure_eq_ok_iff.mp hpair
  exact ⟨hcreate, rfl⟩

end FileSystem

/-! ## What has been written -/

namespace FileWriter

variable {writer : FileWriter} {path : Path} {id : FileId} {taken : List UInt8}

/-- So much was written since the start of the file, which holds nothing else. -/
structure Holds (id : FileId) (writer : FileWriter) (taken : List UInt8) : Prop where
  handle : writer.handle = ⟨id, taken.length⟩
  body : ∃ attributes, writer.files.bodies[id]? = some ⟨.bytes taken.toArray, attributes⟩

theorem Holds.isFull (h : Holds id writer taken) : writer.isFull = false := by
  obtain ⟨attributes, hbody⟩ := h.body
  rw [FileWriter.isFull, h.handle, FileSystem.body, hbody]
  rfl

/-- A file that stores bytes takes all of them, behind those that it holds. -/
theorem takes_put (id : FileId) : Writer.Takes put (Holds id) := by
  intro writer taken bytes h
  rw [put, h.isFull]
  by_cases none : bytes.isEmpty = true
  · rw [if_pos none, List.isEmpty_iff.mp none, List.append_nil]
    exact ⟨writer, rfl, h⟩
  rw [if_neg none, if_neg Bool.false_ne_true]
  obtain ⟨attributes, hbody⟩ := h.body
  obtain ⟨files, handle⟩ := writer
  obtain rfl : handle = ⟨id, taken.length⟩ := h.handle
  refine ⟨_, rfl, ?_, { attributes with changed := files.moment }, ?_⟩
  · rw [List.length_append, List.size_toArray]
  · have hend : FileBody.splice taken.toArray taken.length bytes.toArray =
        taken.toArray ++ bytes.toArray := FileBody.splice_size _ _
    rw [FileSystem.writeAt, Array.getElem?_modify, if_pos rfl, hbody, Option.map_some,
      FileBody.written, hend, List.append_toArray]

theorem respects_put (root : Node) (here : List Name) :
    Writer.Respects put fun writer => writer.files.root = root ∧ writer.files.here = here := by
  rintro writer bytes ⟨rfl, rfl⟩
  rw [put]
  split
  · exact ⟨rfl, rfl⟩
  · split <;> exact ⟨rfl, rfl⟩

theorem refuses_put (full : writer.isFull = true) : Writer.Refuses put writer where
  nothing := rfl
  something bytes some := by
    refine ⟨.deviceFull, ?_⟩
    rw [put, if_neg (mt List.isEmpty_iff.mp some), if_pos full]

theorem holds_of_hasEmpty {fs : FileSystem} (h : fs.HasEmpty path id) :
    Holds id ⟨fs, id, 0⟩ [] :=
  ⟨rfl, h.empty⟩

theorem Holds.readBytes (h : Holds id writer taken)
    (found : writer.files.get path = .ok (.file id)) :
    writer.files.readBytes path = .ok taken.toArray := by
  obtain ⟨attributes, hbody⟩ := h.body
  have hbytes : (writer.files.body id).bytes = taken.toArray := by
    rw [FileSystem.body, hbody]
    rfl
  rw [FileSystem.readBytes, found]
  exact congrArg Except.ok hbytes

end FileWriter

end Clausal

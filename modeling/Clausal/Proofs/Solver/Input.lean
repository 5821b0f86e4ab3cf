import Clausal.Batch.Run
import Clausal.Proofs.Discovery
import Clausal.Proofs.FileSystem.Joining
import Clausal.Proofs.FileSystem.Writing
import Clausal.Proofs.Formula.Output

/-!
# What a solver is given to read

A run takes its input from the working directory.  The path of a formula that was written has
been taken from there already, and an instance is found from the current folder, so a relative
working directory is gone through once too often.  The solver reads the file all the same if the
path is absolute or the working directory leads to the current folder; otherwise it looks where
the path would lead if the current folder were the working directory.
-/

namespace Clausal

open FileSystem (pathLimit)

namespace SolverConfig

/-! ## The path on the command line -/

/-- What a run does that gives the solver this path to read. -/
def runOn (config : SolverConfig) (host : Host) (m : Machine) (argument : Path)
    (format : Format) : Outcome RunResult × Machine :=
  match config.timingFile host m.files with
  | .error message => (.finished (.failed message), m)
  | .ok timing =>
      let (outcome, m) := config.launch host m (config.command argument timing) timing format
      (outcome, removeTiming m timing)

theorem solve_eq (config : SolverConfig) (host : Host) (m : Machine) (input : Path)
    (format : Format) :
    config.solve host m input format = config.runOn host m (config.resolve input) format := rfl

theorem arguments_command (config : SolverConfig) (timing : Option Path) :
    ∃ options, ∀ input, (config.command input timing).arguments =
      options ++ input.octets :: config.arguments.map Text.Octets.ofString := by
  unfold command
  cases config.timeBin with
  | none => exact ⟨[], fun _ => rfl⟩
  | some timeBin =>
      cases timing with
      | none => exact ⟨[], fun _ => rfl⟩
      | some timing =>
          exact ⟨[['-', 'p'], ['-', 'o'], timing.octets, config.solver.octets], fun _ => rfl⟩

/-- Once a formula has been written at the first path, the solver is given the second. -/
def Passes (config : SolverConfig) (path argument : Path) : Prop :=
  ∀ (host : Host) (m : Machine) (f : Formula) (format : Format) (written : FileSystem),
    f.writeFile m.files (config.resolve path) format = .ok written →
      config.solveFormula host m f path format =
        (config.runOn host { m with files := written } argument format).map .ok id

/-- For the instance at the first path, the solver is given the second. -/
def PassesInstance (config : SolverConfig) (path argument : Path) : Prop :=
  ∀ (host : Host) (m : Machine) (format : Format), path.format? = some format →
    config.solveInstance host m path =
      (config.runOn host m argument format).map (Outcome.map (.ofResult path format)) id

theorem passes_resolve_resolve (config : SolverConfig) (path : Path) :
    config.Passes path (config.resolve (config.resolve path)) := by
  intro host m f format written h
  simp only [solveFormula, h, solve_eq]
  rfl

theorem passesInstance_resolve (config : SolverConfig) (path : Path) :
    config.PassesInstance path (config.resolve path) := by
  intro host m format h
  simp only [solveInstance, h, solve_eq]
  rfl

/-! ## Where the path leads -/

theorem isAbsolute_resolve (config : SolverConfig) (path : Path) :
    (config.resolve path).isAbsolute = (path.isAbsolute || config.workingDir.isAbsolute) :=
  Path.isAbsolute_join _ _

/-- Where a path leads that is taken from the working directory. -/
structure Reaches (config : SolverConfig) (files : FileSystem) (path : Path) : Prop where
  absolute : path.isAbsolute = true → config.resolve path = path
  relative : path.isAbsolute = false → ∀ place, files.LeadsTo config.workingDir place →
    (config.resolve path).octets.length ≤ pathLimit →
      files.follow (config.resolve path) = { files with here := place }.follow path
  same : path.isAbsolute = true ∨ (files.LeadsTo config.workingDir files.here ∧
    (config.resolve path).octets.length ≤ pathLimit) →
      files.get (config.resolve path) = files.get path

theorem reaches_of_named (config : SolverConfig) (files : FileSystem) {path : Path}
    (named : path.octets ≠ []) : config.Reaches files path := by
  have habsolute (h : path.isAbsolute = true) := config.resolve_absolute h
  have hrelative (relative : path.isAbsolute = false) (place : List Name)
      (leads : files.LeadsTo config.workingDir place)
      (short : (config.resolve path).octets.length ≤ pathLimit) :
      files.follow (config.resolve path) = { files with here := place }.follow path :=
    leads.locate_join relative named short
  refine ⟨habsolute, hrelative, fun h => ?_⟩
  cases relative : path.isAbsolute with
  | true => rw [habsolute relative]
  | false =>
      obtain ⟨leads, short⟩ := h.resolve_left (by simp [relative])
      rw [FileSystem.get, hrelative relative _ leads short]
      rfl

theorem named_of_get {files : FileSystem} {path : Path} {node : Node}
    (h : files.get path = .ok node) : path.octets ≠ [] := by
  obtain ⟨names, hfollow, -⟩ := FileSystem.get_eq_ok_iff.mp h
  exact (FileSystem.locate_eq_ok_iff.mp hfollow).2.1

theorem named_of_format? {path : Path} (h : path.format?.isSome = true) : path.octets ≠ [] := by
  intro hempty
  have hpath : path = ⟨[]⟩ := by rw [← hempty]
  rw [hpath] at h
  cases h

/-! ## Runs that start the same commands -/

/-- Two hosts that start the solver on these paths in the same way. -/
structure SameOn (config : SolverConfig) (host host' : Host) (inputs : List Path) : Prop where
  timingName : host'.timingName = host.timingName
  clock : host'.clock = host.clock
  launch : ∀ input ∈ inputs, ∀ m timing limit,
    host'.launch m (config.command input timing) limit =
      host.launch m (config.command input timing) limit

section

variable {config : SolverConfig} {host host' : Host} {inputs : List Path}
  (same : config.SameOn host host' inputs)

include same

theorem SameOn.runOn {argument : Path} (h : argument ∈ inputs) (m : Machine) (format : Format) :
    config.runOn host' m argument format = config.runOn host m argument format := by
  have htiming : config.timingFile host' m.files = config.timingFile host m.files := by
    rw [timingFile, timingFile, same.timingName]
  have hcount : host'.canCount = host.canCount := by
    funext span
    rw [Host.canCount, Host.canCount, same.clock]
  rw [SolverConfig.runOn, SolverConfig.runOn, htiming]
  cases config.timingFile host m.files with
  | error message => rfl
  | ok timing => simp only [SolverConfig.launch, hcount, same.launch argument h]

theorem SameOn.solveInstance {path : Path} (h : config.resolve path ∈ inputs) (m : Machine) :
    config.solveInstance host' m path = config.solveInstance host m path := by
  cases hformat : path.format? with
  | none => rw [SolverConfig.solveInstance, SolverConfig.solveInstance, hformat]
  | some format =>
      rw [config.passesInstance_resolve path host' m format hformat,
        config.passesInstance_resolve path host m format hformat, same.runOn h]

theorem SameOn.solveAll {paths : List Path} (h : ∀ path ∈ paths, config.resolve path ∈ inputs)
    (report : FileHandle) (m : Machine) :
    Batch.solveAll config host' report m paths = Batch.solveAll config host report m paths := by
  induction paths generalizing report m with
  | nil => rfl
  | cons path rest ih =>
      rw [List.forall_mem_cons] at h
      simp only [Batch.solveAll, same.solveInstance h.1, ih h.2]

theorem SameOn.run {m : Machine} {folder report : Path} {paths : List Path}
    (made : m.files.instances folder = .ok paths)
    (h : ∀ path ∈ paths, config.resolve path ∈ inputs) :
    Batch.run config host' m folder report = Batch.run config host m folder report := by
  simp only [Batch.run, made, bind, Except.bind, same.solveAll h]

end

/-! ## Formulas and batches -/

theorem tree_of_writeFile {f : Formula} {files written : FileSystem} {path : Path}
    {format : Format} (h : f.writeFile files path format = .ok written) :
    ∃ created handle, files.openNew path = .ok (created, handle) ∧
      written.root = created.root ∧ written.here = created.here := by
  obtain ⟨lines, -, h⟩ := bind_eq_ok_iff.mp h
  obtain ⟨⟨created, handle⟩, hopen, h⟩ := bind_eq_ok_iff.mp h
  refine ⟨created, handle, mapError_eq_ok_iff.mp hopen, ?_⟩
  have respects := FileWriter.respects_put created.root created.here
  have hput := Writer.Respects.putLines (BufferedWriter.respects_write respects)
    (.ofWriter ⟨created, handle⟩) ⟨rfl, rfl⟩ lines
  dsimp only at h
  split at h
  · cases h
  · rename_i buffered hbuffered
    rw [hbuffered] at hput
    have hflush := BufferedWriter.respects_flush respects hput
    split at h
    · cases h
    · rename_i flushed hflushed
      rw [hflushed] at hflush
      cases h
      exact hflush

theorem exists_get_of_writeFile {f : Formula} {files written : FileSystem} {path : Path}
    {format : Format} (h : f.writeFile files path format = .ok written) :
    ∃ id, written.get path = .ok (.file id) := by
  obtain ⟨created, handle, hopen, root, here⟩ := tree_of_writeFile h
  have hget := FileSystem.get_of_create (FileSystem.create_of_openNew hopen).1
  exact ⟨handle.id, FileSystem.get_of_root_eq hget root here⟩

theorem isAbsolute_of_mem_instances {files : FileSystem} {folder : Path} {paths : List Path}
    (made : files.instances folder = .ok paths) (h : folder.isAbsolute = true) :
    ∀ path ∈ paths, path.isAbsolute = true := by
  intro path hmem
  refine (FileSystem.isFound_of_mem_instances (P := fun path => path.isAbsolute = true) made ?_ h
    path hmem).1
  intro above name habove
  rw [Path.isAbsolute_join, habove, Bool.or_true]

theorem named_of_mem_instances {files : FileSystem} {folder : Path} {paths : List Path}
    (made : files.instances folder = .ok paths) : ∀ path ∈ paths, path.octets ≠ [] :=
  fun path hmem => named_of_format?
    (FileSystem.isFound_of_mem_instances (P := fun _ => True) made (fun _ _ h => h) trivial path
      hmem).2

/-- The solver of a formula is given a path that was taken from the working directory twice, and
the solver of an instance one that was taken from there once.  `Reaches` says where these lead. -/
theorem argument_taken_from_workingDir (config : SolverConfig) :
    (∀ timing, ∃ options, ∀ input, (config.command input timing).arguments =
      options ++ input.octets :: config.arguments.map Text.Octets.ofString) ∧
    (∀ path, config.Passes path (config.resolve (config.resolve path)) ∧
      (config.resolve path).isAbsolute = (path.isAbsolute || config.workingDir.isAbsolute) ∧
      ∀ (f : Formula) files format written,
        f.writeFile files (config.resolve path) format = .ok written →
          (∃ id, written.get (config.resolve path) = .ok (.file id)) ∧
            config.Reaches written (config.resolve path)) ∧
    ∀ (m : Machine) folder paths, m.files.instances folder = .ok paths →
      (∀ path ∈ paths, config.PassesInstance path (config.resolve path) ∧
        (folder.isAbsolute = true → path.isAbsolute = true) ∧
        ∀ files, config.Reaches files path) ∧
      ∀ host host' report, config.SameOn host host' (paths.map config.resolve) →
        Batch.run config host' m folder report = Batch.run config host m folder report := by
  refine ⟨config.arguments_command, ?_, ?_⟩
  · intro path
    refine ⟨config.passes_resolve_resolve path, config.isAbsolute_resolve path, ?_⟩
    intro f files format written h
    obtain ⟨id, hget⟩ := exists_get_of_writeFile h
    exact ⟨⟨id, hget⟩, config.reaches_of_named written (named_of_get hget)⟩
  · intro m folder paths made
    constructor
    · intro path hmem
      exact ⟨config.passesInstance_resolve path,
        fun h => isAbsolute_of_mem_instances made h path hmem,
        fun files => config.reaches_of_named files (named_of_mem_instances made path hmem)⟩
    · intro host host' report same
      exact same.run made fun path hmem => List.mem_map_of_mem hmem

def shelves : FileSystem where
  root := .folder Node.plainFolder
    [(['w'], .folder Node.plainFolder []),
      (['d'], .folder Node.plainFolder [(['a', '.', 'c', 'n', 'f'], .file 0)])]
  bodies := #[.ofBytes #[] 0o644]
  here := []
  mask := 0o022
  moment := 0

theorem format?_shelved : Path.format? ⟨['d', '/', 'a', '.', 'c', 'n', 'f']⟩ = some .cnf :=
  @Path.format?_of_name _ ['a'] .cnf rfl (by decide)

theorem shelves_instances :
    shelves.instances ⟨['d']⟩ = .ok [⟨['d', '/', 'a', '.', 'c', 'n', 'f']⟩] :=
  FileSystem.instances_of_single (by decide) ⟨['a'], .cnf, by decide, rfl⟩ rfl

theorem exists_writeFile_shelves (path : Path) {names : List Name} {made : FileSystem × FileId}
    (free : shelves.follow path = .ok names) (unnamed : shelves.node? names = none)
    (room : shelves.create path = .ok made) :
    ∃ written, Formula.empty.writeFile shelves path .cnf = .ok written := by
  have stores : shelves.Stores path := by
    intro names' id hfollow hnode
    cases free.symm.trans hfollow
    cases unnamed.symm.trans hnode
  have printed : Formula.empty.dimacs .cnf = .ok _ := rfl
  obtain ⟨written, hwrite, -⟩ := Formula.writeFile_of_ok printed stores room
  exact ⟨written, hwrite⟩

/-- In the current folder, which a dot stands for, a formula and an instance are read. -/
theorem unmoved_argument_reaches :
    (∃ written id, Formula.empty.writeFile shelves ⟨['.', '/', 'f']⟩ .cnf = .ok written ∧
      written.get ⟨['.', '/', '.', '/', 'f']⟩ = .ok (.file id)) ∧
    shelves.instances ⟨['d']⟩ = .ok [⟨['d', '/', 'a', '.', 'c', 'n', 'f']⟩] ∧
    shelves.get ⟨['.', '/', 'd', '/', 'a', '.', 'c', 'n', 'f']⟩ =
      shelves.get ⟨['d', '/', 'a', '.', 'c', 'n', 'f']⟩ := by
  obtain ⟨-, hformula, hbatch⟩ := argument_taken_from_workingDir (ofSolver ⟨['s']⟩)
  refine ⟨?_, shelves_instances, ?_⟩
  · obtain ⟨-, -, hwritten⟩ := hformula ⟨['f']⟩
    obtain ⟨written, hwrite⟩ := exists_writeFile_shelves ⟨['.', '/', 'f']⟩ rfl rfl rfl
    obtain ⟨⟨id, hget⟩, hreaches⟩ := hwritten .empty shelves .cnf written hwrite
    refine ⟨written, id, hwrite, (hreaches.same (.inr ⟨⟨rfl, ?_⟩, by decide⟩)).trans hget⟩
    obtain ⟨created, handle, hopen, root, here⟩ := tree_of_writeFile hwrite
    cases hopen
    obtain ⟨root, bodies, here, mask, moment⟩ := written
    subst root here
    rfl
  · obtain ⟨hinstances, -⟩ := hbatch (.ofFiles shelves) _ _ shelves_instances
    obtain ⟨-, -, hreaches⟩ :=
      hinstances ⟨['d', '/', 'a', '.', 'c', 'n', 'f']⟩ List.mem_cons_self
    exact (hreaches shelves).same (.inr ⟨⟨rfl, rfl⟩, by decide⟩)

def shelved : SolverConfig := { ofSolver ⟨['s']⟩ with workingDir := ⟨['w']⟩ }

/-- Below the current folder, a working directory is looked for in itself when a formula was
written there, and an instance from elsewhere is looked for in it; neither is there. -/
theorem not_reads_prepared_file :
    (¬ ∀ (config : SolverConfig) path argument, config.Passes path argument →
      ∀ (f : Formula) files format written,
        f.writeFile files (config.resolve path) format = .ok written →
          written.get argument = written.get (config.resolve path)) ∧
    ¬ ∀ (config : SolverConfig) path argument, config.PassesInstance path argument →
      ∀ files folder paths, FileSystem.instances files folder = .ok paths → path ∈ paths →
        files.get argument = files.get path := by
  constructor
  · intro claim
    have hpasses := shelved.passes_resolve_resolve ⟨['f']⟩
    obtain ⟨written, hwrite⟩ := exists_writeFile_shelves (shelved.resolve ⟨['f']⟩) rfl rfl rfl
    have hsame := claim shelved ⟨['f']⟩ _ hpasses .empty shelves .cnf written hwrite
    obtain ⟨id, hget⟩ := exists_get_of_writeFile hwrite
    obtain ⟨created, handle, hopen, root, here⟩ := tree_of_writeFile hwrite
    have hthere := FileSystem.get_of_root_eq (hsame.trans hget) root.symm here.symm
    cases hopen
    cases hthere
  · intro claim
    have hget := claim shelved _ _ (shelved.passesInstance_resolve _) shelves ⟨['d']⟩ _
      shelves_instances List.mem_cons_self
    exact absurd (congrArg Except.isOk hget) (by decide)

end SolverConfig

end Clausal

import Clausal.Proofs.FileSystem.Removing
import Clausal.Proofs.Solver.Report

/-!
# The timing file

A run behind a timing wrapper refuses a timing file that is there already, before anything is
started.  Otherwise the file is the wrapper's: whatever becomes of the run, nothing is left of it,
and nothing else goes with it.  Without a wrapper there is no such file.
-/

namespace Clausal

namespace SolverConfig

def timingPath (config : SolverConfig) (host : Host) : Path :=
  config.resolve (config.timeOutput.getD host.timingName)

def worked (config : SolverConfig) (host : Host) (m : Machine) (input : Path) : Machine :=
  match config.timingFile host m.files with
  | .error _ => m
  | .ok timing =>
      match host.launch m (config.command (config.resolve input) timing) (config.limit host) with
      | .error _ => m
      | .ok child => child.machine

/-- The child that the run starts makes, writes and removes files as it likes, but it makes no links
and no folders on the way to the timing file or in its place. -/
def LeavesWay (config : SolverConfig) (host : Host) (m : Machine) (input : Path) : Prop :=
  ∀ child, config.Starts host m input child →
    m.files.SameWay child.machine.files (config.timingPath host)

section

variable {config : SolverConfig} {host : Host} {m : Machine}

/-! ## The choice of the file -/

theorem timingFile_of_unwrapped (h : config.timeBin = none) (host : Host) (files : FileSystem) :
    config.timingFile host files = .ok none := by
  rw [timingFile, h]

/-- A file that is there already is refused, unless the solver is missed first. -/
theorem timingFile_of_contains {files : FileSystem} (wrapped : config.timeBin.isSome = true)
    (taken : files.contains (config.timingPath host) = true) :
    ∃ message, config.timingFile host files = .error message := by
  obtain ⟨timeBin, hbin⟩ := Option.isSome_iff_exists.mp wrapped
  rw [timingFile, hbin]
  dsimp only
  split
  · exact ⟨_, rfl⟩
  · rw [← timingPath, if_pos taken]
    exact ⟨_, rfl⟩

theorem eq_timingPath_of_timingFile {files : FileSystem} {timing : Option Path}
    (wrapped : config.timeBin.isSome = true) (h : config.timingFile host files = .ok timing) :
    timing = some (config.timingPath host) := by
  obtain ⟨timeBin, hbin⟩ := Option.isSome_iff_exists.mp wrapped
  rw [timingFile, hbin] at h
  dsimp only at h
  split at h
  · cases h
  · split at h
    · cases h
    · exact (Except.ok.inj h).symm

/-! ## The machine after a run -/

theorem launch_machine (command : Command) (timing : Option Path) (format : Format) :
    (config.launch host m command timing format).2 =
      match host.launch m command (config.limit host) with
      | .error _ => m
      | .ok child => child.machine := by
  unfold launch limit
  dsimp only
  cases host.launch m command (if (config.timeout.map host.canCount).getD true then config.timeout
    else some ⟨0⟩) with
  | error message => rfl
  | ok child =>
      dsimp only
      split
      · rfl
      · split <;> rfl

theorem solve_of_refused {message : String} (h : config.timingFile host m.files = .error message)
    (input : Path) (format : Format) :
    config.solve host m input format = (.finished (.failed message), m) := by
  rw [solve, h]

theorem solve_machine {timing : Option Path} (h : config.timingFile host m.files = .ok timing)
    (input : Path) (format : Format) :
    (config.solve host m input format).2 = removeTiming (config.worked host m input) timing := by
  simp only [solve, worked, h, launch_machine]

theorem sameWay_worked (unlinked : m.files.Unlinked) {input : Path}
    (tame : config.LeavesWay host m input) :
    m.files.SameWay (config.worked host m input).files (config.timingPath host) := by
  have still : m.files.SameWay m.files (config.timingPath host) :=
    (FileSystem.sameFolders_of_root_eq rfl rfl).sameWay unlinked _
  unfold worked
  split
  · exact still
  · rename_i timing htiming
    split
    · exact still
    · rename_i child hlaunch
      exact tame child ⟨timing, htiming, hlaunch⟩

/-- Whatever happens to the child, the timing file is gone afterwards, and a file that was there
before is as the child left it. -/
theorem removes_timingFile (unlinked : m.files.Unlinked) {input : Path}
    (tame : config.LeavesWay host m input) (wrapped : config.timeBin.isSome = true)
    (free : m.files.contains (config.timingPath host) = false) (format : Format) :
    (config.solve host m input format).2.files.contains (config.timingPath host) = false ∧
    (config.solve host m input format).2.files.bodies =
      (config.worked host m input).files.bodies ∧
    ∀ path id, m.files.contains path = true →
      (config.worked host m input).files.get path = .ok (.file id) →
      (config.solve host m input format).2.files.get path = .ok (.file id) := by
  cases htiming : config.timingFile host m.files with
  | error message =>
      have hworked : config.worked host m input = m := by rw [worked, htiming]
      rw [solve_of_refused htiming, hworked]
      exact ⟨free, rfl, fun _ _ _ h => h⟩
  | ok timing =>
      have way := sameWay_worked unlinked tame
      rw [solve_machine htiming, eq_timingPath_of_timingFile wrapped htiming]
      exact ⟨way.contains_removeFile free, FileSystem.bodies_removeFile _ _,
        fun path id former h => way.get_removeFile free unlinked former h⟩

theorem solve_of_unwrapped (h : config.timeBin = none) (input : Path) (format : Format) :
    (config.solve host m input format).2 = config.worked host m input :=
  solve_machine (timingFile_of_unwrapped h host m.files) input format

theorem solve_timeOutput (h : config.timeBin = none) (timeOutput : Option Path) (input : Path)
    (format : Format) :
    { config with timeOutput }.solve host m input format =
      config.solve host m input format := by
  obtain ⟨solver, workingDir, timeout, arguments, timeBin, former⟩ := config
  cases h
  rfl

end

/-- Where no links are and the child makes neither links nor folders on the way to the timing file, a
run behind a wrapper leaves nothing at the path of this file and takes nothing that was there before.
Without a wrapper it changes no file at all. -/
theorem timing_file_is_removed (config : SolverConfig) (host : Host) (m : Machine) (input : Path)
    (format : Format) (unlinked : m.files.Unlinked) (tame : config.LeavesWay host m input) :
    (config.timeBin.isSome = true → m.files.contains (config.timingPath host) = true →
      ∃ message, ∀ launch, config.solve { host with launch } m input format =
        (.finished (.failed message), m)) ∧
    (config.timeBin.isSome = true → m.files.contains (config.timingPath host) = false →
      (config.solve host m input format).2.files.contains (config.timingPath host) = false ∧
      (config.solve host m input format).2.files.bodies =
        (config.worked host m input).files.bodies ∧
      ∀ path id, m.files.contains path = true →
        (config.worked host m input).files.get path = .ok (.file id) →
        (config.solve host m input format).2.files.get path = .ok (.file id)) ∧
    (config.timeBin = none →
      (config.solve host m input format).2 = config.worked host m input ∧
      ∀ timeOutput, { config with timeOutput }.solve host m input format =
        config.solve host m input format) := by
  refine ⟨?_, ?_, ?_⟩
  · intro wrapped taken
    obtain ⟨message, hrefused⟩ := timingFile_of_contains wrapped taken
    refine ⟨message, fun launch => ?_⟩
    have hsame : config.timingFile { host with launch } m.files = .error message := hrefused
    exact solve_of_refused hsame input format
  · exact fun wrapped free => removes_timingFile unlinked tame wrapped free format
  · exact fun unwrapped => ⟨solve_of_unwrapped unwrapped input format,
      fun timeOutput => solve_timeOutput unwrapped timeOutput input format⟩

/-- Writes a report for the current folder and ends without an answer. -/
def reporting : Host where
  launch m _ _ :=
    match m.files.openNew ⟨['.', '/', 'r']⟩ with
    | .error failure => .error failure.message
    | .ok (files, handle) =>
        let report := Text.Octets.toBytes "real 1\n".toList
        let files := ((FileWriter.mk files handle).put report).1.files
        .ok
          { output := .ok [], closes := some ⟨1⟩, exits := some ⟨2⟩, machine := { m with files } }
  timingName := ⟨['r']⟩
  clock := ⟨0⟩

theorem leavesWay_reporting {m : Machine} (unlinked : m.files.Unlinked) (config : SolverConfig)
    (input : Path) : config.LeavesWay reporting m input := by
  rintro child ⟨timing, -, hlaunch⟩
  unfold reporting at hlaunch
  dsimp only at hlaunch
  split at hlaunch
  · cases hlaunch
  · rename_i files handle hopen
    cases hlaunch
    exact (FileSystem.sameFolders_of_put hopen _).sameWay unlinked _

theorem unlinked_empty (moment : Int) : (FileSystem.empty moment []).Unlinked := by
  intro names target h
  cases names with
  | nil => cases h
  | cons name rest => cases h

theorem reporting_leaves_nothing :
    (watched.worked reporting (.ofFiles (.empty 0 [])) ⟨['f']⟩).files.contains ⟨['.', '/', 'r']⟩ =
      true ∧
    (watched.solve reporting (.ofFiles (.empty 0 [])) ⟨['f']⟩ .cnf).2.files.contains
      ⟨['.', '/', 'r']⟩ = false := by
  refine ⟨rfl, ?_⟩
  obtain ⟨-, hremoved, -⟩ := timing_file_is_removed watched reporting (.ofFiles (.empty 0 []))
    ⟨['f']⟩ .cnf (unlinked_empty 0) (leavesWay_reporting (unlinked_empty 0) _ _)
  exact (hremoved rfl rfl).1

end SolverConfig

end Clausal

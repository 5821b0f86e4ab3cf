import Clausal.Batch.Run
import Clausal.Proofs.Batch.Records
import Clausal.Proofs.Discovery
import Clausal.Proofs.Solver.Timing
import Clausal.Proofs.Text.Numeral

/-!
# The report of a batch

A batch writes a header and one line for each row.  Of the columns only the path is taken from
outside, and it is put between quotes where it needs them; what stands in the others are words of
this library and numerals.  So the report can be read as comma-separated fields again, and what is
read are the rows.
-/

namespace Clausal

namespace BatchRow

/-! ## The columns of a row -/

def columns : List String :=
  ["path", "status", "answer", "format", "real_ms", "user_ms", "sys_ms", "cost", "vars"]

/-- What the columns show; a number that is not known is left empty. -/
def fields (row : BatchRow) : List String :=
  [row.path, row.status, row.answer, row.format, numberField row.times.real,
    numberField row.times.user, numberField row.times.sys, numberField row.cost,
    numberField row.vars]

/-- The row that nine columns show. -/
def ofFields? : List String → Option BatchRow
  | [path, status, answer, format, real, user, sys, cost, vars] =>
      some {
        path, status, answer, format
        times := ⟨number? real, number? user, number? sys⟩
        cost := number? cost
        vars := number? vars }
  | _ => none
where
  number? (field : String) : Option UInt64 := Text.readUInt64? field.toList

theorem isDigit_of_mem_numberField {value : Option UInt64} {c : Char}
    (h : c ∈ (numberField value).toList) : c.isDigit = true := by
  cases value with
  | none => cases h
  | some value => exact Text.isDigit_of_mem_toString (n := value.toNat) h

theorem number?_numberField (value : Option UInt64) :
    ofFields?.number? (numberField value) = value := by
  cases value with
  | none => rfl
  | some value => exact Text.readUInt64?_toString value

theorem ofFields?_fields (row : BatchRow) : ofFields? row.fields = some row := by
  simp only [fields, ofFields?, number?_numberField]

theorem needsQuotes_numberField (value : Option UInt64) :
    Csv.needsQuotes (numberField value).toList = false := by
  rw [Csv.needsQuotes_eq_false_iff]
  intro c hc
  have hdigit := isDigit_of_mem_numberField hc
  refine ⟨?_, ?_, ?_⟩ <;> rintro rfl <;> exact absurd hdigit (by decide)

/-- The columns that are written as they stand hold nothing that would need quotes. -/
structure IsPlain (row : BatchRow) : Prop where
  status : Csv.needsQuotes row.status.toList = false
  answer : Csv.needsQuotes row.answer.toList = false
  format : Csv.needsQuotes row.format.toList = false

theorem IsPlain.csvLine_eq {row : BatchRow} (h : row.IsPlain) :
    row.csvLine = Csv.line (Csv.quoted row.fields) := by
  simp only [csvLine, csvFields, fields, Csv.quoted, List.map_cons, List.map_nil,
    Csv.quote_of_plain h.status, Csv.quote_of_plain h.answer, Csv.quote_of_plain h.format,
    Csv.quote_of_plain (needsQuotes_numberField _)]

theorem csvHeader_eq : csvHeader = Csv.line (Csv.quoted columns) := by
  decide

theorem isRecord_fields (row : BatchRow) : Csv.IsRecord row.fields where
  nonempty := List.cons_ne_nil _ _
  last := by
    rintro field ⟨⟩ hreturn
    exact absurd (isDigit_of_mem_numberField hreturn) (by decide)

theorem isRecord_columns : Csv.IsRecord columns := ⟨by decide, by decide⟩

/-! ## What runs put into the columns -/

theorem needsQuotes_status (status : RunStatus) :
    Csv.needsQuotes status.render.toList = false := by
  cases status <;> decide

theorem needsQuotes_slug (status : Status) : Csv.needsQuotes status.slug.toList = false := by
  cases status <;> decide

theorem needsQuotes_extension (format : Format) :
    Csv.needsQuotes format.extension.toList = false := by
  cases format <;> decide

theorem needsQuotes_empty : Csv.needsQuotes "".toList = false := by
  decide

theorem isPlain_unsupported (path : Path) : (unsupported path).IsPlain where
  status := (by decide : Csv.needsQuotes "unsupported".toList = false)
  answer := needsQuotes_empty
  format := needsQuotes_empty

theorem isPlain_ofResult (path : Path) (format : Format) (result : RunResult) :
    (ofResult path format result).IsPlain where
  status := needsQuotes_status result.status
  answer := by
    rw [ofResult.eq_def]
    cases result.successful? with
    | none => exact needsQuotes_empty
    | some answer => exact needsQuotes_slug answer.status
  format := needsQuotes_extension format

end BatchRow

theorem SolverConfig.isPlain_of_solveInstance {config : SolverConfig} {host : Host}
    {m m' : Machine} {path : Path} {row : BatchRow}
    (h : config.solveInstance host m path = (.finished row, m')) : row.IsPlain := by
  cases hformat : path.format? with
  | none =>
      rw [solveInstance, hformat] at h
      cases h
      exact BatchRow.isPlain_unsupported path
  | some format =>
      obtain ⟨result, -, rfl⟩ := exists_solve_of_solveInstance hformat h
      exact BatchRow.isPlain_ofResult path format result

namespace Batch

variable {config : SolverConfig} {host : Host}

/-! ## The rows of a batch -/

theorem isPlain_of_mem_rows {report : FileHandle} {m : Machine} {paths : List Path} :
    ∀ row ∈ (solveAll config host report m paths).rows, row.IsPlain := by
  induction paths generalizing report m with
  | nil => exact List.forall_mem_nil _
  | cons path rest ih =>
      rw [solveAll]
      split
      · rename_i row m' hrow
        have hplain := SolverConfig.isPlain_of_solveInstance hrow
        split
        · exact List.forall_mem_cons.mpr ⟨hplain, ih⟩
        · exact List.forall_mem_singleton.mpr hplain
      · exact List.forall_mem_nil _
      · exact List.forall_mem_nil _

theorem isPrefix_of_solveAll {report : FileHandle} {m : Machine} {paths : List Path} :
    (solveAll config host report m paths).rows.map BatchRow.path <+: paths.map Path.shown := by
  induction paths generalizing report m with
  | nil => exact List.prefix_rfl
  | cons path rest ih =>
      rw [solveAll]
      split
      · rename_i row m' hrow
        have hpath := SolverConfig.path_of_solveInstance hrow
        split
        · rw [List.map_cons, List.map_cons, hpath]
          exact List.prefix_cons_inj _ |>.mpr ih
        · rw [List.map_singleton, List.map_cons, hpath]
          exact List.prefix_cons_inj _ |>.mpr List.nil_prefix
      · exact List.nil_prefix
      · exact List.nil_prefix

/-- A text is read as the header and the rows of a batch on these instances. -/
structure IsReport (text : String) (paths : List Path) (batch : Batch) : Prop where
  records : Csv.records text = some (BatchRow.columns :: batch.rows.map BatchRow.fields)
  rows : (batch.rows.map BatchRow.fields).mapM BatchRow.ofFields? = some batch.rows
  inOrder : batch.rows.map BatchRow.path <+: paths.map Path.shown
  complete : batch.outcome = .finished () → batch.failure = none →
    batch.rows.map BatchRow.path = paths.map Path.shown

theorem csv_eq {rows : List BatchRow} (plain : ∀ row ∈ rows, row.IsPlain) :
    csv rows = Text.unlines
      ((BatchRow.columns :: rows.map BatchRow.fields).map fun fields =>
        Csv.line (Csv.quoted fields)) := by
  have hlines : rows.map BatchRow.csvLine =
      rows.map fun row => Csv.line (Csv.quoted row.fields) :=
    List.map_congr_left fun row hrow => (plain row hrow).csvLine_eq
  rw [csv, hlines, BatchRow.csvHeader_eq, List.map_cons, List.map_map]
  rfl

theorem records_csv {rows : List BatchRow} (plain : ∀ row ∈ rows, row.IsPlain) :
    Csv.records (csv rows) = some (BatchRow.columns :: rows.map BatchRow.fields) := by
  rw [csv_eq plain]
  refine Csv.records_unlines (List.forall_mem_cons.mpr ⟨BatchRow.isRecord_columns, ?_⟩)
  intro fields hmem
  obtain ⟨row, -, rfl⟩ := List.mem_map.mp hmem
  exact row.isRecord_fields

theorem isReport_csv (config : SolverConfig) (host : Host) (report : FileHandle) (m : Machine)
    (paths : List Path) :
    IsReport (csv (solveAll config host report m paths).rows) paths
      (solveAll config host report m paths) where
  records := records_csv isPlain_of_mem_rows
  rows := by
    rw [List.mapM_map]
    exact (mapM_eq_some (g := id) fun row _ => row.ofFields?_fields).trans (by rw [List.map_id])
  inOrder := isPrefix_of_solveAll
  complete := paths_of_solveAll

/-! ## The file -/

end Batch

/-- The bytes of a file are those of a text. -/
def FileSystem.HoldsText (fs : FileSystem) (id : FileId) (text : String) : Prop :=
  ∃ attributes, fs.bodies[id]? = some ⟨.bytes (Text.encode text).toArray, attributes⟩

/-- The handle of a file that was written from its start and holds a text now. -/
def FileHandle.after (id : FileId) (text : String) : FileHandle :=
  ⟨id, (Text.encode text).length⟩

theorem Batch.putLine_after {fs : FileSystem} {id : FileId} {text : String}
    (h : fs.HoldsText id text) (line : String) :
    ∃ fs', putLine fs (.after id text) line =
        (⟨fs', .after id (text ++ (line ++ "\n"))⟩, .ok ()) ∧
      fs'.HoldsText id (text ++ (line ++ "\n")) := by
  have start : FileWriter.Holds id ⟨fs, .after id text⟩ (Text.encode text) := ⟨rfl, h⟩
  obtain ⟨⟨fs', handle⟩, hput, rfl, hbody⟩ := (FileWriter.takes_put id).putLines start [line]
  rw [Text.unlines_cons, Text.unlines_nil, String.append_empty, ← Text.encode_append] at hput hbody
  exact ⟨fs', hput, hbody⟩

/-- Whatever is started, what a file holds stays as it is. -/
def Host.LeavesAlone (host : Host) (id : FileId) : Prop :=
  ∀ m command limit child, host.launch m command limit = .ok child →
    child.machine.files.bodies[id]? = m.files.bodies[id]?

theorem SolverConfig.bodies_solve {config : SolverConfig} {host : Host} {id : FileId}
    (alone : host.LeavesAlone id) (m : Machine) (input : Path) (format : Format) :
    (config.solve host m input format).2.files.bodies[id]? = m.files.bodies[id]? := by
  cases htiming : config.timingFile host m.files with
  | error message => rw [solve_of_refused htiming]
  | ok timing =>
      have hworked : (config.worked host m input).files.bodies[id]? = m.files.bodies[id]? := by
        rw [worked, htiming]
        dsimp only
        split
        · rfl
        · rename_i child hlaunch
          exact alone m _ _ child hlaunch
      rw [solve_machine htiming, ← hworked]
      cases timing with
      | none => rfl
      | some path => rw [removeTiming, FileSystem.bodies_removeFile]

theorem SolverConfig.bodies_solveInstance {config : SolverConfig} {host : Host} {id : FileId}
    (alone : host.LeavesAlone id) (m : Machine) (path : Path) :
    (config.solveInstance host m path).2.files.bodies[id]? = m.files.bodies[id]? := by
  rw [solveInstance]
  cases path.format? with
  | none => rfl
  | some format => exact bodies_solve alone m path format

namespace Batch

theorem holdsText_solveAll (config : SolverConfig) {id : FileId} (alone : host.LeavesAlone id)
    {m : Machine} {text : String} (h : m.files.HoldsText id text) (paths : List Path) :
    (solveAll config host (.after id text) m paths).failure = none ∧
      (solveAll config host (.after id text) m paths).machine.files.HoldsText id
        (text ++ Text.unlines
          ((solveAll config host (.after id text) m paths).rows.map BatchRow.csvLine)) := by
  induction paths generalizing m text with
  | nil => simpa [solveAll] using h
  | cons path rest ih =>
      have hsame {outcome : Outcome BatchRow} {m' : Machine}
          (hrow : config.solveInstance host m path = (outcome, m')) :
          m'.files.HoldsText id text := by
        have hbodies := config.bodies_solveInstance alone m path
        rw [hrow] at hbodies
        rwa [FileSystem.HoldsText, hbodies]
      rw [solveAll]
      split
      · rename_i row m' hrow
        obtain ⟨files, hput, hwritten⟩ := putLine_after (hsame hrow) row.csvLine
        obtain ⟨hwhole, hrest⟩ := ih (m := { m' with files }) hwritten
        simp only [hput, List.map_cons, Text.unlines_cons, ← String.append_assoc] at hwhole hrest ⊢
        exact ⟨hwhole, hrest⟩
      · rename_i m' hrow
        simpa using hsame hrow
      · rename_i m' hrow
        simpa using hsame hrow

theorem csv_append (rows : List BatchRow) :
    csv rows = csv [] ++ Text.unlines (rows.map BatchRow.csvLine) := by
  rw [csv, csv, List.map_nil, Text.unlines_cons, Text.unlines_cons, Text.unlines_nil,
    String.append_empty]

theorem run_of_stores (config : SolverConfig) (host : Host) {m : Machine} {folder report : Path}
    {paths : List Path} {files : FileSystem} {handle : FileHandle}
    (stores : m.files.Stores report) (found : m.files.instances folder = .ok paths)
    (opened : m.files.openNew report = .ok (files, handle)) :
    ∃ headed, headed.HoldsText handle.id (csv []) ∧
      run config host m folder report = .ok
        (solveAll config host (.after handle.id (csv [])) { m with files := headed } paths) := by
  obtain ⟨id, offset⟩ := handle
  obtain ⟨hcreate, rfl⟩ := FileSystem.create_of_openNew opened
  have hempty : files.HoldsText id "" := by
    obtain ⟨attributes, hbody⟩ := (FileSystem.hasEmpty_of_create stores hcreate).empty
    exact ⟨attributes, by rw [hbody, Text.encode_empty]⟩
  have hstart : FileHandle.mk id 0 = .after id "" := by
    rw [FileHandle.after, Text.encode_empty, List.length_nil]
  have hcsv : csv [] = BatchRow.csvHeader ++ "\n" := by
    rw [csv, List.map_nil, Text.unlines_cons, Text.unlines_nil, String.append_empty]
  obtain ⟨headed, hput, hheader⟩ := putLine_after hempty BatchRow.csvHeader
  rw [String.empty_append, ← hcsv] at hput hheader
  refine ⟨headed, hheader, ?_⟩
  simp only [run, found, opened, hstart, bind, Except.bind, hput]
  rfl

/-- The file of a report that was started anew, if it stores bytes at all, holds the header and the
rows in the end. -/
theorem holdsText_run {m : Machine} {folder report : Path} {batch : Batch}
    (stores : m.files.Stores report) (h : run config host m folder report = .ok batch) :
    ∃ paths files handle, m.files.instances folder = .ok paths ∧
      m.files.openNew report = .ok (files, handle) ∧
      files.get report = .ok (.file handle.id) ∧
      (∃ opened, batch = solveAll config host (.after handle.id (csv [])) opened paths) ∧
      (host.LeavesAlone handle.id → batch.failure = none ∧
        batch.machine.files.HoldsText handle.id (csv batch.rows)) := by
  obtain ⟨paths, hpaths, hrest⟩ := bind_eq_ok_iff.mp h
  obtain ⟨⟨files, handle⟩, hopen, -⟩ := bind_eq_ok_iff.mp hrest
  obtain ⟨headed, hheader, hrun⟩ := run_of_stores config host stores hpaths hopen
  cases hrun.symm.trans h
  have hget := FileSystem.get_of_create (FileSystem.create_of_openNew hopen).1
  refine ⟨paths, files, handle, hpaths, hopen, hget, ⟨_, rfl⟩, fun alone => ?_⟩
  obtain ⟨hwhole, hall⟩ :=
    holdsText_solveAll config alone (m := { m with files := headed }) hheader paths
  rw [← csv_append] at hall
  exact ⟨hwhole, hall⟩

/-- Whatever the instances are called and however their runs end, the report is read as a header of
nine columns and one record of nine fields for each row, in order; the records say all that the rows
do.  The file holds the report in the end, unless a solver changes what is in it. -/
theorem report_reads_back (config : SolverConfig) (host : Host) (m : Machine) :
    (∀ report paths, IsReport (csv (solveAll config host report m paths).rows) paths
      (solveAll config host report m paths)) ∧
    ∀ folder report batch, m.files.Stores report → run config host m folder report = .ok batch →
      ∃ paths files handle, m.files.instances folder = .ok paths ∧
        m.files.openNew report = .ok (files, handle) ∧
        files.get report = .ok (.file handle.id) ∧
        (host.LeavesAlone handle.id → batch.failure = none ∧ ∃ text,
          batch.machine.files.HoldsText handle.id text ∧ IsReport text paths batch) := by
  constructor
  · exact fun report paths => isReport_csv config host report m paths
  · intro folder report batch stores h
    obtain ⟨paths, files, handle, hpaths, hopen, hget, ⟨opened, rfl⟩, hholds⟩ :=
      holdsText_run stores h
    refine ⟨paths, files, handle, hpaths, hopen, hget, fun alone => ?_⟩
    obtain ⟨hwhole, htext⟩ := hholds alone
    exact ⟨hwhole, _, htext, isReport_csv config host _ opened paths⟩

/-- In the current folder, an instance whose name holds a comma, a quote and a line feed. -/
def oddShelf : FileSystem where
  root := .folder Node.plainFolder [(['a', ',', '"', '\n', '.', 'c', 'n', 'f'], .file 0)]
  bodies := #[.ofBytes #[] 0o644]
  here := []
  mask := 0o022
  moment := 0

def oddPath : Path := ⟨['.', '/', 'a', ',', '"', '\n', '.', 'c', 'n', 'f']⟩

/-- Its solvers find at once that there is no solution. -/
def curt : Host where
  launch m _ _ := .ok
    { output := .ok (Text.Octets.toBytes "s UNSATISFIABLE\n".toList), closes := some ⟨1⟩
      exits := some ⟨2⟩, machine := m }
  timingName := ⟨['t']⟩
  clock := ⟨0⟩

theorem leavesAlone_curt (id : FileId) : curt.LeavesAlone id := by
  rintro m command limit child ⟨⟩
  rfl

theorem format?_odd : oddPath.format? = some .cnf :=
  @Path.format?_of_name oddPath ['a', ',', '"', '\n'] .cnf rfl (by decide)

theorem solveInstance_odd (m : Machine) :
    (SolverConfig.ofSolver ⟨['s']⟩).solveInstance curt m oddPath =
      (.finished ⟨"./a,\"\n.cnf", "success", "unsatisfiable", "cnf", ⟨some 0, none, none⟩, none,
        some 0⟩, m) := by
  have hread : Text.decodeLossy (Text.Octets.toBytes "s UNSATISFIABLE\n".toList) =
      "s UNSATISFIABLE\n" := Text.decodeLossy_toBytes_of_all rfl
  have hsolve : (SolverConfig.ofSolver ⟨['s']⟩).solve curt m oddPath .cnf =
      (.finished (.ofOutput .cnf (Text.decodeLossy (Text.Octets.toBytes "s UNSATISFIABLE\n".toList))
        (.wall ⟨2⟩)), m) := rfl
  have hparse : Answer.parse .cnf "s UNSATISFIABLE\n" = .ok ⟨.cnf, .unsatisfiable, 0, #[]⟩ := rfl
  have hshown : oddPath.shown = "./a,\"\n.cnf" :=
    @Text.decodeLossy_toBytes_of_all "./a,\"\n.cnf" rfl
  rw [SolverConfig.solveInstance, format?_odd]
  simp only [hsolve, hread, RunResult.ofOutput, hparse, Outcome.map, BatchRow.ofResult, hshown]
  rfl

theorem instances_oddShelf : oddShelf.instances ⟨['.']⟩ = .ok [oddPath] :=
  FileSystem.instances_of_single (by decide) ⟨['a', ',', '"', '\n'], .cnf, by decide, rfl⟩ rfl

/-- The path comes back whole, from between quotes. -/
theorem odd_report_reads_back :
    ∃ batch, run (.ofSolver ⟨['s']⟩) curt (.ofFiles oddShelf) ⟨['.']⟩ ⟨['r']⟩ = .ok batch ∧
      ∃ text, batch.machine.files.HoldsText 1 text ∧
        Csv.records text = some [BatchRow.columns,
          ["./a,\"\n.cnf", "success", "unsatisfiable", "cnf", "0", "", "", "", "0"]] := by
  have stores : oddShelf.Stores ⟨['r']⟩ := by
    rintro names id ⟨⟩ hnode
    cases hnode
  obtain ⟨handle, opened, hrun⟩ : ∃ handle opened,
      run (.ofSolver ⟨['s']⟩) curt (.ofFiles oddShelf) ⟨['.']⟩ ⟨['r']⟩ =
        .ok (solveAll (.ofSolver ⟨['s']⟩) curt handle opened [oddPath]) := by
    obtain ⟨headed, -, hrun⟩ := run_of_stores (.ofSolver ⟨['s']⟩) curt
      (m := .ofFiles oddShelf) stores instances_oddShelf rfl
    exact ⟨_, _, hrun⟩
  have hrows : (solveAll (.ofSolver ⟨['s']⟩) curt handle opened [oddPath]).rows =
      [⟨"./a,\"\n.cnf", "success", "unsatisfiable", "cnf", ⟨some 0, none, none⟩, none,
        some 0⟩] := by
    rw [solveAll, solveInstance_odd]
    dsimp only
    split <;> rfl
  obtain ⟨-, hfile⟩ := report_reads_back (.ofSolver ⟨['s']⟩) curt (.ofFiles oddShelf)
  obtain ⟨paths, files, ⟨id, start⟩, -, hopen, -, hholds⟩ := hfile _ _ _ stores hrun
  cases hopen
  obtain ⟨-, text, holds, report⟩ := hholds (leavesAlone_curt 1)
  refine ⟨_, hrun, text, holds, ?_⟩
  rw [report.records, hrows]
  rfl

end Batch

end Clausal

import Clausal.Proofs.FileSystem.Writing
import Clausal.Proofs.Formula.Printing
import Clausal.Proofs.Text.Words
import Clausal.Solver.Run

/-!
# The printed text determines the problem

The text of a reachable formula reads back as its clauses, and it is what a writer is handed
and what ends up in a file.  Of a formula that the format refuses, nothing is written.
-/

namespace Clausal.Formula

open Dimacs Text

variable {f : Formula} {format : Format} {text : String}

/-! ## Writers -/

def Keeps {σ ε : Type} (put : σ → List UInt8 → σ × Except ε Unit) (taken : σ → List UInt8) :
    Prop :=
  ∀ writer bytes, (put writer bytes).2 = .ok () ∧
    taken (put writer bytes).1 = taken writer ++ bytes

theorem Keeps.takes {σ ε : Type} {put : σ → List UInt8 → σ × Except ε Unit}
    {taken : σ → List UInt8} (keeps : Keeps put taken) :
    Writer.Takes put fun writer bytes => taken writer = bytes := by
  rintro writer _ bytes rfl
  exact ⟨_, Prod.ext rfl (keeps writer bytes).1, (keeps writer bytes).2⟩

theorem write_of_ok (made : f.dimacs format = .ok text) {σ ε : Type}
    {put : σ → List UInt8 → σ × Except ε Unit} {taken : σ → List UInt8}
    (keeps : Keeps put taken) (writer : σ) :
    ∃ last, f.write put writer format = (last, .ok ()) ∧
      taken last = taken writer ++ encode text := by
  obtain ⟨last, hput, htaken⟩ :=
    keeps.takes.putLines (Eq.refl (taken writer)) (f.printedLines format)
  refine ⟨last, ?_, ?_⟩
  · rw [write, dimacsLines_of_ok made]
    simp only [hput]
    rfl
  · rw [htaken, (dimacs_eq_ok_iff.mp made).2]

theorem write_of_error {failure : EncodingError} (refused : f.dimacs format = .error failure)
    {σ ε : Type} (put : σ → List UInt8 → σ × Except ε Unit) (writer : σ) :
    f.write put writer format = (writer, .error (.inl failure)) := by
  obtain ⟨hcnf, hsoft, rfl⟩ := dimacs_eq_error_iff.mp refused
  rw [write, dimacsLines_eq, if_pos ⟨hcnf, hsoft⟩]

/-! ## Files -/

/-- Once the file is open the lines go through the buffer, and what it holds back is flushed. -/
theorem writeFile_of_open (made : f.dimacs format = .ok text) {files opened : FileSystem}
    {path : Path} {handle : FileHandle} (room : files.openNew path = .ok (opened, handle)) :
    f.writeFile files path format =
      match Writer.putLines (BufferedWriter.write FileWriter.put) (.ofWriter ⟨opened, handle⟩)
        (f.printedLines format) with
      | (_, .error failure) => .error (.write failure)
      | (buffered, .ok ()) =>
          match buffered.flush FileWriter.put with
          | (_, .error _) => .error (.flush path)
          | (flushed, .ok ()) => .ok flushed.inner.files := by
  rw [writeFile, dimacsLines_of_ok made, room]
  rfl

theorem writeFile_of_ok (made : f.dimacs format = .ok text) {files created : FileSystem}
    {path : Path} {id : FileId} (stores : files.Stores path)
    (room : files.create path = .ok (created, id)) :
    ∃ written, f.writeFile files path format = .ok written ∧
      written.readBytes path = .ok (encode text).toArray := by
  have hempty := FileSystem.hasEmpty_of_create stores room
  have takes := (FileWriter.takes_put id).and
    (FileWriter.respects_put created.root created.here)
  obtain ⟨buffered, hput, hahead⟩ := (BufferedWriter.takes_write takes).putLines
    (.ofWriter ⟨FileWriter.holds_of_hasEmpty hempty, rfl, rfl⟩) (f.printedLines format)
  obtain ⟨last, hflush, holds, root, here⟩ := hahead.flush takes
  refine ⟨last.files, ?_, ?_⟩
  · rw [writeFile_of_open made (FileSystem.openNew_of_create room), hput]
    dsimp only
    rw [hflush]
  · rw [List.nil_append, ← (dimacs_eq_ok_iff.mp made).2] at holds
    exact holds.readBytes (FileSystem.get_of_root_eq hempty.found root here)

theorem writeFile_of_create_error (made : f.dimacs format = .ok text) {files : FileSystem}
    {path : Path} {failure : FileError} (closed : files.create path = .error failure) :
    f.writeFile files path format = .error (.create path) := by
  rw [writeFile, dimacsLines_of_ok made, FileSystem.openNew_of_create_error closed]
  rfl

theorem writeFile_of_error {failure : EncodingError} (refused : f.dimacs format = .error failure)
    (files : FileSystem) (path : Path) :
    f.writeFile files path format = .error (.encoding failure) := by
  obtain ⟨hcnf, hsoft, rfl⟩ := dimacs_eq_error_iff.mp refused
  rw [writeFile, dimacsLines_eq, if_pos ⟨hcnf, hsoft⟩]
  rfl

theorem writeFile_of_full (made : f.dimacs format = .ok text) {files opened : FileSystem}
    {path : Path} {handle : FileHandle} (room : files.openNew path = .ok (opened, handle))
    (full : (FileWriter.mk opened handle).isFull = true) :
    (∃ failure, f.writeFile files path format = .error (.write failure)) ∨
      f.writeFile files path format = .error (.flush path) := by
  have some : f.printedLines format ≠ [] :=
    List.append_ne_nil_of_right_ne_nil _ (List.cons_ne_nil _ _)
  rw [writeFile_of_open made room]
  split
  · exact .inl ⟨_, rfl⟩
  · rename_i buffered hput
    obtain ⟨failure, hflush⟩ :=
      BufferedWriter.putLines_of_refuses (FileWriter.refuses_put full) some hput
    exact .inr (by rw [hflush])

/-! ## The text -/

/-- The format refuses the formula, and nothing is handed to a writer or put into a file. -/
structure Refused (f : Formula) (format : Format) (failure : EncodingError) : Prop where
  soft : failure = .softClausesInCnf f.soft.toList.length
  writer : ∀ {σ ε : Type} (put : σ → List UInt8 → σ × Except ε Unit) (writer : σ),
    f.write put writer format = (writer, .error (.inl failure))
  file : ∀ files path, f.writeFile files path format = .error (.encoding failure)

/-- The text says what the formula is, comments add nothing to that, and writers and files get
this text. -/
structure Printed (f : Formula) (format : Format) (text : String) : Prop where
  lines : ∃ problem body, dataLines text = problem :: body ∧ f.Reads format problem body
  comments : ∀ g : Formula, g.Reachable → f.SameProblem g →
    ∃ other, g.dimacs format = .ok other ∧ dataLines other = dataLines text
  remarks : ∀ op : Operation, op.clause? = none → f.SameProblem (op.run f).1
  writer : ∀ {σ ε : Type} {put : σ → List UInt8 → σ × Except ε Unit} {taken : σ → List UInt8},
    Keeps put taken → ∀ writer, ∃ last, f.write put writer format = (last, .ok ()) ∧
      taken last = taken writer ++ encode text
  file : ∀ {files : FileSystem} {path : Path} {made : FileSystem × FileId},
    files.Stores path → files.create path = .ok made →
      ∃ written, f.writeFile files path format = .ok written ∧
        written.readBytes path = .ok (encode text).toArray
  noFile : ∀ {files : FileSystem} {path : Path} {failure : FileError},
    files.create path = .error failure → f.writeFile files path format = .error (.create path)

/-- Only the plain format refuses formulas, those with soft clauses, and then nothing is
written; every other text of a reachable formula determines the problem. -/
theorem dimacs_determines_problem (h : f.Reachable) (format : Format) :
    ((∃ failure, f.dimacs format = .error failure) ↔ format = .cnf ∧ f.soft.toList ≠ []) ∧
    (∀ failure, f.dimacs format = .error failure → f.Refused format failure) ∧
    ∀ text, f.dimacs format = .ok text → f.Printed format text := by
  have hf := h.wellFormed
  refine ⟨?_, ?_, ?_⟩
  · simp only [dimacs_eq_error_iff]
    exact ⟨fun ⟨_, hcnf, hsoft, _⟩ => ⟨hcnf, hsoft⟩, fun ⟨hcnf, hsoft⟩ => ⟨_, hcnf, hsoft, rfl⟩⟩
  · intro failure refused
    have hfailure := (dimacs_eq_error_iff.mp refused).2.2
    rw [← ClauseList.length_toList] at hfailure
    exact ⟨hfailure, write_of_error refused, writeFile_of_error refused⟩
  · intro text made
    have plain := (dimacs_eq_ok_iff.mp made).1
    exact {
      lines := ⟨_, _, hf.dataLines_eq made, hf.reads plain⟩
      comments := fun g hg same => same.dataLines_eq hf hg.wellFormed made
      remarks := fun op hop => .of_run hop f
      writer := write_of_ok made
      file := fun stores room => writeFile_of_ok made stores room
      noFile := writeFile_of_create_error made }

/-- Comments that look like a problem line and a clause, among a hard and a soft clause. -/
def annotated : Formula :=
  ([.comment "p cnf 9 9", .addHard [1, -2], .commentHard "1 0", .commentSoft "two\nlines",
    .addSoft 3 [-1]] : List Operation).foldl (fun f op => (op.run f).1) empty

theorem annotated_reachable : annotated.Reachable :=
  .step _ (.step _ (.step _ (.step _ (.step _ .empty))))

theorem annotated_determined :
    annotated.Reachable ∧
      (∃ text problem body, annotated.dimacs .wcnf = .ok text ∧
        dataLines text = problem :: body ∧ readHeader? problem = some (.wcnf 2 2 4) ∧
        body.mapM (readRow? .wcnf) = some [⟨some 4, [1, -2, 0]⟩, ⟨some 3, [-1, 0]⟩] ∧
        ∃ written, annotated.writeFile (.empty 0 []) ⟨['f']⟩ .wcnf = .ok written ∧
          written.readBytes ⟨['f']⟩ = .ok (encode text).toArray) ∧
      annotated.dimacs .cnf = .error (.softClausesInCnf 1) ∧
      annotated.writeFile (.empty 0 []) ⟨['f']⟩ .cnf = .error (.encoding (.softClausesInCnf 1)) := by
  obtain ⟨hwcnf, -, hprinted⟩ := dimacs_determines_problem annotated_reachable .wcnf
  obtain ⟨hcnf, hrefused, -⟩ := dimacs_determines_problem annotated_reachable .cnf
  have hsoft : annotated.soft.toList = [.soft 3 [-1]] := by decide
  refine ⟨annotated_reachable, ?_, ?_⟩
  · cases made : annotated.dimacs .wcnf with
    | error failure => exact absurd (hwcnf.mp ⟨failure, made⟩).1 (by decide)
    | ok text =>
        have printed := hprinted text made
        obtain ⟨problem, body, hlines, reads⟩ := printed.lines
        have stores : (FileSystem.empty 0 []).Stores ⟨['f']⟩ := by
          intro names id hfollow hnode
          have hnames : [['f']] = names := Except.ok.inj hfollow
          rw [← hnames] at hnode
          cases hnode
        exact ⟨text, problem, body, rfl, hlines, reads.header, reads.clauses,
          printed.file stores rfl⟩
  · obtain ⟨failure, refused⟩ := hcnf.mpr ⟨rfl, by rw [hsoft]; exact List.cons_ne_nil _ _⟩
    have hall := hrefused failure refused
    have hfailure : failure = .softClausesInCnf 1 := hall.soft
    exact ⟨hfailure ▸ refused, hfailure ▸ hall.file _ _⟩

end Clausal.Formula

import Clausal.Proofs.Text.Words
import Clausal.Writer

/-!
# What writers take

A writer stands in some relation to the bytes that it has taken so far, and takes whatever it is
handed as long as that relation lets it.  Then all lines that it is handed arrive.  A buffer in
front makes no difference: what went through and what is held back make up what was taken, and a
flush hands on the rest.  Before a writer that refuses everything the buffer only collects, so that
at the latest the flush fails.
-/

namespace Clausal

variable {σ ε : Type} {put : σ → List UInt8 → σ × Except ε Unit} {Taken : σ → List UInt8 → Prop}
  {Good : σ → Prop}

namespace Writer

/-- As long as it has taken bytes in this way, a writer takes more. -/
def Takes (put : σ → List UInt8 → σ × Except ε Unit) (Taken : σ → List UInt8 → Prop) : Prop :=
  ∀ writer taken bytes, Taken writer taken →
    ∃ next, put writer bytes = (next, .ok ()) ∧ Taken next (taken ++ bytes)

theorem Takes.putPieces (takes : Takes put Taken) {writer : σ} {taken : List UInt8}
    (h : Taken writer taken) (pieces : List String) :
    ∃ last, putPieces put writer pieces = (last, .ok ()) ∧
      Taken last (taken ++ pieces.flatMap Text.encode) := by
  induction pieces generalizing writer taken with
  | nil => exact ⟨writer, rfl, by rwa [List.flatMap_nil, List.append_nil]⟩
  | cons piece rest ih =>
      obtain ⟨next, hput, hnext⟩ := takes writer taken (Text.encode piece) h
      obtain ⟨last, hrest, hlast⟩ := ih hnext
      refine ⟨last, ?_, ?_⟩
      · simp only [Writer.putPieces, hput]
        exact hrest
      · rwa [List.flatMap_cons, ← List.append_assoc]

theorem flatMap_encode_lines (lines : List String) :
    (lines.flatMap fun line => [line, "\n"]).flatMap Text.encode =
      Text.encode (Text.unlines lines) := by
  induction lines with
  | nil => rw [List.flatMap_nil, List.flatMap_nil, Text.unlines_nil, Text.encode_empty]
  | cons line rest ih =>
      rw [List.flatMap_cons, List.flatMap_append, ih, List.flatMap_cons, List.flatMap_singleton,
        Text.encode_unlines_cons, List.append_assoc]

theorem Takes.putLines (takes : Takes put Taken) {writer : σ} {taken : List UInt8}
    (h : Taken writer taken) (lines : List String) :
    ∃ last, putLines put writer lines = (last, .ok ()) ∧
      Taken last (taken ++ Text.encode (Text.unlines lines)) := by
  obtain ⟨last, hput, hlast⟩ := takes.putPieces h (lines.flatMap fun line => [line, "\n"])
  exact ⟨last, hput, flatMap_encode_lines lines ▸ hlast⟩

/-- What is handed to a writer leaves it so, also where it is refused. -/
def Respects (put : σ → List UInt8 → σ × Except ε Unit) (Good : σ → Prop) : Prop :=
  ∀ writer bytes, Good writer → Good (put writer bytes).1

theorem Respects.putPieces (respects : Respects put Good) (writer : σ) (h : Good writer)
    (pieces : List String) : Good (putPieces put writer pieces).1 := by
  induction pieces generalizing writer with
  | nil => exact h
  | cons piece rest ih =>
      have hnext := respects writer (Text.encode piece) h
      rw [Writer.putPieces]
      rcases hput : put writer (Text.encode piece) with ⟨next, failure | ⟨⟩⟩
      · rwa [hput] at hnext
      · rw [hput] at hnext
        exact ih next hnext

theorem Respects.putLines (respects : Respects put Good) (writer : σ) (h : Good writer)
    (lines : List String) : Good (putLines put writer lines).1 :=
  respects.putPieces writer h _

theorem Takes.and (takes : Takes put Taken) (respects : Respects put Good) :
    Takes put fun writer taken => Taken writer taken ∧ Good writer := by
  rintro writer taken bytes ⟨htaken, hgood⟩
  obtain ⟨next, hput, hnext⟩ := takes writer taken bytes htaken
  have hrespected := respects writer bytes hgood
  rw [hput] at hrespected
  exact ⟨next, hput, hnext, hrespected⟩

/-- The writer takes nothing, and stays as it is. -/
structure Refuses (put : σ → List UInt8 → σ × Except ε Unit) (writer : σ) : Prop where
  nothing : put writer [] = (writer, .ok ())
  something (bytes : List UInt8) (some : bytes ≠ []) :
    ∃ failure, put writer bytes = (writer, .error failure)

end Writer

namespace BufferedWriter

open Writer (Takes Respects Refuses)

/-- What the writer behind the buffer has taken comes before what is held back. -/
def Ahead (Taken : σ → List UInt8 → Prop) (writer : BufferedWriter σ) (taken : List UInt8) :
    Prop :=
  ∃ sent, Taken writer.inner sent ∧ taken = sent ++ writer.buffer.toList

theorem Ahead.ofWriter {inner : σ} {taken : List UInt8} (h : Taken inner taken) :
    Ahead Taken (ofWriter inner) taken :=
  ⟨taken, h, (List.append_nil taken).symm⟩

theorem toList_hold (writer : BufferedWriter σ) (bytes : List UInt8) :
    (writer.hold bytes).buffer.toList = writer.buffer.toList ++ bytes := by
  rw [hold, Array.append_eq_append, Array.toList_append]

section

variable {writer : BufferedWriter σ} {taken : List UInt8}

theorem Ahead.hold (h : Ahead Taken writer taken) (bytes : List UInt8) :
    Ahead Taken (writer.hold bytes) (taken ++ bytes) := by
  obtain ⟨sent, hsent, rfl⟩ := h
  exact ⟨sent, hsent, by rw [toList_hold, List.append_assoc]⟩

theorem Ahead.flush (takes : Takes put Taken) (h : Ahead Taken writer taken) :
    ∃ inner, writer.flush put = (⟨inner, #[]⟩, .ok ()) ∧ Taken inner taken := by
  obtain ⟨sent, hsent, rfl⟩ := h
  obtain ⟨inner, hput, hinner⟩ := takes writer.inner sent writer.buffer.toList hsent
  refine ⟨inner, ?_, hinner⟩
  rw [BufferedWriter.flush, hput]

/-- What does not fit beside the held bytes finds them gone, if it is too much for the buffer. -/
theorem Ahead.makeRoom (takes : Takes put Taken) (h : Ahead Taken writer taken)
    {bytes : List UInt8} (tight : ¬ bytes.length < writer.spare) :
    ∃ next : BufferedWriter σ,
      (if writer.spare < bytes.length then writer.flush put else (writer, .ok ())) =
        (next, .ok ()) ∧ Ahead Taken next taken ∧
      (capacity ≤ bytes.length → next.buffer = #[]) := by
  by_cases beyond : writer.spare < bytes.length
  · obtain ⟨inner, hflush, hinner⟩ := h.flush takes
    exact ⟨⟨inner, #[]⟩, by rw [if_pos beyond, hflush], .ofWriter hinner, fun _ => rfl⟩
  · refine ⟨writer, if_neg beyond, h, fun large => Array.eq_empty_of_size_eq_zero ?_⟩
    -- The bytes fill the spare room exactly, which is then the whole buffer.
    unfold spare capacity at *
    omega

end

theorem takes_write (takes : Takes put Taken) : Takes (write put) (Ahead Taken) := by
  intro writer taken bytes h
  rw [write]
  by_cases fits : bytes.length < writer.spare
  · exact ⟨_, if_pos fits, h.hold bytes⟩
  · obtain ⟨next, hroom, hnext, hempty⟩ := h.makeRoom takes fits
    rw [if_neg fits, hroom]
    by_cases small : bytes.length < capacity
    · exact ⟨_, if_pos small, hnext.hold bytes⟩
    · obtain ⟨sent, hsent, rfl⟩ := hnext
      obtain ⟨inner, hput, hinner⟩ := takes next.inner sent bytes hsent
      refine ⟨⟨inner, next.buffer⟩, ?_, _, hinner, ?_⟩
      · simp only [if_neg small, hput]
      · rw [hempty (Nat.not_lt.mp small), List.append_nil, List.append_nil]

theorem respects_flush (respects : Respects put Good) {writer : BufferedWriter σ}
    (h : Good writer.inner) : Good (writer.flush put).1.inner := by
  have hput := respects writer.inner writer.buffer.toList h
  rw [flush]
  split <;> rename_i hflush <;> rwa [hflush] at hput

theorem respects_write (respects : Respects put Good) :
    Respects (write put) fun writer => Good writer.inner := by
  intro writer bytes h
  rw [write]
  by_cases fits : bytes.length < writer.spare
  · rwa [if_pos fits]
  have hroom : Good
      (if writer.spare < bytes.length then writer.flush put else (writer, .ok ())).1.inner := by
    split
    · exact respects_flush respects h
    · exact h
  rw [if_neg fits]
  split
  · rename_i hfull
    rwa [hfull] at hroom
  · rename_i next hnext
    rw [hnext] at hroom
    split
    · exact hroom
    · exact respects next.inner bytes hroom

/-! ## A writer that refuses everything -/

section

variable {inner : σ} {buffer : Array UInt8} {last : BufferedWriter σ}

theorem flush_of_refuses (refuses : Refuses put inner) (held : buffer ≠ #[]) :
    ∃ failure, flush put ⟨inner, buffer⟩ = (⟨inner, buffer⟩, .error failure) := by
  obtain ⟨failure, hput⟩ := refuses.something buffer.toList (mt Array.toList_eq_nil_iff.mp held)
  refine ⟨failure, ?_⟩
  rw [flush]
  simp only [hput]

theorem makeRoom_of_refuses (refuses : Refuses put inner) {bytes : List UInt8}
    {next : BufferedWriter σ}
    (h : (if (BufferedWriter.mk inner buffer).spare < bytes.length
      then flush put ⟨inner, buffer⟩ else (⟨inner, buffer⟩, .ok ())) = (next, .ok ())) :
    next = ⟨inner, buffer⟩ := by
  split at h
  · by_cases held : buffer = #[]
    · rw [flush, held, Array.toList_empty, refuses.nothing] at h
      rw [held]
      exact (Prod.mk.inj h).1.symm
    · obtain ⟨failure, hflush⟩ := flush_of_refuses refuses held
      cases hflush.symm.trans h
  · exact (Prod.mk.inj h).1.symm

theorem write_of_refuses (refuses : Refuses put inner) {bytes : List UInt8}
    (h : write put ⟨inner, buffer⟩ bytes = (last, .ok ())) :
    last = ⟨inner, buffer.append bytes.toArray⟩ := by
  rw [write] at h
  split at h
  · exact (Prod.mk.inj h).1.symm
  split at h
  · cases h
  rename_i next hroom
  cases makeRoom_of_refuses refuses hroom
  split at h
  · exact (Prod.mk.inj h).1.symm
  · rename_i large
    have some : bytes ≠ [] := by
      rintro rfl
      exact large (by decide)
    obtain ⟨failure, hput⟩ := refuses.something bytes some
    simp only [hput] at h
    cases h

theorem putPieces_of_refuses (refuses : Refuses put inner) {pieces : List String}
    (h : Writer.putPieces (write put) ⟨inner, buffer⟩ pieces = (last, .ok ())) :
    last.inner = inner ∧ last.buffer.toList = buffer.toList ++ pieces.flatMap Text.encode := by
  induction pieces generalizing buffer with
  | nil =>
      cases h
      exact ⟨rfl, (List.append_nil _).symm⟩
  | cons piece rest ih =>
      rw [Writer.putPieces] at h
      split at h
      · rename_i next hput
        cases write_of_refuses refuses hput
        obtain ⟨hinner, hbuffer⟩ := ih h
        refine ⟨hinner, ?_⟩
        rw [hbuffer, List.flatMap_cons, Array.append_eq_append, Array.toList_append,
          List.append_assoc]
      · cases h

/-- Lines never get through: they are refused on the way or in the end. -/
theorem putLines_of_refuses (refuses : Refuses put inner) {lines : List String}
    (some : lines ≠ [])
    (h : Writer.putLines (write put) (ofWriter inner) lines = (last, .ok ())) :
    ∃ failure, last.flush put = (last, .error failure) := by
  obtain ⟨hinner, hbuffer⟩ := putPieces_of_refuses refuses h
  rw [Writer.flatMap_encode_lines] at hbuffer
  obtain ⟨inner', buffer⟩ := last
  cases hinner
  refine flush_of_refuses refuses fun hempty => ?_
  cases lines with
  | nil => exact some rfl
  | cons line rest =>
      rw [hempty, Text.encode_unlines_cons, Text.encode_feed] at hbuffer
      have hlength := congrArg List.length hbuffer
      simp at hlength

end

end BufferedWriter

end Clausal

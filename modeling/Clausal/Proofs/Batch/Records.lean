import Clausal.Batch.Row
import Clausal.Proofs.Text.Words

/-!
# Reading comma-separated fields

Fields end at commas and records at line feeds, where one carriage return right before the line
feed belongs to the ending.  A field that starts with a quote goes on up to the quote that closes
it, whatever stands in between, and two quotes in it stand for one.  Fields that were written with
quotes where they need them are read back from their lines.
-/

namespace Clausal.Csv

inductive Place where
  | plain
  | quoted
  /-- After a quote, which closes the field unless another one follows. -/
  | closed
  deriving DecidableEq, Repr

/-- The records from here on; what was read of this field, and the fields of this record before
it, are given.  No quote may be left open, and nothing but its end may follow a field that was
closed. -/
def recordsFrom (place : Place) (field : List Char) (fields : List String) :
    List Char → Option (List (List String))
  | [] =>
      if place = .quoted then none
      else if place = .plain ∧ field = [] ∧ fields = [] then some []
      else some [fields ++ [String.ofList field]]
  | c :: rest =>
      if place = .quoted then
        if c = '"' then recordsFrom .closed field fields rest
        else recordsFrom .quoted (field ++ [c]) fields rest
      else if c = ',' then recordsFrom .plain [] (fields ++ [String.ofList field]) rest
      else if c = '\n' then
        (recordsFrom .plain [] [] rest).map ((fields ++ [String.ofList field]) :: ·)
      else if c = '\r' ∧ rest.head? = some '\n' then recordsFrom place field fields rest
      else if place = .closed then
        if c = '"' then recordsFrom .quoted (field ++ [c]) fields rest else none
      else if c = '"' ∧ field = [] then recordsFrom .quoted [] fields rest
      else recordsFrom .plain (field ++ [c]) fields rest

def records (text : String) : Option (List (List String)) := recordsFrom .plain [] [] text.toList

/-! ## Single fields -/

section

variable {place : Place} (field : List Char) (fields : List String)

theorem recordsFrom_comma (outside : place ≠ .quoted) (rest : List Char) :
    recordsFrom place field fields (',' :: rest) =
      recordsFrom .plain [] (fields ++ [String.ofList field]) rest := by
  rw [recordsFrom, if_neg outside, if_pos rfl]

theorem recordsFrom_feed (outside : place ≠ .quoted) (rest : List Char) :
    recordsFrom place field fields ('\n' :: rest) =
      (recordsFrom .plain [] [] rest).map ((fields ++ [String.ofList field]) :: ·) := by
  rw [recordsFrom, if_neg outside, if_neg (by decide), if_pos rfl]

/-- Between quotes everything is read back; the quote at the end is not the first of two, because
those in front of it are even in number. -/
theorem recordsFrom_doubleQuotes (text rest : List Char) :
    recordsFrom .quoted field fields (doubleQuotes text ++ '"' :: rest) =
      recordsFrom .closed (field ++ text) fields rest := by
  induction text generalizing field with
  | nil => rw [doubleQuotes, List.nil_append, List.append_nil, recordsFrom, if_pos rfl, if_pos rfl]
  | cons c more ih =>
      rw [doubleQuotes]
      by_cases hquote : c = '"'
      · subst hquote
        have hsecond (tail : List Char) :
            recordsFrom .quoted field fields ('"' :: '"' :: tail) =
              recordsFrom .quoted (field ++ ['"']) fields tail := by
          simp [recordsFrom]
        rw [if_pos rfl, List.cons_append, List.cons_append, hsecond, ih, List.append_assoc,
          List.singleton_append]
      · rw [if_neg hquote, List.cons_append, recordsFrom, if_pos rfl, if_neg hquote, ih,
          List.append_assoc, List.singleton_append]

theorem needsQuotes_eq_false_iff {text : List Char} :
    needsQuotes text = false ↔ ∀ c ∈ text, c ≠ ',' ∧ c ≠ '"' ∧ c ≠ '\n' := by
  simp [needsQuotes, and_assoc]

theorem recordsFrom_of_plain {text rest : List Char} (plain : needsQuotes text = false)
    (apart : '\r' ∈ text → rest.head? ≠ some '\n') :
    recordsFrom .plain field fields (text ++ rest) =
      recordsFrom .plain (field ++ text) fields rest := by
  rw [needsQuotes_eq_false_iff] at plain
  induction text generalizing field with
  | nil => rw [List.nil_append, List.append_nil]
  | cons c more ih =>
      rw [List.forall_mem_cons] at plain
      obtain ⟨⟨hcomma, hquote, hfeed⟩, hmore⟩ := plain
      have hreturn : ¬ (c = '\r' ∧ (more ++ rest).head? = some '\n') := by
        rintro ⟨rfl, hhead⟩
        cases more with
        | nil => exact apart List.mem_cons_self hhead
        | cons d others => exact (hmore d List.mem_cons_self).2.2 (Option.some.inj hhead)
      rw [List.cons_append, recordsFrom, if_neg nofun, if_neg hcomma, if_neg hfeed, if_neg hreturn,
        if_neg nofun, if_neg fun h => hquote h.1, ih _ hmore fun h => apart (.tail c h),
        List.append_assoc, List.singleton_append]

end

theorem recordsFrom_quote (field : String) (fields : List String) {rest : List Char}
    (apart : '\r' ∈ field.toList → rest.head? ≠ some '\n') :
    ∃ place, place ≠ .quoted ∧
      recordsFrom .plain [] fields ((quote field).toList ++ rest) =
        recordsFrom place field.toList fields rest := by
  cases hneeds : needsQuotes field.toList with
  | false =>
      refine ⟨.plain, nofun, ?_⟩
      rw [quote_of_plain hneeds, recordsFrom_of_plain _ _ hneeds apart, List.nil_append]
  | true =>
      refine ⟨.closed, nofun, ?_⟩
      have hopen (tail : List Char) :
          recordsFrom .plain [] fields ('"' :: tail) = recordsFrom .quoted [] fields tail := by
        simp [recordsFrom]
      rw [quote, if_pos hneeds, String.toList_ofList, List.append_assoc, List.append_assoc,
        List.singleton_append, List.singleton_append, hopen, recordsFrom_doubleQuotes,
        List.nil_append]

/-! ## Lines -/

/-- A record whose line is not ended too early or too late: an empty one would be read as one empty
field, and a carriage return at its end as a part of the line ending. -/
structure IsRecord (fields : List String) : Prop where
  nonempty : fields ≠ []
  last : ∀ field ∈ fields.getLast?, '\r' ∉ field.toList

def quoted (fields : List String) : List String := fields.map quote

theorem toList_line_cons_cons (first second : String) (more : List String) :
    (line (first :: second :: more)).toList =
      first.toList ++ ',' :: (line (second :: more)).toList := by
  simp [line, String.intercalate_cons_cons]

theorem recordsFrom_line {fields : List String} (h : IsRecord fields) (before : List String)
    (rest : List Char) :
    recordsFrom .plain [] before ((line (quoted fields)).toList ++ '\n' :: rest) =
      (recordsFrom .plain [] [] rest).map ((before ++ fields) :: ·) := by
  obtain ⟨nonempty, last⟩ := h
  induction fields generalizing before with
  | nil => exact absurd rfl nonempty
  | cons field more ih =>
      cases more with
      | nil =>
          have apart (h : '\r' ∈ field.toList) : ('\n' :: rest).head? ≠ some '\n' :=
            absurd h (last field rfl)
          obtain ⟨place, outside, hread⟩ := recordsFrom_quote field before apart
          have hline : line (quoted [field]) = quote field := String.intercalate_singleton
          rw [hline, hread, recordsFrom_feed _ _ outside, String.ofList_toList]
      | cons second more =>
          have apart (tail : List Char) (_ : '\r' ∈ field.toList) :
              (',' :: tail).head? ≠ some '\n' := by simp
          obtain ⟨place, outside, hread⟩ := recordsFrom_quote field before (apart _)
          rw [quoted, List.map_cons, List.map_cons, toList_line_cons_cons, List.append_assoc,
            List.cons_append, hread, recordsFrom_comma _ _ outside, String.ofList_toList,
            ← List.map_cons, ← quoted, ih _ (List.cons_ne_nil _ _) last, List.append_assoc,
            List.singleton_append]

theorem records_unlines {table : List (List String)} (h : ∀ fields ∈ table, IsRecord fields) :
    records (Text.unlines (table.map fun fields => line (quoted fields))) = some table := by
  rw [records]
  induction table with
  | nil => rfl
  | cons fields more ih =>
      rw [List.forall_mem_cons] at h
      rw [List.map_cons, Text.toList_unlines_cons, recordsFrom_line h.1, ih h.2, Option.map_some,
        List.nil_append]

example : records "a,\"b,\"\"\nc\"\r\n,\n" = some [["a", "b,\"\nc"], ["", ""]] := by rfl

end Clausal.Csv

import Clausal.Proofs.Answer.Protocol
import Clausal.Proofs.Text.Words
import Clausal.Proofs.Times

/-!
# Line endings

Answers and timing reports are read line by line, and what a line says does not depend on a carriage
return at its end.  So it makes no difference whether lines end with a line feed alone or with a
carriage return before it, nor whether the last line ends with a carriage return only.
-/

namespace Clausal

namespace Text

/-- Puts a carriage return before every line feed. -/
def insertReturns (text : List Char) : List Char :=
  text.flatMap fun c => if c = '\n' then ['\r', '\n'] else [c]

/-! ## Going through lines -/

/-- A text is a last line that is not ended, or a line, its line feed and the text of the others. -/
@[elab_as_elim]
theorem lines_induction {motive : List Char → Prop}
    (last : ∀ line, '\n' ∉ line → motive line)
    (cons : ∀ line rest, '\n' ∉ line → motive rest → motive (line ++ '\n' :: rest))
    (text : List Char) : motive text := by
  suffices hfront : ∀ front, '\n' ∉ front → motive (front ++ text) from hfront [] List.not_mem_nil
  induction text with
  | nil =>
      intro front hfront
      rw [List.append_nil]
      exact last front hfront
  | cons c rest ih =>
      intro front hfront
      by_cases hfeed : c = '\n'
      · rw [hfeed]
        exact cons front rest hfront (ih [] List.not_mem_nil)
      · rw [List.append_cons]
        refine ih (front ++ [c]) fun hmem => ?_
        rw [List.mem_append, List.mem_singleton] at hmem
        exact hmem.elim hfront fun heq => hfeed heq.symm

theorem dropReturn_eq_or (line : List Char) :
    dropReturn line = line ∨ dropReturn line ++ ['\r'] = line := by
  induction line with
  | nil => exact .inl rfl
  | cons c rest ih =>
      cases rest with
      | nil =>
          by_cases hreturn : c = '\r'
          · exact .inr (by rw [hreturn]; rfl)
          · exact .inl (if_neg hreturn)
      | cons d more =>
          rw [dropReturn, List.cons_append]
          exact ih.imp (congrArg (c :: ·)) (congrArg (c :: ·))

theorem insertReturns_of_not_mem {line : List Char} (h : '\n' ∉ line) :
    insertReturns line = line := by
  induction line with
  | nil => rfl
  | cons c rest ih =>
      rw [List.mem_cons, not_or] at h
      rw [insertReturns, List.flatMap_cons, if_neg (Ne.symm h.1)]
      exact congrArg (c :: ·) (ih h.2)

theorem insertReturns_append_cons {line : List Char} (h : '\n' ∉ line) (rest : List Char) :
    insertReturns (line ++ '\n' :: rest) = (line ++ ['\r']) ++ '\n' :: insertReturns rest := by
  have hline := insertReturns_of_not_mem h
  rw [insertReturns] at hline ⊢
  rw [List.flatMap_append, List.flatMap_cons, hline, if_pos rfl, List.append_assoc]
  rfl

theorem feed_not_mem_append_return {line : List Char} (h : '\n' ∉ line) :
    '\n' ∉ line ++ ['\r'] := by
  rw [List.mem_append, not_or]
  exact ⟨h, by decide⟩

/-! ## What ignores carriage returns at the end -/

/-- What is read from a line does not depend on a carriage return at its end, and nothing is read
from an empty line. -/
structure IgnoresReturn {α : Type} (f : List Char → Option α) : Prop where
  append_return : ∀ line, f (line ++ ['\r']) = f line
  nil : f [] = none

namespace IgnoresReturn

variable {α : Type} {f : List Char → Option α}

theorem dropReturn (h : IgnoresReturn f) (line : List Char) : f (dropReturn line) = f line := by
  obtain hsame | hreturn := dropReturn_eq_or line
  · rw [hsame]
  · rw [← h.append_return, hreturn]

theorem filterMap_lines_cons (h : IgnoresReturn f) {line : List Char} (hline : '\n' ∉ line)
    (rest : List Char) :
    (lines (line ++ '\n' :: rest)).filterMap f = (f line).toList ++ (lines rest).filterMap f := by
  rw [lines_append_cons hline, List.filterMap_eq_flatMap_toList, List.flatMap_cons, h.dropReturn,
    ← List.filterMap_eq_flatMap_toList]

theorem filterMap_lines_last (h : IgnoresReturn f) {line : List Char} (hline : '\n' ∉ line) :
    (lines line).filterMap f = (f line).toList := by
  by_cases hempty : line = []
  · rw [hempty, h.nil]
    rfl
  · rw [lines_of_not_mem hline hempty, List.filterMap_eq_flatMap_toList, List.flatMap_singleton]

theorem filterMap_lines_insertReturns (h : IgnoresReturn f) (text : List Char) :
    (lines (insertReturns text)).filterMap f = (lines text).filterMap f := by
  induction text using lines_induction with
  | last line hline => rw [insertReturns_of_not_mem hline]
  | cons line rest hline ih =>
      have hended := feed_not_mem_append_return hline
      rw [insertReturns_append_cons hline, h.filterMap_lines_cons hended, h.append_return, ih,
        h.filterMap_lines_cons hline]

theorem filterMap_lines_append_return (h : IgnoresReturn f) (text : List Char) :
    (lines (text ++ ['\r'])).filterMap f = (lines text).filterMap f := by
  induction text using lines_induction with
  | last line hline =>
      rw [h.filterMap_lines_last (feed_not_mem_append_return hline), h.append_return,
        h.filterMap_lines_last hline]
  | cons line rest hline ih =>
      rw [List.append_assoc, List.cons_append, h.filterMap_lines_cons hline, ih,
        h.filterMap_lines_cons hline]

end IgnoresReturn

/-- Nothing that ignores carriage returns at the ends of lines tells the texts apart. -/
def ReadAlike (text other : String) : Prop :=
  ∀ {α : Type} {f : List Char → Option α}, IgnoresReturn f →
    (lines other.toList).filterMap f = (lines text.toList).filterMap f

/-- The text with a carriage return before every line feed. -/
def withReturns (text : String) : String := String.ofList (insertReturns text.toList)

theorem readAlike_withReturns (text : String) : ReadAlike text (withReturns text) := by
  intro α f h
  rw [withReturns, String.toList_ofList, h.filterMap_lines_insertReturns]

theorem readAlike_append_return (text : String) : ReadAlike text (text ++ "\r") := by
  intro α f h
  rw [String.toList_append]
  exact h.filterMap_lines_append_return text.toList

theorem withReturns_eq_empty_iff {text : String} : withReturns text = "" ↔ text = "" := by
  rw [← String.toList_eq_nil_iff, ← String.toList_eq_nil_iff, withReturns, String.toList_ofList,
    insertReturns, List.flatMap_eq_nil_iff]
  constructor
  · intro hnil
    refine List.eq_nil_iff_forall_not_mem.mpr fun c hmem => ?_
    have hpiece := hnil c hmem
    split at hpiece
    · cases hpiece
    · cases hpiece
  · rintro hnil c hmem
    rw [hnil] at hmem
    exact absurd hmem List.not_mem_nil

/-! ## Blanks at the end -/

theorem trim_append_blank {c : Char} (h : isBlank c = true) (text : List Char) :
    trim (text ++ [c]) = trim text := by
  unfold trim
  rw [List.dropWhile_append]
  split
  · rename_i hempty
    rw [List.isEmpty_iff.mp hempty, List.dropWhile_cons_of_pos h]
    rfl
  · rw [List.reverse_append, List.reverse_singleton, List.singleton_append,
      List.dropWhile_cons_of_pos h]

theorem fields_append_blank {c : Char} (h : isBlank c = true) (text : List Char) :
    fields (text ++ [c]) = fields text := by
  rw [fields, split_append_cons h, List.filter_append]
  exact List.append_nil _

end Text

/-! ## Answers and reports -/

open Text

namespace Answer

theorem ignoresReturn_told? (letter : Char) : IgnoresReturn (told? letter) where
  append_return := by
    intro line
    match line with
    | [] => rfl
    | [c] => rfl
    | c :: d :: rest =>
        by_cases hspace : d = ' '
        · subst hspace
          simp only [List.cons_append, told?, trim_append_blank (by decide : isBlank '\r' = true)]
        · rw [told?_eq_none, told?_eq_none]
          · rintro _ ⟨⟩
            exact hspace rfl
          · rintro _ ⟨⟩
            exact hspace rfl
  nil := rfl

theorem parse_eq_of_readAlike {format : Format} {text other : String} (h : text ≠ "")
    (hother : other ≠ "") (halike : ReadAlike text other) :
    parse format other = parse format text :=
  parse_congr h hother (halike (ignoresReturn_told? 's')) (halike (ignoresReturn_told? 'v'))
    fun _ => .inl (halike (ignoresReturn_told? 'o'))

end Answer

namespace Times

theorem ignoresReturn_given? (label : Label) : IgnoresReturn (given? label) where
  append_return := fun line => by
    rw [given?, fields_append_blank (by decide), given?]
  nil := rfl

theorem eq_of_get_eq {a b : Times} (h : ∀ label, a.get label = b.get label) : a = b := by
  cases a
  cases b
  rw [mk.injEq]
  exact ⟨h .real, h .user, h .sys⟩

theorem parse_eq_of_readAlike {text other : String} (halike : ReadAlike text other) :
    parse other = parse text :=
  eq_of_get_eq fun label => by
    rw [get_parse, get_parse, halike (ignoresReturn_given? label)]

end Times

/-- Answers and timing reports are read in the same way with a carriage return before every line
feed, and with one at the end of the text.  Only an answer that is nothing but this carriage return
is no longer empty. -/
theorem line_endings_read_alike (format : Format) (text : String) :
    Answer.parse format (withReturns text) = Answer.parse format text ∧
      Times.parse (withReturns text) = Times.parse text ∧
      (text ≠ "" → Answer.parse format (text ++ "\r") = Answer.parse format text) ∧
      Times.parse (text ++ "\r") = Times.parse text := by
  refine ⟨?_, Times.parse_eq_of_readAlike (readAlike_withReturns text), fun h => ?_,
    Times.parse_eq_of_readAlike (readAlike_append_return text)⟩
  · by_cases hempty : text = ""
    · rw [withReturns_eq_empty_iff.mpr hempty, hempty]
    · exact Answer.parse_eq_of_readAlike hempty (mt withReturns_eq_empty_iff.mp hempty)
        (readAlike_withReturns text)
  · have hother : text ++ "\r" ≠ "" := fun hnil =>
      h (String.append_eq_empty_iff.mp hnil).1
    exact Answer.parse_eq_of_readAlike h hother (readAlike_append_return text)

/-- A malformed objective value is reported without the carriage return behind it. -/
theorem malformed_objective_read_alike :
    ("s UNKNOWN\no 5x" : String) ≠ "" ∧
      Answer.parse .wcnf "s UNKNOWN\no 5x\r" = .error (.invalidCost "5x") := by
  obtain ⟨-, -, hreturn, -⟩ := line_endings_read_alike .wcnf "s UNKNOWN\no 5x"
  exact ⟨by decide, hreturn (by decide)⟩

end Clausal

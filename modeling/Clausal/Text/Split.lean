/-!
# Splitting text

Characters are handled as lists.  `split` cuts at separators and always answers one piece
more than there are separators; lines, fields and path components are read off its pieces.
-/

namespace Clausal.Text

/-- Cuts at every element that satisfies `separates`, which is dropped. -/
def split (separates : α → Bool) : List α → List (List α)
  | [] => [[]]
  | x :: rest =>
      if separates x then [] :: split separates rest
      else
        match split separates rest with
        | [] => [[x]]
        | piece :: pieces => (x :: piece) :: pieces

theorem split_ne_nil (separates : α → Bool) (xs : List α) : split separates xs ≠ [] := by
  cases xs with
  | nil => simp [split]
  | cons x rest =>
      unfold split
      split
      · simp
      · split <;> simp

theorem length_split (separates : α → Bool) (xs : List α) :
    (split separates xs).length = xs.countP separates + 1 := by
  induction xs with
  | nil => simp [split]
  | cons x rest ih =>
      by_cases h : separates x
      · simp [split, h, ih]
      · have hne := split_ne_nil separates rest
        cases hs : split separates rest with
        | nil => exact absurd hs hne
        | cons piece pieces =>
            rw [hs] at ih
            simpa [split, h, hs] using ih

theorem not_separates_of_mem_split (separates : α → Bool) (xs : List α) :
    ∀ piece ∈ split separates xs, ∀ x ∈ piece, separates x = false := by
  induction xs with
  | nil => simp [split]
  | cons x rest ih =>
      by_cases h : separates x
      · simpa [split, h] using ih
      · cases hs : split separates rest with
        | nil => simp [split, h, hs]
        | cons piece pieces =>
            rw [hs] at ih
            simp only [List.mem_cons, forall_eq_or_imp] at ih
            have hx : separates x = false := by simpa using h
            simp only [split, hx, hs, Bool.false_eq_true, if_false, List.mem_cons, forall_eq_or_imp]
            exact ⟨⟨trivial, ih.1⟩, ih.2⟩

/-- The parts before and after the first separator, or nothing if there is none. -/
def splitOnce? (separates : α → Bool) : List α → Option (List α × List α)
  | [] => none
  | x :: rest =>
      if separates x then some ([], rest)
      else (splitOnce? separates rest).map fun parts => (x :: parts.1, parts.2)

end Clausal.Text

/-!
## Lines

A line ends at a line feed, and one carriage return right before the line feed belongs to
the ending.  What follows the last line feed is a line only if it is not empty, and keeps
its carriage return.
-/

namespace Clausal.Text

def dropReturn : List Char → List Char
  | [] => []
  | [c] => if c = '\r' then [] else [c]
  | c :: d :: rest => c :: dropReturn (d :: rest)

/-- Every piece but the last was ended by a line feed. -/
def endedLines : List (List Char) → List (List Char)
  | [] => []
  | [last] => if last.isEmpty then [] else [last]
  | line :: next :: more => dropReturn line :: endedLines (next :: more)

def lines (text : List Char) : List (List Char) :=
  endedLines (split (· = '\n') text)

@[simp] theorem lines_nil : lines [] = [] := rfl

def hasLineBreak (text : String) : Bool :=
  text.toList.any fun c => c = '\n' || c = '\r'

/-- The lines as one text, each ended by a line feed. -/
def unlines (parts : List String) : String :=
  String.join (parts.map (· ++ "\n"))

end Clausal.Text

/-!
## Blank characters

The characters of the property White_Space, and what is cut at them: `trim` drops them at
both ends, `fields` answers the runs between them.
-/

namespace Clausal.Text

def blankRanges : List (Nat × Nat) := [
  (0x9, 0xd), (0x20, 0x20), (0x85, 0x85), (0xa0, 0xa0), (0x1680, 0x1680), (0x2000, 0x200a),
  (0x2028, 0x2029), (0x202f, 0x202f), (0x205f, 0x205f), (0x3000, 0x3000)]

def isBlank (c : Char) : Bool :=
  blankRanges.any fun range => range.1 ≤ c.toNat && c.toNat ≤ range.2

theorem isBlank_of_isWhitespace (c : Char) (h : c.isWhitespace) : isBlank c := by
  simp only [Char.isWhitespace, Bool.or_eq_true, decide_eq_true_eq] at h
  rcases h with ((h | h) | h) | h <;> subst h <;> decide

def trim (text : List Char) : List Char :=
  ((text.dropWhile isBlank).reverse.dropWhile isBlank).reverse

def fields (text : List Char) : List (List Char) :=
  (split isBlank text).filter fun field => !field.isEmpty

end Clausal.Text

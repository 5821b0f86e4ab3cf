import Clausal.Encoding.Error
import Clausal.Text.Split
import Clausal.Word

/-!
# Clauses and clause lists

A clause carries the cost of violating it, and cost 0 makes it hard.  A clause list keeps
clauses in insertion order together with comments; a comment remembers how many clauses
stood before it, so that replaying the list puts it back in its place.
-/

namespace Clausal

structure Clause (α : Type) where
  cost : UInt64
  literals : List α
  deriving DecidableEq, Repr

namespace Clause

def hard (literals : List α) : Clause α := ⟨0, literals⟩

def soft (cost : UInt64) (literals : List α) : Clause α := ⟨cost, literals⟩

def isHard (clause : Clause α) : Bool := clause.cost == 0

@[simp] theorem isHard_hard (literals : List α) : (hard literals).isHard = true := rfl

end Clause

structure Comment where
  text : String
  /-- Number of clauses before the comment. -/
  anchor : Nat
  deriving DecidableEq, Repr

namespace Comment

/-- A comment is one line. -/
def check (text : String) : Except EncodingError String :=
  if Text.hasLineBreak text then .error (.commentLineBreak text) else .ok text

def line (text : String) : String := s!"c {text}"

end Comment

structure ClauseList (α : Type) where
  clauses : Array (Clause α)
  comments : Array Comment
  deriving DecidableEq, Repr

namespace ClauseList

variable {α β ε : Type}

def empty : ClauseList α := ⟨#[], #[]⟩

instance : Inhabited (ClauseList α) := ⟨empty⟩

def add (list : ClauseList α) (clause : Clause α) : ClauseList α :=
  { list with clauses := list.clauses.push clause }

def addComment (list : ClauseList α) (text : String) : ClauseList α :=
  { list with comments := list.comments.push ⟨text, list.clauses.size⟩ }

def comment (list : ClauseList α) (text : String) : Except EncodingError (ClauseList α) :=
  (Comment.check text).map list.addComment

def size (list : ClauseList α) : Nat := list.clauses.size

def isEmpty (list : ClauseList α) : Bool := list.clauses.isEmpty

def toList (list : ClauseList α) : List (Clause α) := list.clauses.toList

theorem isEmpty_iff {list : ClauseList α} : list.isEmpty = true ↔ list.toList = [] := by
  rw [isEmpty, toList, Array.isEmpty_iff, Array.toList_eq_nil_iff]

@[simp] theorem toList_empty : (empty : ClauseList α).toList = [] := rfl

@[simp] theorem toList_add (list : ClauseList α) (clause : Clause α) :
    (list.add clause).toList = list.toList ++ [clause] := by
  simp [toList, add]

@[simp] theorem toList_addComment (list : ClauseList α) (text : String) :
    (list.addComment text).toList = list.toList := rfl

@[simp] theorem length_toList (list : ClauseList α) : list.toList.length = list.size := by
  simp [toList, size]

/-- The sum of the costs, or the largest word if the sum is larger. -/
def totalCost (list : ClauseList α) : UInt64 :=
  list.toList.foldl (fun total clause => addCapped total clause.cost) 0

/-- Comments that are due come before the clause at this position, in their order. -/
def replay (format : Clause α → String) : Nat → List Comment → List (Clause α) → List String
  | position, comments, [] =>
      (comments.takeWhile fun comment => comment.anchor ≤ position).map fun comment =>
        Comment.line comment.text
  | position, comments, clause :: rest =>
      ((comments.takeWhile fun comment => comment.anchor ≤ position).map fun comment =>
        Comment.line comment.text) ++
      format clause ::
        replay format (position + 1)
          (comments.dropWhile fun comment => comment.anchor ≤ position) rest

/-- Every clause and every comment as one line, in the order of insertion. -/
def lines (list : ClauseList α) (format : Clause α → String) : List String :=
  replay format 0 list.comments.toList list.toList

/-- The first failure in clause order, or the images of all clauses. -/
def mapClauses (f : Clause α → Except ε (Clause β)) :
    List (Clause α) → Except ε (List (Clause β))
  | [] => .ok []
  | clause :: rest =>
      match f clause with
      | .error failure => .error failure
      | .ok image =>
          match mapClauses f rest with
          | .error failure => .error failure
          | .ok images => .ok (image :: images)

/-- Replaces every clause by its image and keeps the comments in their places. -/
def tryMap (list : ClauseList α) (f : Clause α → Except ε (Clause β)) :
    Except ε (ClauseList β) :=
  (mapClauses f list.toList).map fun images => ⟨images.toArray, list.comments⟩

end ClauseList

end Clausal

import Clausal.Search.Board
import Clausal.Search.Refutation

/-!
# Lessons

What there is to learn when a clause fails.  The clause is resolved with the reasons of its
choices, latest first, until one choice of the last level is left: the clause reached would
have forced the opposite of that choice before the last decision.  The resolutions are kept
as a step of a refutation.  Choices that follow without decisions have clauses of their own,
with numbers in `units`.
-/

namespace Clausal.Search

structure Analysis where
  pending : Nat
  sides : Array Choice
  settled : Array Choice
  touched : Array Nat
  seen : Array Bool
  step : Step

namespace Analysis

def link (a : Analysis) (pivot : Choice) (number : Nat) : Analysis :=
  { a with step := a.step.link pivot number }

def gather (b : Board) (except : Nat) : Nat → Nat → Analysis → Analysis
  | 0, _, a => a
  | left + 1, place, a =>
      let c : Choice := ⟨b.clauses.getD place 0⟩
      if c.code == except || a.seen.getD c.var true then gather b except left (place + 1) a
      else
        let level := b.levelOf c
        let a := { a with
          seen := a.seen.setIfInBounds c.var true
          touched := a.touched.push c.var }
        gather b except left (place + 1)
          (if level == 0 then { a with settled := a.settled.push c }
          else if level == b.level then { a with pending := a.pending + 1 }
          else { a with sides := a.sides.push c })

def resolveReason (b : Board) (a : Analysis) (made : Choice) : Analysis :=
  match b.reason? made with
  | none => a
  | some place =>
      gather b made.code (b.lengthAt place) (place + 3)
        (a.link made.opposite (b.numberAt place))

/-- Resolves with the reasons of the choices of the last level, latest first, until one of
them is left, which is answered. -/
def unwind (b : Board) : Nat → Analysis → Analysis × Choice
  | 0, a => (a, ⟨0⟩)
  | position + 1, a =>
      let c := b.trail.getD position ⟨0⟩
      if !a.seen.getD c.var false then unwind b position a
      else if a.pending ≤ 1 then (a, c)
      else unwind b position ({ a with pending := a.pending - 1 }.resolveReason b c)

def coveredFrom (b : Board) (seen : Array Bool) (except : Nat) : Nat → Nat → Bool
  | 0, _ => true
  | left + 1, place =>
      let c : Choice := ⟨b.clauses.getD place 0⟩
      if c.code == except || seen.getD c.var false || b.levelOf c == 0 then
        coveredFrom b seen except left (place + 1)
      else false

def isRedundant (b : Board) (seen : Array Bool) (c : Choice) : Bool :=
  match b.reason? c with
  | none => false
  | some place => coveredFrom b seen c.opposite.code (b.lengthAt place) (place + 3)

def dropSettled (units : Array Nat) (a : Analysis) : Analysis :=
  a.settled.foldl (fun a c => a.link c (units.getD c.var 0)) a

def unseen (a : Analysis) : Array Bool :=
  a.touched.foldl (fun seen var => seen.setIfInBounds var false) a.seen

end Analysis

/-- A learned clause: the choice that it forces, its other choices with those of the highest
level first, and the step that draws it. -/
structure Lesson where
  forced : Choice
  others : List Choice
  step : Step
  touched : List Nat

namespace Lesson

/-- The lesson of the failure of the clause at this place, from an empty table of variables
that have been seen, which is given back. -/
def ofFailure (b : Board) (units : Array Nat) (failed : Nat) (seen : Array Bool) :
    Lesson × Array Bool :=
  let a : Analysis := ⟨0, #[], #[], #[], seen, ⟨b.numberAt failed, #[], #[]⟩⟩
  let a := Analysis.gather b b.marks.size (b.lengthAt failed) (failed + 3) a
  let (a, last) := Analysis.unwind b b.trail.size a
  let (redundant, kept) := a.sides.toList.partition (Analysis.isRedundant b a.seen)
  let latestFirst := redundant.mergeSort fun x y => b.positionOf y ≤ b.positionOf x
  let a := latestFirst.foldl (fun a c => a.resolveReason b c.opposite) a
  let a := a.dropSettled units
  let others := kept.mergeSort fun x y => b.levelOf y ≤ b.levelOf x
  (⟨last.opposite, others, a.step, a.touched.toList⟩, a.unseen)

end Lesson

def Step.clear (b : Board) (units : Array Nat) (except : Nat) : Nat → Nat → Step → Step
  | 0, _, step => step
  | left + 1, place, step =>
      let c : Choice := ⟨b.clauses.getD place 0⟩
      clear b units except left (place + 1)
        (if c.code == except then step else step.link c (units.getD c.var 0))

/-- The step to what is left of the clause at this place when choices that are contradicted
without decisions are dropped, except one choice. -/
def Step.ofSettled (b : Board) (units : Array Nat) (except : Nat) (place : Nat) : Step :=
  clear b units except (b.lengthAt place) (place + 3) ⟨b.numberAt place, #[], #[]⟩

end Clausal.Search

import Clausal.Search.Lesson

/-!
# Learning search

A search that makes choices until a clause fails, and then learns a clause that keeps it from
failing in the same way again.  It ends with an assignment or with the steps of a refutation.
Nothing is promised about either: who uses them checks them.
-/

/-!
## Recency

The order in which the variables of a search were last part of a conflict.  A search decides
on the latest variable without a value, which a cursor finds without going through all that
have one.
-/

namespace Clausal.Search

/-- The variables from the one that was latest in a conflict to the one that never was or was
longest ago, as links both ways; the number of variables stands for the end. -/
structure Recency where
  older : Array Nat
  newer : Array Nat
  stamps : Array Nat
  latest : Nat
  clock : Nat
  cursor : Nat

namespace Recency

def ofCount (count : Nat) : Recency where
  older := (Array.range count).map (· + 1)
  newer := (Array.range count).map fun var => if var = 0 then count else var - 1
  stamps := (Array.range count).map (count - ·)
  latest := if count = 0 then count else 0
  clock := count
  cursor := if count = 0 then count else 0

def touch (r : Recency) (var : Nat) : Recency :=
  if r.latest = var then r
  else
    let before := r.older.getD var 0
    let after := r.newer.getD var 0
    let ending := r.older.size
    { r with
      older := (r.older.setIfInBounds after before).setIfInBounds var r.latest
      newer := ((r.newer.setIfInBounds before after).setIfInBounds r.latest var).setIfInBounds
        var ending
      stamps := r.stamps.setIfInBounds var (r.clock + 1)
      latest := var
      clock := r.clock + 1
      cursor := if r.cursor = var then after else r.cursor }

def touchAll (r : Recency) (vars : List Nat) : Recency :=
  let stamps := r.stamps
  let order := vars.mergeSort fun x y => stamps.getD x 0 ≤ stamps.getD y 0
  order.foldl touch r

def release (r : Recency) (var : Nat) : Recency :=
  if r.stamps.getD r.cursor 0 < r.stamps.getD var 0 then { r with cursor := var } else r

end Recency

end Clausal.Search

namespace Clausal.Search

structure Learner where
  given : Nat
  board : Board
  /-- For a variable whose value follows without decisions, the clause of that choice alone. -/
  units : Array Nat
  settled : Nat
  habits : Array Bool
  recency : Recency
  steps : Array Step
  learned : List Nat
  conflicts : Nat
  nextPurge : Nat
  purges : Nat
  recentWorth : Nat
  usualWorth : Nat
  restarted : Nat
  seen : Array Bool
  stamps : Array Nat

namespace Learner

def start (width given : Nat) : Learner where
  given
  board := .start width
  units := Array.replicate width 0
  settled := 0
  habits := Array.replicate width false
  recency := .ofCount width
  steps := #[]
  learned := []
  conflicts := 0
  nextPurge := 2000
  purges := 0
  recentWorth := 0
  usualWorth := 0
  restarted := 0
  seen := Array.replicate width false
  stamps := Array.replicate (width + 1) 0

def nextNumber (s : Learner) : Nat := s.given + s.steps.size

def assign (s : Learner) (c : Choice) (reason : Nat) : Learner :=
  { s with board := s.board.assign c reason }

/-- Makes a choice that follows from the clause of that choice alone, which has this number. -/
def assignUnit (s : Learner) (c : Choice) (number : Nat) : Learner :=
  { s with
    board := s.board.assign c 0
    units := s.units.setIfInBounds c.var number }

def undo : Nat → Learner → Learner
  | 0, s => s
  | count + 1, s =>
      match s.board.trail.back? with
      | none => s
      | some c =>
          undo count { s with
            board := s.board.undo c
            habits := s.habits.setIfInBounds c.var c.value
            recency := s.recency.release c.var }

def backTo (s : Learner) (level : Nat) : Learner :=
  let size := s.board.trail.size
  let s := undo (size - s.board.limits.getD level size) s
  { s with board := s.board.leave level }

def settle : Nat → Learner → Learner
  | 0, s => s
  | left + 1, s =>
      match s.board.trail[s.settled]? with
      | none => s
      | some c =>
          let s := { s with settled := s.settled + 1 }
          match s.board.reason? c with
          | none => settle left s
          | some place =>
              let number := s.nextNumber
              let step := Step.ofSettled s.board s.units c.code place
              settle left { s with
                steps := s.steps.push step
                units := s.units.setIfInBounds c.var number }

/-- The steps to the clause without choices, from one that fails without decisions. -/
def conclude (s : Learner) (failed : Nat) : Array Step :=
  let s := settle s.board.trail.size s
  s.steps.push (.ofSettled s.board s.units s.board.marks.size failed)

def countLevels (b : Board) (stamp : Nat) :
    List Choice → Array Nat → Nat → Nat × Array Nat
  | [], stamps, count => (count, stamps)
  | c :: rest, stamps, count =>
      let level := b.levelOf c
      if stamps.getD level 0 == stamp then countLevels b stamp rest stamps count
      else countLevels b stamp rest (stamps.setIfInBounds level stamp) (count + 1)

def averaged (average span value : Nat) : Nat :=
  average - average / span + 1024 * value / span

def note (s : Learner) (lesson : Lesson) (worth : Nat) : Learner :=
  let conflicts := s.conflicts + 1
  { s with
    conflicts
    steps := s.steps.push lesson.step
    recentWorth := averaged s.recentWorth 32 worth
    usualWorth := averaged s.usualWorth (min (conflicts / 2 + 1) 2048) worth
    recency := s.recency.touchAll lesson.touched }

/-- Learns from the failure of a clause, and goes back to where the lesson forces a choice. -/
def learn (failed : Nat) (s : Learner) : Learner :=
  let seen := s.seen
  let stamps := s.stamps
  let s := { s with seen := #[], stamps := #[] }
  let (lesson, seen) := Lesson.ofFailure s.board s.units failed seen
  let (worth, stamps) := countLevels s.board (s.conflicts + 1) lesson.others stamps 1
  let number := s.nextNumber
  let s := { s with seen, stamps }.note lesson worth
  match lesson.others with
  | [] => (s.backTo 0).assignUnit lesson.forced number
  | second :: rest =>
      let s := s.backTo (s.board.levelOf second)
      let (board, place) := s.board.attach number worth lesson.forced second rest
      { s with
        board := board.assign lesson.forced (place + 1)
        learned := place :: s.learned }

/-- Drops the worse half of the learned clauses that are not small, in use or close-knit. -/
def purge (s : Learner) : Learner :=
  let (kept, loose) := s.learned.partition fun place =>
    s.board.worthAt place ≤ 2 || s.board.isReason place
  let sorted := loose.mergeSort fun x y =>
    s.board.worthAt x < s.board.worthAt y ||
      (s.board.worthAt x == s.board.worthAt y && s.board.lengthAt x ≤ s.board.lengthAt y)
  let (better, worse) := sorted.splitAt (sorted.length / 2)
  { s with
    board := s.board.drop worse
    learned := better ++ kept
    purges := s.purges + 1
    nextPurge := s.conflicts + 1000 + 200 * (s.purges + 1) }

def isStuck (s : Learner) : Bool :=
  decide (s.restarted + 50 < s.conflicts) && decide (4 * s.recentWorth > 5 * s.usualWorth)

def restart (s : Learner) : Learner :=
  let s := s.backTo 0
  { s with restarted := s.conflicts }

def candidate? (s : Learner) : Nat → Nat → Option Nat
  | 0, _ => none
  | left + 1, var =>
      match s.board.marks[2 * var]? with
      | none => none
      | some mark =>
          if mark == openMark then some var
          else candidate? s left (s.recency.older.getD var s.habits.size)

def decideOn (s : Learner) (var : Nat) : Learner :=
  { s with
    board := s.board.decide (.of var (s.habits.getD var false))
    recency := { s.recency with cursor := var } }

end Learner

/-- What a search comes to. -/
inductive Outcome where
  | model (assignment : Assignment)
  | refutation (steps : List Step)
  | unknown

def trimmed (given : Nat) (steps : Array Step) : List Step :=
  let count := steps.size
  let needed := (List.range count).foldl (fun needed back =>
    let place := count - 1 - back
    if !needed.getD place false then needed
    else
      match steps[place]? with
      | none => needed
      | some step =>
          step.others.foldl (fun needed other => needed.setIfInBounds (other - given)
              (needed.getD (other - given) false || decide (given ≤ other)))
            (needed.setIfInBounds (step.first - given)
              (needed.getD (step.first - given) false || decide (given ≤ step.first))))
    ((Array.replicate count false).setIfInBounds (count - 1) true)
  let (_, kept) := (List.range count).foldl (fun (numbers, kept) place =>
    if needed.getD place false then
      match steps[place]? with
      | none => (numbers, kept)
      | some step =>
          let renumber := fun number =>
            if number < given then number else numbers.getD (number - given) number
          let step := { step with
            first := renumber step.first
            others := step.others.map renumber }
          (numbers.setIfInBounds place (given + kept.size), kept.push step)
    else (numbers, kept))
    (Array.replicate count 0, #[])
  kept.toList

namespace Learner

def run : Nat → Learner → Outcome
  | 0, _ => .unknown
  | left + 1, s =>
      let board := s.board
      let s := { s with board := .start 0 }
      match board.propagate with
      | (board, some failed) =>
          let s := { s with board }
          if s.board.limits.isEmpty then .refutation (trimmed s.given (s.conclude failed))
          else run left (s.learn failed)
      | (board, none) =>
          let s := { s with board }
          let s := if s.board.limits.isEmpty then settle s.board.trail.size s else s
          if s.isStuck then run left s.restart
          else if s.nextPurge ≤ s.conflicts then run left s.purge
          else
            match s.candidate? (s.habits.size + 1) s.recency.cursor with
            | none => .model s.board.assignment
            | some var => run left (s.decideOn var)

/-- Adds the clauses with at least two different choices, unless they have opposites.  Those
with fewer are answered with their numbers. -/
def load : Nat → List (List Choice) → Learner → List (Nat × Option Choice) →
    Learner × List (Nat × Option Choice)
  | _, [], s, short => (s, short.reverse)
  | number, clause :: rest, s, short =>
      match clause.eraseDups with
      | [] => load (number + 1) rest s ((number, none) :: short)
      | [c] => load (number + 1) rest s ((number, some c) :: short)
      | first :: second :: others =>
          if clause.any fun c => clause.contains c.opposite then load (number + 1) rest s short
          else
            load (number + 1) rest
              { s with board := (s.board.attach number 0 first second others).1 } short

/-- Makes the choices of clauses with one choice, up to one that contradicts another. -/
def assignUnits : List (Nat × Option Choice) → Learner → Except (Array Step) Learner
  | [], s => .ok s
  | (number, none) :: _, _ => .error #[⟨number, #[], #[]⟩]
  | (number, some c) :: rest, s =>
      if s.board.mark c == madeMark then assignUnits rest s
      else if s.board.mark c == contradictedMark then
        .error #[⟨number, #[c], #[s.units.getD c.var 0]⟩]
      else assignUnits rest (s.assignUnit c number)

end Learner

def turnLimit : Nat := 0x4000000000000000

def explore (width : Nat) (clauses : List (List Choice)) : Outcome :=
  let (s, short) := Learner.load 0 clauses (.start width clauses.length) []
  match Learner.assignUnits short s with
  | .error steps => .refutation steps.toList
  | .ok s => Learner.run turnLimit s

end Clausal.Search

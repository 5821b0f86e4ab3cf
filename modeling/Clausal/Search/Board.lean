import Clausal.Search.Choice

/-!
# The board of a search

Clauses and what has been assigned.  The clauses lie end to end in one array, each as its
number, its worth, its length and the codes of its choices; a clause's place is that of its
number.  The first two choices of a clause are watched: only when the assignment comes to
contradict one of them is the clause looked at.  A clause that has been dropped has the
length 0.
-/

namespace Clausal.Search

/-- Whether a choice is open, made or contradicted, as a number in tables. -/
def openMark : Nat := 0

def madeMark : Nat := 1

def contradictedMark : Nat := 2

structure Board where
  clauses : Array Nat
  watches : Array (Array Nat)
  marks : Array Nat
  levels : Array Nat
  /-- One more than the place of the clause that forced a variable's value; 0 for a decision. -/
  reasons : Array Nat
  positions : Array Nat
  trail : Array Choice
  limits : Array Nat
  /-- The number of choices whose consequences have been drawn. -/
  drawn : Nat

namespace Board

def start (width : Nat) : Board where
  clauses := #[]
  watches := Array.replicate (2 * width) #[]
  marks := Array.replicate (2 * width) openMark
  levels := Array.replicate width 0
  reasons := Array.replicate width 0
  positions := Array.replicate width 0
  trail := #[]
  limits := #[]
  drawn := 0

def mark (b : Board) (c : Choice) : Nat := b.marks.getD c.code openMark

def level (b : Board) : Nat := b.limits.size

def levelOf (b : Board) (c : Choice) : Nat := b.levels.getD c.var 0

def positionOf (b : Board) (c : Choice) : Nat := b.positions.getD c.var 0

def numberAt (b : Board) (place : Nat) : Nat := b.clauses.getD place 0

def worthAt (b : Board) (place : Nat) : Nat := b.clauses.getD (place + 1) 0

def lengthAt (b : Board) (place : Nat) : Nat := b.clauses.getD (place + 2) 0

def reason? (b : Board) (c : Choice) : Option Nat :=
  match b.reasons.getD c.var 0 with
  | 0 => none
  | place + 1 => some place

def assign (b : Board) (c : Choice) (reason : Nat) : Board :=
  { b with
    marks := (b.marks.setIfInBounds c.code madeMark).setIfInBounds c.opposite.code
      contradictedMark
    levels := b.levels.setIfInBounds c.var b.limits.size
    reasons := b.reasons.setIfInBounds c.var reason
    positions := b.positions.setIfInBounds c.var b.trail.size
    trail := b.trail.push c }

def decide (b : Board) (c : Choice) : Board :=
  { b with limits := b.limits.push b.trail.size }.assign c 0

def watch (b : Board) (c other : Choice) (place : Nat) : Board :=
  { b with watches := b.watches.modify c.code fun list => (list.push other.code).push place }

@[noinline] def layOut (b : Board) (number worth : Nat) (choices : List Choice) : Board :=
  { b with
    clauses := choices.foldl (fun clauses (c : Choice) => clauses.push c.code)
      (((b.clauses.push number).push worth).push choices.length) }

/-- Adds a clause of at least two choices and watches its first two.  Answers its place. -/
def attach (b : Board) (number worth : Nat) (first second : Choice) (rest : List Choice) :
    Board × Nat :=
  let place := b.clauses.size
  let b := b.layOut number worth (first :: second :: rest)
  ((b.watch first second place).watch second first place, place)

/-- The first place from this one on whose choice is not contradicted. -/
def spare? (clauses marks : Array Nat) : Nat → Nat → Option Nat
  | 0, _ => none
  | left + 1, place =>
      if marks.getD (clauses.getD place 0) openMark == contradictedMark then
        spare? clauses marks left (place + 1)
      else some place

/-- Moves what is left of a list of watching clauses behind those that were kept. -/
def keepRest : Nat → Nat → Nat → Array Nat → Array Nat
  | 0, _, kept, list => list.shrink kept
  | left + 1, next, kept, list =>
      keepRest left (next + 2) (kept + 2)
        ((list.setIfInBounds kept (list.getD next 0)).setIfInBounds (kept + 1)
          (list.getD (next + 1) 0))

/-- Looks at the clauses that watched a choice which has been contradicted.  Each watches
another choice instead, is true, forces its other watched choice, or fails. -/
def visit (lost : Choice) :
    Nat → Nat → Nat → Array Nat → Board → Board × Option Nat
  | 0, _, kept, list, b =>
      ({ b with watches := b.watches.setIfInBounds lost.code (list.shrink kept) }, none)
  | left + 1, next, kept, list, b =>
      let hint := list.getD next 0
      let place := list.getD (next + 1) 0
      if b.marks.getD hint openMark == madeMark then
        visit lost left (next + 2) (kept + 2)
          ((list.setIfInBounds kept hint).setIfInBounds (kept + 1) place) b
      else
        let first := b.clauses.getD (place + 3) 0
        let other := if first == lost.code then b.clauses.getD (place + 4) 0 else first
        let otherMark := b.marks.getD other openMark
        if otherMark == madeMark then
          visit lost left (next + 2) (kept + 2)
            ((list.setIfInBounds kept other).setIfInBounds (kept + 1) place) b
        else
          match spare? b.clauses b.marks (b.lengthAt place - 2) (place + 5) with
          | some found =>
              let fresh := b.clauses.getD found 0
              let b := { b with
                clauses := ((b.clauses.setIfInBounds (place + 3) other).setIfInBounds
                  (place + 4) fresh).setIfInBounds found lost.code }
              visit lost left (next + 2) kept list (b.watch ⟨fresh⟩ ⟨other⟩ place)
          | none =>
              let b := { b with
                clauses := (b.clauses.setIfInBounds (place + 3) other).setIfInBounds
                  (place + 4) lost.code }
              if otherMark == contradictedMark then
                ({ b with
                  watches := b.watches.setIfInBounds lost.code
                    (keepRest (left + 1) next kept list) }, some place)
              else
                visit lost left (next + 2) (kept + 2)
                  ((list.setIfInBounds kept other).setIfInBounds (kept + 1) place)
                  (b.assign ⟨other⟩ (place + 1))

def propagateFrom : Nat → Board → Board × Option Nat
  | 0, b => (b, none)
  | left + 1, b =>
      match b.trail[b.drawn]? with
      | none => (b, none)
      | some c =>
          let lost := c.opposite
          let list := b.watches.getD lost.code #[]
          let b := { b with
            drawn := b.drawn + 1
            watches := b.watches.setIfInBounds lost.code #[] }
          match visit lost (list.size / 2) 0 0 list b with
          | (b, some place) => (b, some place)
          | (b, none) => propagateFrom left b

def propagate (b : Board) : Board × Option Nat := propagateFrom (b.marks.size + 1) b

def undo (b : Board) (c : Choice) : Board :=
  { b with
    trail := b.trail.pop
    marks := (b.marks.setIfInBounds c.code openMark).setIfInBounds c.opposite.code openMark }

/-- Forgets the decisions after the first `level`, once their choices have been taken back. -/
def leave (b : Board) (level : Nat) : Board :=
  { b with limits := b.limits.shrink level, drawn := min b.drawn b.trail.size }

def isDropped (clauses : Array Nat) (place : Nat) : Bool := clauses.getD (place + 2) 0 == 0

def keepPresent (clauses : Array Nat) : Nat → Nat → Nat → Array Nat → Array Nat
  | 0, _, kept, list => list.shrink kept
  | left + 1, next, kept, list =>
      let place := list.getD (next + 1) 0
      if isDropped clauses place then keepPresent clauses left (next + 2) kept list
      else
        keepPresent clauses left (next + 2) (kept + 2)
          ((list.setIfInBounds kept (list.getD next 0)).setIfInBounds (kept + 1) place)

/-- Whether the clause at this place forced the choice that it has in front. -/
def isReason (b : Board) (place : Nat) : Bool :=
  let c : Choice := ⟨b.clauses.getD (place + 3) 0⟩
  b.mark c == madeMark && b.reasons.getD c.var 0 == place + 1

def drop (b : Board) (places : List Nat) : Board :=
  let clauses := places.foldl (fun clauses place => clauses.setIfInBounds (place + 2) 0) b.clauses
  { b with
    clauses
    watches := b.watches.map fun list => keepPresent clauses (list.size / 2) 0 0 list }

def assignment (b : Board) : Assignment :=
  (Array.range (b.marks.size / 2)).map fun var => b.marks.getD (2 * var + 1) openMark == madeMark

end Board

end Clausal.Search

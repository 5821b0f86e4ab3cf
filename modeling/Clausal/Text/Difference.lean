/-!
# Differences

What has to change in a list of lines to get another.  As few lines as possible change; where
several answers do, the search from both ends chooses, and changes are then moved down as far as
they go, or to changes of the other list.
-/

namespace Clausal.Text

/-- Lines that go and lines that come in their place, each with what is before them. -/
structure Change where
  oldPlace : Nat
  deleted : Nat
  newPlace : Nat
  inserted : Nat
  deriving DecidableEq, Repr

namespace Difference

def classes [Ord κ] (keys : List κ) : Array Nat :=
  let indexed := keys.zipIdx.mergeSort fun a b => (compare a.1 b.1).isLE
  let place := fun (s : Array Nat × Nat × Option κ) (entry : κ × Nat) =>
    let (table, last, previous) := s
    let isSame := previous.any fun key => compare key entry.1 = .eq
    let next := if isSame || previous.isNone then last else last + 1
    (table.setIfInBounds entry.2 next, next, some entry.1)
  (indexed.foldl place (Array.replicate keys.length 0, 0, none)).1

structure Box where
  left : Nat
  right : Nat
  top : Nat
  bottom : Nat

structure Pair where
  old : Array Nat
  new : Array Nat

namespace Pair

def agree (p : Pair) (x y : Nat) : Bool :=
  match p.old[x]?, p.new[y]? with
  | some a, some b => a == b
  | _, _ => false

def forth (p : Pair) (right bottom : Nat) : Nat → Nat → Nat → Nat × Nat
  | 0, x, y => (x, y)
  | rounds + 1, x, y =>
      if x < right && y < bottom && p.agree x y then forth p right bottom rounds (x + 1) (y + 1)
      else (x, y)

def back (p : Pair) (left top : Nat) : Nat → Nat → Nat → Nat × Nat
  | 0, x, y => (x, y)
  | rounds + 1, x, y =>
      if left < x && top < y && p.agree (x - 1) (y - 1) then back p left top rounds (x - 1) (y - 1)
      else (x, y)

/-- How far a search has come on each diagonal. -/
structure Front where
  reached : Array Int
  low : Int
  high : Int

def slot (p : Pair) (diagonal : Int) : Nat := (diagonal + p.new.size + 1).toNat

def at_ (p : Pair) (f : Front) (diagonal : Int) : Int := f.reached.getD (p.slot diagonal) 0

def put (p : Pair) (f : Front) (diagonal value : Int) : Front :=
  match f with
  | ⟨reached, low, high⟩ => ⟨reached.setIfInBounds (p.slot diagonal) value, low, high⟩

/-- Lets a front reach one more diagonal at both sides, or one less where the lists end. -/
def widen (p : Pair) (lowest highest beyond : Int) (f : Front) : Front :=
  let f := if lowest < f.low then { p.put f (f.low - 2) beyond with low := f.low - 1 }
    else { f with low := f.low + 1 }
  if f.high < highest then { p.put f (f.high + 2) beyond with high := f.high + 1 }
  else { f with high := f.high - 1 }

/-- A round of the search from the start; the point where it meets the other search. -/
def roundForth (p : Pair) (b : Box) (other : Option Front) :
    Nat → Int → Front → Front × Option (Nat × Nat)
  | 0, _, f => (f, none)
  | rounds + 1, d, f =>
      if d < f.low then (f, none)
      else
        let low := p.at_ f (d - 1)
        let high := p.at_ f (d + 1)
        let x := if low < high then high else low + 1
        let (x, y) := p.forth b.right b.bottom p.old.size x.toNat (x - d).toNat
        let f := p.put f d x
        match other with
        | some o =>
            if o.low ≤ d && d ≤ o.high && p.at_ o d ≤ x then (f, some (x, y))
            else roundForth p b other rounds (d - 2) f
        | none => roundForth p b other rounds (d - 2) f

def roundBack (p : Pair) (b : Box) (other : Option Front) :
    Nat → Int → Front → Front × Option (Nat × Nat)
  | 0, _, f => (f, none)
  | rounds + 1, d, f =>
      if d < f.low then (f, none)
      else
        let low := p.at_ f (d - 1)
        let high := p.at_ f (d + 1)
        let x := if low < high then low else high - 1
        let (x, y) := p.back b.left b.top p.old.size x.toNat (x - d).toNat
        let f := p.put f d x
        match other with
        | some o =>
            if o.low ≤ d && d ≤ o.high && (x : Int) ≤ p.at_ o d then (f, some (x, y))
            else roundBack p b other rounds (d - 2) f
        | none => roundBack p b other rounds (d - 2) f

def meet (p : Pair) (b : Box) (isOdd : Bool) : Nat → Front → Front → Nat × Nat
  | 0, _, _ => (b.left, b.top)
  | rounds + 1, f, g =>
      let lowest : Int := (b.left : Int) - b.bottom
      let highest : Int := (b.right : Int) - b.top
      let count := p.old.size + p.new.size + 2
      let f := p.widen lowest highest (-1) f
      match p.roundForth b (if isOdd then some g else none) count f.high f with
      | (_, some point) => point
      | (f, none) =>
          let g := p.widen lowest highest 1000000000000 g
          match p.roundBack b (if isOdd then none else some f) count g.high g with
          | (_, some point) => point
          | (g, none) => meet p b isOdd rounds f g

def middle (p : Pair) (b : Box) : Nat × Nat :=
  let first : Int := (b.left : Int) - b.top
  let last : Int := (b.right : Int) - b.bottom
  let blank := Array.replicate (p.old.size + p.new.size + 3) (0 : Int)
  let f := p.put ⟨blank, first, first⟩ first b.left
  let g := p.put ⟨blank, last, last⟩ last b.right
  p.meet b ((first - last) % 2 != 0) (p.old.size + p.new.size + 2) f g

structure Marks where
  old : Array Bool
  new : Array Bool

def markAll (places : List Nat) (flags : Array Bool) : Array Bool :=
  places.foldl (fun flags i => flags.setIfInBounds i true) flags

def search (p : Pair) : Nat → Box → Marks → Marks
  | 0, _, m => m
  | rounds + 1, b, m =>
      let (left, top) := p.forth b.right b.bottom p.old.size b.left b.top
      let (right, bottom) := p.back left top p.old.size b.right b.bottom
      if left = right then { m with new := markAll (List.range' top (bottom - top)) m.new }
      else if top = bottom then { m with old := markAll (List.range' left (right - left)) m.old }
      else
        let b : Box := ⟨left, right, top, bottom⟩
        let (x, y) := p.middle b
        search p rounds ⟨x, right, y, bottom⟩ (search p rounds ⟨left, x, top, y⟩ m)

/-- The lines that change.  A line that the other list does not have changes anyway and is left
out of the search. -/
def marks (p : Pair) : Marks :=
  let bound := (p.old ++ p.new).foldl max 0 + 1
  let present (items : Array Nat) : Array Bool := markAll items.toList (Array.replicate bound false)
  let kept (items others : Array Nat) : List (Nat × Nat) :=
    let found := present others
    (items.toList.zipIdx.filter fun (item, _) => found.getD item false)
  let old := kept p.old p.new
  let new := kept p.new p.old
  let inner : Pair := ⟨(old.map Prod.fst).toArray, (new.map Prod.fst).toArray⟩
  let found := inner.search (old.length + new.length + 1) ⟨0, old.length, 0, new.length⟩
    ⟨Array.replicate old.length false, Array.replicate new.length false⟩
  let spread (kept : List (Nat × Nat)) (found : Array Bool) (size : Nat) : Array Bool :=
    (kept.zip found.toList).foldl (fun flags ((_, i), flag) => flags.setIfInBounds i flag)
      (Array.replicate size true)
  ⟨spread old found.old p.old.size, spread new found.new p.new.size⟩

end Pair

/-! ## Moving changes -/

/-- A change that is moved, and the place in the other list that belongs to its end. -/
structure Run where
  flags : Array Bool
  start : Nat
  stop : Nat
  other : Nat
  beside : Option Nat

def skip (flags : Array Bool) : Nat → Nat → Nat
  | 0, i => i
  | rounds + 1, i => if flags.getD i false then skip flags rounds (i + 1) else i

def skipBack (flags : Array Bool) : Nat → Nat → Nat
  | 0, i => i
  | rounds + 1, i =>
      if 0 < i && flags.getD (i - 1) false then skipBack flags rounds (i - 1) else i

def previous (flags : Array Bool) (i : Nat) : Nat := skipBack flags i i - 1

def Run.up (others : Array Bool) (r : Run) : Run :=
  match r with
  | ⟨flags, start, stop, other, beside⟩ =>
      let flags := (flags.setIfInBounds (start - 1) true).setIfInBounds (stop - 1) false
      ⟨flags, skipBack flags start (start - 1), stop - 1, previous others other, beside⟩

def Run.rise (items : Array Nat) (others : Array Bool) : Nat → Run → Run
  | 0, r => r
  | rounds + 1, r =>
      if 0 < r.start && items[r.start - 1]? == items[r.stop - 1]? then
        rise items others rounds (r.up others)
      else r

def Run.fall (items : Array Nat) (others : Array Bool) : Nat → Run → Run
  | 0, r => r
  | rounds + 1, r =>
      if r.stop < items.size && items[r.start]? == items[r.stop]? then
        match r with
        | ⟨flags, start, stop, other, beside⟩ =>
            let flags := (flags.setIfInBounds start false).setIfInBounds stop true
            let stop := skip flags items.size (stop + 1)
            let next := skip others others.size (other + 1)
            fall items others rounds
              ⟨flags, start + 1, stop, next, if other + 1 < next then some stop else beside⟩
      else r

def Run.settle (items : Array Nat) (others : Array Bool) : Nat → Run → Run
  | 0, r => r
  | rounds + 1, r =>
      let length := r.stop - r.start
      let r := r.rise items others items.size
      let isBeside := 0 < r.other && others.getD (r.other - 1) false
      let r := { r with beside := if isBeside then some r.stop else none }
      let r := r.fall items others items.size
      if r.stop - r.start = length then r else settle items others rounds r

def Run.backTo (others : Array Bool) (place : Nat) : Nat → Run → Run
  | 0, r => r
  | rounds + 1, r => if place < r.stop then backTo others place rounds (r.up others) else r

/-- Moves the changes of a list, from a place and the place of the other list with it. -/
def shift (items : Array Nat) (others : Array Bool) : Nat → Nat → Nat → Array Bool → Array Bool
  | 0, _, _, flags => flags
  | rounds + 1, i, j, flags =>
      if items.size ≤ i then flags
      else if !flags.getD i false then
        shift items others rounds (i + 1) (skip others others.size j + 1) flags
      else
        let stop := skip flags items.size (i + 1)
        let r : Run := ⟨flags, i, stop, skip others others.size j, none⟩
        let r := r.settle items others (items.size + 1)
        let r := match r.beside with
          | some place => r.backTo others place items.size
          | none => r
        shift items others rounds r.stop r.other r.flags

def script (m : Pair.Marks) : List Change :=
  go (m.old.size + m.new.size + 1) 0 0
where
  go : Nat → Nat → Nat → List Change
    | 0, _, _ => []
    | rounds + 1, i, j =>
        if m.old.size ≤ i && m.new.size ≤ j then []
        else
          let x := skip m.old m.old.size i
          let y := skip m.new m.new.size j
          if x = i && y = j then go rounds (i + 1) (j + 1)
          else ⟨i, x - i, j, y - j⟩ :: go rounds (x + 1) (y + 1)

def changes (old new : Array Nat) : List Change :=
  let m := Pair.marks ⟨old, new⟩
  let count := old.size + new.size + 1
  let shiftedOld := shift old m.new count 0 0 m.old
  script ⟨shiftedOld, shift new shiftedOld count 0 0 m.new⟩

end Difference

end Clausal.Text

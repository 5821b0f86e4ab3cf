import Clausal.Text.Regex.Basic

/-!
# Searching for regular expressions

An expression is turned into steps, and all ways to go through them are followed side by side,
the preferred first, at most one at each step.  Of all matches the one that starts first counts,
and of those the longest.  Where a group is to be matched again, the ways are tried one by one.
-/

namespace Clausal.Text.Regex

/-- A step on the way through a text.  Steps follow each other unless they say otherwise. -/
inductive Step where
  | take (set : ByteSet)
  | jump (target : Nat)
  | fork (first second : Nat)
  | mark (slot : Nat)
  | need (place : Place)
  | accept
  deriving Repr

def addSteps : Regex → Array Step → Array Step
  | empty, code => code
  | oneOf set, code => code.push (.take set)
  | sequence a b, code => addSteps b (addSteps a code)
  | either a b, code =>
      let place := code.size
      let first := (addSteps a (code.push .accept)).push .accept
      let second := addSteps b first
      (second.setIfInBounds place (.fork (place + 1) first.size)).setIfInBounds (first.size - 1)
        (.jump second.size)
  | optional a, code =>
      let place := code.size
      let inner := addSteps a (code.push .accept)
      inner.setIfInBounds place (.fork (place + 1) inner.size)
  | star a, code =>
      let place := code.size
      let inner := (addSteps a (code.push .accept)).push (.jump place)
      inner.setIfInBounds place (.fork (place + 1) inner.size)
  | group n a, code => (addSteps a (code.push (.mark (2 * n)))).push (.mark (2 * n + 1))
  | again _, code => code
  | anchor place, code => code.push (.need place)

structure Thread where
  step : Nat
  start : Nat
  marks : List (Nat × Nat)

/-- The threads at a place, the preferred last, and the steps that were reached already. -/
structure Front where
  threads : List Thread
  reached : Array Bool
  through : Option Thread

def follow (code : Array Step) (v : View) : Nat → Thread → Front → Front
  | 0, _, f => f
  | rounds + 1, t, f =>
      match t, f with
      | ⟨step, start, marks⟩, ⟨threads, reached, through⟩ =>
          if reached.getD step true then ⟨threads, reached, through⟩
          else
            let reached := reached.setIfInBounds step true
            match code[step]? with
            | none => ⟨threads, reached, through⟩
            | some (.take _) => ⟨⟨step, start, marks⟩ :: threads, reached, through⟩
            | some (.jump target) =>
                follow code v rounds ⟨target, start, marks⟩ ⟨threads, reached, through⟩
            | some (.fork first second) =>
                follow code v rounds ⟨second, start, marks⟩
                  (follow code v rounds ⟨first, start, marks⟩ ⟨threads, reached, through⟩)
            | some (.mark slot) =>
                follow code v rounds ⟨step + 1, start, (slot, v.offset) :: marks⟩
                  ⟨threads, reached, through⟩
            | some (.need place) =>
                if place.holds v then
                  follow code v rounds ⟨step + 1, start, marks⟩ ⟨threads, reached, through⟩
                else ⟨threads, reached, through⟩
            | some .accept =>
                ⟨threads, reached, through.orElse fun () => some ⟨step, start, marks⟩⟩

structure Program where
  code : Array Step
  first : Option ByteSet

def firstBytes (code : Array Step) : Nat → Nat → Option ByteSet
  | 0, _ => none
  | rounds + 1, step =>
      match code[step]? with
      | some (.take set) => some set
      | some (.jump target) => firstBytes code rounds target
      | some (.fork a b) => do return (← firstBytes code rounds a).union (← firstBytes code rounds b)
      | some (.mark _) | some (.need _) => firstBytes code rounds (step + 1)
      | some .accept | none => none

def Program.of (r : Regex) : Program :=
  let code := (addSteps r #[]).push .accept
  ⟨code, if code.size ≤ 64 then firstBytes code 16 0 else none⟩

structure Found where
  start : Nat
  stop : Nat
  marks : List (Nat × Nat)

def viewAt (before : Option Char) (rest : Octets) (offset : Nat) (hasLines : Bool) : View :=
  ⟨before, rest, offset, hasLines⟩

/-- The threads that can take a character, after it, the preferred first; the threads are given
the preferred last. -/
def advance (code : Array Step) (c : Char) : List Thread → List Thread → List Thread
  | [], after => after
  | ⟨step, start, marks⟩ :: rest, after =>
      match code[step]? with
      | some (.take set) =>
          advance code c rest (if set.has c then ⟨step + 1, start, marks⟩ :: after else after)
      | _ => advance code c rest after

def scan (p : Program) (isSoonest hasLines : Bool) :
    Octets → Option Char → Nat → List Thread → Option Found → Option Found
  | [], before, offset, threads, best =>
      (settle [] before offset threads best).1
  | c :: rest, before, offset, threads, best =>
      if threads.isEmpty && best.isNone && p.first.any (fun set => !set.has c) then
        scan p isSoonest hasLines rest (some c) (offset + 1) [] none
      else
        let (best, waiting) := settle (c :: rest) before offset threads best
        if isSoonest && best.isSome then best
        else
          match advance p.code c waiting [], best with
          | [], some found => some found
          | threads, best => scan p isSoonest hasLines rest (some c) (offset + 1) threads best
where
  settle (rest : Octets) (before : Option Char) (offset : Nat) (threads : List Thread)
      (best : Option Found) : Option Found × List Thread :=
    let v := viewAt before rest offset hasLines
    let rounds := p.code.size + 1
    let empty : Front := ⟨[], Array.replicate p.code.size false, none⟩
    let front := threads.foldl (fun f t => follow p.code v rounds t f) empty
    let front := if best.isNone then follow p.code v rounds ⟨0, offset, []⟩ front else front
    let best :=
      match front.through, best with
      | some t, none => some ⟨t.start, offset, t.marks⟩
      | some t, some found => if t.start ≤ found.start then some ⟨t.start, offset, t.marks⟩ else best
      | none, best => best
    match best with
    | none => (none, front.threads)
    | some found => (best, front.threads.filter fun t => t.start ≤ found.start)

/-! ## Matching groups again -/

/-- What is still to be matched. -/
inductive Pending where
  | regex (r : Regex)
  | close (number start : Nat) (rest : Octets)
  | again (inner : Regex) (start : Nat)

structure Captured where
  number : Nat
  stretch : Stretch
  text : Octets

def explore (folds : Bool) :
    Nat → List Pending → View → List Captured → Option (Nat × List Captured) →
      Option (Nat × List Captured)
  | 0, _, _, _, best => best
  | rounds + 1, pending, v, groups, best =>
      let go := explore folds rounds
      match pending with
      | [] =>
          match best with
          | none => some (v.offset, groups)
          | some (stop, _) => if stop < v.offset then some (v.offset, groups) else best
      | .close number start text :: more =>
          go more v (⟨number, ⟨start, v.offset⟩, text.take (v.offset - start)⟩ :: groups) best
      | .again inner start :: more =>
          if v.offset = start then best else go (.regex (.star inner) :: more) v groups best
      | .regex r :: more =>
          match r with
          | .empty => go more v groups best
          | .oneOf set =>
              match v.rest with
              | c :: _ => if set.has c then go more v.pass groups best else best
              | [] => best
          | .sequence a b => go (.regex a :: .regex b :: more) v groups best
          | .either a b => go (.regex b :: more) v groups (go (.regex a :: more) v groups best)
          | .optional a => go more v groups (go (.regex a :: more) v groups best)
          | .star a =>
              go more v groups (go (.regex a :: .again a v.offset :: more) v groups best)
          | .group n a => go (.regex a :: .close n v.offset v.rest :: more) v groups best
          | .anchor place => if place.holds v then go more v groups best else best
          | .again n =>
              match groups.find? fun g => g.number == n with
              | none => best
              | some g =>
                  let fold (text : Octets) : Octets := if folds then text.map Char.toLower else text
                  let next := v.rest.take g.text.length
                  if fold next = fold g.text then
                    go more
                      { v with
                        before := (g.text.getLast?).orElse fun () => v.before
                        rest := v.rest.drop g.text.length
                        offset := v.offset + g.text.length } groups best
                  else best

def exploreBound : Nat := 1000000000

def exploreFrom (r : Regex) (folds : Bool) (hasLines : Bool) :
    Octets → Option Char → Nat → Option Match
  | rest, before, offset =>
      match explore folds exploreBound [.regex r] (viewAt before rest offset hasLines) [] none with
      | some (stop, groups) =>
          some ⟨⟨offset, stop⟩, groups.map fun g => (g.number, g.stretch)⟩
      | none =>
          match rest with
          | [] => none
          | c :: rest => exploreFrom r folds hasLines rest (some c) (offset + 1)

/-! ## Both -/

structure Searcher where
  regex : Regex
  folds : Bool
  program : Program
  looksBack : Bool

namespace Searcher

def of (r : Regex) (folds : Bool) : Searcher :=
  let r := if folds then r.foldCase else r
  ⟨r, folds, .of r, r.looksBack⟩

def groupsOf (marks : List (Nat × Nat)) : List (Nat × Stretch) :=
  marks.filterMap fun (slot, stop) =>
    if slot % 2 = 1 then
      (marks.lookup (slot - 1)).map fun start => (slot / 2, ⟨start, stop⟩)
    else none

def find? (s : Searcher) (v : View) : Option Match :=
  if s.looksBack then exploreFrom s.regex s.folds v.hasLines v.rest v.before v.offset
  else
    (scan s.program false v.hasLines v.rest v.before v.offset [] none).map fun found =>
      ⟨⟨found.start, found.stop⟩, groupsOf found.marks⟩

def matches? (s : Searcher) (text : Octets) : Bool :=
  if s.looksBack then (s.find? (.ofText text)).isSome
  else (scan s.program true false text none 0 [] none).isSome

end Searcher

/-- What a group of a match stands for in a text; the whole match is group 0. -/
def Match.group (m : Match) (text : Octets) (number : Nat) : Octets :=
  if number = 0 then m.whole.of text
  else ((m.groups.lookup number).map fun stretch => stretch.of text).getD []

end Clausal.Text.Regex

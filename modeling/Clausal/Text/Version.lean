import Clausal.Text.Numeral
import Clausal.Text.Utf8

/-!
# Versions

Texts with numbers inside are put in the order in which people count: a number inside counts as
a number, and endings such as `.tar.gz` count only if all else is the same.
-/

namespace Clausal.Text.Version

open Text (Octets)

def rank (c : Option Char) : Int :=
  match c with
  | none => -1
  | some c =>
      if c.isDigit then 0
      else if c.isAlpha then c.toNat
      else if c = '~' then -2
      else c.toNat + 256

/-- Whether one text comes before another by its numbers and characters; nothing if neither
does. -/
def compareWith : Nat → Octets → Octets → Option Bool
  | 0, _, _ => none
  | rounds + 1, a, b =>
      match a, b with
      | [], [] => none
      | a, b =>
          let isPlain (c : Option Char) : Bool := c.any fun c => !c.isDigit
          if isPlain a.head? || isPlain b.head? then
            let x := rank a.head?
            let y := rank b.head?
            if x = y then compareWith rounds a.tail b.tail else some (decide (x < y))
          else
            let (x, a) := a.span Char.isDigit
            let (y, b) := b.span Char.isDigit
            let m := (readDigits? x).getD 0
            let n := (readDigits? y).getD 0
            if m = n then compareWith rounds a b else some (decide (m < n))

/-- A name without its endings, such as `.tar.gz`; something always stays. -/
def withoutEndings (octets : Octets) : Octets := go (octets.length + 1) octets
where
  isEnding (part : Octets) : Bool :=
    match part with
    | c :: rest => (c.isAlpha || c = '~') && rest.all fun c => c.isAlphanum || c = '~'
    | [] => false
  go : Nat → Octets → Octets
    | 0, octets => octets
    | rounds + 1, octets =>
        let reversed := octets.reverse
        let part := (reversed.takeWhile (· != '.')).reverse
        match reversed.dropWhile (· != '.') with
        | _ :: before =>
            if isEnding part && !before.isEmpty then go rounds before.reverse else octets
        | [] => octets

def specialRank (octets : Octets) : Nat :=
  match octets with
  | [] => 0
  | ['.'] => 1
  | ['.', '.'] => 2
  | '.' :: _ => 3
  | _ => 4

def compare? (a b : Octets) : Option Bool :=
  let x := specialRank a
  let y := specialRank b
  if x != y then some (decide (x < y))
  else if x < 3 then none
  else
    let rounds := a.length + b.length + 1
    (compareWith rounds (withoutEndings a) (withoutEndings b)).or (compareWith rounds a b)

theorem compareWith_nil (rounds : Nat) : compareWith rounds [] [] = none := by
  cases rounds <;> rfl

end Clausal.Text.Version

/-!
# A stream of random words

The stream of ChaCha with eight rounds, a 64-bit block counter and no nonce.  The state is
four rows of four words; a round mixes the four columns at once, and every other round does
so on rows rotated against each other, which mixes the diagonals.  The key comes from a
64-bit seed through a linear congruential generator with a permuted output.
-/

namespace Clausal.Random

/-- Four words side by side. -/
structure Row where
  w0 : UInt32
  w1 : UInt32
  w2 : UInt32
  w3 : UInt32
  deriving DecidableEq, Repr

namespace Row

def zip (f : UInt32 → UInt32 → UInt32) (a b : Row) : Row :=
  ⟨f a.w0 b.w0, f a.w1 b.w1, f a.w2 b.w2, f a.w3 b.w3⟩

def map (f : UInt32 → UInt32) (a : Row) : Row := ⟨f a.w0, f a.w1, f a.w2, f a.w3⟩

/-- Moves every word one column to the left, and the first to the end. -/
def shift (a : Row) : Row := ⟨a.w1, a.w2, a.w3, a.w0⟩

def toList (a : Row) : List UInt32 := [a.w0, a.w1, a.w2, a.w3]

@[simp] theorem shift_four (a : Row) : a.shift.shift.shift.shift = a := rfl

end Row

def rotateLeft (word distance : UInt32) : UInt32 :=
  (word <<< distance) ||| (word >>> (32 - distance))

structure State where
  a : Row
  b : Row
  c : Row
  d : Row
  deriving DecidableEq, Repr

namespace State

/-- Adds the second row to the first and rotates what that leaves of the fourth. -/
def mixUpper (s : State) (distance : UInt32) : State :=
  let a := s.a.zip (· + ·) s.b
  { s with a, d := (s.d.zip (· ^^^ ·) a).map (rotateLeft · distance) }

/-- Adds the fourth row to the third and rotates what that leaves of the second. -/
def mixLower (s : State) (distance : UInt32) : State :=
  let c := s.c.zip (· + ·) s.d
  { s with c, b := (s.b.zip (· ^^^ ·) c).map (rotateLeft · distance) }

def mixColumns (s : State) : State :=
  (((s.mixUpper 16).mixLower 12).mixUpper 8).mixLower 7

def slant (s : State) : State :=
  { s with b := s.b.shift, c := s.c.shift.shift, d := s.d.shift.shift.shift }

def unslant (s : State) : State :=
  { s with b := s.b.shift.shift.shift, c := s.c.shift.shift, d := s.d.shift }

@[simp] theorem unslant_slant (s : State) : s.slant.unslant = s := rfl

def doubleRound (s : State) : State := s.mixColumns.slant.mixColumns.unslant

def add (s t : State) : State :=
  ⟨s.a.zip (· + ·) t.a, s.b.zip (· + ·) t.b, s.c.zip (· + ·) t.c, s.d.zip (· + ·) t.d⟩

def words (s : State) : List UInt32 := s.a.toList ++ s.b.toList ++ s.c.toList ++ s.d.toList

end State

/-- The eight key words. -/
structure Key where
  low : Row
  high : Row
  deriving DecidableEq, Repr

namespace Key

def nextState (state : UInt64) : UInt64 :=
  state * 6364136223846793005 + 11634580027462260723

/-- The state's upper bits folded together and rotated by its top five. -/
def permuted (state : UInt64) : UInt32 :=
  let folded := (((state >>> 18) ^^^ state) >>> 27).toUInt32
  let distance := (state >>> 59).toUInt32
  (folded >>> distance) ||| (folded <<< ((32 - distance) % 32))

/-- The next four words and the state after them. -/
def nextRow (state : UInt64) : Row × UInt64 :=
  let s1 := nextState state
  let s2 := nextState s1
  let s3 := nextState s2
  let s4 := nextState s3
  (⟨permuted s1, permuted s2, permuted s3, permuted s4⟩, s4)

def ofSeed (seed : UInt64) : Key :=
  let (low, middle) := nextRow seed
  ⟨low, (nextRow middle).1⟩

end Key

def constants : Row := ⟨0x61707865, 0x3320646e, 0x79622d32, 0x6b206574⟩

def initialState (key : Key) (counter : UInt64) : State :=
  ⟨constants, key.low, key.high, ⟨counter.toUInt32, (counter >>> 32).toUInt32, 0, 0⟩⟩

/-- The sixteen words of a block. -/
def block (key : Key) (counter : UInt64) : List UInt32 :=
  let start := initialState key counter
  (start.doubleRound.doubleRound.doubleRound.doubleRound.add start).words

/-- An endless stream of words with a place in it; `ready` are the words of the current
block that have not been drawn. -/
structure Stream where
  key : Key
  counter : UInt64
  ready : List UInt32
  deriving DecidableEq, Repr

namespace Stream

def ofSeed (seed : UInt64) : Stream := ⟨.ofSeed seed, 0, []⟩

def next32 (s : Stream) : UInt32 × Stream :=
  match s.ready with
  | word :: rest => (word, { s with ready := rest })
  | [] =>
      match block s.key s.counter with
      | word :: rest => (word, { s with counter := s.counter + 1, ready := rest })
      | [] => (0, s)

/-- Two words as one, the first of them its low half. -/
def next64 (s : Stream) : UInt64 × Stream :=
  let (low, s) := s.next32
  let (high, s) := s.next32
  ((high.toUInt64 <<< 32) ||| low.toUInt64, s)

end Stream

end Clausal.Random

/-!
## Random numbers below a bound

A word times the bound has the number in its upper half.  When the lower half is so large
that a longer random fraction might carry over, a second word decides the carry.  Bounds
that fit in 32 bits draw 32-bit words, larger ones 64-bit words.
-/

namespace Clausal.Random

/-- The two halves of a product of 32-bit words. -/
def wideProduct32 (a b : UInt32) : UInt32 × UInt32 :=
  let product := a.toUInt64 * b.toUInt64
  ((product >>> 32).toUInt32, product.toUInt32)

/-- The two halves of a product of 64-bit words. -/
def wideProduct64 (a b : UInt64) : UInt64 × UInt64 :=
  let product := a.toNat * b.toNat
  (UInt64.ofNat (product / UInt64.size), UInt64.ofNat product)

def below32 (s : Stream) (bound : UInt32) : UInt32 × Stream :=
  let (word, s) := s.next32
  let (upper, lower) := wideProduct32 word bound
  if 0 - bound < lower then
    let (word, s) := s.next32
    let carry := (wideProduct32 word bound).1
    (if lower.toNat + carry.toNat < UInt32.size then upper else upper + 1, s)
  else (upper, s)

def below64 (s : Stream) (bound : UInt64) : UInt64 × Stream :=
  let (word, s) := s.next64
  let (upper, lower) := wideProduct64 word bound
  if 0 - bound < lower then
    let (word, s) := s.next64
    let carry := (wideProduct64 word bound).1
    (if lower.toNat + carry.toNat < UInt64.size then upper else upper + 1, s)
  else (upper, s)

/-- A number below a positive bound. -/
def below (s : Stream) (bound : UInt64) : UInt64 × Stream :=
  if bound ≤ 0xffffffff then
    let (value, s) := below32 s bound.toUInt32
    (value.toUInt64, s)
  else below64 s bound

end Clausal.Random

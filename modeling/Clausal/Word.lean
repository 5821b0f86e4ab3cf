/-!
# Arithmetic on 64-bit words

Sums and products that either say that they do not fit or stay at the largest word.
-/

namespace Clausal

def maxWord : UInt64 := 0xffffffffffffffff

@[simp] theorem maxWord_toNat : maxWord.toNat = UInt64.size - 1 := rfl

/-- The word of this value, if there is one. -/
def word? (n : Nat) : Option UInt64 :=
  if n < UInt64.size then some (UInt64.ofNat n) else none

theorem word?_eq_some_iff {n : Nat} {word : UInt64} : word? n = some word ↔ n = word.toNat := by
  unfold word?
  split
  · rename_i h
    rw [Option.some.injEq]
    constructor
    · intro hw
      rw [← hw, UInt64.toNat_ofNat_of_lt' h]
    · intro hw
      rw [hw, UInt64.ofNat_toNat]
  · rename_i h
    simp only [reduceCtorEq, false_iff]
    intro hw
    exact h (hw ▸ word.toNat_lt)

def addChecked (a b : UInt64) : Option UInt64 := word? (a.toNat + b.toNat)

def mulChecked (a b : UInt64) : Option UInt64 := word? (a.toNat * b.toNat)

theorem addChecked_eq_some_iff {a b sum : UInt64} :
    addChecked a b = some sum ↔ a.toNat + b.toNat = sum.toNat := word?_eq_some_iff

theorem mulChecked_eq_some_iff {a b product : UInt64} :
    mulChecked a b = some product ↔ a.toNat * b.toNat = product.toNat := word?_eq_some_iff

/-- The word of this value, or the largest one. -/
def wordCapped (n : Nat) : UInt64 := UInt64.ofNat (min n (UInt64.size - 1))

@[simp] theorem wordCapped_toNat (n : Nat) : (wordCapped n).toNat = min n (UInt64.size - 1) := by
  have h : min n (UInt64.size - 1) < UInt64.size := by
    have : 0 < UInt64.size := by decide
    omega
  exact UInt64.toNat_ofNat_of_lt' h

def addCapped (a b : UInt64) : UInt64 := wordCapped (a.toNat + b.toNat)

@[simp] theorem addCapped_toNat (a b : UInt64) :
    (addCapped a b).toNat = min (a.toNat + b.toNat) (UInt64.size - 1) := wordCapped_toNat _

def mulCapped (a b : UInt64) : UInt64 := wordCapped (a.toNat * b.toNat)

@[simp] theorem mulCapped_toNat (a b : UInt64) :
    (mulCapped a b).toNat = min (a.toNat * b.toNat) (UInt64.size - 1) := wordCapped_toNat _

/-!
## Arithmetic without a check

Where a computation adds, subtracts, multiplies or divides words without a check, the exact result
has to be a word and no divisor zero.  To say so, the computation is repeated with the arithmetic
as a parameter: over arithmetic that wraps it is the one that runs, and over arithmetic that stops
where a result does not fit it never stops.
-/

/-- How the words of a computation are added, subtracted, multiplied and divided. -/
structure Arithmetic (m : Type → Type) where
  add : UInt64 → UInt64 → m UInt64
  sub : UInt64 → UInt64 → m UInt64
  mul : UInt64 → UInt64 → m UInt64
  div : UInt64 → UInt64 → m UInt64
  mod : UInt64 → UInt64 → m UInt64

namespace Arithmetic

/-- Results wrap around, and a quotient by zero is zero. -/
def wrapping : Arithmetic Id where
  add a b := a + b
  sub a b := a - b
  mul a b := a * b
  div a b := a / b
  mod a b := a % b

/-- There is no result that is not exact, and none of a division by zero. -/
def exact : Arithmetic Option where
  add := addChecked
  sub a b := if b ≤ a then some (a - b) else none
  mul := mulChecked
  div a b := if b = 0 then none else some (a / b)
  mod a b := if b = 0 then none else some (a % b)

/-- The computation has this result, without an overflow or a division by zero on the way. -/
structure Safe {α : Type} (compute : ∀ {m : Type → Type} [Monad m], Arithmetic m → m α)
    (result : α) : Prop where
  wraps : (compute wrapping).run = result
  fits : compute exact = some result

end Arithmetic

end Clausal

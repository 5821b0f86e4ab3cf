import Clausal.Family.Basic

/-!
# Open families

An open family has a number of coordinates but no sizes.  It hands out indices in the order
in which coordinate tuples are first asked for.  A slice is the part of an open family whose
tuples start with given coordinates; it is addressed by the remaining ones and stores
nothing of its own.
-/

namespace Clausal

structure OpenFamily where
  owner : EncodingId
  var : VariableId
  arity : Nat
  /-- The tuples asked for so far; a tuple's place is its index. -/
  seen : List (List UInt64)
  deriving DecidableEq, Repr

namespace OpenFamily

def size (family : OpenFamily) : Nat := family.seen.length

def isEmpty (family : OpenFamily) : Bool := family.seen.isEmpty

/-- The index of a place in the list of tuples. -/
def indexOfPlace (place : Nat) : Except EncodingError UInt32 :=
  if place < UInt32.size then .ok (UInt32.ofNat place) else .error .indexOverflow

def indexOf (family : OpenFamily) (tuple : List UInt64) :
    Except EncodingError (UInt32 × OpenFamily) :=
  if tuple.length ≠ family.arity then .error (.arityMismatch family.arity tuple.length)
  else
    match family.seen.findIdx? (· == tuple) with
    | some place => (indexOfPlace place).map fun index => (index, family)
    | none =>
        (indexOfPlace family.size).map fun index =>
          (index, { family with seen := family.seen ++ [tuple] })

def coordsOf (family : OpenFamily) (index : UInt32) : Except EncodingError (List UInt64) :=
  match family.seen[index.toNat]? with
  | some tuple => .ok tuple
  | none => .error (.unknownIndex index)

instance : Family OpenFamily (List UInt64) where
  owner := owner
  var := var
  indexOf := indexOf
  coordsOf := coordsOf
  labelCoords _ tuple := tuple

/-- Equal up to the order in which tuples were asked for. -/
def same (a b : OpenFamily) : Bool :=
  decide (a.owner = b.owner) && decide (a.var = b.var) && decide (a.arity = b.arity) &&
    decide (a.size = b.size) && a.seen.all fun tuple => b.seen.contains tuple

end OpenFamily

/-- The part of an open family whose tuples start with these coordinates. -/
structure Slice where
  base : OpenFamily
  lead : List UInt64
  lead_le_arity : lead.length ≤ base.arity

/-- The slice with these leading coordinates. -/
def OpenFamily.slice (family : OpenFamily) (lead : List UInt64) : Except EncodingError Slice :=
  if h : lead.length ≤ family.arity then .ok ⟨family, lead, h⟩
  else .error (.arityMismatch family.arity lead.length)

theorem OpenFamily.arity_of_indexOf {family next : OpenFamily} {tuple : List UInt64}
    {index : UInt32} (h : family.indexOf tuple = .ok (index, next)) :
    next.arity = family.arity := by
  unfold indexOf at h
  split at h
  · cases h
  · split at h
    · rename_i place _
      cases hp : indexOfPlace place with
      | error failure => simp [hp, Except.map] at h
      | ok known =>
          simp only [hp, Except.map, Except.ok.injEq, Prod.mk.injEq] at h
          rw [← h.2]
    · cases hp : indexOfPlace family.size with
      | error failure => simp [hp, Except.map] at h
      | ok fresh =>
          simp only [hp, Except.map, Except.ok.injEq, Prod.mk.injEq] at h
          rw [← h.2]

namespace Slice

def indexOf (slice : Slice) (rest : List UInt64) : Except EncodingError (UInt32 × Slice) :=
  let expected := slice.base.arity - slice.lead.length
  if rest.length ≠ expected then .error (.arityMismatch expected rest.length)
  else
    match h : slice.base.indexOf (slice.lead ++ rest) with
    | .error failure => .error failure
    | .ok (index, base) =>
        .ok (index, ⟨base, slice.lead,
          OpenFamily.arity_of_indexOf h ▸ slice.lead_le_arity⟩)

def coordsOf (slice : Slice) (index : UInt32) : Except EncodingError (List UInt64) := do
  let tuple ← slice.base.coordsOf index
  if slice.lead.isPrefixOf tuple then .ok (tuple.drop slice.lead.length)
  else .error (.outsideView index)

instance : Family Slice (List UInt64) where
  owner slice := slice.base.owner
  var slice := slice.base.var
  indexOf := indexOf
  coordsOf := coordsOf
  labelCoords slice rest := slice.lead ++ rest

end Slice

/-- Allocates a variable addressed by tuples of this length. -/
def Encoding.newOpenFamily (e : Encoding) (arity : Nat) :
    Except EncodingError (Encoding × OpenFamily) :=
  (e.newVariable none).map fun (next, var) => (next, ⟨e.id, var, arity, []⟩)

end Clausal

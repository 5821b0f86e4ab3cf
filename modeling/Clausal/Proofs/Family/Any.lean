import Clausal.Proofs.Family.Placement
import Clausal.Proofs.Family.Inverse
import Clausal.Proofs.Family.Seen

/-!
# Families of every shape

A program holds lines, grids, cubes and open families side by side, and asks each with its own
coordinates; an open family also through its slices.  `AnyFamily` and `Place` put the shapes into
one type, `fetch?` is the fetch of the shape at hand, and `Outcome` says once all that it can have
done.  From a literal's index the family finds back the coordinates that were asked for, in full
and folded, so an index stands for one place and a place for one index.
-/

namespace Clausal

/-! ## One fetch -/

theorem Encoding.fetch_missing {e : Encoding} (atom : Atom) (h : e.vars.size ≤ atom.var.val) :
    e.fetch atom = .error (.unknownVariable atom.var) := by
  have hvar : e.vars[(Literal.ofAtom atom).atom.var.val]? = none := Array.getElem?_eq_none h
  unfold fetch register
  rw [hvar]
  rfl

namespace Family

variable {φ γ : Type} [Family φ γ]

/-- A fetch, by a name for the label or without one. -/
def ask (family : φ) (e : Encoding) (name? : Option String) (coords : γ) :
    φ × Except EncodingError (Encoding × Literal) :=
  match name? with
  | none => fetch family e coords
  | some name => fetchNamed family e name coords

/-- All that a fetch can do. -/
inductive Asked (family : φ) (e : Encoding) (coords : γ) :
    φ × Except EncodingError (Encoding × Literal) → Prop
  | foreign (other : e.id ≠ owner family) :
      Asked family e coords (family, .error (.foreignFamily (var family)))
  | refused {failure : EncodingError} (own : e.id = owner family)
      (given : indexOf family coords = .error failure) :
      Asked family e coords (family, .error failure)
  | missing {index : UInt32} {next : φ} (own : e.id = owner family)
      (given : indexOf family coords = .ok (index, next))
      (absent : e.vars.size ≤ (var family).val) :
      Asked family e coords (next, .error (.unknownVariable (var family)))
  | fetched {index : UInt32} {next : φ} {e' : Encoding} {literal : Literal}
      (own : e.id = owner family) (given : indexOf family coords = .ok (index, next))
      (atom : literal.atom = ⟨var family, index⟩) (adds : e.Extends e' [literal.atom] [] []) :
      Asked family e coords (next, .ok (e', literal))

theorem asked_fetch (family : φ) (e : Encoding) (coords : γ) :
    Asked family e coords (fetch family e coords) := by
  by_cases own : e.id = owner family
  · rw [fetch_owned own]
    cases given : indexOf family coords with
    | error failure => exact .refused own given
    | ok answer =>
        obtain ⟨index, next⟩ := answer
        rcases Nat.lt_or_ge (var family).val e.vars.size with hvar | absent
        · obtain ⟨e', hf⟩ := Encoding.exists_fetch ⟨var family, index⟩ hvar
          simp only [hf]
          exact .fetched own given rfl (Encoding.extends_of_fetch hf)
        · simp only [Encoding.fetch_missing ⟨var family, index⟩ absent]
          exact .missing own given absent
  · rw [fetch_foreign own]
    exact .foreign own

theorem asked_ask (family : φ) (e : Encoding) (name? : Option String) (coords : γ) :
    Asked family e coords (ask family e name? coords) := by
  have h := asked_fetch family e coords
  cases name? with
  | none => exact h
  | some name =>
      unfold ask fetchNamed
      generalize fetch family e coords = answer at h
      cases h with
      | foreign other => exact .foreign other
      | refused own given => exact .refused own given
      | missing own given absent => exact .missing own given absent
      | fetched own given atom adds =>
          exact .fetched own given (by simpa using atom) (by simpa using adds)

end Family

/-! ## Never for the encoding -/

theorem checkAxis_ne_foreign (axis : Nat) (value size : UInt64) (var : VariableId) :
    checkAxis axis value size ≠ .error (.foreignFamily var) := by
  unfold checkAxis
  split <;> simp

theorem indexOfChecked_ne_foreign (value? : Option UInt64) (var : VariableId) :
    indexOfChecked value? ≠ .error (.foreignFamily var) := by
  unfold indexOfChecked
  split
  · unfold indexOfWord
    split <;> simp
  · simp

theorem Line.indexOf_ne_foreign (line : Line) (a : UInt64) (var : VariableId) :
    line.indexOf a ≠ .error (.foreignFamily var) := by
  unfold indexOf
  cases line.size with
  | none => exact indexOfChecked_ne_foreign _ var
  | some size =>
      simp [bind_eq_error_iff, checkAxis_ne_foreign, indexOfChecked_ne_foreign]

theorem Grid.indexOf_ne_foreign (grid : Grid) (coords : UInt64 × UInt64) (var : VariableId) :
    grid.indexOf coords ≠ .error (.foreignFamily var) := by
  simp [indexOf, bind_eq_error_iff, checkAxis_ne_foreign, indexOfChecked_ne_foreign]

theorem Cube.indexOf_ne_foreign (cube : Cube) (coords : UInt64 × UInt64 × UInt64)
    (var : VariableId) : cube.indexOf coords ≠ .error (.foreignFamily var) := by
  simp [indexOf, bind_eq_error_iff, checkAxis_ne_foreign, indexOfChecked_ne_foreign]

/-! ## Every shape -/

inductive AnyFamily where
  | line (family : Line)
  | grid (family : Grid)
  | cube (family : Cube)
  | tuples (family : OpenFamily)
  deriving DecidableEq, Repr

/-- The coordinates that a family is asked with. -/
inductive Place where
  | one (a : UInt64)
  | pair (a b : UInt64)
  | triple (a b c : UInt64)
  | tuple (coords : List UInt64)
  | slice (lead rest : List UInt64)
  deriving DecidableEq, Repr

def Place.full : Place → List UInt64
  | one a => [a]
  | pair a b => [a, b]
  | triple a b c => [a, b, c]
  | tuple coords => coords
  | slice lead rest => lead ++ rest

namespace AnyFamily

def owner : AnyFamily → EncodingId
  | line family => family.owner
  | grid family => family.owner
  | cube family => family.owner
  | tuples family => family.owner

def var : AnyFamily → VariableId
  | line family => family.var
  | grid family => family.var
  | cube family => family.var
  | tuples family => family.var

def isSymmetric : AnyFamily → Bool
  | grid family => family.symmetric
  | _ => false

/-- The place has the family's shape, and its slice can be taken. -/
def Fits : AnyFamily → Place → Prop
  | line _, .one _ => True
  | grid _, .pair _ _ => True
  | cube _, .triple _ _ _ => True
  | tuples _, .tuple _ => True
  | tuples family, .slice lead _ => lead.length ≤ family.arity
  | _, _ => False

/-- The same coordinates in full; a symmetric grid takes a pair for its reverse. -/
def SamePlace (family : AnyFamily) (p q : Place) : Prop :=
  p.full = q.full ∨ family.isSymmetric = true ∧ p.full = q.full.reverse

/-- The coordinates in full that stand for a place. -/
def canonical : AnyFamily → Place → List UInt64
  | grid family, .pair a b => [(family.fold a b).1, (family.fold a b).2]
  | _, place => place.full

def coordsOf (family : AnyFamily) (index : UInt32) : Except EncodingError (List UInt64) :=
  match family with
  | line family => (family.coordsOf index).map fun a => [a]
  | grid family => (family.coordsOf index).map fun coords => [coords.1, coords.2]
  | cube family => (family.coordsOf index).map fun coords => [coords.1, coords.2.1, coords.2.2]
  | tuples family => family.coordsOf index

/-- The fetch of the shape at hand, if the place fits. -/
def fetch? (family : AnyFamily) (e : Encoding) (name? : Option String) (place : Place) :
    Option (AnyFamily × Except EncodingError (Encoding × Literal)) :=
  match family, place with
  | line family, .one a => some (Prod.map line id (Family.ask family e name? a))
  | grid family, .pair a b => some (Prod.map grid id (Family.ask family e name? (a, b)))
  | cube family, .triple a b c => some (Prod.map cube id (Family.ask family e name? (a, b, c)))
  | tuples family, .tuple coords => some (Prod.map tuples id (Family.ask family e name? coords))
  | tuples family, .slice lead rest =>
      match family.slice lead with
      | .error _ => none
      | .ok slice =>
          some (Prod.map (fun slice => tuples slice.base) id (Family.ask slice e name? rest))
  | _, _ => none

def Valid : AnyFamily → Prop
  | tuples family => family.seen.Nodup
  | _ => True

/-- What a fetch may do to a family. -/
inductive Turns : AnyFamily → AnyFamily → Prop
  | same (family : AnyFamily) : Turns family family
  | tuples {family next : OpenFamily} (turns : family.Turns next) :
      Turns (tuples family) (tuples next)

namespace Turns

variable {family next : AnyFamily} (h : family.Turns next)

include h

theorem owner : next.owner = family.owner := by
  cases h with
  | same => rfl
  | tuples turns => exact turns.owner

theorem var : next.var = family.var := by
  cases h with
  | same => rfl
  | tuples turns => exact turns.var

theorem canonical (place : Place) : next.canonical place = family.canonical place := by
  cases h <;> rfl

theorem fits {place : Place} : next.Fits place ↔ family.Fits place := by
  cases h with
  | same => exact Iff.rfl
  | tuples turns => cases place <;> simp only [Fits, turns.arity]

theorem valid (hv : family.Valid) : next.Valid := by
  cases h with
  | same => exact hv
  | tuples turns => exact turns.nodup hv

theorem coordsOf {index : UInt32} {coords : List UInt64}
    (found : family.coordsOf index = .ok coords) : next.coordsOf index = .ok coords := by
  cases h with
  | same => exact found
  | tuples turns => exact turns.coordsOf found

end Turns

/-! ## Outcomes -/

/-- All that a fetch through any family can do. -/
inductive Outcome (family : AnyFamily) (e : Encoding) (place : Place) :
    AnyFamily → Except EncodingError (Encoding × Literal) → Prop
  | foreign (other : e.id ≠ family.owner) :
      Outcome family e place family (.error (.foreignFamily family.var))
  | refused {failure : EncodingError} (own : e.id = family.owner)
      (native : ∀ var, failure ≠ .foreignFamily var) :
      Outcome family e place family (.error failure)
  | missing {next : AnyFamily} (own : e.id = family.owner) (turns : family.Turns next)
      (absent : e.vars.size ≤ family.var.val) :
      Outcome family e place next (.error (.unknownVariable family.var))
  | fetched {next : AnyFamily} {e' : Encoding} {literal : Literal}
      (own : e.id = family.owner) (turns : family.Turns next)
      (var : literal.atom.var = family.var)
      (found : next.coordsOf literal.atom.index = .ok (family.canonical place))
      (adds : e.Extends e' [literal.atom] [] []) :
      Outcome family e place next (.ok (e', literal))

/-- What an index says about the family that gave it, whatever the shape. -/
theorem Outcome.of_asked {φ γ : Type} [Family φ γ] {family : φ} {coords : γ} {e : Encoding}
    {asked : φ × Except EncodingError (Encoding × Literal)} {place : Place}
    (wrap : φ → AnyFamily) (owner : (wrap family).owner = Family.owner family)
    (var : (wrap family).var = Family.var family)
    (given : ∀ index next, Family.indexOf family coords = .ok (index, next) →
      (wrap family).Turns (wrap next) ∧
        (wrap next).coordsOf index = .ok ((wrap family).canonical place))
    (native : ∀ var, Family.indexOf family coords ≠ .error (.foreignFamily var))
    (h : Family.Asked family e coords asked) :
    (wrap family).Outcome e place (wrap asked.1) asked.2 := by
  cases h with
  | foreign other =>
      rw [← var]
      exact .foreign (owner ▸ other)
  | refused own hgiven =>
      refine .refused (own.trans owner.symm) fun var heq => native var ?_
      rw [hgiven, heq]
  | missing own hgiven absent =>
      rw [← var]
      exact .missing (own.trans owner.symm) (given _ _ hgiven).1 (var ▸ absent)
  | fetched own hgiven atom adds =>
      obtain ⟨turns, found⟩ := given _ _ hgiven
      refine .fetched (own.trans owner.symm) turns ?_ ?_ adds
      · rw [atom, var]
      · rw [atom]
        exact found

theorem Outcome.of_computed {φ γ : Type} [Family φ γ] {family : φ} {coords : γ} {e : Encoding}
    {asked : φ × Except EncodingError (Encoding × Literal)} {place : Place}
    {computed : Except EncodingError UInt32} (wrap : φ → AnyFamily)
    (owner : (wrap family).owner = Family.owner family)
    (var : (wrap family).var = Family.var family)
    (index : Family.indexOf family coords = computed.map fun index => (index, family))
    (back : ∀ index, computed = .ok index →
      (wrap family).coordsOf index = .ok ((wrap family).canonical place))
    (native : ∀ var, computed ≠ .error (.foreignFamily var))
    (h : Family.Asked family e coords asked) :
    (wrap family).Outcome e place (wrap asked.1) asked.2 := by
  refine .of_asked wrap owner var ?_ ?_ h
  · intro i next given
    rw [index] at given
    obtain ⟨_, hcomputed, hpair⟩ := map_eq_ok_iff.mp given
    cases hpair
    exact ⟨.same _, back _ hcomputed⟩
  · intro v
    rw [index, ne_eq, map_eq_error_iff]
    exact native v

theorem outcome_of_fetch? {family next : AnyFamily} {e : Encoding} {name? : Option String}
    {place : Place} {result : Except EncodingError (Encoding × Literal)}
    (h : family.fetch? e name? place = some (next, result)) :
    family.Outcome e place next result := by
  unfold fetch? at h
  split at h
  case h_1 family a =>
    cases h
    refine .of_computed line rfl rfl rfl (fun index hindex => ?_) (family.indexOf_ne_foreign a)
      (Family.asked_ask family e name? a)
    exact map_eq_ok_iff.mpr ⟨_, Line.coordsOf_eq_ok_iff.mpr hindex, rfl⟩
  case h_2 family a b =>
    cases h
    refine .of_computed grid rfl rfl rfl (fun index hindex => ?_)
      (family.indexOf_ne_foreign (a, b)) (Family.asked_ask family e name? (a, b))
    exact map_eq_ok_iff.mpr ⟨_, Grid.coordsOf_of_indexOf hindex, rfl⟩
  case h_3 family a b c =>
    cases h
    refine .of_computed cube rfl rfl rfl (fun index hindex => ?_)
      (family.indexOf_ne_foreign (a, b, c)) (Family.asked_ask family e name? (a, b, c))
    exact map_eq_ok_iff.mpr ⟨_, Cube.coordsOf_eq_ok_iff.mpr hindex, rfl⟩
  case h_4 family coords =>
    cases h
    refine .of_asked tuples rfl rfl ?_ (family.indexOf_ne_foreign coords)
      (Family.asked_ask family e name? coords)
    intro index next given
    obtain ⟨turns, hseen⟩ := OpenFamily.turns_of_indexOf given
    exact ⟨.tuples turns, OpenFamily.coordsOf_eq_ok_iff.mpr hseen⟩
  case h_5 family lead rest =>
    split at h
    · cases h
    rename_i slice hslice
    obtain ⟨rfl, rfl⟩ := Slice.of_slice hslice
    cases h
    refine .of_asked (fun slice => tuples slice.base) rfl rfl ?_
      (slice.indexOf_ne_foreign rest) (Family.asked_ask slice e name? rest)
    intro index next given
    -- The slice asked its base for the whole tuple.
    obtain ⟨turns, hseen⟩ := OpenFamily.turns_of_indexOf (Slice.indexOf_base given)
    exact ⟨.tuples turns, OpenFamily.coordsOf_eq_ok_iff.mpr hseen⟩
  case h_6 => cases h

theorem exists_fetch?_iff {family : AnyFamily} (e : Encoding) (name? : Option String)
    {place : Place} :
    (∃ next result, family.fetch? e name? place = some (next, result)) ↔ family.Fits place := by
  cases family with
  | line family => cases place <;> simp [fetch?, Fits, Prod.map]
  | grid family => cases place <;> simp [fetch?, Fits, Prod.map]
  | cube family => cases place <;> simp [fetch?, Fits, Prod.map]
  | tuples family =>
      cases place with
      | slice lead rest =>
          simp only [fetch?, Fits, OpenFamily.slice]
          by_cases hle : lead.length ≤ family.arity
          · simp [hle, Prod.map]
          · simp [hle]
      | _ => simp [fetch?, Fits, Prod.map]

/-! ## Coordinates -/

theorem index_unique {family : AnyFamily} (h : family.Valid) {i j : UInt32}
    {coords : List UInt64} (hi : family.coordsOf i = .ok coords)
    (hj : family.coordsOf j = .ok coords) : i = j := by
  cases family with
  | line family =>
      obtain ⟨a, ha, rfl⟩ := map_eq_ok_iff.mp hi
      obtain ⟨b, hb, hab⟩ := map_eq_ok_iff.mp hj
      cases hab
      rw [Line.coordsOf_eq_ok_iff] at ha hb
      exact Except.ok.inj (ha.symm.trans hb)
  | grid family =>
      obtain ⟨⟨a, b⟩, ha, rfl⟩ := map_eq_ok_iff.mp hi
      obtain ⟨⟨a', b'⟩, hb, hab⟩ := map_eq_ok_iff.mp hj
      cases hab
      exact Except.ok.inj
        ((Grid.coordsOf_eq_ok_iff.mp ha).2.symm.trans (Grid.coordsOf_eq_ok_iff.mp hb).2)
  | cube family =>
      obtain ⟨⟨a, b, c⟩, ha, rfl⟩ := map_eq_ok_iff.mp hi
      obtain ⟨⟨a', b', c'⟩, hb, hab⟩ := map_eq_ok_iff.mp hj
      cases hab
      rw [Cube.coordsOf_eq_ok_iff] at ha hb
      exact Except.ok.inj (ha.symm.trans hb)
  | tuples family =>
      have hseen := OpenFamily.coordsOf_eq_ok_iff.mp hi
      have hlt := (List.getElem?_eq_some_iff.mp hseen).1
      exact UInt32.toNat_inj.mp ((List.getElem?_inj hlt h).mp
        (hseen.trans (OpenFamily.coordsOf_eq_ok_iff.mp hj).symm))

theorem canonical_eq_iff {family : AnyFamily} {p q : Place} (hp : family.Fits p)
    (hq : family.Fits q) : family.canonical p = family.canonical q ↔ family.SamePlace p q := by
  cases family with
  | line family => simp [canonical, SamePlace, isSymmetric]
  | grid family =>
      match p, q, hp, hq with
      | .pair a b, .pair a' b', _, _ =>
          have h : family.fold a b = family.fold a' b' ↔ _ := Grid.fold_eq_fold_iff
          simpa [canonical, SamePlace, isSymmetric, Place.full, Prod.ext_iff] using h
  | cube family => simp [canonical, SamePlace, isSymmetric]
  | tuples family => simp [canonical, SamePlace, isSymmetric]

end AnyFamily

end Clausal

import Clausal.Proofs.Family.Any

/-!
# Worlds of encodings and families

A program creates encodings, clones them, allocates families from any of them, and fetches
literals through any family from any encoding.  A `World` holds all of them, and a log of the
fetches that succeeded.  Beside each encoding stands what it does not know itself: the creation
that it stems from by cloning, and the families that were allocated on the way to it.

Every request makes a few elementary changes, which `Change` lists with what was checked before.
-/

namespace Clausal

/-! ## Allocations -/

inductive Shape where
  | line
  | grid (columns : UInt64) (symmetric : Bool)
  | cube (rows columns : UInt64)
  | tuples (arity : Nat)
  deriving DecidableEq, Repr

namespace Encoding

def newFamily (e : Encoding) : Shape → Except EncodingError (Encoding × AnyFamily)
  | .line => e.newLine.map fun made => (made.1, .line made.2)
  | .grid columns symmetric =>
      (e.newGrid columns symmetric).map fun made => (made.1, .grid made.2)
  | .cube rows columns => (e.newCube rows columns).map fun made => (made.1, .cube made.2)
  | .tuples arity => (e.newOpenFamily arity).map fun made => (made.1, .tuples made.2)

structure Allocates (e e' : Encoding) (family : AnyFamily) : Prop where
  grown : e.Grows e'
  owner : family.owner = e.id
  var : family.var.val = e.vars.size
  size : e'.vars.size = e.vars.size + 1
  valid : family.Valid

theorem allocates_of_newFamily {e e' : Encoding} {shape : Shape} {family : AnyFamily}
    (h : e.newFamily shape = .ok (e', family)) : e.Allocates e' family := by
  -- Every shape wraps what it makes of a new variable.
  have hmade {φ : Type} {make : Encoding × VariableId → Encoding × φ} (wrap : φ → AnyFamily)
      (hmap : ((e.newVariable none).map make).map (fun made => (made.1, wrap made.2)) =
        .ok (e', family))
      (keeps : ∀ made, (make made).1 = made.1)
      (owner : ∀ made, (wrap (make made).2).owner = e.id)
      (var : ∀ made, (wrap (make made).2).var = made.2)
      (valid : ∀ made, (wrap (make made).2).Valid) : e.Allocates e' family := by
    obtain ⟨_, hmake, hpair⟩ := map_eq_ok_iff.mp hmap
    obtain ⟨⟨next, new⟩, hnew, rfl⟩ := map_eq_ok_iff.mp hmake
    cases hpair
    obtain ⟨hvar, hnext⟩ := newVariable_eq_ok_iff.mp hnew
    refine ⟨?_, owner _, ?_, ?_, valid _⟩
    · rw [keeps]
      exact newVariable_grows hnew
    · rw [var]
      exact hvar
    · rw [keeps, hnext]
      exact Array.size_push _
  cases shape with
  | line => exact hmade .line h (fun _ => rfl) (fun _ => rfl) (fun _ => rfl) fun _ => trivial
  | grid columns symmetric =>
      exact hmade .grid h (fun _ => rfl) (fun _ => rfl) (fun _ => rfl) fun _ => trivial
  | cube rows columns =>
      exact hmade .cube h (fun _ => rfl) (fun _ => rfl) (fun _ => rfl) fun _ => trivial
  | tuples arity =>
      exact hmade .tuples h (fun _ => rfl) (fun _ => rfl) (fun _ => rfl) fun _ => List.nodup_nil

end Encoding

/-! ## Worlds -/

structure World.Copy where
  encoding : Encoding
  root : Nat
  /-- The families that this encoding has allocated, or the one that it was cloned from had
  allocated before; newest first. -/
  held : List Nat

/-- A family of a world, and the created encoding behind the one that allocated it. -/
structure World.Owned where
  family : AnyFamily
  root : Nat

/-- A successful fetch, with family and encoding by their places in the world. -/
structure World.Fetched where
  family : Nat
  copy : Nat
  place : Place
  literal : Literal

structure World where
  /-- How many encodings were created; the next one gets this identity. -/
  created : Nat
  copies : List World.Copy
  families : List World.Owned
  fetched : List World.Fetched

namespace World

def empty : World := ⟨0, [], [], []⟩

inductive Request : Type 1 where
  | create
  | clone (copy : Nat)
  | allocate (copy : Nat) (shape : Shape)
  | fetch (family copy : Nat) (name? : Option String) (place : Place)
  | work (copy : Nat) (op : Operation)

def settle (w : World) (family copy : Nat) (place : Place) (owned : Owned) (target : Copy)
    (next : AnyFamily) : Except EncodingError (Encoding × Literal) → World
  | .error _ => { w with families := w.families.set family { owned with family := next } }
  | .ok (e, literal) =>
      { w with
        families := w.families.set family { owned with family := next }
        copies := w.copies.set copy { target with encoding := e }
        fetched := w.fetched ++ [⟨family, copy, place, literal⟩] }

def act (w : World) : Request → World
  | .create =>
      { w with
        created := w.created + 1
        copies := w.copies ++ [⟨.empty w.created, w.copies.length, []⟩] }
  | .clone copy =>
      match w.copies[copy]? with
      | none => w
      | some original => { w with copies := w.copies ++ [original] }
  | .allocate copy shape =>
      match w.copies[copy]? with
      | none => w
      | some target =>
          match target.encoding.newFamily shape with
          | .error _ => w
          | .ok (e, family) =>
              { w with
                copies :=
                  w.copies.set copy ⟨e, target.root, w.families.length :: target.held⟩
                families := w.families ++ [⟨family, target.root⟩] }
  | .fetch family copy name? place =>
      match w.families[family]?, w.copies[copy]? with
      | some owned, some target =>
          match owned.family.fetch? target.encoding name? place with
          | none => w
          | some (next, result) => w.settle family copy place owned target next result
      | _, _ => w
  | .work copy op =>
      match w.copies[copy]? with
      | none => w
      | some target =>
          { w with
            copies := w.copies.set copy { target with encoding := (op.run target.encoding).1 } }

/-- The worlds that requests make out of an empty one, failing requests included. -/
inductive Reachable : World → Prop
  | empty : Reachable empty
  | act {w : World} (request : Request) (h : Reachable w) : Reachable (w.act request)

def run (requests : List Request) : World := requests.foldl act empty

theorem reachable_run (requests : List Request) : (run requests).Reachable := by
  have hfold : ∀ w : World, w.Reachable → (requests.foldl act w).Reachable := by
    induction requests with
    | nil => exact fun _ h => h
    | cons request rest ih => exact fun w h => ih (w.act request) (.act request h)
  exact hfold empty .empty

/-! ## Elementary changes -/

/-- The family and the encoding of a fetch are there; the family finds back the coordinates that
were asked for, and the encoding knows the literal. -/
def Recorded (w : World) (x : Fetched) : Prop :=
  ∃ owned copy, w.families[x.family]? = some owned ∧ w.copies[x.copy]? = some copy ∧
    x.literal.atom.var = owned.family.var ∧ owned.family.Fits x.place ∧
    owned.family.coordsOf x.literal.atom.index = .ok (owned.family.canonical x.place) ∧
    copy.encoding.isRegistered x.literal = true

inductive Change (w : World) : World → Prop
  | create :
      Change w
        { w with
          created := w.created + 1
          copies := w.copies ++ [⟨.empty w.created, w.copies.length, []⟩] }
  | clone {original : Copy} (known : original ∈ w.copies) :
      Change w { w with copies := w.copies ++ [original] }
  | grow {copy : Nat} {target : Copy} {e : Encoding} (known : w.copies[copy]? = some target)
      (grown : target.encoding.Grows e) :
      Change w { w with copies := w.copies.set copy { target with encoding := e } }
  | allocate {copy : Nat} {target : Copy} {e : Encoding} {family : AnyFamily}
      (known : w.copies[copy]? = some target) (allocates : target.encoding.Allocates e family) :
      Change w
        { w with
          copies := w.copies.set copy ⟨e, target.root, w.families.length :: target.held⟩
          families := w.families ++ [⟨family, target.root⟩] }
  | turn {family : Nat} {owned : Owned} {next : AnyFamily}
      (known : w.families[family]? = some owned) (turns : owned.family.Turns next) :
      Change w { w with families := w.families.set family { owned with family := next } }
  | record {x : Fetched} (recorded : w.Recorded x) :
      Change w { w with fetched := w.fetched ++ [x] }

abbrev Changes : World → World → Prop := Relation.ReflTransGen Change

theorem settle_changes {w : World} {family copy : Nat} {name? : Option String} {place : Place}
    {owned : Owned} {target : Copy} {next : AnyFamily}
    {result : Except EncodingError (Encoding × Literal)}
    (hfamily : w.families[family]? = some owned) (hcopy : w.copies[copy]? = some target)
    (h : owned.family.fetch? target.encoding name? place = some (next, result)) :
    w.Changes (w.settle family copy place owned target next result) := by
  have fits := (AnyFamily.exists_fetch?_iff _ _).mp ⟨next, result, h⟩
  have hlt := (List.getElem?_eq_some_iff.mp hfamily).1
  have hlt' := (List.getElem?_eq_some_iff.mp hcopy).1
  cases AnyFamily.outcome_of_fetch? h with
  | foreign other => exact .single (.turn hfamily (.same _))
  | refused own native => exact .single (.turn hfamily (.same _))
  | missing own turns absent => exact .single (.turn hfamily turns)
  | fetched own turns var found adds =>
      refine ((Relation.ReflTransGen.single (.turn hfamily turns)).tail
        (.grow hcopy adds.grown)).tail (.record ?_)
      refine ⟨_, _, List.getElem?_set_self hlt, List.getElem?_set_self hlt', ?_, ?_, ?_, ?_⟩
      · rw [var, turns.var]
      · exact turns.fits.mpr fits
      · rw [turns.canonical]
        exact found
      · exact (adds.registered _).mpr (.inr (List.mem_singleton.mpr rfl))

theorem act_changes (w : World) (request : Request) : w.Changes (w.act request) := by
  cases request with
  | create => exact .single .create
  | clone copy =>
      simp only [act]
      split
      · exact .refl
      · rename_i original hcopy
        exact .single (.clone (List.mem_of_getElem? hcopy))
  | allocate copy shape =>
      simp only [act]
      split
      · exact .refl
      rename_i target hcopy
      split
      · exact .refl
      · rename_i e family hnew
        exact .single (.allocate hcopy (Encoding.allocates_of_newFamily hnew))
  | fetch family copy name? place =>
      simp only [act]
      split
      case h_2 => exact .refl
      rename_i owned target hfamily hcopy
      split
      · exact .refl
      · rename_i next result hfetch
        exact settle_changes hfamily hcopy hfetch
  | work copy op =>
      simp only [act]
      split
      · exact .refl
      · rename_i target hcopy
        exact .single (.grow hcopy (op.run_grows target.encoding))

end World

end Clausal

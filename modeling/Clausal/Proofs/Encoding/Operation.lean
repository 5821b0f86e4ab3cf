import Clausal.Family.Cube
import Clausal.Family.Grid
import Clausal.Family.Open
import Clausal.Proofs.Encoding.Growth

/-!
# Runs of operations

Every way to work on an encoding as one value of `Operation`, with what it leaves behind and
whether it succeeded.  The reachable encodings are those that some sequence of operations
makes out of an empty one, failing operations included.  A family is an argument of the
operation that fetches through it, and may be any family at all, of whatever encoding.
-/

namespace Clausal

inductive Operation : Type 1 where
  | newVariable (name : Option String)
  | newLine
  | newGrid (columns : UInt64) (symmetric : Bool)
  | newCube (rows columns : UInt64)
  | newOpenFamily (arity : Nat)
  | literal (var : UInt8) (index : UInt32)
  | register (key : Literal)
  | fetch {φ γ : Type} [Family φ γ] (family : φ) (coords : γ)
  | fetchNamed {φ γ : Type} [Family φ γ] (family : φ) (name : String) (coords : γ)
  | addClause (clause : Clause Literal)
  | addHard (literals : List Literal)
  | addSoft (cost : UInt64) (literals : List Literal)
  | addHards (clauses : List (List Literal))
  | comment (text : String)
  | commentHard (text : String)
  | commentSoft (text : String)
  | clone

namespace Operation

/-- What an attempt leaves of an encoding: the new one, or the old one after a failure. -/
def settle (e : Encoding) :
    Except EncodingError Encoding → Encoding × Except EncodingError Unit
  | .ok next => (next, .ok ())
  | .error failure => (e, .error failure)

def run (e : Encoding) : Operation → Encoding × Except EncodingError Unit
  | newVariable name => settle e ((e.newVariable name).map Prod.fst)
  | newLine => settle e (e.newLine.map Prod.fst)
  | newGrid columns symmetric => settle e ((e.newGrid columns symmetric).map Prod.fst)
  | newCube rows columns => settle e ((e.newCube rows columns).map Prod.fst)
  | newOpenFamily arity => settle e ((e.newOpenFamily arity).map Prod.fst)
  | literal var index => settle e ((e.literal var index).map Prod.fst)
  | register key => settle e ((e.register key).map Prod.fst)
  | fetch family coords => settle e ((Family.fetch family e coords).2.map Prod.fst)
  | fetchNamed family name coords =>
      settle e ((Family.fetchNamed family e name coords).2.map Prod.fst)
  | addClause clause => settle e (e.addClause clause)
  | addHard literals => settle e (e.addHard literals)
  | addSoft cost literals => settle e (e.addSoft cost literals)
  | addHards clauses => e.addHards clauses
  | comment text => settle e (e.comment text)
  | commentHard text => settle e (e.commentHard text)
  | commentSoft text => settle e (e.commentSoft text)
  | clone => (e, .ok ())

/-- A failure leaves the encoding as it was, so what holds of every success holds of an attempt. -/
theorem settle_related {R : Encoding → Encoding → Prop} {e : Encoding}
    {attempt : Except EncodingError Encoding} (kept : R e e)
    (h : ∀ next, attempt = .ok next → R e next) : R e (settle e attempt).1 := by
  cases attempt with
  | error failure => exact kept
  | ok next => exact h next rfl

theorem settle_map_related {α : Type} {R : Encoding → Encoding → Prop} {e : Encoding}
    {attempt : Except EncodingError (Encoding × α)} (kept : R e e)
    (h : ∀ next result, attempt = .ok (next, result) → R e next) :
    R e (settle e (attempt.map Prod.fst)).1 := by
  apply settle_related kept
  intro next hn
  obtain ⟨⟨next', result⟩, ha, rfl⟩ := map_eq_ok_iff.mp hn
  exact h next' result ha

end Operation

/-! ## Families -/

namespace Family

variable {φ γ : Type} [Family φ γ]

/-- A successful fetch went to the family's own encoding and registered the literal of the
index that the family gave. -/
theorem fetch_eq_ok_iff {family : φ} {e e' : Encoding} {coords : γ} {literal : Literal} :
    (fetch family e coords).2 = .ok (e', literal) ↔
      e.id = owner family ∧ ∃ index next, indexOf family coords = .ok (index, next) ∧
        e.fetch ⟨var family, index⟩ = .ok (e', literal) := by
  by_cases howner : e.id = owner family
  · rw [fetch_owned howner]
    cases hi : indexOf family coords with
    | error failure => simp
    | ok pair =>
        obtain ⟨index, next⟩ := pair
        simp [howner]
  · simp [fetch_foreign howner, howner]

theorem fetchNamed_eq_ok_iff {family : φ} {e e' : Encoding} {name : String} {coords : γ}
    {literal : Literal} :
    (fetchNamed family e name coords).2 = .ok (e', literal) ↔
      ∃ plain, (fetch family e coords).2 = .ok (e', plain) ∧
        literal = plain.named name (labelCoords (fetch family e coords).1 coords) := by
  unfold fetchNamed
  rw [map_eq_ok_iff]
  constructor
  · rintro ⟨⟨next, plain⟩, hf, hp⟩
    cases hp
    exact ⟨plain, hf, rfl⟩
  · rintro ⟨plain, hf, rfl⟩
    exact ⟨(e', plain), hf, rfl⟩

theorem fetch_grows {family : φ} {e e' : Encoding} {coords : γ} {literal : Literal}
    (h : (fetch family e coords).2 = .ok (e', literal)) : e.Grows e' := by
  obtain ⟨-, index, next, -, hf⟩ := fetch_eq_ok_iff.mp h
  exact Encoding.fetch_grows hf

theorem fetchNamed_grows {family : φ} {e e' : Encoding} {name : String} {coords : γ}
    {literal : Literal} (h : (fetchNamed family e name coords).2 = .ok (e', literal)) :
    e.Grows e' := by
  obtain ⟨plain, hf, -⟩ := fetchNamed_eq_ok_iff.mp h
  exact fetch_grows hf

end Family

namespace Encoding

theorem map_newVariable_grows {φ : Type} {e e' : Encoding} {family : φ}
    {make : Encoding × VariableId → Encoding × φ}
    (h : (e.newVariable none).map make = .ok (e', family))
    (keeps : ∀ next var, (make (next, var)).1 = next) : e.Grows e' := by
  obtain ⟨⟨next, var⟩, hn, hm⟩ := map_eq_ok_iff.mp h
  have he : e' = next := (congrArg Prod.fst hm).symm.trans (keeps next var)
  exact he ▸ newVariable_grows hn

theorem newLine_grows {e e' : Encoding} {line : Line} (h : e.newLine = .ok (e', line)) :
    e.Grows e' := map_newVariable_grows h fun _ _ => rfl

theorem newGrid_grows {e e' : Encoding} {columns : UInt64} {symmetric : Bool} {grid : Grid}
    (h : e.newGrid columns symmetric = .ok (e', grid)) : e.Grows e' :=
  map_newVariable_grows h fun _ _ => rfl

theorem newCube_grows {e e' : Encoding} {rows columns : UInt64} {cube : Cube}
    (h : e.newCube rows columns = .ok (e', cube)) : e.Grows e' :=
  map_newVariable_grows h fun _ _ => rfl

theorem newOpenFamily_grows {e e' : Encoding} {arity : Nat} {family : OpenFamily}
    (h : e.newOpenFamily arity = .ok (e', family)) : e.Grows e' :=
  map_newVariable_grows h fun _ _ => rfl

end Encoding

/-! ## Runs -/

/-- Whether or not it succeeds, an operation only makes elementary changes. -/
theorem Operation.run_grows (e : Encoding) (op : Operation) : e.Grows (op.run e).1 := by
  cases op with
  | newVariable name => exact settle_map_related .refl fun _ _ h => Encoding.newVariable_grows h
  | newLine => exact settle_map_related .refl fun _ _ h => Encoding.newLine_grows h
  | newGrid columns symmetric =>
      exact settle_map_related .refl fun _ _ h => Encoding.newGrid_grows h
  | newCube rows columns => exact settle_map_related .refl fun _ _ h => Encoding.newCube_grows h
  | newOpenFamily arity => exact settle_map_related .refl fun _ _ h => Encoding.newOpenFamily_grows h
  | literal var index => exact settle_map_related .refl fun _ _ h => Encoding.literal_grows h
  | register key => exact settle_map_related .refl fun _ _ h => Encoding.register_grows h
  | fetch family coords => exact settle_map_related .refl fun _ _ h => Family.fetch_grows h
  | fetchNamed family name coords =>
      exact settle_map_related .refl fun _ _ h => Family.fetchNamed_grows h
  | addClause clause => exact settle_related .refl fun _ h => Encoding.addClause_grows h
  | addHard literals => exact settle_related .refl fun _ h => Encoding.addHard_grows h
  | addSoft cost literals => exact settle_related .refl fun _ h => Encoding.addSoft_grows h
  | addHards clauses => exact Encoding.addHards_grows e clauses
  | comment text => exact settle_related .refl fun _ h => Encoding.comment_grows h
  | commentHard text => exact settle_related .refl fun _ h => Encoding.commentHard_grows h
  | commentSoft text => exact settle_related .refl fun _ h => Encoding.commentSoft_grows h
  | clone => exact .refl

namespace Encoding

/-- The encodings that operations make out of an empty one. -/
inductive Reachable : Encoding → Prop
  | empty (id : EncodingId) : Reachable (empty id)
  | step {e : Encoding} (op : Operation) (h : Reachable e) : Reachable (op.run e).1

theorem Reachable.grown {e : Encoding} (h : e.Reachable) : ∃ id, (Encoding.empty id).Grows e := by
  induction h with
  | empty id => exact ⟨id, .refl⟩
  | step op _ ih =>
      obtain ⟨id, grown⟩ := ih
      exact ⟨id, grown.trans (op.run_grows _)⟩

end Encoding

end Clausal

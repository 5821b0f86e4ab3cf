import Clausal.Encoding.Basic

/-!
# Families

A family is the group of literals of one variable, addressed by coordinates.  Fetching a
literal registers it with the encoding that the family belongs to.  Asking for an index may
change the family, so the family that results is answered together with the index; a
request that fails leaves it as it was.  A fetch answers the family also when it fails,
because the index may have been handed out before the encoding refused the literal.
-/

namespace Clausal

class Family (φ : Type) (γ : outParam Type) where
  /-- The encoding whose literals the family addresses. -/
  owner : φ → EncodingId
  var : φ → VariableId
  indexOf : φ → γ → Except EncodingError (UInt32 × φ)
  coordsOf : φ → UInt32 → Except EncodingError γ
  labelCoords : φ → γ → List UInt64

namespace Family

variable {φ γ : Type} [Family φ γ]

/-- Fetches the literal at these coordinates and registers it. -/
def fetch (family : φ) (e : Encoding) (coords : γ) :
    φ × Except EncodingError (Encoding × Literal) :=
  if e.id ≠ owner family then (family, .error (.foreignFamily (var family)))
  else
    match indexOf family coords with
    | .error failure => (family, .error failure)
    | .ok (index, next) => (next, e.fetch ⟨var family, index⟩)

/-- Fetches the literal at these coordinates and labels it with the name and coordinates. -/
def fetchNamed (family : φ) (e : Encoding) (name : String) (coords : γ) :
    φ × Except EncodingError (Encoding × Literal) :=
  let (next, fetched) := fetch family e coords
  (next, fetched.map fun result => (result.1, result.2.named name (labelCoords next coords)))

theorem fetch_foreign {family : φ} {e : Encoding} (h : e.id ≠ owner family) (coords : γ) :
    fetch family e coords = (family, .error (.foreignFamily (var family))) := by
  simp [fetch, h]

theorem fetch_owned {family : φ} {e : Encoding} (h : e.id = owner family) (coords : γ) :
    fetch family e coords =
      match indexOf family coords with
      | .error failure => (family, .error failure)
      | .ok (index, next) => (next, e.fetch ⟨var family, index⟩) := by
  simp [fetch, h]

end Family

def indexOfWord (value : UInt64) : Except EncodingError UInt32 :=
  if value.toNat < UInt32.size then .ok (UInt32.ofNat value.toNat) else .error .indexOverflow

def indexOfChecked : Option UInt64 → Except EncodingError UInt32
  | some value => indexOfWord value
  | none => .error .indexOverflow

def checkAxis (axis : Nat) (value size : UInt64) : Except EncodingError Unit :=
  if value < size then .ok () else .error (.coordinateOutOfRange axis value size)

theorem indexOfWord_eq_ok_iff {value : UInt64} {index : UInt32} :
    indexOfWord value = .ok index ↔ value.toNat = index.toNat := by
  unfold indexOfWord
  split
  · rename_i h
    rw [Except.ok.injEq]
    constructor
    · intro hi
      rw [← hi, UInt32.toNat_ofNat_of_lt' h]
    · intro hi
      rw [hi, UInt32.ofNat_toNat]
  · rename_i h
    simp only [reduceCtorEq, false_iff]
    intro hi
    exact h (hi ▸ index.toNat_lt)

/-- Exactly the numbers of 32 bits are indices. -/
theorem exists_index_iff {n : Nat} :
    (∃ index : UInt32, n = index.toNat) ↔ n < UInt32.size := by
  constructor
  · rintro ⟨index, rfl⟩
    exact index.toNat_lt
  · intro hlt
    exact ⟨UInt32.ofNat n, (UInt32.toNat_ofNat_of_lt' hlt).symm⟩

end Clausal

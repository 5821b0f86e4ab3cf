import Clausal.Proofs.Family.Seen
import Clausal.Proofs.Repetition
import Clausal.Proofs.Valuation

/-!
# Requests to an open family

An open family is asked for indices, as a whole or through its slices, in any order.  A `Ledger`
keeps the family beside a list of what it has given out.  Without repetitions that list is the list
of the family's tuples with their places: a tuple has the number of different tuples that got an
index before it did, and keeps it.
-/

namespace Clausal

namespace Slice

/-! ## Slices -/

variable {family : OpenFamily} {lead : List UInt64} {slice : Slice}

theorem slice_eq_ok_iff :
    family.slice lead = .ok slice ↔ slice.base = family ∧ slice.lead = lead := by
  constructor
  · exact of_slice
  · rintro ⟨rfl, rfl⟩
    exact dif_pos slice.lead_le_arity

theorem exists_slice_iff :
    (∃ slice, family.slice lead = .ok slice) ↔ lead.length ≤ family.arity := by
  simp only [slice_eq_ok_iff]
  constructor
  · rintro ⟨slice, rfl, rfl⟩
    exact slice.lead_le_arity
  · intro h
    exact ⟨⟨family, lead, h⟩, rfl, rfl⟩

theorem coordsOf_eq_ok_iff {index : UInt32} {rest : List UInt64} :
    slice.coordsOf index = .ok rest ↔ slice.base.coordsOf index = .ok (slice.lead ++ rest) := by
  unfold coordsOf
  rw [bind_eq_ok_iff]
  constructor
  · rintro ⟨tuple, hbase, h⟩
    split at h
    · rename_i hlead
      obtain ⟨other, rfl⟩ := List.isPrefixOf_iff_prefix.mp hlead
      rw [List.drop_left, Except.ok.injEq] at h
      rw [hbase, h]
    · cases h
  · intro hbase
    refine ⟨_, hbase, ?_⟩
    rw [if_pos (List.isPrefixOf_iff_prefix.mpr (List.prefix_append _ _)), List.drop_left]

theorem indexOf_map_base {rest : List UInt64}
    (count : rest.length = slice.base.arity - slice.lead.length) :
    (slice.indexOf rest).map (fun given => (given.1, given.2.base)) =
      slice.base.indexOf (slice.lead ++ rest) := by
  cases hslice : slice.indexOf rest with
  | ok given => exact (indexOf_base hslice).symm
  | error failure =>
      rcases indexOf_eq_error_iff.mp hslice with ⟨hcount, -⟩ | ⟨-, hbase⟩
      · exact absurd count hcount
      · exact hbase.symm

/-- The same failure, up to the numbers of coordinates that it may show. -/
def SameFailure (a b : EncodingError) : Prop :=
  a = b ∨ ∃ expected got expected' got',
    a = .arityMismatch expected got ∧ b = .arityMismatch expected' got'

/-- A slice answers as the family does for the whole tuples, and leaves what the family leaves. -/
structure Shows (family : OpenFamily) (lead : List UInt64) (slice : Slice) : Prop where
  indexOf_iff (rest : List UInt64) (index : UInt32) (next : OpenFamily) :
    (∃ view, slice.indexOf rest = .ok (index, view) ∧ view.base = next) ↔
      family.indexOf (lead ++ rest) = .ok (index, next)
  stays (rest : List UInt64) (index : UInt32) (view : Slice) :
    slice.indexOf rest = .ok (index, view) → view.base.slice lead = .ok view
  fails (rest : List UInt64) (failure : EncodingError) :
    slice.indexOf rest = .error failure →
      ∃ whole, family.indexOf (lead ++ rest) = .error whole ∧ SameFailure failure whole
  counts (rest : List UInt64) (expected got : Nat) :
    slice.indexOf rest = .error (.arityMismatch expected got) →
      lead.length + expected = family.arity ∧ got = rest.length
  coordsOf_iff (index : UInt32) (rest : List UInt64) :
    slice.coordsOf index = .ok rest ↔ family.coordsOf index = .ok (lead ++ rest)

theorem shows_of_slice (h : family.slice lead = .ok slice) : Shows family lead slice := by
  obtain ⟨rfl, rfl⟩ := of_slice h
  have hle := slice.lead_le_arity
  refine ⟨fun rest index next => ?_, fun rest index view hview => ?_, fun rest failure hfail => ?_,
    fun rest expected got hfail => ?_, fun index rest => coordsOf_eq_ok_iff⟩
  · constructor
    · rintro ⟨view, hview, rfl⟩
      exact indexOf_base hview
    · intro hbase
      have hkeeps := OpenFamily.arity_of_indexOf hbase
      exact ⟨⟨next, slice.lead, hkeeps ▸ hle⟩, indexOf_eq_ok_iff.mpr ⟨hbase, rfl⟩, rfl⟩
  · obtain ⟨-, hlead⟩ := indexOf_eq_ok_iff.mp hview
    exact slice_eq_ok_iff.mpr ⟨rfl, hlead⟩
  · rcases indexOf_eq_error_iff.mp hfail with ⟨hcount, rfl⟩ | ⟨-, hbase⟩
    · have hwhole : (slice.lead ++ rest).length ≠ slice.base.arity := by
        rw [List.length_append]
        omega
      exact ⟨_, OpenFamily.indexOf_eq_error_iff.mpr (.inl ⟨hwhole, rfl⟩),
        .inr ⟨_, _, _, _, rfl, rfl⟩⟩
    · exact ⟨failure, hbase, .inl rfl⟩
  · rcases indexOf_eq_error_iff.mp hfail with ⟨-, hcounts⟩ | ⟨hcount, hbase⟩
    · cases hcounts
      exact ⟨Nat.add_sub_of_le hle, rfl⟩
    · -- With the right count the whole tuple has all its coordinates.
      rw [OpenFamily.indexOf_eq_error_iff, List.length_append] at hbase
      simp only [reduceCtorEq, and_false, or_false] at hbase
      omega

end Slice

namespace OpenFamily

/-! ## Requests -/

/-- A request for the index of a tuple, or of the rest of one after the coordinates of a slice. -/
inductive Request where
  | whole (tuple : List UInt64)
  | part (lead rest : List UInt64)
  deriving DecidableEq, Repr

def Request.full : Request → List UInt64
  | whole tuple => tuple
  | part lead rest => lead ++ rest

def answer (family : OpenFamily) : Request → Except EncodingError (UInt32 × OpenFamily)
  | .whole tuple => family.indexOf tuple
  | .part lead rest => do
      let slice ← family.slice lead
      (slice.indexOf rest).map fun given => (given.1, given.2.base)

theorem answer_eq_ok_iff {family next : OpenFamily} {request : Request} {index : UInt32} :
    family.answer request = .ok (index, next) ↔
      family.indexOf request.full = .ok (index, next) := by
  cases request with
  | whole tuple => exact Iff.rfl
  | part lead rest =>
      simp only [answer, Request.full, bind_eq_ok_iff, map_eq_ok_iff, Prod.exists]
      constructor
      · rintro ⟨slice, hslice, given, view, hgiven, hpair⟩
        cases hpair
        exact ((Slice.shows_of_slice hslice).indexOf_iff rest _ _).mp ⟨view, hgiven, rfl⟩
      · intro h
        have hle : lead.length ≤ family.arity := by
          have hlength := (indexOf_eq_ok_iff.mp h).1
          rw [List.length_append] at hlength
          omega
        obtain ⟨slice, hslice⟩ := Slice.exists_slice_iff.mpr hle
        obtain ⟨view, hgiven, rfl⟩ := ((Slice.shows_of_slice hslice).indexOf_iff rest _ _).mpr h
        exact ⟨slice, hslice, index, view, hgiven, rfl⟩

theorem exists_answer_iff {family : OpenFamily} (room : family.size ≤ UInt32.size)
    {request : Request} :
    (∃ given, family.answer request = .ok given) ↔
      request.full.length = family.arity ∧
        (request.full ∈ family.seen ∨ family.size < UInt32.size) := by
  simp only [Prod.exists, answer_eq_ok_iff, indexOf_eq_ok_iff, exists_and_left, exists_eq, and_true,
    exists_index_iff]
  refine and_congr_right fun _ => ?_
  by_cases hseen : request.full ∈ family.seen
  · have hlt : family.seen.idxOf request.full < family.size := List.idxOf_lt_length_iff.mpr hseen
    exact iff_of_true (Nat.lt_of_lt_of_le hlt room) (.inl hseen)
  · rw [List.idxOf_eq_length hseen, or_iff_right hseen]
    rfl

theorem exists_coordsOf_iff {family : OpenFamily} {index : UInt32} :
    (∃ tuple, family.coordsOf index = .ok tuple) ↔ index.toNat < family.size := by
  simp only [coordsOf_eq_ok_iff]
  rw [← Option.isSome_iff_exists, Option.isSome_iff_ne_none, ne_eq, List.getElem?_eq_none_iff,
    Nat.not_le, size]

/-! ## Requests in place -/

/-- The index of a tuple, which is noted where it is new: the index is made before the tuple is
written. -/
def lookup (tuple : List UInt64) : EStateM EncodingError OpenFamily UInt32 := do
  let family ← get
  if tuple.length ≠ family.arity then throw (.arityMismatch family.arity tuple.length)
  match family.seen.findIdx? (· == tuple) with
  | some place => ofExcept (indexOfPlace place)
  | none =>
      let index ← ofExcept (indexOfPlace family.size)
      set { family with seen := family.seen ++ [tuple] }
      return index

/-- A request carried out in place; a slice completes the tuple and has its base look it up. -/
def request : Request → EStateM EncodingError OpenFamily UInt32
  | .whole tuple => lookup tuple
  | .part lead rest => do
      let family ← get
      if family.arity < lead.length then throw (.arityMismatch family.arity lead.length)
      let expected := family.arity - lead.length
      if rest.length ≠ expected then throw (.arityMismatch expected rest.length)
      lookup (lead ++ rest)

theorem lookup_apply (tuple : List UInt64) (family : OpenFamily) :
    lookup tuple family = inPlace family ((family.indexOf tuple).map Prod.swap) := by
  change (if tuple.length ≠ family.arity then _ else _ : EStateM EncodingError OpenFamily UInt32)
    family = _
  rw [indexOf]
  by_cases hcount : tuple.length ≠ family.arity
  · rw [if_pos hcount, if_pos hcount]
    rfl
  rw [if_neg hcount, if_neg hcount]
  change (match family.seen.findIdx? (· == tuple) with | some _ => _ | none => _ :
    EStateM EncodingError OpenFamily UInt32) family = _
  cases family.seen.findIdx? (· == tuple) with
  | some place =>
      simp only
      cases indexOfPlace place with
      | error failure => rfl
      | ok index => rfl
  | none =>
      simp only
      rw [bind_apply]
      cases indexOfPlace family.size with
      | error failure => rfl
      | ok index => rfl

theorem request_apply (asked : Request) (family : OpenFamily) :
    request asked family = inPlace family ((family.answer asked).map Prod.swap) := by
  cases asked with
  | whole tuple => exact lookup_apply tuple family
  | part lead rest =>
      change (if family.arity < lead.length then _ else _ :
        EStateM EncodingError OpenFamily UInt32) family = _
      rw [answer, slice]
      by_cases hlead : family.arity < lead.length
      · rw [if_pos hlead, dif_neg (Nat.not_le.mpr hlead)]
        rfl
      rw [if_neg hlead, dif_pos (Nat.not_lt.mp hlead)]
      change (if rest.length ≠ family.arity - lead.length then _ else _ :
        EStateM EncodingError OpenFamily UInt32) family = inPlace family
          (((Slice.indexOf ⟨family, lead, _⟩ rest).map _).map Prod.swap)
      by_cases hcount : rest.length ≠ family.arity - lead.length
      · rw [if_pos hcount, Slice.indexOf_eq_error_iff.mpr (.inl ⟨hcount, rfl⟩)]
        rfl
      · rw [if_neg hcount, Slice.indexOf_map_base (not_not.mp hcount)]
        exact lookup_apply (lead ++ rest) family

end OpenFamily

/-! ## Ledgers -/

/-- A family with the tuples that got an index from it, each time they did, in order. -/
structure Ledger where
  family : OpenFamily
  given : List (List UInt64 × UInt32)

namespace Ledger

/-- A request carried out in place on the family; only one that succeeds is put on record. -/
def serve (ledger : Ledger) (request : OpenFamily.Request) : Ledger :=
  match OpenFamily.request request ledger.family with
  | .ok index next => ⟨next, ledger.given ++ [(request.full, index)]⟩
  | .error _ left => ⟨left, ledger.given⟩

theorem serve_of_error {ledger : Ledger} {request : OpenFamily.Request} {failure : EncodingError}
    (h : ledger.family.answer request = .error failure) : ledger.serve request = ledger := by
  rw [serve, OpenFamily.request_apply, h]
  rfl

theorem serve_of_ok {ledger : Ledger} {request : OpenFamily.Request} {index : UInt32}
    {next : OpenFamily} (h : ledger.family.answer request = .ok (index, next)) :
    ledger.serve request = ⟨next, ledger.given ++ [(request.full, index)]⟩ := by
  rw [serve, OpenFamily.request_apply, h]
  rfl

def serveAll (ledger : Ledger) (requests : List OpenFamily.Request) : Ledger :=
  requests.foldl Ledger.serve ledger

/-- The ledgers of a new family, after any requests. -/
inductive Reachable : Ledger → Prop
  | fresh (owner : EncodingId) (var : VariableId) (arity : Nat) :
      Reachable ⟨⟨owner, var, arity, []⟩, []⟩
  | serve {ledger : Ledger} (request : OpenFamily.Request) (h : Reachable ledger) :
      Reachable (ledger.serve request)

def place (entry : List UInt64 × UInt32) : List UInt64 × Nat := (entry.1, entry.2.toNat)

structure Sound (ledger : Ledger) : Prop where
  distinct : ledger.family.seen.Nodup
  complete : ∀ tuple ∈ ledger.family.seen, tuple.length = ledger.family.arity
  room : ledger.family.size ≤ UInt32.size
  numbered : ledger.given.eraseDups.map place = ledger.family.seen.zipIdx

theorem place_injective : Function.Injective place := by
  rintro ⟨tuple, index⟩ ⟨tuple', index'⟩ h
  simp only [place, Prod.mk.injEq, UInt32.toNat_inj] at h
  rw [h.1, h.2]

theorem sound_fresh (owner : EncodingId) (var : VariableId) (arity : Nat) :
    Sound ⟨⟨owner, var, arity, []⟩, []⟩ where
  distinct := List.nodup_nil
  complete := nofun
  room := Nat.zero_le _
  numbered := rfl

section

variable {ledger : Ledger} (h : ledger.Sound)

include h

theorem Sound.mem_given_iff {tuple : List UInt64} {index : UInt32} :
    (tuple, index) ∈ ledger.given ↔ ledger.family.seen[index.toNat]? = some tuple := by
  rw [← List.mem_eraseDups, ← List.mem_map_of_injective place_injective, h.numbered,
    List.mem_zipIdx_iff_getElem?]
  rfl

theorem Sound.again {entry : List UInt64 × UInt32} (known : entry ∈ ledger.given) :
    Sound ⟨ledger.family, ledger.given ++ [entry]⟩ where
  distinct := h.distinct
  complete := h.complete
  room := h.room
  numbered := by
    rw [eraseDups_concat_of_mem known]
    exact h.numbered

theorem Sound.enter {tuple : List UInt64} {index : UInt32} (unseen : tuple ∉ ledger.family.seen)
    (complete : tuple.length = ledger.family.arity) (next : ledger.family.size = index.toNat) :
    Sound ⟨{ ledger.family with seen := ledger.family.seen ++ [tuple] },
      ledger.given ++ [(tuple, index)]⟩ where
  distinct := by
    rw [← List.concat_eq_append]
    exact h.distinct.concat unseen
  complete := List.forall_mem_append.mpr ⟨h.complete, List.forall_mem_singleton.mpr complete⟩
  room := by
    have hlt := index.toNat_lt
    rw [← next] at hlt
    rw [OpenFamily.size, List.length_append, List.length_singleton]
    exact hlt
  numbered := by
    have hnew : (tuple, index) ∉ ledger.given := fun hmem =>
      unseen (List.mem_of_getElem? (h.mem_given_iff.mp hmem))
    rw [eraseDups_concat_of_not_mem hnew, List.map_append, h.numbered, List.zipIdx_append,
      List.map_singleton, List.zipIdx_singleton, Nat.zero_add, place, ← next]
    rfl

theorem Sound.serve (request : OpenFamily.Request) : (ledger.serve request).Sound := by
  cases hanswer : ledger.family.answer request with
  | error failure =>
      rw [serve_of_error hanswer]
      exact h
  | ok made =>
      obtain ⟨index, next⟩ := made
      rw [serve_of_ok hanswer]
      obtain ⟨complete, hplace, rfl⟩ :=
        OpenFamily.indexOf_eq_ok_iff.mp (OpenFamily.answer_eq_ok_iff.mp hanswer)
      by_cases seen : request.full ∈ ledger.family.seen
      · have hfound := ledger.family.getElem?_noting request.full
        rw [OpenFamily.noting_of_mem seen, hplace] at hfound
        rw [OpenFamily.noting_of_mem seen]
        exact h.again (h.mem_given_iff.mpr hfound)
      · rw [OpenFamily.noting_of_not_mem seen]
        exact h.enter seen complete ((List.idxOf_eq_length seen).symm.trans hplace)

end

theorem Reachable.sound {ledger : Ledger} (h : ledger.Reachable) : ledger.Sound := by
  induction h with
  | fresh owner var arity => exact sound_fresh owner var arity
  | serve request _ ih => exact ih.serve request

theorem Reachable.serveAll {ledger : Ledger} (h : ledger.Reachable)
    (requests : List OpenFamily.Request) : (ledger.serveAll requests).Reachable := by
  induction requests generalizing ledger with
  | nil => exact h
  | cons request rest ih => exact ih (.serve request h)

theorem mem_given_serveAll {ledger : Ledger} {entry : List UInt64 × UInt32}
    (h : entry ∈ ledger.given) (requests : List OpenFamily.Request) :
    entry ∈ (ledger.serveAll requests).given := by
  induction requests generalizing ledger with
  | nil => exact h
  | cons request rest ih =>
      apply ih
      cases hanswer : ledger.family.answer request with
      | error failure =>
          rw [serve_of_error hanswer]
          exact h
      | ok made =>
          rw [serve_of_ok hanswer]
          exact List.mem_append_left _ h

section

variable {ledger : Ledger} (h : ledger.Sound)

include h

theorem Sound.fst_eq_iff {x y : List UInt64 × UInt32} (hx : x ∈ ledger.given)
    (hy : y ∈ ledger.given) : x.1 = y.1 ↔ x.2 = y.2 := by
  have hseenX := h.mem_given_iff.mp hx
  have hseenY := h.mem_given_iff.mp hy
  constructor
  · intro heq
    have hlt := (List.getElem?_eq_some_iff.mp hseenX).1
    rw [heq, ← hseenY] at hseenX
    exact UInt32.toNat_inj.mp ((List.getElem?_inj hlt h.distinct).mp hseenX)
  · intro heq
    rw [heq, hseenY] at hseenX
    exact (Option.some.inj hseenX).symm

theorem Sound.coordsOf_iff {index : UInt32} {tuple : List UInt64} :
    ledger.family.coordsOf index = .ok tuple ↔ (tuple, index) ∈ ledger.given := by
  rw [OpenFamily.coordsOf_eq_ok_iff, h.mem_given_iff]

theorem Sound.exists_entry_iff {n : Nat} :
    (∃ entry ∈ ledger.given, entry.2.toNat = n) ↔ n < ledger.family.size := by
  constructor
  · rintro ⟨entry, hentry, rfl⟩
    exact (List.getElem?_eq_some_iff.mp (h.mem_given_iff.mp hentry)).1
  · intro hlt
    obtain ⟨index, rfl⟩ := exists_index_iff.mpr (Nat.lt_of_lt_of_le hlt h.room)
    exact ⟨(ledger.family.seen[index.toNat], index),
      h.mem_given_iff.mpr (List.getElem?_eq_getElem hlt), rfl⟩

end

/-- The numbering that a family keeps, whatever it is asked for. -/
structure Numbered (ledger : Ledger) : Prop where
  distinct : ledger.family.seen.Nodup
  inOrder : ledger.given.eraseDups.map place = ledger.family.seen.zipIdx
  indices (n : Nat) : (∃ entry ∈ ledger.given, entry.2.toNat = n) ↔ n < ledger.family.size
  lasting (requests : List OpenFamily.Request) :
    ∀ old ∈ ledger.given, ∀ entry ∈ (ledger.serveAll requests).given,
      entry.1 = old.1 ↔ entry.2 = old.2
  exists_coordsOf_iff (index : UInt32) :
    (∃ tuple, ledger.family.coordsOf index = .ok tuple) ↔ index.toNat < ledger.family.size
  coordsOf_iff (index : UInt32) (tuple : List UInt64) :
    ledger.family.coordsOf index = .ok tuple ↔ (tuple, index) ∈ ledger.given
  exists_answer_iff (request : OpenFamily.Request) :
    (∃ given, ledger.family.answer request = .ok given) ↔
      request.full.length = ledger.family.arity ∧
        (request.full ∈ ledger.family.seen ∨ ledger.family.size < UInt32.size)
  unchanged (request : OpenFamily.Request) (failure : EncodingError) :
    ledger.family.answer request = .error failure → ledger.serve request = ledger
  exists_slice_iff (lead : List UInt64) :
    (∃ slice, ledger.family.slice lead = .ok slice) ↔ lead.length ≤ ledger.family.arity
  shows (lead : List UInt64) (slice : Slice) :
    ledger.family.slice lead = .ok slice → Slice.Shows ledger.family lead slice

/-- An open family gives out the numbers from zero on, in the order in which different tuples first
get one, however it is asked.  They lead back to their tuples and never change, and a slice gives
out those of the tuples that it shows. -/
theorem tuples_numbered_once {ledger : Ledger} (h : ledger.Reachable) : ledger.Numbered := by
  have sound := h.sound
  refine {
    distinct := sound.distinct
    inOrder := sound.numbered
    indices := fun n => sound.exists_entry_iff
    lasting := fun requests old hold entry hentry => ?_
    exists_coordsOf_iff := fun index => OpenFamily.exists_coordsOf_iff
    coordsOf_iff := fun index tuple => sound.coordsOf_iff
    exists_answer_iff := fun request => OpenFamily.exists_answer_iff sound.room
    unchanged := fun request failure hfail => serve_of_error hfail
    exists_slice_iff := fun lead => Slice.exists_slice_iff
    shows := fun lead slice => Slice.shows_of_slice }
  exact (h.serveAll requests).sound.fst_eq_iff hentry (mem_given_serveAll hold requests)

/-- The family and a slice of it are asked in turn, also for too few coordinates. -/
def interleaved : Ledger :=
  serveAll ⟨⟨0, firstVariable, 2, []⟩, []⟩
    [.whole [9, 9], .part [1] [2], .whole [9, 9], .whole [7], .part [1] [], .whole [1, 2]]

theorem interleaved_numbered :
    interleaved.Reachable ∧
      interleaved.given = [([9, 9], 0), ([1, 2], 1), ([9, 9], 0), ([1, 2], 1)] ∧
      interleaved.family.coordsOf 1 = .ok [1, 2] ∧
      (∃ slice, interleaved.family.slice [1] = .ok slice ∧ slice.coordsOf 1 = .ok [2]) ∧
      ¬ ∃ given, interleaved.family.answer (.part [1] []) = .ok given := by
  have reachable : interleaved.Reachable := (Reachable.fresh _ _ _).serveAll _
  have numbered := tuples_numbered_once reachable
  have hgiven : interleaved.given = [([9, 9], 0), ([1, 2], 1), ([9, 9], 0), ([1, 2], 1)] := by rfl
  have harity : interleaved.family.arity = 2 := by rfl
  have hback : interleaved.family.coordsOf 1 = .ok [1, 2] :=
    (numbered.coordsOf_iff 1 [1, 2]).mpr (by rw [hgiven]; decide)
  obtain ⟨slice, hslice⟩ := (numbered.exists_slice_iff [1]).mpr (by rw [harity]; decide)
  refine ⟨reachable, hgiven, hback, ⟨slice, hslice, ?_⟩, ?_⟩
  · exact ((numbered.shows [1] slice hslice).coordsOf_iff 1 [2]).mpr hback
  · rw [numbered.exists_answer_iff, harity]
    exact fun h => absurd h.1 (by decide)

end Ledger

end Clausal

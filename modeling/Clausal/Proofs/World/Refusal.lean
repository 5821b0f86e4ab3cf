import Clausal.Proofs.Family.Requests
import Clausal.Proofs.World.Sound

/-!
# Failed fetches

A fetch through an open family or one of its slices that fails leaves every encoding as it was.
The family takes note of the tuple in one case only: the encoding has the identity of the family,
but not its variable.  That is so for the original of a clone that allocated the family, and never
for an encoding that holds the family.
-/

namespace Clausal

namespace OpenFamily

/-- All the ways in which a fetch of a whole tuple fails, with the family that it leaves. -/
inductive Failed (family : OpenFamily) (e : Encoding) (tuple : List UInt64) :
    OpenFamily → EncodingError → Prop
  | foreign (other : e.id ≠ family.owner) :
      Failed family e tuple family (.foreignFamily family.var)
  | refused {failure : EncodingError} (own : e.id = family.owner)
      (ungiven : ∀ given, family.indexOf tuple ≠ .ok given)
      (native : failure ≠ .unknownVariable family.var) : Failed family e tuple family failure
  | missing (own : e.id = family.owner) (absent : e.vars.size ≤ family.var.val)
      (given : ∃ given, family.indexOf tuple = .ok given) :
      Failed family e tuple (family.noting tuple) (.unknownVariable family.var)

theorem indexOf_ne_unknown (family : OpenFamily) (tuple : List UInt64) (var : VariableId) :
    family.indexOf tuple ≠ .error (.unknownVariable var) := by
  rw [ne_eq, indexOf_eq_error_iff]
  simp

namespace Failed

variable {family left : OpenFamily} {e : Encoding} {tuple : List UInt64} {failure : EncodingError}
  (h : family.Failed e tuple left failure)

include h

theorem unknown_iff :
    failure = .unknownVariable family.var ↔
      e.id = family.owner ∧ e.vars.size ≤ family.var.val ∧
        ∃ given, family.indexOf tuple = .ok given := by
  cases h with
  | foreign other => exact iff_of_false (by simp) fun hmissing => other hmissing.1
  | refused own ungiven native =>
      refine iff_of_false native ?_
      rintro ⟨-, -, given, hgiven⟩
      exact ungiven given hgiven
  | missing own absent given => exact iff_of_true rfl ⟨own, absent, given⟩

theorem kept (known : failure ≠ .unknownVariable family.var) : left = family := by
  cases h with
  | foreign other => rfl
  | refused own ungiven native => rfl
  | missing own absent given => exact absurd rfl known

theorem noted (unknown : failure = .unknownVariable family.var) : left = family.noting tuple := by
  cases h with
  | foreign other => cases unknown
  | refused own ungiven native => exact absurd unknown native
  | missing own absent given => rfl

end Failed

theorem Failed.of_asked {φ γ : Type} [Family φ γ] {asked : φ} {coords : γ} {e : Encoding}
    {next : φ} {failure : EncodingError} {tuple : List UInt64} (base : φ → OpenFamily)
    (owner : (base asked).owner = Family.owner asked) (var : (base asked).var = Family.var asked)
    (given : ∀ index next, Family.indexOf asked coords = .ok (index, next) →
      (base asked).indexOf tuple = .ok (index, base next))
    (refused : ∀ failure, Family.indexOf asked coords = .error failure →
      (∃ whole, (base asked).indexOf tuple = .error whole) ∧
        failure ≠ .unknownVariable (base asked).var)
    (h : Family.Asked asked e coords (next, .error failure)) :
    (base asked).Failed e tuple (base next) failure := by
  cases h with
  | foreign other =>
      rw [← var]
      exact .foreign (owner ▸ other)
  | refused own hrefused =>
      obtain ⟨⟨whole, hwhole⟩, hnative⟩ := refused _ hrefused
      refine .refused (own.trans owner.symm) (fun given hgiven => ?_) hnative
      cases hwhole.symm.trans hgiven
  | missing own hgiven absent =>
      have hwhole := given _ _ hgiven
      obtain ⟨-, -, hnoting⟩ := indexOf_eq_ok_iff.mp hwhole
      rw [hnoting, ← var]
      exact .missing (own.trans owner.symm) (var ▸ absent) ⟨_, hwhole⟩

theorem failed_of_fetch? {family : OpenFamily} {e : Encoding} {name? : Option String}
    {place : Place} {next : AnyFamily} {failure : EncodingError}
    (h : (AnyFamily.tuples family).fetch? e name? place = some (next, .error failure)) :
    ∃ left, next = .tuples left ∧ family.Failed e place.full left failure := by
  cases place with
  | tuple coords =>
      have hasked := Family.asked_ask family e name? coords
      simp only [AnyFamily.fetch?] at h
      generalize Family.ask family e name? coords = asked at h hasked
      obtain ⟨left, result⟩ := asked
      cases h
      refine ⟨left, rfl, .of_asked id rfl rfl (fun _ _ given => given) (fun failure hrefused => ?_)
        hasked⟩
      refine ⟨⟨failure, hrefused⟩, ?_⟩
      rintro rfl
      exact family.indexOf_ne_unknown coords _ hrefused
  | slice lead rest =>
      simp only [AnyFamily.fetch?] at h
      split at h
      · cases h
      rename_i slice hslice
      have shows := Slice.shows_of_slice hslice
      obtain ⟨rfl, rfl⟩ := Slice.of_slice hslice
      have hasked := Family.asked_ask slice e name? rest
      generalize Family.ask slice e name? rest = asked at h hasked
      obtain ⟨left, result⟩ := asked
      cases h
      refine ⟨left.base, rfl, .of_asked Slice.base rfl rfl
        (fun _ _ given => Slice.indexOf_base given) (fun failure hrefused => ?_) hasked⟩
      obtain ⟨whole, hwhole, -⟩ := shows.fails rest failure hrefused
      refine ⟨⟨whole, hwhole⟩, ?_⟩
      rintro rfl
      rcases Slice.indexOf_eq_error_iff.mp hrefused with ⟨-, hcount⟩ | ⟨-, hbase⟩
      · cases hcount
      · exact slice.base.indexOf_ne_unknown _ _ hbase
  | one a => cases h
  | pair a b => cases h
  | triple a b c => cases h

end OpenFamily

namespace World

variable {w : World} {i j : Nat} {owned : Owned} {copy : Copy} {name? : Option String}
  {place : Place} {next : AnyFamily} {failure : EncodingError}

theorem act_failed (hfamily : w.families[i]? = some owned) (hcopy : w.copies[j]? = some copy)
    (hfail : owned.family.fetch? copy.encoding name? place = some (next, .error failure)) :
    w.act (.fetch i j name? place) =
      { w with families := w.families.set i { owned with family := next } } := by
  simp only [act, hfamily, hcopy, hfail, settle]

theorem act_failed_of_kept (hfamily : w.families[i]? = some owned)
    (hcopy : w.copies[j]? = some copy)
    (hfail : owned.family.fetch? copy.encoding name? place =
      some (owned.family, .error failure)) : w.act (.fetch i j name? place) = w := by
  rw [act_failed hfamily hcopy hfail]
  obtain ⟨hlt, rfl⟩ := List.getElem?_eq_some_iff.mp hfamily
  rw [List.set_getElem_self]

theorem Sound.var_lt_of_held (h : w.Sound) (hfamily : w.families[i]? = some owned)
    (hcopy : w.copies[j]? = some copy) (held : i ∈ copy.held) :
    owned.family.var.val < copy.encoding.vars.size := by
  obtain ⟨var, hvar, hlt⟩ := (h.holding.holds copy (List.mem_of_getElem? hcopy)).known i held
  rw [vars, List.getElem?_map, hfamily, Option.map_some, Option.some.injEq] at hvar
  rw [← hvar] at hlt
  exact hlt

/-- A failed fetch from an open family leaves the world as it is, unless the encoding has the
family's identity but not its variable: then, and only then, the family takes note of a tuple that
has an index.  No encoding that holds the family is of that kind. -/
theorem failed_fetch_changes_no_encoding {family : OpenFamily}
    (hfamily : w.families[i]? = some owned) (hopen : owned.family = .tuples family)
    (hcopy : w.copies[j]? = some copy)
    (hfail : owned.family.fetch? copy.encoding name? place = some (next, .error failure)) :
    (failure = .unknownVariable family.var ↔
        copy.encoding.id = family.owner ∧ copy.encoding.vars.size ≤ family.var.val ∧
          ∃ given, family.indexOf place.full = .ok given) ∧
      (failure ≠ .unknownVariable family.var → w.act (.fetch i j name? place) = w) ∧
      (failure = .unknownVariable family.var →
        w.act (.fetch i j name? place) =
          { w with
            families := w.families.set i
              { owned with family := .tuples (family.noting place.full) } }) ∧
      (w.Reachable → i ∈ copy.held → w.act (.fetch i j name? place) = w) := by
  obtain ⟨left, rfl, hfailed⟩ := OpenFamily.failed_of_fetch? (hopen ▸ hfail)
  have hkept (known : failure ≠ .unknownVariable family.var) :
      w.act (.fetch i j name? place) = w := by
    rw [hfailed.kept known, ← hopen] at hfail
    exact act_failed_of_kept hfamily hcopy hfail
  refine ⟨hfailed.unknown_iff, hkept, fun unknown => ?_, fun reachable held => hkept ?_⟩
  · rw [act_failed hfamily hcopy hfail, hfailed.noted unknown]
  · intro unknown
    have hlt := reachable.sound.var_lt_of_held hfamily hcopy held
    rw [hopen] at hlt
    exact Nat.not_le.mpr hlt (hfailed.unknown_iff.mp unknown).2.1

/-- A clone allocates an open family that its original does not hold. -/
def divided : World := run [.create, .clone 0, .allocate 1 (.tuples 1)]

/-- The family of the clone. -/
def unasked : OpenFamily := ⟨0, firstVariable, 1, []⟩

/-- The clone, with the variable of the family. -/
def holder : Copy := ⟨{ Encoding.empty 0 with vars := #[.fresh none] }, 0, [0]⟩

theorem divided_families : divided.families = [⟨.tuples unasked, 0⟩] := by rfl

theorem divided_original : divided.copies[0]? = some ⟨.empty 0, 0, []⟩ := by rfl

theorem divided_holder : divided.copies[1]? = some holder := by rfl

theorem fetch?_original :
    (AnyFamily.tuples unasked).fetch? (.empty 0) none (.tuple [5]) =
      some (.tuples (unasked.noting [5]), .error (.unknownVariable unasked.var)) := by rfl

theorem divided_refuses :
    divided.Reachable ∧ divided.families[0]? = some ⟨.tuples unasked, 0⟩ ∧
      divided.copies[0]? = some ⟨.empty 0, 0, []⟩ ∧ divided.copies[1]? = some holder ∧
      (AnyFamily.tuples unasked).fetch? (.empty 0) none (.tuple [5]) =
        some (.tuples (unasked.noting [5]), .error (.unknownVariable unasked.var)) ∧
      divided.act (.fetch 0 0 none (.tuple [5])) =
        { divided with families := [⟨.tuples (unasked.noting [5]), 0⟩] } ∧
      (AnyFamily.tuples unasked).fetch? holder.encoding none (.slice [5] [6]) =
        some (.tuples unasked, .error (.arityMismatch 0 1)) ∧
      divided.act (.fetch 0 1 none (.slice [5] [6])) = divided := by
  have reachable : divided.Reachable := reachable_run _
  have hfamily : divided.families[0]? = some ⟨.tuples unasked, 0⟩ := by
    rw [divided_families]
    rfl
  have hcount : (AnyFamily.tuples unasked).fetch? holder.encoding none (.slice [5] [6]) =
      some (.tuples unasked, .error (.arityMismatch 0 1)) := by rfl
  obtain ⟨-, -, hnoted, -⟩ :=
    failed_fetch_changes_no_encoding hfamily rfl divided_original fetch?_original
  obtain ⟨-, -, -, hheld⟩ := failed_fetch_changes_no_encoding hfamily rfl divided_holder hcount
  refine ⟨reachable, hfamily, divided_original, divided_holder, fetch?_original, ?_, hcount,
    hheld reachable List.mem_cons_self⟩
  rw [hnoted rfl, divided_families]
  rfl

/-- A failed fetch may change the family. -/
theorem not_failed_fetch_keeps_tuples :
    ¬ ∀ w : World, w.Reachable → ∀ (i j : Nat) (name? : Option String) (place : Place)
      (owned : Owned) (copy : Copy) (family : OpenFamily) (next : AnyFamily)
      (failure : EncodingError),
      w.families[i]? = some owned → owned.family = .tuples family →
      w.copies[j]? = some copy →
      owned.family.fetch? copy.encoding name? place = some (next, .error failure) →
      next = .tuples family := by
  intro keeps
  have hfamily : divided.families[0]? = some ⟨.tuples unasked, 0⟩ := by
    rw [divided_families]
    rfl
  have hkept := keeps divided (reachable_run _) 0 0 none (.tuple [5]) _ _ _ _ _ hfamily rfl
    divided_original fetch?_original
  exact absurd hkept (by decide)

end World

end Clausal

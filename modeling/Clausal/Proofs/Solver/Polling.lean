import Clausal.Solver.Run

/-!
# Looks at a child

A child that has closed its output is looked at again and again, up to a deadline.  One look ends
the watching or leads to the next one, so a whole run of looks comes to the first that ends it.
There always is such a look, and it is the only one.
-/

namespace Clausal

namespace Child

variable {child : Child} {deadline moment last : Duration} {looks : Nat}

/-! ## One look -/

section

variable (output : List UInt8) (guard : Guard)

theorem poll_of_error {message : String} (h : child.asked moment = .error message) :
    child.poll output deadline moment guard = (.unreadable message, guard.tryWait .failed) := by
  rw [poll, h]

theorem poll_of_ended (h : child.asked moment = .ok true) :
    child.poll output deadline moment guard = (.exited output moment, guard.tryWait .exited) := by
  rw [poll, h]

theorem poll_of_late (h : child.asked moment = .ok false)
    (late : deadline.nanoseconds ≤ moment.nanoseconds) :
    child.poll output deadline moment guard = (.timedOut moment, guard.kill .exited) := by
  rw [poll, h]
  exact if_pos late

theorem poll_of_early (h : child.asked moment = .ok false)
    (early : moment.nanoseconds < deadline.nanoseconds) :
    child.poll output deadline moment guard =
      child.poll output deadline (child.next moment) guard := by
  rw [poll, h]
  exact if_neg (Nat.not_le.mpr early)

end

theorem next_rises (child : Child) (moment : Duration) :
    moment.nanoseconds < (child.next moment).nanoseconds := by
  simp only [next, pause, Duration.ofMilliseconds]
  omega

/-! ## Runs of looks -/

/-- So many looks, all before the deadline, find the child running and lead from a moment to
another one. -/
inductive Looks (child : Child) (deadline : Duration) : Nat → Duration → Duration → Prop
  | here (moment : Duration) : Looks child deadline 0 moment moment
  | later {looks : Nat} {moment last : Duration} (running : child.asked moment = .ok false)
      (early : moment.nanoseconds < deadline.nanoseconds)
      (rest : Looks child deadline looks (child.next moment) last) :
      Looks child deadline (looks + 1) moment last

theorem Looks.poll (h : child.Looks deadline looks moment last) (output : List UInt8)
    (guard : Guard) :
    child.poll output deadline moment guard = child.poll output deadline last guard := by
  induction h with
  | here moment => rfl
  | later running early _ ih => rw [poll_of_early output guard running early, ih]

/-- The look that ends the watching: nothing has to be looked at after it. -/
structure LastLook (child : Child) (deadline : Duration) (looks : Nat) (moment last : Duration) :
    Prop where
  looks : child.Looks deadline looks moment last
  decides : child.asked last = .ok false → deadline.nanoseconds ≤ last.nanoseconds

/-- Every pause brings the deadline closer, so the looks come to an end. -/
theorem exists_lastLook (child : Child) (deadline moment : Duration) :
    ∃ looks last, child.LastLook deadline looks moment last := by
  by_cases decides : child.asked moment = .ok false → deadline.nanoseconds ≤ moment.nanoseconds
  · exact ⟨0, moment, .here moment, decides⟩
  · obtain ⟨running, early⟩ := Classical.not_imp.mp decides
    rw [Nat.not_le] at early
    obtain ⟨looks, last, h⟩ := exists_lastLook child deadline (child.next moment)
    exact ⟨looks + 1, last, .later running early h.looks, h.decides⟩
  termination_by deadline.nanoseconds - moment.nanoseconds
  decreasing_by
    have rises := child.next_rises moment
    omega

theorem LastLook.unique {looks' : Nat} {last' : Duration}
    (h : child.LastLook deadline looks moment last)
    (h' : child.LastLook deadline looks' moment last') : last = last' := by
  obtain ⟨hlooks, hdecides⟩ := h
  induction hlooks generalizing looks' with
  | here moment =>
      cases h'.looks with
      | here => rfl
      | later running early _ => exact absurd (hdecides running) (Nat.not_le.mpr early)
  | later running early _ ih =>
      obtain ⟨hlooks', hdecides'⟩ := h'
      cases hlooks' with
      | here => exact absurd (hdecides' running) (Nat.not_le.mpr early)
      | later _ _ rest' => exact ih ⟨rest', hdecides'⟩ hdecides

/-- What polling comes to is what the last look finds. -/
theorem LastLook.poll (h : child.LastLook deadline looks moment last) (output : List UInt8)
    (guard : Guard) :
    (∃ message, child.asked last = .error message ∧
        child.poll output deadline moment guard =
          (.unreadable message, guard.tryWait .failed)) ∨
      (child.asked last = .ok true ∧
        child.poll output deadline moment guard =
          (.exited output last, guard.tryWait .exited)) ∨
      (child.asked last = .ok false ∧
        child.poll output deadline moment guard = (.timedOut last, guard.kill .exited)) := by
  rw [h.looks.poll output guard]
  cases hasked : child.asked last with
  | error message => exact .inl ⟨message, rfl, poll_of_error output guard hasked⟩
  | ok ended =>
      cases ended with
      | true => exact .inr (.inl ⟨rfl, poll_of_ended output guard hasked⟩)
      | false =>
          exact .inr (.inr ⟨rfl, poll_of_late output guard hasked (h.decides hasked)⟩)

/-! ## Truthful answers -/

theorem LastLook.asked_of_before {ended : Duration}
    (h : child.LastLook deadline looks moment last)
    (truthful : child.asked = endedAt child.exits child.waited) (exits : child.exits = some ended)
    (early : ended.nanoseconds < deadline.nanoseconds) :
    child.asked last = child.waited.map fun () => true := by
  have hasked : child.asked last = if ended.nanoseconds ≤ last.nanoseconds
      then child.waited.map fun () => true else .ok false := by
    rw [truthful, exits]
    rfl
  by_cases hlast : ended.nanoseconds ≤ last.nanoseconds
  · rw [hasked, if_pos hlast]
  · rw [if_neg hlast] at hasked
    have hlate := h.decides hasked
    omega

theorem asked_of_endless (truthful : child.asked = endedAt child.exits child.waited)
    (endless : child.exits = none) (moment : Duration) : child.asked moment = .ok false := by
  rw [truthful, endless]
  rfl

end Child

end Clausal

import Clausal.Proofs.Solver.Report

/-!
# Runs that come back

A run comes back with a result, whatever the child does, as long as the clock can tell when the
deadline passes.  A deadline beyond the clock ends the run without a result once a child has been
started.  Without a deadline the child has all the time that it takes, so the run comes back exactly
if waiting for the child is over some time.
-/

namespace Clausal

theorem Host.canCount_ofSeconds (host : Host) (seconds : Nat) :
    host.canCount (.ofSeconds seconds) = true ↔ host.clock.seconds + seconds < clockBound := by
  rw [canCount, decide_eq_true_iff, Duration.seconds, Duration.ofSeconds, Duration.seconds,
    Nat.add_mul_div_right _ _ (by decide)]

namespace Child

/-- Waiting for the child is over some time, if only because its output cannot be read. -/
def Settles (child : Child) : Prop :=
  child.closes.isSome = true ∧
    ((∃ output, child.output = .ok output) → child.exits.isSome = true)

theorem isSome_await_iff {child : Child} : child.await.isSome = true ↔ child.Settles := by
  unfold await Settles
  cases child.closes with
  | none => simp
  | some closed =>
      cases child.output with
      | error message => simp
      | ok output =>
          cases child.exits with
          | none => simp
          | some ended => cases child.waited <;> simp

theorem isSome_watch_iff (child : Child) (timeout : Option Duration) :
    (child.watch timeout).isSome = true ↔ (timeout = none → child.Settles) := by
  cases timeout with
  | none => rw [watch, isSome_await_iff, forall_prop_of_true rfl]
  | some deadline => exact iff_of_true rfl nofun

end Child

namespace SolverConfig

def IsBeyondClock (config : SolverConfig) (host : Host) : Prop :=
  ∃ deadline, config.timeout = some deadline ∧ host.canCount deadline = false

section

variable {config : SolverConfig} {host : Host} {m : Machine} {input : Path} {format : Format}
  {child : Child}

theorem isBeyondClock_iff :
    config.IsBeyondClock host ↔ (config.timeout.map host.canCount).getD true = false := by
  unfold IsBeyondClock
  cases config.timeout <;> simp

theorem isBeyondClock_withTimeoutSeconds (config : SolverConfig) (host : Host)
    (seconds : UInt64) :
    (config.withTimeoutSeconds seconds).IsBeyondClock host ↔
      seconds ≠ 0 ∧ Host.clockBound ≤ host.clock.seconds + seconds.toNat := by
  unfold IsBeyondClock withTimeoutSeconds
  by_cases hzero : seconds = 0
  · simp [hzero]
  · simp only [if_neg hzero, Option.some.injEq, exists_eq_left']
    rw [← Bool.not_eq_true, host.canCount_ofSeconds, Nat.not_lt, and_iff_right hzero]

/-! ## Ways out -/

inductive ComesTo (config : SolverConfig) (host : Host) (m : Machine) (input : Path) :
    Outcome RunResult → Prop
  | unstarted {result : RunResult} (unstarted : ∀ child, ¬ config.Starts host m input child) :
      ComesTo config host m input (.finished result)
  | overflow {child : Child} (starts : config.Starts host m input child)
      (beyond : config.IsBeyondClock host) : ComesTo config host m input .clockOverflow
  | endless {child : Child} (starts : config.Starts host m input child)
      (counted : ¬ config.IsBeyondClock host) (unlimited : config.timeout = none)
      (unsettled : ¬ child.Settles) : ComesTo config host m input .neverEnds
  | watched {child : Child} {result : RunResult} (starts : config.Starts host m input child)
      (counted : ¬ config.IsBeyondClock host) (settles : config.timeout = none → child.Settles) :
      ComesTo config host m input (.finished result)

/-- Once a child has been started, the clock is asked, and only then the child is watched. -/
theorem comesTo_launch {timing : Option Path} (format : Format)
    (starts : config.Starts host m input child)
    (hlaunch : host.launch m (config.command (config.resolve input) timing) (config.limit host) =
      .ok child) :
    config.ComesTo host m input
      (config.launch host m (config.command (config.resolve input) timing) timing format).1 := by
  rw [limit] at hlaunch
  simp only [launch, hlaunch]
  cases hcount : (config.timeout.map host.canCount).getD true with
  | false => exact .overflow starts (isBeyondClock_iff.mpr hcount)
  | true =>
      have counted : ¬ config.IsBeyondClock host := by
        rw [isBeyondClock_iff, hcount, Bool.true_eq_false]
        exact not_false
      have hsettles := child.isSome_watch_iff config.timeout
      cases hwatch : child.watch config.timeout with
      | none =>
          rw [hwatch, Option.isSome_none, Bool.false_eq_true, false_iff] at hsettles
          obtain ⟨unlimited, unsettled⟩ := Classical.not_imp.mp hsettles
          exact .endless starts counted unlimited unsettled
      | some found =>
          rw [hwatch] at hsettles
          obtain ⟨found, guard⟩ := found
          cases found <;> exact .watched starts counted (hsettles.mp rfl)

theorem comesTo_solve (config : SolverConfig) (host : Host) (m : Machine) (input : Path)
    (format : Format) : config.ComesTo host m input (config.solve host m input format).1 := by
  rw [solve]
  cases htiming : config.timingFile host m.files with
  | error message =>
      refine .unstarted ?_
      rintro child ⟨timing, htiming', -⟩
      cases htiming.symm.trans htiming'
  | ok timing =>
      cases hlaunch : host.launch m (config.command (config.resolve input) timing)
          (config.limit host) with
      | ok child => exact comesTo_launch format ⟨timing, htiming, hlaunch⟩ hlaunch
      | error message =>
          have unstarted : ∀ child, ¬ config.Starts host m input child := by
            rintro child ⟨timing', htiming', hlaunch'⟩
            cases htiming.symm.trans htiming'
            cases hlaunch.symm.trans hlaunch'
          rw [limit] at hlaunch
          simp only [launch, hlaunch]
          exact .unstarted unstarted

end

/-- A run that starts a child comes back with a result, unless the clock cannot tell its deadline or
it has none and the child never settles; a run that starts no child comes back.  The seconds of a
timeout are beyond the clock where adding them makes the clock's 63 bits run over. -/
theorem runs_return_within_clock (config : SolverConfig) (host : Host) (m : Machine)
    (input : Path) (format : Format) :
    ((∃ result, (config.solve host m input format).1 = .finished result) ↔
      ∀ child, config.Starts host m input child →
        ¬ config.IsBeyondClock host ∧ (config.timeout = none → child.Settles)) ∧
    ((config.solve host m input format).1 = .clockOverflow ↔
      config.IsBeyondClock host ∧ ∃ child, config.Starts host m input child) ∧
    ∀ seconds, (config.withTimeoutSeconds seconds).IsBeyondClock host ↔
      seconds ≠ 0 ∧ Host.clockBound ≤ host.clock.seconds + seconds.toNat := by
  rw [← and_assoc]
  refine ⟨?_, config.isBeyondClock_withTimeoutSeconds host⟩
  have comes := comesTo_solve config host m input format
  generalize (config.solve host m input format).1 = outcome at comes
  cases comes with
  | @unstarted result unstarted =>
      refine ⟨iff_of_true ⟨result, rfl⟩ fun child starts => absurd starts (unstarted child), ?_⟩
      exact iff_of_false nofun fun ⟨_, child, starts⟩ => unstarted child starts
  | overflow starts beyond =>
      have unfinished : ¬ ∃ result : RunResult, Outcome.clockOverflow = .finished result := by
        rintro ⟨result, h⟩
        cases h
      exact ⟨iff_of_false unfinished fun h => (h _ starts).1 beyond,
        iff_of_true rfl ⟨beyond, _, starts⟩⟩
  | endless starts counted unlimited unsettled =>
      have unfinished : ¬ ∃ result : RunResult, Outcome.neverEnds = .finished result := by
        rintro ⟨result, h⟩
        cases h
      exact ⟨iff_of_false unfinished fun h => unsettled ((h _ starts).2 unlimited),
        iff_of_false nofun fun h => counted h.1⟩
  | @watched child result starts counted settles =>
      refine ⟨iff_of_true ⟨result, rfl⟩ fun other hother => ?_,
        iff_of_false nofun fun h => counted h.1⟩
      cases hother.unique starts
      exact ⟨counted, settles⟩

def patient : SolverConfig := (ofSolver ⟨['s']⟩).withTimeoutSeconds 0xFFFFFFFFFFFFFFFF

/-- Not every run comes back with a result, not even where the child ends at once. -/
theorem not_runs_return :
    ¬ ∀ (config : SolverConfig) (host : Host) (m : Machine) (input : Path) (format : Format),
      (∀ child, config.Starts host m input child → child.Settles) →
        ∃ result, (config.solve host m input format).1 = .finished result := by
  intro returns
  have settled : ∀ child, patient.Starts refuting (.ofFiles shelves) ⟨['f']⟩ child →
      child.Settles := by
    rintro child ⟨timing, -, hlaunch⟩
    cases hlaunch
    exact ⟨rfl, fun _ => rfl⟩
  obtain ⟨result, hresult⟩ := returns patient refuting (.ofFiles shelves) ⟨['f']⟩ .cnf settled
  have hoverflow : (patient.solve refuting (.ofFiles shelves) ⟨['f']⟩ .cnf).1 = .clockOverflow :=
    rfl
  rw [hresult] at hoverflow
  cases hoverflow

end SolverConfig

end Clausal

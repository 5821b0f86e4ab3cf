import Mathlib.Data.List.Induction
import Clausal.Proofs.Solver.Polling

/-!
# What a guard does to its child

A guard asks whether its child has ended, waits for it and kills it, in any order and with any
answer of the operating system, until it is dropped.  What becomes of the child is decided by the
first call that concludes its life: a wait that finds it ended keeps every later signal away, and a
kill signals the group and the child once and then waits.  Watching a child uses its guard in one
of these ways, so a child is never left behind.
-/

namespace Clausal

/-- What is done with a guard before it is dropped, with the answer to the wait that it makes.
Nobody looks at what comes of sending a signal. -/
inductive GuardCall where
  | tryWait (answer : WaitAnswer)
  | wait (answer : WaitAnswer)
  | kill (answer : WaitAnswer)
  deriving DecidableEq, Repr

namespace GuardCall

def isKill : GuardCall → Bool
  | kill _ => true
  | _ => false

/-- The child is found to have ended by a call that does not kill it. -/
def findsEnd : GuardCall → Bool
  | tryWait answer | wait answer => decide (answer = .exited)
  | kill _ => false

/-- From then on the guard takes the child for reaped. -/
def concludes (call : GuardCall) : Bool := call.findsEnd || call.isKill

theorem concludes_of_findsEnd {call : GuardCall} (h : call.findsEnd = true) :
    call.concludes = true := by
  rw [concludes, h, Bool.true_or]

end GuardCall

def GuardEvent.isSignal : GuardEvent → Bool
  | reaped => false
  | _ => true

namespace Guard

open GuardCall (concludes)

/-! ## Calls -/

def perform (g : Guard) : GuardCall → Guard
  | .tryWait answer => g.tryWait answer
  | .wait answer => g.wait answer
  | .kill answer => g.kill answer

def run (g : Guard) (calls : List GuardCall) : Guard := calls.foldl perform g

theorem run_concat (g : Guard) (calls : List GuardCall) (call : GuardCall) :
    g.run (calls ++ [call]) = (g.run calls).perform call := by
  rw [run, List.foldl_append]
  rfl

theorem note_cases (g : Guard) (answer : WaitAnswer) :
    (answer ≠ .exited ∧ g.note answer = g) ∨
      (answer = .exited ∧ g.note answer = ⟨true, g.events ++ [.reaped]⟩) := by
  cases answer with
  | running => exact .inl ⟨nofun, rfl⟩
  | exited => exact .inr ⟨rfl, rfl⟩
  | failed => exact .inl ⟨nofun, rfl⟩

theorem perform_cases (g : Guard) (call : GuardCall) :
    (call.concludes = false ∧ g.perform call = g) ∨
    (call.findsEnd = true ∧ g.perform call = ⟨true, g.events ++ [.reaped]⟩) ∨
    ∃ answer, call = .kill answer := by
  cases call with
  | tryWait answer | wait answer =>
      obtain ⟨hother, hnote⟩ | ⟨rfl, hnote⟩ := g.note_cases answer
      · refine .inl ⟨?_, hnote⟩
        rw [GuardCall.concludes, GuardCall.findsEnd, decide_eq_false hother]
        rfl
      · exact .inr (.inl ⟨rfl, hnote⟩)
  | kill answer => exact .inr (.inr ⟨answer, rfl⟩)

/-- If the call signals the child, waiting for it afterwards succeeds. -/
def IsHeeded (g : Guard) : GuardCall → Prop
  | .kill answer => g.isReaped = false → answer = .exited
  | _ => True

/-- Waiting succeeds whenever one of the calls has just signalled the child. -/
def AllHeeded (g : Guard) : List GuardCall → Prop
  | [] => True
  | call :: rest => g.IsHeeded call ∧ (g.perform call).AllHeeded rest

/-! ## Stages -/

/-- How a guard stands after some calls, by the first of them that concludes. -/
inductive Stage : Option GuardCall → Guard → Prop
  | watching : Stage none spawned
  | ended {call : GuardCall} (finds : call.findsEnd = true) (more : Nat) :
      Stage (some call) ⟨true, .replicate (more + 1) .reaped⟩
  | killed {answer : WaitAnswer} (waits : Nat) (heeded : answer = .exited → 0 < waits) :
      Stage (some (.kill answer))
        ⟨true, [.groupSignalled, .childSignalled] ++ .replicate waits .reaped⟩

theorem Stage.perform {first : Option GuardCall} {g : Guard} (h : Stage first g)
    (call : GuardCall) : Stage (first.or ([call].find? concludes)) (g.perform call) := by
  obtain ⟨hquiet, hperform⟩ | ⟨hfinds, hperform⟩ | ⟨answer, rfl⟩ := g.perform_cases call
  · rw [hperform, List.find?_singleton, hquiet, if_neg Bool.false_ne_true, Option.or_none]
    exact h
  · rw [hperform, List.find?_singleton, if_pos (GuardCall.concludes_of_findsEnd hfinds)]
    cases h with
    | watching => exact .ended hfinds 0
    | ended finds more =>
        rw [← List.replicate_succ']
        exact .ended finds (more + 1)
    | killed waits heeded =>
        rw [List.append_assoc, ← List.replicate_succ']
        exact .killed (waits + 1) fun _ => Nat.succ_pos waits
  · cases h with
    | watching =>
        cases answer with
        | exited => exact .killed 1 fun _ => Nat.one_pos
        | running => exact .killed 0 nofun
        | failed => exact .killed 0 nofun
    | ended finds more => exact .ended finds more
    | killed waits heeded => exact .killed waits heeded

theorem stage_run (calls : List GuardCall) :
    Stage (calls.find? concludes) (spawned.run calls) := by
  induction calls using List.reverseRecOn with
  | nil => exact .watching
  | append_singleton calls call ih =>
      rw [List.find?_append, run_concat]
      exact ih.perform call

/-- The call that decides what becomes of the child; the drop kills where none did before. -/
def decisive (calls : List GuardCall) (last : WaitAnswer) : GuardCall :=
  (calls.find? concludes).getD (.kill last)

theorem find?_concludes_drop (calls : List GuardCall) (last : WaitAnswer) :
    (calls ++ [GuardCall.kill last]).find? concludes = some (decisive calls last) := by
  rw [List.find?_append, decisive]
  cases calls.find? concludes <;> rfl

theorem stage_drop (calls : List GuardCall) (last : WaitAnswer) :
    Stage (some (decisive calls last)) ((spawned.run calls).drop last) := by
  have h := stage_run (calls ++ [GuardCall.kill last])
  rwa [find?_concludes_drop, run_concat] at h

/-- Until a call concludes the guard is as it was at first, so the first kill does signal. -/
theorem exited_of_allHeeded {calls : List GuardCall} (heeded : spawned.AllHeeded calls)
    {answer : WaitAnswer} (first : calls.find? concludes = some (.kill answer)) :
    answer = .exited := by
  induction calls with
  | nil => cases first
  | cons call rest ih =>
      obtain ⟨hcall, hrest⟩ := heeded
      rw [List.find?_cons] at first
      obtain ⟨hquiet, hperform⟩ | ⟨hfinds, -⟩ | ⟨other, rfl⟩ := spawned.perform_cases call
      · rw [hquiet] at first
        rw [hperform] at hrest
        exact ih hrest first
      · rw [GuardCall.concludes_of_findsEnd hfinds] at first
        cases first
        cases hfinds
      · cases first
        exact hcall rfl

/-! ## What the log shows -/

namespace Stage

variable {first : Option GuardCall} {g : Guard}

theorem pairwise (h : Stage first g) :
    g.events.Pairwise fun earlier later => earlier = .reaped → later.isSignal = false := by
  have silent (waits : Nat) : (List.replicate waits GuardEvent.reaped).Pairwise
      fun earlier later => earlier = .reaped → later.isSignal = false :=
    List.pairwise_replicate.mpr (.inr fun _ => rfl)
  cases h with
  | watching => exact .nil
  | ended finds more => exact silent (more + 1)
  | killed waits heeded =>
      exact .cons (fun _ _ => nofun) (.cons (fun _ _ => nofun) (silent waits))

theorem signals (h : Stage first g) :
    g.events.filter GuardEvent.isSignal = [] ∨
      g.events.filter GuardEvent.isSignal = [.groupSignalled, .childSignalled] := by
  have silent (waits : Nat) :
      (List.replicate waits GuardEvent.reaped).filter GuardEvent.isSignal = [] :=
    List.filter_replicate_of_neg nofun
  cases h with
  | watching => exact .inl rfl
  | ended finds more => exact .inl (silent (more + 1))
  | killed waits heeded =>
      refine .inr ?_
      rw [List.filter_append, silent]
      rfl

theorem wasKilled_eq_false_iff {call : GuardCall} (h : Stage (some call) g) :
    g.wasKilled = false ↔ call.findsEnd = true := by
  cases h with
  | ended finds more => simp [wasKilled, finds]
  | killed waits heeded => simp [wasKilled, GuardCall.findsEnd]

theorem reaped_mem {call : GuardCall} (h : Stage (some call) g)
    (heeded : ∀ answer, call = .kill answer → answer = .exited) : .reaped ∈ g.events := by
  cases h with
  | ended finds more => exact List.mem_replicate.mpr ⟨Nat.succ_ne_zero more, rfl⟩
  | killed waits succeeds =>
      have hwaits : 0 < waits := succeeds (heeded _ rfl)
      exact List.mem_append_right _ (List.mem_replicate.mpr ⟨Nat.ne_of_gt hwaits, rfl⟩)

end Stage

theorem reaped_mem_drop {calls : List GuardCall} {last : WaitAnswer}
    (heeded : spawned.AllHeeded (calls ++ [.kill last])) :
    .reaped ∈ ((spawned.run calls).drop last).events := by
  refine (stage_drop calls last).reaped_mem fun answer hkill => ?_
  have first := find?_concludes_drop calls last
  rw [hkill] at first
  exact exited_of_allHeeded heeded first

end Guard

/-! ## Watching -/

namespace Child

open Guard (spawned)

def inVain (looks : Nat) : List GuardCall := .replicate looks (.tryWait .running)

/-- The calls that watching makes, by what it finds. -/
inductive Uses : Watched → List GuardCall → Prop
  | waited {output : List UInt8} {elapsed : Duration} :
      Uses (.exited output elapsed) [.wait .exited]
  | asked {output : List UInt8} {elapsed : Duration} (looks : Nat) :
      Uses (.exited output elapsed) (inVain looks ++ [.tryWait .exited])
  | expired {elapsed : Duration} (looks : Nat) :
      Uses (.timedOut elapsed) (inVain looks ++ [.kill .exited])
  | unread {message : String} : Uses (.unreadable message) []
  | unwaited {message : String} : Uses (.unreadable message) [.wait .failed]
  | unasked {message : String} (looks : Nat) :
      Uses (.unreadable message) (inVain looks ++ [.tryWait .failed])

theorem run_inVain (g : Guard) (looks : Nat) : g.run (inVain looks) = g := by
  induction looks with
  | zero => rfl
  | succ looks ih => exact ih

theorem allHeeded_inVain {g : Guard} {calls : List GuardCall} (h : g.AllHeeded calls)
    (looks : Nat) : g.AllHeeded (inVain looks ++ calls) := by
  induction looks with
  | zero => exact h
  | succ looks ih => exact ⟨trivial, ih⟩

theorem decisive_inVain (looks : Nat) (calls : List GuardCall) (last : WaitAnswer) :
    Guard.decisive (inVain looks ++ calls) last = Guard.decisive calls last := by
  induction looks with
  | zero => rfl
  | succ looks ih => exact ih

section

variable {child : Child} {watched : Watched} {guard : Guard}

theorem uses_of_await (h : child.await = some (watched, guard)) :
    ∃ calls, Uses watched calls ∧ guard = spawned.run calls := by
  unfold await at h
  split at h
  · cases h
  split at h
  · cases h
    exact ⟨_, .unread, rfl⟩
  split at h
  · cases h
  split at h
  · cases h
    exact ⟨_, .unwaited, rfl⟩
  · cases h
    exact ⟨_, .waited, rfl⟩

theorem uses_of_poll {output : List UInt8} {deadline closed : Duration}
    (h : child.poll output deadline closed spawned = (watched, guard)) :
    ∃ calls, Uses watched calls ∧ guard = spawned.run calls := by
  obtain ⟨looks, last, hlast⟩ := child.exists_lastLook deadline closed
  rcases hlast.poll output spawned with ⟨message, -, hpoll⟩ | ⟨-, hpoll⟩ | ⟨-, hpoll⟩ <;>
    cases h.symm.trans hpoll
  · refine ⟨_, .unasked looks, ?_⟩
    rw [Guard.run_concat, run_inVain]
    rfl
  · refine ⟨_, .asked looks, ?_⟩
    rw [Guard.run_concat, run_inVain]
    rfl
  · -- The last look finds the child running too.
    refine ⟨_, .expired (looks + 1), ?_⟩
    rw [Guard.run_concat, run_inVain]
    rfl

theorem uses_of_awaitUntil {deadline : Duration}
    (h : child.awaitUntil deadline = (watched, guard)) :
    ∃ calls, Uses watched calls ∧ guard = spawned.run calls := by
  unfold awaitUntil at h
  split at h
  · split at h
    · split at h
      · cases h
        exact ⟨_, .unread, rfl⟩
      · exact uses_of_poll h
    · cases h
      exact ⟨_, .expired 0, rfl⟩
  · cases h
    exact ⟨_, .expired 0, rfl⟩

theorem uses_of_watch {timeout : Option Duration}
    (h : child.watch timeout = some (watched, guard)) :
    ∃ calls, Uses watched calls ∧ guard = spawned.run calls := by
  cases timeout with
  | none => exact uses_of_await h
  | some deadline => exact uses_of_awaitUntil (Option.some.inj h)

end

theorem Uses.allHeeded {watched : Watched} {calls : List GuardCall} (h : Uses watched calls) :
    spawned.AllHeeded (calls ++ [.kill .exited]) := by
  cases h with
  | asked looks | expired looks | unasked looks =>
      rw [List.append_assoc]
      refine allHeeded_inVain ?_ looks
      simp [Guard.AllHeeded, Guard.IsHeeded]
  | _ => simp [Guard.AllHeeded, Guard.IsHeeded]

theorem Uses.findsEnd_iff {watched : Watched} {calls : List GuardCall} (h : Uses watched calls)
    (last : WaitAnswer) :
    (Guard.decisive calls last).findsEnd = true ↔
      ∃ output elapsed, watched = .exited output elapsed := by
  cases h with
  | waited => exact iff_of_true rfl ⟨_, _, rfl⟩
  | asked looks =>
      rw [decisive_inVain]
      exact iff_of_true rfl ⟨_, _, rfl⟩
  | expired looks | unasked looks =>
      rw [decisive_inVain]
      exact iff_of_false nofun nofun
  | _ => exact iff_of_false nofun nofun

end Child

namespace Guard

/-- Whatever is done with a guard, and whatever the operating system answers, no signal follows a
wait that found the child ended, and the group and the child are signalled once at most: not at all
if the first call that concludes finds the end, and once if it is a kill or the drop.  If waiting
for a child that was just signalled succeeds, the child has been waited for once the guard is
dropped.  This is so for every child that is watched, which is signalled unless its end was seen. -/
theorem child_signalled_once_and_reaped (calls : List GuardCall) (last : WaitAnswer) :
    let g := (spawned.run calls).drop last
    (∀ before after, g.events = before ++ .reaped :: after →
      ∀ event ∈ after, event.isSignal = false) ∧
    (g.events.filter GuardEvent.isSignal = [] ∨
      g.events.filter GuardEvent.isSignal = [.groupSignalled, .childSignalled]) ∧
    (g.wasKilled = false ↔ (decisive calls last).findsEnd = true) ∧
    (spawned.AllHeeded (calls ++ [.kill last]) → .reaped ∈ g.events) ∧
    ∀ (child : Child) (timeout : Option Duration) (watched : Watched) (guard : Guard),
      child.watch timeout = some (watched, guard) →
        .reaped ∈ (guard.drop .exited).events ∧
        ((guard.drop .exited).wasKilled = false ↔
          ∃ output elapsed, watched = .exited output elapsed) := by
  have hstage := stage_drop calls last
  refine ⟨?_, hstage.signals, hstage.wasKilled_eq_false_iff, reaped_mem_drop, ?_⟩
  · intro before after hlog event hmem
    have hordered := hstage.pairwise
    rw [hlog, List.pairwise_append] at hordered
    exact List.rel_of_pairwise_cons hordered.2.1 hmem rfl
  · intro child timeout watched guard hwatch
    obtain ⟨used, huses, rfl⟩ := Child.uses_of_watch hwatch
    have hkilled := (stage_drop used .exited).wasKilled_eq_false_iff
    exact ⟨reaped_mem_drop huses.allHeeded, hkilled.trans (huses.findsEnd_iff .exited)⟩

example : .reaped ∉ (spawned.drop .failed).events := by decide

/-- The child is killed before its end has been seen, and the drop comes long after. -/
def contested : List GuardCall :=
  [.tryWait .running, .wait .failed, .kill .exited, .wait .exited, .kill .failed]

def lingering : Child where
  output := .ok []
  closes := none
  exits := none
  machine := .ofFiles (.empty 0 [])

theorem contested_reaped :
    (((spawned.run contested).drop .failed).events =
        [.groupSignalled, .childSignalled] ++ .reaped :: [.reaped] ∧
      ∀ event ∈ [GuardEvent.reaped], event.isSignal = false) ∧
    (spawned.AllHeeded (contested ++ [.kill .failed]) ∧
      .reaped ∈ ((spawned.run contested).drop .failed).events) ∧
    lingering.watch (some ⟨1⟩) = some (.timedOut ⟨1⟩, spawned.kill .exited) ∧
      .reaped ∈ ((spawned.kill .exited).drop .exited).events := by
  obtain ⟨hsilent, -, -, hreaped, hwatched⟩ := child_signalled_once_and_reaped contested .failed
  have heeded : spawned.AllHeeded (contested ++ [.kill .failed]) :=
    ⟨trivial, trivial, fun _ => rfl, trivial, nofun, nofun, trivial⟩
  exact ⟨⟨rfl, hsilent [.groupSignalled, .childSignalled] [.reaped] rfl⟩,
    ⟨heeded, hreaped heeded⟩, rfl, (hwatched lingering (some ⟨1⟩) _ _ rfl).1⟩

end Guard

end Clausal

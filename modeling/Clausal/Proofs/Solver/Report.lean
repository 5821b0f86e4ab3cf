import Clausal.Proofs.Answer.Printing
import Clausal.Proofs.Solver.Input
import Clausal.Proofs.Solver.Polling

/-!
# What a run reports

A run that comes back reports what the solver did: it ended and its output was an answer, it ended
and its output was none, the deadline passed first, or neither.  Every way out of a run leaves one
of these four reports, whose fields agree with each other, and a row of a batch shows an answer
exactly where the run succeeded.
-/

namespace Clausal

/-! ## What a child does -/

namespace Child

/-- Once its output has closed the child is seen to end: by the last look at it, if there is a
deadline. -/
def SeenToEnd (child : Child) (closed : Duration) : Option Duration → Prop
  | none => child.exits.isSome = true ∧ child.waited = .ok ()
  | some deadline => isBefore (some closed) deadline = true ∧
      ∃ looks last, child.LastLook deadline looks closed last ∧ child.asked last = .ok true

/-- The last look at the child, once its output has closed, finds it running. -/
def Outlasts (child : Child) (closed deadline : Duration) : Prop :=
  ∃ looks last, child.LastLook deadline looks closed last ∧ child.asked last = .ok false

/-- The output closes and the child is seen to end, before the deadline if there is one. -/
structure Ends (child : Child) (timeout : Option Duration) (output : List UInt8) : Prop where
  output : child.output = .ok output
  seen : ∃ closed, child.closes = some closed ∧ child.SeenToEnd closed timeout

/-- The deadline comes while the output is open, or while the child is awaited after its output
was read. -/
def Expires (child : Child) (deadline : Duration) : Prop :=
  isBefore child.closes deadline = false ∨
    (∃ output, child.output = .ok output) ∧
      ∃ closed, child.closes = some closed ∧ child.Outlasts closed deadline

section

variable {child : Child}

theorem Ends.unique {timeout : Option Duration} {output output' : List UInt8}
    (h : child.Ends timeout output) (h' : child.Ends timeout output') : output = output' :=
  Except.ok.inj (h.output.symm.trans h'.output)

theorem not_ends_of_output {message : String} (h : child.output = .error message)
    (timeout : Option Duration) (output : List UInt8) : ¬ child.Ends timeout output :=
  fun hends => absurd (h.symm.trans hends.output) nofun

/-- Closing in time, and failing to be read or not outlasting the looks at it, the child does not
come to the deadline. -/
theorem not_expires {closed deadline : Duration} (closes : child.closes = some closed)
    (early : isBefore (some closed) deadline = true)
    (seen : (∃ output, child.output = .ok output) → ¬ child.Outlasts closed deadline) :
    ¬ child.Expires deadline := by
  rintro (hopen | ⟨hread, closed', hcloses, houtlasts⟩)
  · rw [closes] at hopen
    exact Bool.false_ne_true (hopen.symm.trans early)
  · cases closes.symm.trans hcloses
    exact seen hread houtlasts

theorem not_outlasts_of_lastLook {looks : Nat} {closed deadline last : Duration}
    (h : child.LastLook deadline looks closed last) (asked : child.asked last ≠ .ok false) :
    ¬ child.Outlasts closed deadline := by
  rintro ⟨looks', last', hlast', hrunning⟩
  cases h.unique hlast'
  exact asked hrunning

theorem Ends.not_expires {deadline : Duration} {output : List UInt8}
    (h : child.Ends (some deadline) output) : ¬ child.Expires deadline := by
  obtain ⟨closed, hcloses, hbefore, looks, last, hlast, hended⟩ := h.seen
  refine Child.not_expires hcloses hbefore fun _ => not_outlasts_of_lastLook hlast ?_
  rw [hended]
  nofun

theorem ends_of_before {closed ended deadline : Duration} {output : List UInt8}
    (truthful : child.asked = endedAt child.exits child.waited) (read : child.output = .ok output)
    (closes : child.closes = some closed) (exits : child.exits = some ended)
    (waited : child.waited = .ok ()) (closed_early : isBefore (some closed) deadline = true)
    (ended_early : isBefore (some ended) deadline = true) :
    child.Ends (some deadline) output := by
  obtain ⟨looks, last, hlast⟩ := child.exists_lastLook deadline closed
  refine ⟨read, closed, closes, closed_early, looks, last, hlast, ?_⟩
  rw [hlast.asked_of_before truthful exits (of_decide_eq_true ended_early), waited]
  rfl

/-- A child that never ends comes to every deadline, unless its output cannot be read. -/
theorem expires_of_endless {output : List UInt8} {deadline : Duration}
    (truthful : child.asked = endedAt child.exits child.waited) (read : child.output = .ok output)
    (endless : child.exits = none) : child.Expires deadline := by
  cases hcloses : child.closes with
  | none => exact .inl (hcloses ▸ rfl)
  | some closed =>
      obtain ⟨looks, last, hlast⟩ := child.exists_lastLook deadline closed
      exact .inr ⟨⟨output, read⟩, closed, hcloses, looks, last, hlast,
        asked_of_endless truthful endless last⟩

/-- What watching finds, by what the child does. -/
inductive Finds (child : Child) (timeout : Option Duration) : Watched → Prop
  | exited {output : List UInt8} {elapsed : Duration} (ends : child.Ends timeout output) :
      Finds child timeout (.exited output elapsed)
  | timedOut {deadline elapsed : Duration} (limited : timeout = some deadline)
      (expires : child.Expires deadline) : Finds child timeout (.timedOut elapsed)
  | unreadable {message : String} (unended : ∀ output, ¬ child.Ends timeout output)
      (early : ∀ deadline, timeout = some deadline → ¬ child.Expires deadline) :
      Finds child timeout (.unreadable message)

theorem finds_of_await {watched : Watched} {guard : Guard}
    (h : child.await = some (watched, guard)) : child.Finds none watched := by
  unfold await at h
  split at h
  · cases h
  rename_i closed hcloses
  split at h
  · rename_i message houtput
    cases h
    exact .unreadable (not_ends_of_output houtput none) nofun
  rename_i output houtput
  split at h
  · cases h
  rename_i ended hexits
  split at h
  · rename_i message hwaited
    cases h
    refine .unreadable ?_ nofun
    rintro output ⟨-, -, -, -, hdone⟩
    exact absurd (hwaited.symm.trans hdone) nofun
  · rename_i hwaited
    cases h
    exact .exited ⟨houtput, closed, hcloses, hexits ▸ rfl, hwaited⟩

theorem finds_of_poll {closed deadline : Duration} {output : List UInt8}
    (read : child.output = .ok output) (closes : child.closes = some closed)
    (early : isBefore (some closed) deadline = true) (guard : Guard) :
    child.Finds (some deadline) (child.poll output deadline closed guard).1 := by
  obtain ⟨looks, last, hlast⟩ := child.exists_lastLook deadline closed
  rcases hlast.poll output guard with
    ⟨message, hasked, hpoll⟩ | ⟨hasked, hpoll⟩ | ⟨hasked, hpoll⟩ <;> rw [hpoll]
  · refine .unreadable ?_ ?_
    · rintro output' ⟨-, closed', hcloses, -, looks', last', hlast', hended⟩
      cases closes.symm.trans hcloses
      cases hlast.unique hlast'
      exact absurd (hasked.symm.trans hended) nofun
    · rintro _ ⟨⟩
      refine not_expires closes early fun _ => not_outlasts_of_lastLook hlast ?_
      rw [hasked]
      nofun
  · exact .exited ⟨read, closed, closes, early, looks, last, hlast, hasked⟩
  · exact .timedOut rfl (.inr ⟨⟨output, read⟩, closed, closes, looks, last, hlast, hasked⟩)

theorem finds_of_awaitUntil (deadline : Duration) :
    child.Finds (some deadline) (child.awaitUntil deadline).1 := by
  unfold awaitUntil
  split
  · rename_i closed hcloses
    split
    · rename_i hclosed
      split
      · rename_i message houtput
        refine .unreadable (not_ends_of_output houtput _) ?_
        rintro _ ⟨⟩
        refine not_expires hcloses hclosed ?_
        rintro ⟨output, hread⟩
        exact absurd (houtput.symm.trans hread) nofun
      · rename_i output houtput
        exact finds_of_poll houtput hcloses hclosed _
    · rename_i hlate
      rw [← hcloses, Bool.not_eq_true] at hlate
      exact .timedOut rfl (.inl hlate)
  · rename_i hcloses
    exact .timedOut rfl (.inl (hcloses ▸ rfl))

theorem finds_of_watch {timeout : Option Duration} {watched : Watched} {guard : Guard}
    (h : child.watch timeout = some (watched, guard)) : child.Finds timeout watched := by
  cases timeout with
  | none => exact finds_of_await h
  | some deadline =>
      have hpair : child.awaitUntil deadline = (watched, guard) := Option.some.inj h
      have hfinds := child.finds_of_awaitUntil deadline
      rwa [hpair] at hfinds

end

end Child

namespace SolverConfig

/-! ## What a run comes to -/

/-- How long a child is watched; a deadline beyond the clock does not let it start its work. -/
def limit (config : SolverConfig) (host : Host) : Option Duration :=
  if (config.timeout.map host.canCount).getD true then config.timeout else some ⟨0⟩

def Starts (config : SolverConfig) (host : Host) (m : Machine) (input : Path) (child : Child) :
    Prop :=
  ∃ timing, config.timingFile host m.files = .ok timing ∧
    host.launch m (config.command (config.resolve input) timing) (config.limit host) = .ok child

def Exited (config : SolverConfig) (host : Host) (m : Machine) (input : Path)
    (output : List UInt8) : Prop :=
  ∃ child, config.Starts host m input child ∧ child.Ends config.timeout output

def Expired (config : SolverConfig) (host : Host) (m : Machine) (input : Path) : Prop :=
  ∃ child deadline, config.Starts host m input child ∧ config.timeout = some deadline ∧
    child.Expires deadline

section

variable {config : SolverConfig} {host : Host} {m m' : Machine} {input : Path} {format : Format}
  {result : RunResult}

theorem Starts.unique {child child' : Child} (h : config.Starts host m input child)
    (h' : config.Starts host m input child') : child = child' := by
  obtain ⟨timing, htiming, hlaunch⟩ := h
  obtain ⟨timing', htiming', hlaunch'⟩ := h'
  cases htiming.symm.trans htiming'
  exact Except.ok.inj (hlaunch.symm.trans hlaunch')

theorem Exited.unique {output output' : List UInt8} (h : config.Exited host m input output)
    (h' : config.Exited host m input output') : output = output' := by
  obtain ⟨child, hstarts, hends⟩ := h
  obtain ⟨child', hstarts', hends'⟩ := h'
  cases hstarts.unique hstarts'
  exact hends.unique hends'

/-- What a child printed is read in one way. -/
theorem Exited.reading_unique {output output' : List UInt8}
    {reading reading' : Except AnswerError Answer} (h : config.Exited host m input output)
    (h' : config.Exited host m input output')
    (read : Answer.parse format (Text.decodeLossy output) = reading)
    (read' : Answer.parse format (Text.decodeLossy output') = reading') : reading = reading' := by
  cases h.unique h'
  exact read.symm.trans read'

theorem Exited.not_expired {output : List UInt8} (h : config.Exited host m input output) :
    ¬ config.Expired host m input := by
  obtain ⟨child, hstarts, hends⟩ := h
  rintro ⟨child', deadline, hstarts', hlimit, hexpires⟩
  cases hstarts.unique hstarts'
  rw [hlimit] at hends
  exact hends.not_expires hexpires

/-- The four reports of a run. -/
inductive Reports (config : SolverConfig) (host : Host) (m : Machine) (input : Path)
    (format : Format) : RunResult → Prop
  | answered {output : List UInt8} {answer : Answer} {times : Times}
      (exited : config.Exited host m input output)
      (parsed : Answer.parse format (Text.decodeLossy output) = .ok answer)
      (unwrapped : config.timeBin = none → times.user = none ∧ times.sys = none) :
      Reports config host m input format
        { output := Text.decodeLossy output, status := .success, times, completed := true
          answer := some answer, error := none }
  | undecoded {output : List UInt8} {failure : AnswerError} {times : Times}
      (exited : config.Exited host m input output)
      (parsed : Answer.parse format (Text.decodeLossy output) = .error failure)
      (unwrapped : config.timeBin = none → times.user = none ∧ times.sys = none) :
      Reports config host m input format
        { output := Text.decodeLossy output, status := .unreadable, times, completed := true
          answer := none, error := some failure.message }
  | timedOut {elapsed : Duration} (expired : config.Expired host m input) :
      Reports config host m input format (.timedOut (.wall elapsed))
  | failed {message : String} (unended : ∀ output, ¬ config.Exited host m input output)
      (early : ¬ config.Expired host m input) :
      Reports config host m input format (.failed message)

theorem reports_ofOutput {output : List UInt8} {times : Times}
    (exited : config.Exited host m input output)
    (unwrapped : config.timeBin = none → times.user = none ∧ times.sys = none) :
    config.Reports host m input format (.ofOutput format (Text.decodeLossy output) times) := by
  unfold RunResult.ofOutput
  cases hparse : Answer.parse format (Text.decodeLossy output) with
  | ok answer => exact .answered exited hparse unwrapped
  | error failure => exact .undecoded exited hparse unwrapped

theorem times_of_unwrapped {timing : Option Path}
    (htiming : config.timingFile host m.files = .ok timing) (unwrapped : config.timeBin = none)
    (files : FileSystem) (elapsed : Duration) :
    (timesAfter files timing elapsed).user = none ∧
      (timesAfter files timing elapsed).sys = none := by
  rw [timingFile, unwrapped] at htiming
  cases htiming
  exact ⟨rfl, rfl⟩

theorem reports_of_unstarted (unstarted : ∀ child, ¬ config.Starts host m input child)
    (message : String) : config.Reports host m input format (.failed message) := by
  refine .failed ?_ ?_
  · rintro output ⟨child, hstart, -⟩
    exact unstarted child hstart
  · rintro ⟨child, deadline, hstart, -⟩
    exact unstarted child hstart

theorem reports_of_finds {child : Child} {watched : Watched} {timing : Option Path}
    (htiming : config.timingFile host m.files = .ok timing)
    (hstart : config.Starts host m input child) (hfinds : child.Finds config.timeout watched)
    (files : FileSystem) :
    config.Reports host m input format
      (match watched with
      | .exited output elapsed =>
          .ofOutput format (Text.decodeLossy output) (timesAfter files timing elapsed)
      | .timedOut elapsed => .timedOut (.wall elapsed)
      | .unreadable message => .failed message) := by
  cases hfinds with
  | exited ends =>
      exact reports_ofOutput ⟨child, hstart, ends⟩
        fun unwrapped => times_of_unwrapped htiming unwrapped _ _
  | timedOut limited expires => exact .timedOut ⟨child, _, hstart, limited, expires⟩
  | unreadable unended early =>
      refine .failed ?_ ?_
      · rintro output ⟨child', hstart', hends⟩
        cases hstart.unique hstart'
        exact unended output hends
      · rintro ⟨child', deadline, hstart', hlimit, hexpires⟩
        cases hstart.unique hstart'
        exact early deadline hlimit hexpires

theorem reports_of_launch {timing : Option Path} {command : Command}
    (htiming : config.timingFile host m.files = .ok timing)
    (hcommand : command = config.command (config.resolve input) timing)
    (h : config.launch host m command timing format = (.finished result, m')) :
    config.Reports host m input format result := by
  subst hcommand
  have hstarts : ∀ child, config.Starts host m input child ↔
      host.launch m (config.command (config.resolve input) timing) (config.limit host) =
        .ok child := by
    intro child
    constructor
    · rintro ⟨timing', htiming', hlaunch⟩
      cases htiming.symm.trans htiming'
      exact hlaunch
    · exact fun hlaunch => ⟨timing, htiming, hlaunch⟩
  unfold launch at h
  dsimp only at h
  split at h
  · rename_i message hlaunch
    cases h
    exact reports_of_unstarted
      (fun child hstart => absurd (hlaunch.symm.trans ((hstarts child).mp hstart)) nofun) message
  · rename_i child hlaunch
    have hstart : config.Starts host m input child := (hstarts child).mpr hlaunch
    split at h
    · cases h
    split at h
    · cases h
    all_goals
      rename_i hwatch
      cases h
      exact reports_of_finds htiming hstart (Child.finds_of_watch hwatch) child.machine.files

theorem reports_of_solve (h : config.solve host m input format = (.finished result, m')) :
    config.Reports host m input format result := by
  unfold solve at h
  dsimp only at h
  split at h
  · rename_i message htiming
    cases h
    refine reports_of_unstarted ?_ message
    rintro child ⟨timing, htiming', -⟩
    exact absurd (htiming.symm.trans htiming') nofun
  · rename_i timing htiming
    obtain ⟨houtcome, -⟩ := Prod.mk.inj h
    exact reports_of_launch htiming rfl (Prod.ext houtcome rfl)

/-! ## The fields of a report -/

/-- The status of a result says how the run went, and its other fields agree with it. -/
structure Consistent (config : SolverConfig) (host : Host) (m : Machine) (input : Path)
    (format : Format) (result : RunResult) : Prop where
  success : result.status = .success ↔ ∃ output answer, config.Exited host m input output ∧
    Answer.parse format (Text.decodeLossy output) = .ok answer
  unreadable : result.status = .unreadable ↔ ∃ output failure, config.Exited host m input output ∧
    Answer.parse format (Text.decodeLossy output) = .error failure
  timedOut : result.status = .timedOut ↔ config.Expired host m input
  failed : result.status = .failed ↔
    (∀ output, ¬ config.Exited host m input output) ∧ ¬ config.Expired host m input
  ofSuccess : result.status = .success → ∀ output, config.Exited host m input output →
    (∀ answer, Answer.parse format (Text.decodeLossy output) = .ok answer →
      result.answer = some answer) ∧
    result.output = Text.decodeLossy output ∧ result.completed = true ∧ result.error = none
  ofUnreadable : result.status = .unreadable → ∀ output, config.Exited host m input output →
    (∀ failure, Answer.parse format (Text.decodeLossy output) = .error failure →
      result.error = some failure.message) ∧
    result.output = Text.decodeLossy output ∧ result.completed = true ∧ result.answer = none
  ofTimedOut : result.status = .timedOut → config.timeout.isSome = true ∧ result.output = "" ∧
    result.completed = false ∧ result.answer = none ∧ result.error = none ∧
    result.times.user = none ∧ result.times.sys = none
  ofFailed : result.status = .failed → result.output = "" ∧ result.completed = false ∧
    result.times = .unknown ∧ result.answer = none ∧ result.error.isSome = true
  wrapped : result.times.user.isSome = true ∨ result.times.sys.isSome = true →
    config.timeBin.isSome = true

theorem wrapped_of_known {times : Times}
    (unwrapped : config.timeBin = none → times.user = none ∧ times.sys = none)
    (known : times.user.isSome = true ∨ times.sys.isSome = true) :
    config.timeBin.isSome = true := by
  cases hbin : config.timeBin with
  | some timeBin => rfl
  | none =>
      obtain ⟨huser, hsys⟩ := unwrapped hbin
      rw [huser, hsys] at known
      exact absurd known (by decide)

theorem Reports.consistent (h : config.Reports host m input format result) :
    config.Consistent host m input format result := by
  cases h with
  | answered exited parsed unwrapped =>
      exact {
        success := iff_of_true rfl ⟨_, _, exited, parsed⟩
        unreadable := by
          refine iff_of_false nofun ?_
          rintro ⟨output, failure, hexited, hparsed⟩
          cases exited.reading_unique hexited parsed hparsed
        timedOut := iff_of_false nofun exited.not_expired
        failed := iff_of_false nofun fun hfailed => hfailed.1 _ exited
        ofSuccess := by
          refine fun _ output hexited => ⟨fun answer hparsed => ?_, ?_⟩
          · cases exited.reading_unique hexited parsed hparsed
            rfl
          · cases exited.unique hexited
            exact ⟨rfl, rfl, rfl⟩
        ofUnreadable := nofun
        ofTimedOut := nofun
        ofFailed := nofun
        wrapped := wrapped_of_known unwrapped }
  | undecoded exited parsed unwrapped =>
      exact {
        success := by
          refine iff_of_false nofun ?_
          rintro ⟨output, answer, hexited, hparsed⟩
          cases exited.reading_unique hexited parsed hparsed
        unreadable := iff_of_true rfl ⟨_, _, exited, parsed⟩
        timedOut := iff_of_false nofun exited.not_expired
        failed := iff_of_false nofun fun hfailed => hfailed.1 _ exited
        ofSuccess := nofun
        ofUnreadable := by
          refine fun _ output hexited => ⟨fun failure hparsed => ?_, ?_⟩
          · cases exited.reading_unique hexited parsed hparsed
            rfl
          · cases exited.unique hexited
            exact ⟨rfl, rfl, rfl⟩
        ofTimedOut := nofun
        ofFailed := nofun
        wrapped := wrapped_of_known unwrapped }
  | timedOut expired =>
      have limited : config.timeout.isSome = true := by
        obtain ⟨-, deadline, -, hlimit, -⟩ := expired
        exact hlimit ▸ rfl
      exact {
        success := iff_of_false nofun fun ⟨_, _, exited, _⟩ => exited.not_expired expired
        unreadable := iff_of_false nofun fun ⟨_, _, exited, _⟩ => exited.not_expired expired
        timedOut := iff_of_true rfl expired
        failed := iff_of_false nofun fun hfailed => hfailed.2 expired
        ofSuccess := nofun
        ofUnreadable := nofun
        ofTimedOut := fun _ => ⟨limited, rfl, rfl, rfl, rfl, rfl, rfl⟩
        ofFailed := nofun
        wrapped := wrapped_of_known fun _ => ⟨rfl, rfl⟩ }
  | failed unended early =>
      exact {
        success := iff_of_false nofun fun ⟨_, _, exited, _⟩ => unended _ exited
        unreadable := iff_of_false nofun fun ⟨_, _, exited, _⟩ => unended _ exited
        timedOut := iff_of_false nofun early
        failed := iff_of_true rfl ⟨unended, early⟩
        ofSuccess := nofun
        ofUnreadable := nofun
        ofTimedOut := nofun
        ofFailed := fun _ => ⟨rfl, rfl, rfl, rfl, rfl⟩
        wrapped := wrapped_of_known fun _ => ⟨rfl, rfl⟩ }

theorem Reports.isSome_answer_iff (h : config.Reports host m input format result) :
    result.answer.isSome = true ↔ result.status = .success := by
  cases h with
  | answered exited parsed unwrapped => exact iff_of_true rfl rfl
  | undecoded exited parsed unwrapped => exact iff_of_false nofun nofun
  | timedOut expired => exact iff_of_false nofun nofun
  | failed unended early => exact iff_of_false nofun nofun

end

/-! ## Rows -/

/-- A row shows an answer and its size where the run succeeded, and a cost where it did on a
weighted instance. -/
structure Shows (path : Path) (result : RunResult) (row : BatchRow) : Prop where
  status : row.status = result.status.render
  answer : row.answer ≠ "" ↔ result.status = .success
  vars : row.vars.isSome = true ↔ result.status = .success
  cost : row.cost.isSome = true ↔ result.status = .success ∧ path.format? = some .wcnf

theorem slug_ne_empty (status : Status) : status.slug ≠ "" := by
  cases status <;> decide

theorem Reports.successful?_eq {config : SolverConfig} {host : Host} {m : Machine} {input : Path}
    {format : Format} {result : RunResult} (h : config.Reports host m input format result) :
    result.successful? = result.answer := by
  cases h <;> rfl

theorem Reports.shows {config : SolverConfig} {host : Host} {m : Machine} {path : Path}
    {format : Format} {result : RunResult} (h : config.Reports host m path format result)
    (hformat : path.format? = some format) : Shows path result (.ofResult path format result) := by
  have hanswer := h.isSome_answer_iff
  have hgiven := h.successful?_eq
  constructor
  · rfl
  · rw [← hanswer, ← hgiven]
    cases hsome : result.successful? with
    | none => simp [BatchRow.ofResult, hsome]
    | some answer => simp [BatchRow.ofResult, hsome, slug_ne_empty]
  · rw [← hanswer, ← hgiven]
    exact iff_of_eq (congrArg (· = true) Option.isSome_map)
  · rw [← hanswer, ← hgiven, hformat]
    cases format with
    | cnf => simp [BatchRow.ofResult]
    | wcnf => simp [BatchRow.ofResult]

theorem exists_solve_of_solveInstance {config : SolverConfig} {host : Host} {m m' : Machine}
    {path : Path} {row : BatchRow} {format : Format} (hformat : path.format? = some format)
    (h : config.solveInstance host m path = (.finished row, m')) :
    ∃ result, config.solve host m path format = (.finished result, m') ∧
      row = .ofResult path format result := by
  unfold solveInstance at h
  rw [hformat] at h
  obtain ⟨houtcome, hmachine⟩ := Prod.mk.inj h
  obtain ⟨result, hresult, rfl⟩ := Outcome.map_eq_finished_iff.mp houtcome
  exact ⟨result, Prod.ext hresult hmachine, rfl⟩

/-- Whatever the solver does, a run that comes back reports one of four things, and all fields of
its result agree with that; so do the columns of a row that is made of it. -/
theorem results_are_consistent (config : SolverConfig) (host : Host) (m m' : Machine) :
    (∀ input format result, config.solve host m input format = (.finished result, m') →
      config.Consistent host m input format result) ∧
    ∀ path format row, path.format? = some format →
      config.solveInstance host m path = (.finished row, m') →
      ∃ result, config.solve host m path format = (.finished result, m') ∧
        Shows path result row := by
  constructor
  · exact fun input format result h => (reports_of_solve h).consistent
  · intro path format row hformat h
    obtain ⟨result, hresult, rfl⟩ := exists_solve_of_solveInstance hformat h
    exact ⟨result, hresult, (reports_of_solve hresult).shows hformat⟩

def watched : SolverConfig :=
  { ofSolver ⟨['s']⟩ with timeout := some ⟨5⟩, timeBin := some ⟨['t']⟩ }

def refuted : Answer := ⟨.cnf, .unsatisfiable, 0, #[]⟩

def refuter (m : Machine) : Child where
  output := .ok (Text.Octets.toBytes refuted.render.toList)
  closes := some ⟨1⟩
  exits := some ⟨2⟩
  machine := m

def refuting : Host where
  launch m _ _ := .ok (refuter m)
  timingName := ⟨['r']⟩
  clock := ⟨0⟩

theorem watch_refuter (m : Machine) :
    (refuter m).watch (some ⟨5⟩) =
      some (.exited (Text.Octets.toBytes refuted.render.toList) ⟨10000001⟩,
        Guard.spawned.tryWait .exited) :=
  congrArg some ((Child.poll_of_early _ _ rfl (by decide)).trans (Child.poll_of_ended _ _ rfl))

theorem refuting_consistent :
    ∃ result row,
      watched.solve refuting (.ofFiles shelves) ⟨['d', '/', 'a', '.', 'c', 'n', 'f']⟩ .cnf =
        (.finished result, .ofFiles shelves) ∧
      result.status = .success ∧ result.answer = some refuted.kept ∧ result.completed = true ∧
      result.error = none ∧
      watched.solveInstance refuting (.ofFiles shelves) ⟨['d', '/', 'a', '.', 'c', 'n', 'f']⟩ =
        (.finished row, .ofFiles shelves) ∧
      row.answer ≠ "" ∧ row.vars.isSome = true ∧ row.cost.isSome = false := by
  obtain ⟨hresults, hrows⟩ :=
    results_are_consistent watched refuting (.ofFiles shelves) (.ofFiles shelves)
  have hsolve : watched.solve refuting (.ofFiles shelves)
      ⟨['d', '/', 'a', '.', 'c', 'n', 'f']⟩ .cnf =
        (.finished (.ofOutput .cnf (Text.decodeLossy (Text.Octets.toBytes refuted.render.toList))
          (.wall ⟨10000001⟩)), .ofFiles shelves) := by
    have hwatch : (refuter (.ofFiles shelves)).watch watched.timeout = _ := watch_refuter _
    simp only [solve, launch, refuting, hwatch]
    rfl
  have hinstance : ∃ row, watched.solveInstance refuting (.ofFiles shelves)
      ⟨['d', '/', 'a', '.', 'c', 'n', 'f']⟩ = (.finished row, .ofFiles shelves) := by
    rw [solveInstance, format?_shelved]
    simp only [hsolve]
    exact ⟨_, rfl⟩
  have hexited : watched.Exited refuting (.ofFiles shelves)
      ⟨['d', '/', 'a', '.', 'c', 'n', 'f']⟩ (Text.Octets.toBytes refuted.render.toList) := by
    exact ⟨_, ⟨_, rfl, rfl⟩, Child.ends_of_before rfl rfl rfl rfl rfl rfl rfl⟩
  have hread : Text.decodeLossy (Text.Octets.toBytes refuted.render.toList) = refuted.render := by
    have hplain : refuted.render.toList.all (fun c => decide (c.toNat < 0x80)) = true := by
      rw [Answer.toList_render]
      rfl
    exact Text.decodeLossy_toBytes fun c hc => of_decide_eq_true (List.all_eq_true.mp hplain c hc)
  have hparse : Answer.parse .cnf (Text.decodeLossy (Text.Octets.toBytes refuted.render.toList)) =
      .ok refuted.kept := by
    rw [hread]
    exact Answer.parse_render refuted
  have hconsistent := hresults _ _ _ hsolve
  have hsuccess := hconsistent.success.mpr ⟨_, _, hexited, hparse⟩
  obtain ⟨hanswer, -, hcompleted, herror⟩ := hconsistent.ofSuccess hsuccess _ hexited
  obtain ⟨row, hrow⟩ := hinstance
  obtain ⟨result, hresult, hshows⟩ := hrows _ _ _ format?_shelved hrow
  cases (Prod.mk.inj (hsolve.symm.trans hresult)).1
  refine ⟨_, row, hsolve, hsuccess, hanswer _ hparse, hcompleted, herror, hrow,
    hshows.answer.mpr hsuccess, hshows.vars.mpr hsuccess, ?_⟩
  rw [Bool.eq_false_iff, ne_eq, hshows.cost, format?_shelved]
  rintro ⟨-, hweighted⟩
  cases hweighted

end SolverConfig

end Clausal

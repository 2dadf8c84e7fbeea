import CloudioOrchestrator.Closeup
import CloudioOrchestrator.Solo
import CloudioOrchestrator.Handlers
import CloudioOrchestrator.Counting.Budget
import Mathlib.Data.List.Induction

/-! # The retry budget of a step

A run is driven by one delivery after another, each loading what the one before
it saved. What the deliveries report of the steps is counted against a budget
for each step, and the stored run stands as the count says.
-/

namespace CloudioOrchestrator

open Interaction Budget

/-! ## Deliveries whose saves are accepted -/

/-- What a delivery did, and what it last read from the clock and drew at random. -/
structure Sitting where
  deeds : Deeds := []
  now : Option Time := none
  jitter : Option Time := none

def Sitting.note (deed : Deed) (sitting : Sitting) : Sitting :=
  { sitting with deeds := deed :: sitting.deeds }

/-- A delivery of the row with the store to itself: it accepts every save. -/
abbrev undisputed (row : WorkflowRun) : Service Operations UUID where
  World := Sitting
  Choice := (op : Op) → op.Answer
  Outside := Empty
  serve _ choice op sitting :=
    match op with
    | .runsGet _ => (.ok (some row), sitting)
    | .runsSave run => (.ok (run.version + 1), sitting.note (.saved run (.ok (run.version + 1))))
    | .utcnow => (choice .utcnow, { sitting with now := some (choice .utcnow) })
    | .uniform => (choice .uniform, { sitting with jitter := some (choice .uniform) })
    | .provider issuer call => (choice (.provider issuer call),
        sitting.note (.called issuer call (choice (.provider issuer call))))
    | .log record => ((), sitting.note (.logged record))
  outside event := nomatch event

abbrev StepOutcome := Budget.Outcome StepName PyException

/-- A failure of a step is among what is reported. -/
def reportsFailure (outcomes : List StepOutcome) : Bool :=
  outcomes.any fun
    | .failed _ _ => true
    | _ => false

/-- What a delivery reports, oldest first: a completion, a failure or a crash by
its log record, a poll by saving a running run of which nothing failed, and a
rejection by saving a rejected run. -/
def reports : Deeds → List StepOutcome
  | [] => []
  | .logged (.stepCompleted step) :: older => reports older ++ [.completed step]
  | .logged (.stepRaised step _ error) :: older => reports older ++ [.failed step error]
  | .logged (.crashed error) :: older => reports older ++ [.crashed error]
  | .saved run _ :: older =>
      match run.status with
      | .running =>
          if reportsFailure (reports older) then reports older else reports older ++ [.notDone]
      | .rejected => reports older ++ [.denied]
      | _ => reports older
  | _ :: older => reports older

def Sitting.outcomes (sitting : Sitting) : List StepOutcome :=
  reports sitting.deeds

/-- When a run that stays at a step is due, by what the clock read last: after a failure
once it has waited out the backoff, and for a poll otherwise. -/
def Sitting.due (executor : Executor) (step : StepName) (failures : Nat) (sitting : Sitting) :
    Option Time := do
  let now ← sitting.now
  if reportsFailure sitting.outcomes then
    let jitter ← sitting.jitter
    return now + backoff executor.retryBase failures jitter
  else
    let handler ← executor.handlers step
    return now + handler.pollInterval

/-- The row once the last save among the deeds is committed. -/
def committed (row : WorkflowRun) : Deeds → WorkflowRun
  | [] => row
  | .saved run (.ok version) :: _ => { run with version := version }
  | _ :: older => committed row older

/-- A delivery: what the run is scheduled for when it is claimed, and what the
environment answers. -/
structure Wakeup where
  scheduledAt : Option Time
  behaviour : Behaviour

def Wakeup.sitting (executor : Executor) (row : WorkflowRun) (wakeup : Wakeup) : Sitting :=
  let claimed := { row with scheduledAt := wakeup.scheduledAt }
  ((undisputed claimed).finish ⟨row.runId, 0⟩ wakeup.behaviour (executor.handle row.runId)
    (0, {})).2.2

/-- The row after one delivery after another, and all that they reported. -/
def career (executor : Executor) : WorkflowRun → List Wakeup → WorkflowRun × List StepOutcome
  | row, [] => (row, [])
  | row, wakeup :: wakeups =>
      let sitting := wakeup.sitting executor row
      let later := career executor (committed row sitting.deeds) wakeups
      (later.1, sitting.outcomes ++ later.2)

/-! ## The reference -/

def budgetTerms (maxRetries : Int) : Terms PyException where
  retryable error := (policyFor error.kind).retryable
  retries := maxRetries

/-- The count of one step's failures; no other step has a count. -/
def tally (step : StepName) : Nat → StepMap Int
  | 0 => .empty
  | failures + 1 => StepMap.empty.set step ((failures + 1 : Nat) : Int)

/-- The run is at a step that failed so often before. -/
structure Underway (row : WorkflowRun) (step : StepName) (failures : Nat) (run : WorkflowRun) :
    Prop where
  runType : run.runType = row.runType
  maxRetries : run.maxRetries = row.maxRetries
  status : run.status = .running
  currentStep : run.currentStep = some step.value
  planned : step ∈ runPlans row.runType
  attempts : run.runState.stepAttempts = tally step failures
  aware : ∀ instant, run.runState.attemptStartedAt ≠ some (.naive instant)

/-- The stored run stands as the count says. -/
def StandsAs (row : WorkflowRun) : Stand StepName → WorkflowRun → Prop
  | .at step rest failures, run =>
      rest = following (runPlans row.runType) step ∧ Underway row step failures run
  | .failed step failures, run =>
      run.status = .failed ∧ run.currentStep = some step.value ∧
        run.runState.stepAttempts = tally step failures
  | .denied step, run => run.status = .rejected ∧ run.currentStep = some step.value
  | .completed, run => run.status = .completed ∧ run.currentStep = none
  | .astray, _ => False

/-- A run that stays at a step is stored for when it is due, and a datetime can name that. -/
def Scheduled (executor : Executor) (stand : Stand StepName) (run : WorkflowRun)
    (sitting : Sitting) : Prop :=
  ∀ step rest failures, stand = .at step rest failures →
    ∃ due, sitting.due executor step failures = some due ∧ due ≤ datetimeMax ∧
      run.scheduledAt = some due

/-- A delivery that crashed was to leave the run at its step, due when no datetime can name. -/
def Overran (executor : Executor) (row : WorkflowRun) (origin : Stand StepName)
    (sitting : Sitting) : Prop :=
  ∀ error, .crashed error ∈ sitting.outcomes → ∃ outcomes step rest failures due,
    sitting.outcomes = outcomes ++ [.crashed error] ∧
    origin.run (budgetTerms row.maxRetries) outcomes = .at step rest failures ∧
    sitting.due executor step failures = some due ∧ datetimeMax < due

theorem later_ok {now delay due : Time} (hlater : later now delay = .ok due) :
    due = now + delay ∧ due ≤ datetimeMax := by
  unfold later at hlater
  split at hlater
  next hnamed =>
    obtain rfl := Except.ok.inj hlater
    exact ⟨rfl, hnamed⟩
  next => cases hlater

theorem later_error {now delay : Time} {error : PyException}
    (hlater : later now delay = .error error) : datetimeMax < now + delay := by
  unfold later at hlater
  split at hlater
  next => cases hlater
  next hunnamed => exact Int.not_le.mp hunnamed

theorem tally_attempts (step : StepName) (failures : Nat) :
    (tally step failures step).getD 0 = failures := by
  cases failures with
  | zero => rfl
  | succ failures => simp [tally]

theorem tally_set (step : StepName) (failures : Nat) :
    (tally step failures).set step ((failures + 1 : Nat) : Int) = tally step (failures + 1) := by
  funext other
  by_cases hstep : other = step
  · subst hstep
    simp [tally]
  · cases failures with
    | zero => rfl
    | succ failures => simp only [tally, StepMap.set_of_ne hstep]

theorem tally_pop (step : StepName) (failures : Nat) :
    (tally step failures).pop step = .empty := by
  funext other
  by_cases hstep : other = step
  · rw [hstep, StepMap.pop_self, StepMap.empty_apply]
  · rw [StepMap.pop_of_ne hstep]
    cases failures with
    | zero => rfl
    | succ failures => rw [tally, StepMap.set_of_ne hstep]

namespace Underway

variable {row run : WorkflowRun} {step : StepName} {failures : Nat}

theorem attempts_eq (hrun : Underway row step failures run) :
    run.runState.attempts step = failures := by
  rw [RunState.attempts, hrun.attempts, tally_attempts]

/-- Whether another try is allowed is what the budget says. -/
theorem mayRetry_iff (hrun : Underway row step failures run) (error : PyException) :
    mayRetry error (run.runState.attempts step + 1) run.maxRetries = true ↔
      (budgetTerms row.maxRetries).retryable error = true ∧
        ((failures + 1 : Nat) : Int) ≤ (budgetTerms row.maxRetries).retries := by
  simp [mayRetry, hrun.attempts_eq, hrun.maxRetries, budgetTerms]

/-- The counting of a failure. -/
theorem counted (hrun : Underway row step failures run) :
    (Executor.countAttempt step run.runState).stepAttempts = tally step (failures + 1) := by
  rw [Executor.countAttempt, hrun.attempts_eq, hrun.attempts]
  exact tally_set step failures

theorem retried {engines : List WorkflowEngineType} {handler : StepHandler}
    (hrun : Underway row step failures run)
    (hhandler : buildHandlers engines step = some handler) :
    Underway row step (failures + 1) (retriedRun step handler run) where
  runType := hrun.runType
  maxRetries := hrun.maxRetries
  status := hrun.status
  currentStep := hrun.currentStep
  planned := hrun.planned
  attempts := by
    have hkept : (retriedRun step handler run).runState.stepAttempts =
        (Executor.countAttempt step run.runState).stepAttempts := by
      simp only [retriedRun, Executor.retryState, resetForRetry_eq hhandler]
      split <;> rfl
    rw [hkept, hrun.counted]
  aware instant := by simp [retriedRun, Executor.retryState]

end Underway

/-! ## What a delivery reports -/

/-- What was reported so far makes the stand, and no crash was. -/
def Reported (row : WorkflowRun) (origin stand : Stand StepName) (sitting : Sitting) : Prop :=
  origin.run (budgetTerms row.maxRetries) sitting.outcomes = stand ∧
    ∀ error, .crashed error ∉ sitting.outcomes

section Reports

variable {row : WorkflowRun} {origin stand : Stand StepName} {sitting : Sitting} {deed : Deed}

theorem reportsFailure_append (outcomes later : List StepOutcome) :
    reportsFailure (outcomes ++ later) = (reportsFailure outcomes || reportsFailure later) :=
  List.any_append

/-- A deed that reports nothing. -/
theorem Reported.silent (hreported : Reported row origin stand sitting)
    (hsilent : (sitting.note deed).outcomes = sitting.outcomes) :
    Reported row origin stand (sitting.note deed) := by
  unfold Reported
  rw [hsilent]
  exact hreported

theorem Reported.adding (hreported : Reported row origin stand sitting) {outcome : StepOutcome}
    (hadds : (sitting.note deed).outcomes = sitting.outcomes ++ [outcome])
    (hcrash : ∀ error, outcome ≠ .crashed error) :
    Reported row origin (stand.after (budgetTerms row.maxRetries) outcome) (sitting.note deed) := by
  obtain ⟨rfl, hcrashes⟩ := hreported
  unfold Reported
  rw [hadds, Stand.run_append, Stand.run_singleton]
  refine ⟨rfl, fun error herror => ?_⟩
  rcases List.mem_append.mp herror with hold | hnew
  · exact hcrashes error hold
  · exact hcrash error (List.mem_singleton.mp hnew).symm

/-- A running run is saved for a poll, unless a failure is what it is saved for. -/
theorem outcomes_running {run : WorkflowRun} (hrunning : run.status = .running)
    (answer : Except PyException Int) :
    (sitting.note (.saved run answer)).outcomes =
      if reportsFailure sitting.outcomes then sitting.outcomes
      else sitting.outcomes ++ [.notDone] := by
  simp only [Sitting.outcomes, Sitting.note, reports, hrunning]
  rfl

/-- What is reported besides failures does not change when the run is due. -/
theorem Sitting.due_note {executor : Executor} {step : StepName} {failures : Nat}
    (hkept : reportsFailure (sitting.note deed).outcomes = reportsFailure sitting.outcomes) :
    (sitting.note deed).due executor step failures = sitting.due executor step failures := by
  unfold Sitting.due
  rw [hkept]
  rfl

theorem Sitting.due_retry {executor : Executor} {step : StepName} {failures : Nat}
    {now jitter : Time} (hnow : sitting.now = some now) (hjitter : sitting.jitter = some jitter)
    (hfailing : reportsFailure sitting.outcomes = true) :
    sitting.due executor step failures =
        some (now + backoff executor.retryBase failures jitter) := by
  simp [Sitting.due, hnow, hjitter, hfailing]

theorem Sitting.due_poll {executor : Executor} {step : StepName} {failures : Nat}
    {now : Time} {handler : StepHandler} (hnow : sitting.now = some now)
    (hhandler : executor.handlers step = some handler)
    (hquiet : reportsFailure sitting.outcomes = false) :
    sitting.due executor step failures = some (now + handler.pollInterval) := by
  simp [Sitting.due, hnow, hhandler, hquiet]

end Reports

/-! ## The outline -/

section Outline

variable {current : WorkflowRun} {drive : Client UUID}

/-- What holds of the run in memory and of what was done; nobody else is about. -/
def inPeace (holds : WorkflowRun → Sitting → Prop) :
    Assertion (undisputed current).alone drive where
  holds := holds
  stable hholds hrely _ := by
    cases hrely
    exact hholds

variable (executor : Executor) (row : WorkflowRun) (origin : Stand StepName)

/-- Where a run at a step stands. -/
abbrev standAt (step : StepName) (failures : Nat) : Stand StepName :=
  .at step (following (runPlans row.runType) step) failures

/-- At a step, of which no failure is being dealt with. -/
def Trying (step : StepName) (run : WorkflowRun) (sitting : Sitting) : Prop :=
  ∃ failures, Underway row step failures run ∧
    Reported row origin (standAt row step failures) sitting ∧
    reportsFailure sitting.outcomes = false

/-- A failure of the step is on record, and not counted yet. -/
def Erring (step : StepName) (error : PyException) (run : WorkflowRun) (sitting : Sitting) :
    Prop :=
  ∃ failures, Underway row step failures run ∧
    Reported row origin (Stand.afterFailure (budgetTerms row.maxRetries) step
      (following (runPlans row.runType) step) failures error) sitting ∧
    reportsFailure sitting.outcomes = true

/-- A completion of the step is on record. -/
def Passing (step : StepName) (run : WorkflowRun) (sitting : Sitting) : Prop :=
  step ∈ runPlans row.runType ∧ run.runType = row.runType ∧
    (∀ next ∈ runPlans row.runType,
      Underway row next 0 { run with currentStep := some next.value }) ∧
    Reported row origin (Stand.afterCompletion (following (runPlans row.runType) step)) sitting ∧
    reportsFailure sitting.outcomes = false

/-- The run is at its step, and due when no datetime can name. -/
def Overflowing (run : WorkflowRun) (sitting : Sitting) : Prop :=
  ∃ step failures due, Underway row step failures run ∧
    Reported row origin (standAt row step failures) sitting ∧
    sitting.due executor step failures = some due ∧ datetimeMax < due

def Denying (run : WorkflowRun) (sitting : Sitting) : Prop :=
  ∃ step failures, run.status = .rejected ∧ run.currentStep = some step.value ∧
    Reported row origin (standAt row step failures) sitting

/-- The run stands as the delivery reported. -/
structure Settles (stand : Stand StepName) (run : WorkflowRun) (sitting : Sitting) : Prop where
  reported : origin.run (budgetTerms row.maxRetries) sitting.outcomes = stand
  stands : StandsAs row stand run
  scheduled : Scheduled executor stand run sitting
  overran : Overran executor row origin sitting

def Fallen (run : WorkflowRun) (sitting : Sitting) : Prop :=
  ∃ step failures, Settles executor row origin (.failed step failures) run sitting

/-- The run stands as reported, once it is saved. -/
def Saving (run : WorkflowRun) (sitting : Sitting) : Prop :=
  ∃ stand, Settles executor row origin stand run
    (sitting.note (.saved run (.ok (run.version + 1))))

/-- The run was saved, and stands as reported. -/
def Kept (run : WorkflowRun) (sitting : Sitting) : Prop :=
  (∀ loaded, committed loaded sitting.deeds = run) ∧
    ∃ stand, Settles executor row origin stand run sitting

variable {executor row origin}
variable {step : StepName} {run : WorkflowRun} {sitting : Sitting} {failures : Nat}
variable {stand : Stand StepName}

/-- What leaves alone what the count is about. -/
theorem Underway.congr {other : WorkflowRun} (hrun : Underway row step failures run)
    (htype : other.runType = run.runType) (hretries : other.maxRetries = run.maxRetries)
    (hstatus : other.status = run.status) (hstep : other.currentStep = run.currentStep)
    (hattempts : other.runState.stepAttempts = run.runState.stepAttempts)
    (haware : ∀ instant, other.runState.attemptStartedAt ≠ some (.naive instant)) :
    Underway row step failures other where
  runType := htype.trans hrun.runType
  maxRetries := hretries.trans hrun.maxRetries
  status := hstatus.trans hrun.status
  currentStep := hstep.trans hrun.currentStep
  planned := hrun.planned
  attempts := hattempts.trans hrun.attempts
  aware := haware

theorem Underway.rescheduled (hrun : Underway row step failures run)
    (scheduledAt : Option Time) :
    Underway row step failures { run with scheduledAt := scheduledAt } :=
  hrun.congr rfl rfl rfl rfl rfl hrun.aware

/-- A version changes nothing about how the run stands. -/
theorem StandsAs.versioned (hstands : StandsAs row stand run) (version : Int) :
    StandsAs row stand { run with version := version } := by
  cases stand with
  | «at» step rest failures =>
      obtain ⟨hrest, hrun⟩ := hstands
      exact ⟨hrest, hrun.congr rfl rfl rfl rfl rfl hrun.aware⟩
  | _ => exact hstands

theorem Saving.kept (hrun : Saving executor row origin run sitting) :
    Kept executor row origin { run with version := run.version + 1 }
      (sitting.note (.saved run (.ok (run.version + 1)))) := by
  obtain ⟨stand, hsettles⟩ := hrun
  exact ⟨fun _ => rfl, stand, hsettles.reported, hsettles.stands.versioned _, hsettles.scheduled,
    hsettles.overran⟩

/-- A delivery that reported no crash did not overrun. -/
theorem Reported.overran (hreported : Reported row origin stand sitting) :
    Overran executor row origin sitting :=
  fun error herror => absurd herror (hreported.2 error)

/-- What no longer is at a step is not scheduled. -/
theorem Reported.settles (hreported : Reported row origin stand sitting)
    (hstands : StandsAs row stand run)
    (hover : ∀ step rest failures, stand ≠ .at step rest failures) :
    Settles executor row origin stand run sitting where
  reported := hreported.1
  stands := hstands
  scheduled step rest failures hstand := absurd hstand (hover step rest failures)
  overran := hreported.overran

theorem Fallen.congr {changed : WorkflowRun} (hrun : Fallen executor row origin run sitting)
    (hstatus : changed.status = run.status) (hstep : changed.currentStep = run.currentStep)
    (hattempts : changed.runState.stepAttempts = run.runState.stepAttempts) :
    Fallen executor row origin changed sitting := by
  obtain ⟨step, failures, hreported, ⟨hfailed, hcurrent, hcounted⟩, -, hoverran⟩ := hrun
  refine ⟨step, failures, hreported, ⟨?_, ?_, ?_⟩, ?_, hoverran⟩
  · exact hstatus.trans hfailed
  · exact hstep.trans hcurrent
  · exact hattempts.trans hcounted
  · intro step rest failures hstand
    cases hstand

/-- A failed run, whatever else is done about it. -/
theorem Fallen.silent {deed : Deed} (hrun : Fallen executor row origin run sitting)
    (hsilent : (sitting.note deed).outcomes = sitting.outcomes) :
    Fallen executor row origin run (sitting.note deed) := by
  obtain ⟨step, failures, hreported, hstands, -, hoverran⟩ := hrun
  refine ⟨step, failures, ?_, hstands, ?_, ?_⟩
  · rw [hsilent]
    exact hreported
  · intro step rest failures hstand
    cases hstand
  · intro error herror
    rw [hsilent] at herror
    obtain ⟨outcomes, step, rest, failures, due, hsplit, hstand, hdue, hunnamed⟩ :=
      hoverran error herror
    refine ⟨outcomes, step, rest, failures, due, hsilent.trans hsplit, hstand, ?_, hunnamed⟩
    rw [Sitting.due_note (by rw [hsilent]), hdue]

theorem Fallen.saving (hrun : Fallen executor row origin run sitting) :
    Saving executor row origin run sitting := by
  have hfailed : run.status = .failed := by
    obtain ⟨step, failures, hsettles⟩ := hrun
    exact hsettles.stands.1
  have hsilent : (sitting.note (.saved run (.ok (run.version + 1)))).outcomes =
      sitting.outcomes := by
    simp [Sitting.outcomes, Sitting.note, reports, hfailed]
  obtain ⟨step, failures, hsettles⟩ := hrun.silent hsilent
  exact ⟨_, hsettles⟩

theorem Denying.saving (hrun : Denying row origin run sitting) :
    Saving executor row origin run sitting := by
  obtain ⟨step, failures, hstatus, hstep, hreported⟩ := hrun
  have hadds : (sitting.note (.saved run (.ok (run.version + 1)))).outcomes =
      sitting.outcomes ++ [.denied] := by
    simp [Sitting.outcomes, Sitting.note, reports, hstatus]
  have hdenied : Reported row origin (.denied step)
      (sitting.note (.saved run (.ok (run.version + 1)))) := hreported.adding hadds (by simp)
  exact ⟨_, hdenied.settles ⟨hstatus, hstep⟩ (by simp)⟩

/-- A run that stays at its step is saved with when it is due. -/
theorem Underway.saving {due : Time} (hunderway : Underway row step failures run)
    (hreported : Reported row origin (standAt row step failures) sitting)
    (hdue : sitting.due executor step failures = some due) (hnamed : due ≤ datetimeMax)
    (hscheduled : run.scheduledAt = some due) : Saving executor row origin run sitting := by
  have houtcomes : (sitting.note (.saved run (.ok (run.version + 1)))).outcomes =
      if reportsFailure sitting.outcomes then sitting.outcomes
      else sitting.outcomes ++ [.notDone] := outcomes_running hunderway.status _
  have hsaved : Reported row origin (standAt row step failures)
        (sitting.note (.saved run (.ok (run.version + 1)))) ∧
      reportsFailure (sitting.note (.saved run (.ok (run.version + 1)))).outcomes =
        reportsFailure sitting.outcomes := by
    split at houtcomes
    next => exact ⟨hreported.silent houtcomes, by rw [houtcomes]⟩
    next =>
      refine ⟨hreported.adding houtcomes (by simp), ?_⟩
      rw [houtcomes, reportsFailure_append]
      exact Bool.or_false _
  obtain ⟨hsaved, hkept⟩ := hsaved
  refine ⟨_, hsaved.1, ⟨rfl, hunderway⟩, ?_, hsaved.overran⟩
  intro step rest failures hstand
  cases hstand
  exact ⟨due, (Sitting.due_note hkept).trans hdue, hnamed, hscheduled⟩

/-- A step that is not done yet is polled again, with nothing counted. -/
theorem Trying.polled {handler : StepHandler} {now due : Time}
    (hrun : Trying row origin step run sitting) (hnow : sitting.now = some now)
    (hhandler : executor.handlers step = some handler)
    (hlater : later now handler.pollInterval = .ok due) :
    Saving executor row origin { run with scheduledAt := some due } sitting := by
  obtain ⟨failures, hunderway, hreported, hquiet⟩ := hrun
  obtain ⟨rfl, hnamed⟩ := later_ok hlater
  exact (hunderway.rescheduled _).saving hreported (Sitting.due_poll hnow hhandler hquiet)
    hnamed rfl

theorem Trying.overflowing {handler : StepHandler} {now : Time} {error : PyException}
    (hrun : Trying row origin step run sitting) (hnow : sitting.now = some now)
    (hhandler : executor.handlers step = some handler)
    (hlater : later now handler.pollInterval = .error error) :
    Overflowing executor row origin run sitting := by
  obtain ⟨failures, hunderway, hreported, hquiet⟩ := hrun
  exact ⟨step, failures, _, hunderway, hreported, Sitting.due_poll hnow hhandler hquiet,
    later_error hlater⟩

/-- A failure, put on record. -/
theorem Trying.erred {attempt : Int} {error : PyException}
    (hrun : Trying row origin step run sitting) :
    Erring row origin step error run (sitting.note (.logged (.stepRaised step attempt error))) := by
  obtain ⟨failures, hrun, hreported, -⟩ := hrun
  have hadds : (sitting.note (.logged (.stepRaised step attempt error))).outcomes =
      sitting.outcomes ++ [.failed step error] := rfl
  refine ⟨failures, hrun, ?_, ?_⟩
  · simpa [Stand.after] using hreported.adding hadds (by simp)
  · rw [hadds, reportsFailure_append]
    exact Bool.or_true _

/-- A completion, put on record: the count is gone. -/
theorem Trying.passed (hrun : Trying row origin step run sitting) :
    Passing row origin step (steppedRun step run)
      (sitting.note (.logged (.stepCompleted step))) := by
  obtain ⟨failures, hrun, hreported, hquiet⟩ := hrun
  have hadds : (sitting.note (.logged (.stepCompleted step))).outcomes =
      sitting.outcomes ++ [.completed step] := rfl
  refine ⟨hrun.planned, hrun.runType, fun next hnext => ?_, ?_, ?_⟩
  · refine ⟨hrun.runType, hrun.maxRetries, hrun.status, rfl, hnext, ?_, by simp [steppedRun]⟩
    change run.runState.stepAttempts.pop step = .empty
    rw [hrun.attempts, tally_pop]
  · simpa [Stand.after] using hreported.adding hadds (by simp)
  · rw [hadds, reportsFailure_append, hquiet]
    rfl

section Erring

variable {error : PyException} {engines : List WorkflowEngineType} {handler : StepHandler}
variable {now jitter : Time}

/-- The failure may be retried: it is counted, and the run stays at the step. -/
theorem Erring.retried (hrun : Erring row origin step error run sitting)
    (hhandler : buildHandlers engines step = some handler)
    (hretry : mayRetry error (run.runState.attempts step + 1) run.maxRetries = true) :
    ∃ failures : Nat, run.runState.attempts step + 1 = failures ∧
      Underway row step failures (retriedRun step handler run) ∧
      Reported row origin (standAt row step failures) sitting ∧
      reportsFailure sitting.outcomes = true := by
  obtain ⟨failures, hunderway, hreported, hfailing⟩ := hrun
  refine ⟨failures + 1, ?_, hunderway.retried hhandler, ?_, hfailing⟩
  · rw [hunderway.attempts_eq]
    rfl
  · rw [hunderway.mayRetry_iff] at hretry
    simpa only [Stand.afterFailure, if_pos hretry] using hreported

/-- The next try is due once the backoff from now is over. -/
theorem Erring.rested {due : Time} (hrun : Erring row origin step error run sitting)
    (hhandler : buildHandlers engines step = some handler)
    (hretry : mayRetry error (run.runState.attempts step + 1) run.maxRetries = true)
    (hnow : sitting.now = some now) (hjitter : sitting.jitter = some jitter)
    (hlater : later now
      (backoff executor.retryBase (run.runState.attempts step + 1) jitter) = .ok due) :
    Saving executor row origin { retriedRun step handler run with scheduledAt := some due }
      sitting := by
  obtain ⟨failures, hcount, hunderway, hreported, hfailing⟩ := hrun.retried hhandler hretry
  rw [hcount] at hlater
  obtain ⟨rfl, hnamed⟩ := later_ok hlater
  exact (hunderway.rescheduled _).saving hreported (Sitting.due_retry hnow hjitter hfailing) hnamed
    rfl

theorem Erring.overflowing {overflow : PyException}
    (hrun : Erring row origin step error run sitting)
    (hhandler : buildHandlers engines step = some handler)
    (hretry : mayRetry error (run.runState.attempts step + 1) run.maxRetries = true)
    (hnow : sitting.now = some now) (hjitter : sitting.jitter = some jitter)
    (hlater : later now
      (backoff executor.retryBase (run.runState.attempts step + 1) jitter) = .error overflow) :
    Overflowing executor row origin (retriedRun step handler run) sitting := by
  obtain ⟨failures, hcount, hunderway, hreported, hfailing⟩ := hrun.retried hhandler hretry
  rw [hcount] at hlater
  exact ⟨step, failures, _, hunderway, hreported, Sitting.due_retry hnow hjitter hfailing,
    later_error hlater⟩

/-- The failure may not be retried: it is counted, and the run is over. -/
theorem Erring.fallen (hrun : Erring row origin step error run sitting)
    (hretry : ¬ mayRetry error (run.runState.attempts step + 1) run.maxRetries = true) :
    Fallen executor row origin (failedRun step error run) sitting := by
  obtain ⟨failures, hunderway, hreported, -⟩ := hrun
  rw [hunderway.mayRetry_iff] at hretry
  have hover : Reported row origin (.failed step (failures + 1)) sitting := by
    simpa only [Stand.afterFailure, if_neg hretry] using hreported
  exact ⟨step, failures + 1,
    hover.settles ⟨rfl, hunderway.currentStep, hunderway.counted⟩ (by simp)⟩

end Erring

/-- A crash, put on record. -/
theorem Overflowing.crashed {error : PyException}
    (hrun : Overflowing executor row origin run sitting) (named : Option StepName) :
    Fallen executor row origin (crashedRun named error run)
      (sitting.note (.logged (.crashed error))) := by
  obtain ⟨step, failures, due, hunderway, hreported, hdue, hunnamed⟩ := hrun
  have hadds : (sitting.note (.logged (.crashed error))).outcomes =
      sitting.outcomes ++ [.crashed error] := rfl
  refine ⟨step, failures, ?_, ⟨rfl, hunderway.currentStep, ?_⟩, ?_, ?_⟩
  · rw [hadds, Stand.run_append, hreported.1]
    rfl
  · rw [← hunderway.attempts]
    cases named <;> rfl
  · intro step rest failures hstand
    cases hstand
  · intro other hother
    rw [hadds] at hother
    rcases List.mem_append.mp hother with hold | hnew
    · exact absurd hold (hreported.2 other)
    · cases List.mem_singleton.mp hnew
      refine ⟨_, _, _, _, due, hadds, hreported.1, ?_, hunnamed⟩
      rw [Sitting.due_note, hdue]
      rw [hadds, reportsFailure_append]
      exact Bool.or_false _

/-- Anything but a save is answered as the environment likes. -/
theorem undisputed_call {issuer : Issuer} {call : Call} {post : call.Answer → Sitting → Prop}
    (hpost : ∀ answer, post answer (sitting.note (.called issuer call answer))) :
    Serves (undisputed current).alone drive (.provider issuer call) sitting post :=
  fun _ => ⟨trivial, trivial, hpost _⟩

theorem undisputed_log {record : LogRecord} {post : Unit → Sitting → Prop}
    (hpost : post () (sitting.note (.logged record))) :
    Serves (undisputed current).alone drive (.log record) sitting post :=
  fun _ => ⟨trivial, trivial, hpost⟩

theorem undisputed_save {post : Except PyException Int → Sitting → Prop}
    (hpost : post (.ok (run.version + 1)) (sitting.note (.saved run (.ok (run.version + 1))))) :
    Serves (undisputed current).alone drive (.runsSave run) sitting post :=
  fun _ => ⟨trivial, trivial, hpost⟩

/-- From the end of the turns on: the run is failed, rejected or saved as reported. -/
def budgetRest (executor : Executor) (row : WorkflowRun) (origin : Stand StepName) :
    Ending (undisputed current).alone drive where
  denied := inPeace (Denying row origin)
  dismissed := inPeace (Denying row origin)
  failing _ := inPeace (Fallen executor row origin)
  escalating _ := inPeace (Fallen executor row origin)
  failed := inPeace (Fallen executor row origin)
  released := inPeace (Fallen executor row origin)
  pending := inPeace (Saving executor row origin)
  quiet := inPeace (Fallen executor row origin)
  troubled _ := inPeace (Overflowing executor row origin)
  ended := inPeace (Kept executor row origin)
  wrecked _ := inPeace (Kept executor row origin)
  release hrun _ _ := by
    apply undisputed_call
    intro answer
    obtain ⟨step, failures, hstatus, hstep, hreported⟩ := hrun
    exact ⟨step, failures, hstatus, hstep, hreported.silent rfl⟩
  unheld hrun _ := hrun
  dismissed_pending hrun := hrun.saving
  logEscalating hrun _ := undisputed_log (hrun.silent rfl)
  openIncident request hrun _ := by
    apply undisputed_call
    intro answer
    simp only
    split
    · exact (hrun.silent rfl).congr rfl rfl rfl
    · exact hrun.silent rfl
  escalating_failed hrun := hrun
  aftermath hrun _ _ := undisputed_call fun _ => hrun.silent rfl
  ticketClosed hrun := hrun.congr rfl rfl rfl
  releaseFailed hrun _ _ := undisputed_call fun _ => hrun.silent rfl
  unheldFailed hrun _ := hrun
  released_pending hrun := hrun.saving
  released_quiet hrun := hrun
  save hrun _ := undisputed_save hrun.kept
  saveQuietly hrun _ := undisputed_save hrun.saving.kept
  unpersisted := by
    rintro error run sitting ⟨step, failures, due, hunderway, -⟩ hfailed
    rw [hunderway.status] at hfailed
    cases hfailed
  unnamed := by
    rintro error nameError run text sitting ⟨step, failures, due, hunderway, -⟩ - htext hunnamed
    have hnameable : run.Nameable := .inr ⟨step, hunderway.currentStep⟩
    exact absurd hunnamed (hnameable.named htext nameError)
  crashed hrun _ _ _ := undisputed_log (hrun.crashed _)

/-- A run that a delivery drives, and where it stands. -/
def Boarding (row : WorkflowRun) (stand : Stand StepName) (run : WorkflowRun) : Prop :=
  run.status.terminal = false ∧ ∃ step failures, stand = standAt row step failures ∧
    Executor.startStep run = .ok step ∧
    Underway row step failures { run with status := .running, currentStep := some step.value }

/-- The turns: each ends as the count says. -/
def budgetCloseup (current : WorkflowRun) (drive : Client UUID) (row : WorkflowRun)
    (origin : Stand StepName) {engines : List WorkflowEngineType}
    (hwired : executor.handlers = buildHandlers engines) :
    Closeup (undisputed current).alone drive executor where
  rest := budgetRest executor row origin
  fresh := inPeace fun run sitting => sitting = {} ∧ Boarding row origin run
  entering step := inPeace (Trying row origin step)
  noted step := inPeace (Trying row origin step)
  ready step started := inPeace fun run sitting =>
    Trying row origin step run sitting ∧ ∀ instant, started ≠ .naive instant
  tried step _ _ := inPeace (Trying row origin step)
  raised step error := inPeace (Erring row origin step error)
  drawn step error jitter := inPeace fun run sitting =>
    Erring row origin step error run sitting ∧ sitting.jitter = some jitter
  passed step := inPeace (Passing row origin step)
  utcnow _ _ _ := ⟨trivial, trivial⟩
  uniform _ _ _ := ⟨trivial, trivial⟩
  start := by
    rintro run sitting step ⟨rfl, -, board, failures, rfl, hboard, hunderway⟩ hstart
    obtain rfl := Except.ok.inj (hboard.symm.trans hstart)
    exact ⟨failures, hunderway, ⟨rfl, by simp [Sitting.outcomes, reports]⟩, rfl⟩
  badStart := by
    rintro run sitting error ⟨-, -, step, failures, -, hstart, -⟩ hbad
    rw [hstart] at hbad
    cases hbad
  unhandled := by
    intro step run sitting _ hmissing
    rw [hwired] at hmissing
    cases step <;> cases hmissing
  note choice hrun _ := by
    obtain ⟨failures, hunderway, hreported⟩ := hrun
    exact ⟨failures, hunderway.congr rfl rfl rfl rfl rfl hunderway.aware, hreported⟩
  resume hrun hstarted := by
    refine ⟨hrun, fun instant hnaive => ?_⟩
    obtain ⟨failures, hunderway, -⟩ := hrun
    exact hunderway.aware instant (hnaive ▸ hstarted)
  begin choice hrun _ _ := by
    obtain ⟨failures, hunderway, hreported⟩ := hrun
    refine ⟨⟨failures, hunderway.congr rfl rfl rfl rfl rfl ?_, hreported⟩, ?_⟩
    · simp [begunRun]
    · simp
  glance _ hrun _ := hrun
  naive hrun := absurd rfl (hrun.2 _)
  late _ _ hrun _ _ := hrun.1
  execute {step} handler started run sitting hhandler hrun _ := by
    rw [hwired] at hhandler
    obtain ⟨failures, hunderway, hreported, hquiet⟩ := hrun.1
    refine Discipline.wp_mono (wp_handler (fun (_ : Trace Providers) (sitting : Sitting) =>
      Reported row origin (standAt row step failures) sitting ∧
        reportsFailure sitting.outcomes = false) hhandler ?_ ?_ ⟨hreported, hquiet⟩) ?_
    · rintro _ sitting _ hreports rfl _
      exact hreports
    · -- what the handler calls reports nothing
      intro _ call sitting hreports _ _
      exact undisputed_call fun answer => ⟨hreports.1.silent rfl, hreports.2⟩
    · rintro outcome state final ⟨_, hreports, hend⟩
      refine ⟨failures, hunderway.congr rfl rfl rfl rfl hend.stepAttempts ?_, hreports⟩
      intro instant
      change state.attemptStartedAt ≠ _
      rw [hend.times.2]
      exact hunderway.aware instant
  reject {step} _ message run sitting hrun := by
    obtain ⟨failures, hunderway, hreported, -⟩ := hrun
    exact ⟨step, failures, rfl, hunderway.currentStep, hreported⟩
  logRaised hrun _ _ := undisputed_log hrun.erred
  draw _ hrun _ := ⟨hrun, rfl⟩
  retry _ hhandler hrun _ hretry hlater := by
    rw [hwired] at hhandler
    obtain ⟨hrun, hjitter⟩ := hrun
    exact Erring.rested hrun hhandler hretry rfl hjitter hlater
  retryOverflow _ hhandler hrun _ hretry hlater := by
    rw [hwired] at hhandler
    obtain ⟨hrun, hjitter⟩ := hrun
    exact Erring.overflowing hrun hhandler hretry rfl hjitter hlater
  giveUp hrun hretry := hrun.fallen hretry
  poll _ hhandler hrun _ hlater := Trying.polled hrun rfl hhandler hlater
  pollOverflow _ hhandler hrun _ hlater := Trying.overflowing hrun rfl hhandler hlater
  logCompleted hrun _ := undisputed_log hrun.passed
  offPlan hrun hoff := by
    obtain ⟨hplanned, htype, -⟩ := hrun
    exact absurd (htype ▸ hplanned) hoff
  next := by
    intro step next rest run sitting hrun _ hnext
    obtain ⟨hplanned, htype, hunderway, hreported, hquiet⟩ := hrun
    rw [htype] at hnext
    -- the next step starts at none, since the count of the one completed is taken away
    obtain ⟨hin, hfollowing, -⟩ := following_eq_cons (runPlans_nodup _) hplanned hnext
    rw [hnext] at hreported
    refine ⟨0, hunderway next hin, ?_, hquiet⟩
    rwa [standAt, hfollowing]
  finish := by
    intro step run sitting hrun _ hlast
    obtain ⟨-, htype, -, hreported, -⟩ := hrun
    rw [← htype, hlast] at hreported
    -- the last step is completed, and the run with it
    have hsaved : Reported row origin .completed
        (sitting.note (.saved (completedRun run) (.ok (run.version + 1)))) := hreported.silent rfl
    exact ⟨.completed, hsaved.settles ⟨rfl, rfl⟩ (by simp)⟩

end Outline

/-! ## One delivery after another -/

/-- A run that no drive has saved. -/
structure Unstarted (run : WorkflowRun) : Prop where
  status : run.status = .pending
  currentStep : run.currentStep = none
  attempts : run.runState.stepAttempts = .empty
  unbegun : run.runState.attemptStartedAt = none

/-- Triggered runs are, whatever number of retries they are given. -/
theorem triggered_unstarted (now : Time) (runId : UUID) (workflow : Workflow)
    (request : TriggerRequest) (maxRetries : Int) :
    Unstarted { triggered now runId workflow request with maxRetries := maxRetries } :=
  ⟨rfl, rfl, rfl, rfl⟩

theorem triggerLegacy_unstarted (now : Time) (runId : UUID) (request : LegacyRunRequest)
    (maxRetries : Int) :
    Unstarted { triggerLegacy now runId request with maxRetries := maxRetries } :=
  ⟨rfl, rfl, rfl, rfl⟩

section Career

variable {executor : Executor} {engines : List WorkflowEngineType}
variable {row current : WorkflowRun} {stand : Stand StepName}

theorem Unstarted.boarding (hrow : Unstarted row) :
    Boarding row (standAt row (firstStep row.runType) 0) row := by
  refine ⟨by rw [hrow.status]; rfl, firstStep row.runType, 0, rfl, ?_, ?_⟩
  · simp [Executor.startStep, hrow.currentStep]
  · refine ⟨rfl, rfl, rfl, rfl, ?_, hrow.attempts, ?_⟩
    · cases row.runType <;> decide
    · simp [hrow.unbegun]

/-- A stored run is either driven on from where it stands, or over. -/
theorem StandsAs.boarding (hstands : StandsAs row stand current) :
    Boarding row stand current ∨ current.status.terminal = true := by
  cases stand with
  | «at» step rest failures =>
      obtain ⟨rfl, hunderway⟩ := hstands
      refine .inl ⟨by rw [hunderway.status]; rfl, step, failures, rfl, ?_, ?_⟩
      · exact startStep_named hunderway.currentStep
      · exact hunderway.congr rfl rfl hunderway.status.symm hunderway.currentStep.symm rfl
          hunderway.aware
  | astray => exact hstands.elim
  | _ =>
      right
      rw [hstands.1]
      rfl

/-- A delivery of a run that is not terminal drives it. -/
theorem Wakeup.sitting_open (wakeup : Wakeup) (hopen : current.status.terminal = false) :
    let claimed := { current with scheduledAt := wakeup.scheduledAt }
    wakeup.sitting executor current = ((undisputed claimed).finish ⟨current.runId, 0⟩
      wakeup.behaviour (executor.driveOrCrash claimed) (1, {})).2.2 := by
  intro claimed
  simp only [Wakeup.sitting, Executor.handle, Service.finish, hopen, Bool.false_eq_true, if_false,
    Service.finish_bind]
  rfl

/-- A delivery saves the run as its reports say. -/
theorem Wakeup.kept (hwired : executor.handlers = buildHandlers engines) (wakeup : Wakeup)
    (hboards : Boarding row stand current) :
    ∃ run, Kept executor row stand run (wakeup.sitting executor current) := by
  obtain ⟨hopen, step, failures, hstand, hstart, hunderway⟩ := hboards
  let claimed : WorkflowRun := { current with scheduledAt := wakeup.scheduledAt }
  let C := budgetCloseup claimed ⟨current.runId, 0⟩ row stand hwired
  have hfresh : C.fresh claimed {} :=
    ⟨rfl, hopen, step, failures, hstand, hstart, hunderway.rescheduled _⟩
  have hended :=
    Discipline.Safe.finish wakeup.behaviour (1, ({} : Sitting)) (C.wp_driveOrCrash hfresh)
  rw [wakeup.sitting_open hopen]
  rcases hended with ⟨-, hkept⟩ | hkept
  · exact ⟨_, hkept⟩
  · exact ⟨_, hkept⟩

/-- Nothing is done about a run that is over. -/
theorem Wakeup.sitting_terminal (wakeup : Wakeup) (hterminal : current.status.terminal = true) :
    wakeup.sitting executor current = {} := by
  simp [Wakeup.sitting, Executor.handle, Service.finish, hterminal]

theorem career_concat (row : WorkflowRun) (wakeups : List Wakeup) (wakeup : Wakeup) :
    let before := career executor row wakeups
    let sitting := wakeup.sitting executor before.1
    career executor row (wakeups ++ [wakeup]) =
      (committed before.1 sitting.deeds, before.2 ++ sitting.outcomes) := by
  induction wakeups generalizing row with
  | nil => simp [career]
  | cons first wakeups ih =>
      simp only [List.cons_append, career]
      rw [ih]
      simp

/-- One more delivery: the run stands as the count of all that was reported says. -/
theorem Wakeup.settles (hwired : executor.handlers = buildHandlers engines) (wakeup : Wakeup)
    (hstood : Boarding row stand current ∨
      StandsAs row stand current ∧ current.status.terminal = true) :
    let sitting := wakeup.sitting executor current
    Settles executor row stand (stand.run (budgetTerms row.maxRetries) sitting.outcomes)
      (committed current sitting.deeds) sitting := by
  intro sitting
  rcases hstood with hboards | ⟨hstands, hterminal⟩
  · obtain ⟨run, hcommitted, _, hsettles⟩ := wakeup.kept hwired hboards
    rw [hcommitted]
    obtain rfl := hsettles.reported
    exact hsettles
  · have hnothing : sitting = {} := wakeup.sitting_terminal hterminal
    rw [hnothing]
    refine ⟨rfl, hstands, ?_, ?_⟩
    · -- a run at a step is not over
      rintro step rest failures rfl
      rw [hstands.2.status] at hterminal
      cases hterminal
    · intro error herror
      cases herror

/-- After any deliveries, the run is driven on from where it stands, or it is over. -/
theorem career_stands (hwired : executor.handlers = buildHandlers engines)
    (hboards : Boarding row stand current) (wakeups : List Wakeup) :
    let done := career executor current wakeups
    Boarding row (stand.run (budgetTerms row.maxRetries) done.2) done.1 ∨
      StandsAs row (stand.run (budgetTerms row.maxRetries) done.2) done.1 ∧
        done.1.status.terminal = true := by
  induction wakeups using List.reverseRecOn with
  | nil => exact .inl hboards
  | append_singleton wakeups wakeup ih =>
      rw [career_concat]
      have hstands := (wakeup.settles hwired ih).stands
      simp only [Stand.run_append]
      rcases hstands.boarding with hnext | hterminal
      · exact .inl hnext
      · exact .inr ⟨hstands, hterminal⟩

end Career

/-- The legacy runner down, at a delivery like any other. -/
def unreachable : Wakeup where
  scheduledAt := none
  behaviour count op :=
    match op with
    | .provider _ call => legacyDown call
    | op => obliging count op

end CloudioOrchestrator

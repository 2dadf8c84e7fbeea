import CloudioOrchestrator.Closeup
import CloudioOrchestrator.Counting.Chronicle
import CloudioOrchestrator.Dated
import CloudioOrchestrator.Journal
import Mathlib.Data.List.TakeWhile

/-! # The step log and the deadline clock

When each step of a run was begun is noted once, in the order of the plan, and
stays. The deadline of a step is measured from where its current attempt was
begun, and no attempt is begun before it was open.
-/

namespace CloudioOrchestrator

open Interaction Chronicle

/-- No time is noted. -/
def Unstamped (run : WorkflowRun) : Prop :=
  run.runState.stepStartedAt = .empty ∧ run.runState.attemptStartedAt = none

theorem trigger_unstamped {now : Time} {runId : UUID} {workflow : Option Workflow}
    {request : TriggerRequest} {run : WorkflowRun}
    (htrigger : trigger now runId workflow request = .ok run) : Unstamped run := by
  simp only [trigger] at htrigger
  split at htrigger
  next => cases htrigger
  next =>
    split at htrigger
    next => cases htrigger
    next =>
      cases htrigger
      exact ⟨rfl, rfl⟩

/-- No handler raises what its driver raises over the budget. -/
theorem HandlerEnd.not_deadline {engines : List WorkflowEngineType} {run : WorkflowRun}
    {state final : RunState} {step : StepName} {trace : Trace Providers} {message : String} :
    ¬ HandlerEnd engines run state step trace (.error (.stepDeadlineExceeded message)) final := by
  intro hend
  have hprovider : ∀ error : ProviderError,
      error.toException ≠ .stepDeadlineExceeded message := by
    intro error
    cases error <;> simp [ProviderError.toException]
  generalize hended : (.error (.stepDeadlineExceeded message) : Except PyException Bool) = ended
    at hend
  cases hend with
  | ticketRefused error | createRefused error | markRefused error | approvalUnknown error
  | validationRaised error | triggerRaised error | queryRaised error | writeRaised error
  | deletionRefused error | deleteRaised _ error | closeRaised error | handoverRaised error =>
      exact hprovider error (Except.error.inj hended).symm
  | engineFailed => simp [engineStepFailure] at hended
  | _ => cases hended

/-! ## Attempts -/

/-- What opens an attempt of a step: its run was loaded with the attempt not begun,
or the step before it was completed. -/
inductive Opens (runType : RunType) (runId : UUID) (step : StepName) (attempt : Int) : Event → Prop
  | loaded (drive : DriveId) (row : WorkflowRun) (hid : row.runId = runId)
      (hstep : Executor.startStep row = .ok step) (hattempt : row.runState.attempts step = attempt)
      (hunbegun : row.runState.attemptStartedAt = none) :
      Opens runType runId step attempt (.loaded drive row)
  | completed (drive : DriveId) (previous : StepName) (hid : drive.subject = runId)
      (hstep : (following (runPlans runType) previous).head? = some step) (hattempt : attempt = 0) :
      Opens runType runId step attempt (.logged drive (.stepCompleted previous))

/-- The attempt was open by then. -/
def OpenBy (runType : RunType) (runId : UUID) (step : StepName) (attempt : Int) (since : Time)
    (world : DatedWorld) : Prop :=
  ∃ date event, (date, event) ∈ world.timeline ∧ date ≤ since ∧
    Opens runType runId step attempt event

/-- The drive itself had opened the attempt by then. -/
def OpenedBy (runType : RunType) (drive : DriveId) (step : StepName) (attempt : Int) (since : Time)
    (world : DatedWorld) : Prop :=
  ∃ date event, (date, event) ∈ world.timeline ∧ date ≤ since ∧ event.actor = some drive ∧
    Opens runType drive.subject step attempt event

/-- The attempt that a drive is at was begun then: the row it loaded says so, and
the attempt was open, or it had opened the attempt itself. -/
inductive Began (runType : RunType) (drive : DriveId) (step : StepName) (attempt : Int)
    (since : Time) (world : DatedWorld) : Prop
  | resumed (row : WorkflowRun) (hloaded : .loaded drive row ∈ world.world.history)
      (hstep : Executor.startStep row = .ok step) (hattempt : row.runState.attempts step = attempt)
      (hbegun : row.runState.attemptStartedAt = some (.aware since))
      (hopen : OpenBy runType drive.subject step attempt since world)
  | opened (hopened : OpenedBy runType drive step attempt since world)

theorem Began.openBy {runType : RunType} {drive : DriveId} {step : StepName} {attempt : Int}
    {since : Time} {world : DatedWorld} (hbegan : Began runType drive step attempt since world) :
    OpenBy runType drive.subject step attempt since world := by
  cases hbegan with
  | resumed row hloaded hstep hattempt hbegun hopen => exact hopen
  | opened hopened =>
      obtain ⟨date, event, hevent, hdate, -, hopens⟩ := hopened
      exact ⟨date, event, hevent, hdate, hopens⟩

/-- More than the step's budget has passed at a date since its attempt was begun. -/
def Overdue (executor : Executor) (drive : DriveId) (step : StepName) (attempt : Int) (date : Time)
    (world : DatedWorld) : Prop :=
  ∃ origin handler since, .created origin ∈ world.world.history ∧ origin.runId = drive.subject ∧
    executor.handlers step = some handler ∧ Began origin.runType drive step attempt since world ∧
    handler.maxStepDuration < date - since

section Lasting

variable {world later : DatedWorld} (hlater : world.Follows later)
include hlater

theorem OpenBy.mono {runType : RunType} {runId : UUID} {step : StepName} {attempt : Int}
    {since : Time} (hopen : OpenBy runType runId step attempt since world) :
    OpenBy runType runId step attempt since later := by
  obtain ⟨date, event, hevent, hdate, hopens⟩ := hopen
  exact ⟨date, event, hlater.timeline.subset hevent, hdate, hopens⟩

theorem OpenedBy.mono {runType : RunType} {drive : DriveId} {step : StepName} {attempt : Int}
    {since : Time} (hopened : OpenedBy runType drive step attempt since world) :
    OpenedBy runType drive step attempt since later := by
  obtain ⟨date, event, hevent, hopened⟩ := hopened
  exact ⟨date, event, hlater.timeline.subset hevent, hopened⟩

theorem Began.mono {runType : RunType} {drive : DriveId} {step : StepName} {attempt : Int}
    {since : Time} (hbegan : Began runType drive step attempt since world) :
    Began runType drive step attempt since later := by
  cases hbegan with
  | resumed row hloaded hstep hattempt hbegun hopen =>
      exact .resumed row (hlater.history.subset hloaded) hstep hattempt hbegun (hopen.mono hlater)
  | opened hopened => exact .opened (hopened.mono hlater)

theorem Overdue.mono {executor : Executor} {drive : DriveId} {step : StepName} {attempt : Int}
    {date : Time} (hoverdue : Overdue executor drive step attempt date world) :
    Overdue executor drive step attempt date later := by
  obtain ⟨origin, handler, since, hcreated, hid, hhandler, hbegan, hlate⟩ := hoverdue
  exact ⟨origin, handler, since, hlater.history.subset hcreated, hid, hhandler,
    hbegan.mono hlater, hlate⟩

/-- A log is one of the past. -/
theorem logged_mono {plan begun : List StepName} {log : StepMap Datetime}
    (hlog : Fills plan begun log (.aware world.world.clock)) :
    Fills plan begun log (.aware later.world.clock) :=
  hlog.mono hlater.clock

end Lasting

/-! ## What is known of a run -/

/-- What is noted of a stored run: where a drive of it starts, just the steps up
to there were begun, and none of the others has failures on its count. -/
structure Resumable (row : WorkflowRun) (step : StepName) (begun : List StepName)
    (world : DatedWorld) : Prop where
  start : Executor.startStep row = .ok step
  planned : step ∈ runPlans row.runType
  reached : begun = preceding (runPlans row.runType) step ∨
    begun = preceding (runPlans row.runType) step ++ [step]
  log : Fills (runPlans row.runType) begun row.runState.stepStartedAt (.aware world.world.clock)
  others : ∀ other, other ≠ step → row.runState.stepAttempts other = none
  attempt : ∀ started, row.runState.attemptStartedAt = some started →
    ∃ since, started = .aware since ∧
      OpenBy row.runType row.runId step (row.runState.attempts step) since world

structure Persisted (row : WorkflowRun) (world : DatedWorld) : Prop where
  log : ∃ begun, Fills (runPlans row.runType) begun row.runState.stepStartedAt
    (.aware world.world.clock)
  resumable : row.status.terminal = false → ∃ step begun, Resumable row step begun world

/-- A run in memory goes on from the row its drive loaded. -/
structure Anchored (drive : DriveId) (run : WorkflowRun) (world : DatedWorld) : Prop where
  subject : run.runId = drive.subject
  origin : HasOrigin run world.world.history
  kept : ∃ base, .loaded drive base ∈ world.world.history ∧
    Keeps base.runState.stepStartedAt run.runState.stepStartedAt

/-- A run in memory at a step. -/
structure Onstep (drive : DriveId) (step : StepName) (begun : List StepName) (run : WorkflowRun)
    (world : DatedWorld) : Prop where
  anchored : Anchored drive run world
  current : run.currentStep = some step.value
  planned : step ∈ runPlans run.runType
  log : Fills (runPlans run.runType) begun run.runState.stepStartedAt (.aware world.world.clock)
  others : ∀ other, other ≠ step → run.runState.stepAttempts other = none
  attempt :
    (∃ since, run.runState.attemptStartedAt = some (.aware since) ∧
      Began run.runType drive step (run.runState.attempts step) since world) ∨
    (run.runState.attemptStartedAt = none ∧
      OpenedBy run.runType drive step (run.runState.attempts step) world.world.clock world)

/-- A run in memory whose current step is of no more account. -/
structure Noted (drive : DriveId) (run : WorkflowRun) (world : DatedWorld) : Prop where
  anchored : Anchored drive run world
  log : ∃ begun, Fills (runPlans run.runType) begun run.runState.stepStartedAt
    (.aware world.world.clock)

section Lasting

variable {world later : DatedWorld} {row run changed : WorkflowRun} {drive : DriveId}
variable {step : StepName} {begun : List StepName}

theorem Resumable.mono (hrow : Resumable row step begun world) (hlater : world.Follows later) :
    Resumable row step begun later where
  start := hrow.start
  planned := hrow.planned
  reached := hrow.reached
  log := logged_mono hlater hrow.log
  others := hrow.others
  attempt started hstarted := by
    obtain ⟨since, heq, hopen⟩ := hrow.attempt started hstarted
    exact ⟨since, heq, hopen.mono hlater⟩

theorem Persisted.mono (hrow : Persisted row world) (hlater : world.Follows later) :
    Persisted row later where
  log := by
    obtain ⟨begun, hlog⟩ := hrow.log
    exact ⟨begun, logged_mono hlater hlog⟩
  resumable hopen := by
    obtain ⟨step, begun, hstep⟩ := hrow.resumable hopen
    exact ⟨step, begun, hstep.mono hlater⟩

/-- Claims and wakes change nothing that is noted. -/
theorem Persisted.rescheduled (hrow : Persisted row world) (scheduledAt : Option Time) :
    Persisted { row with scheduledAt := scheduledAt } world where
  log := hrow.log
  resumable hopen := by
    obtain ⟨step, begun, hstart, hplanned, hbegun, hlog, hothers, hattempt⟩ := hrow.resumable hopen
    exact ⟨step, begun, hstart, hplanned, hbegun, hlog, hothers, hattempt⟩

theorem Anchored.mono (hrun : Anchored drive run world) (hlater : world.Follows later) :
    Anchored drive run later := by
  obtain ⟨hid, ⟨origin, hcreated, hnewborn, hsame⟩, base, hbase, hkept⟩ := hrun
  exact ⟨hid, ⟨origin, hlater.history.subset hcreated, hnewborn, hsame⟩, base,
    hlater.history.subset hbase, hkept⟩

theorem Anchored.congr (hrun : Anchored drive run world) (hsame : run.Continues changed)
    (hlog : Keeps run.runState.stepStartedAt changed.runState.stepStartedAt) :
    Anchored drive changed world := by
  obtain ⟨hid, ⟨origin, hcreated, hnewborn, horigin⟩, base, hbase, hkept⟩ := hrun
  exact ⟨hsame.1.runId.symm.trans hid, ⟨origin, hcreated, hnewborn, horigin.trans hsame⟩, base, hbase,
    hkept.trans hlog⟩

theorem Onstep.mono (hrun : Onstep drive step begun run world) (hlater : world.Follows later) :
    Onstep drive step begun run later where
  anchored := hrun.anchored.mono hlater
  current := hrun.current
  planned := hrun.planned
  log := logged_mono hlater hrun.log
  others := hrun.others
  attempt := by
    rcases hrun.attempt with ⟨since, hbegun, hbegan⟩ | ⟨hunbegun, hopened⟩
    · exact .inl ⟨since, hbegun, hbegan.mono hlater⟩
    · obtain ⟨date, event, hevent, hdate, hopens⟩ := hopened.mono hlater
      exact .inr ⟨hunbegun, date, event, hevent, Int.le_trans hdate hlater.clock, hopens⟩

theorem Noted.mono (hrun : Noted drive run world) (hlater : world.Follows later) :
    Noted drive run later := by
  obtain ⟨hanchored, begun, hlog⟩ := hrun
  exact ⟨hanchored.mono hlater, begun, logged_mono hlater hlog⟩

theorem Noted.congr (hrun : Noted drive run world) (hsame : run.Continues changed)
    (hlog : changed.runState.stepStartedAt = run.runState.stepStartedAt) :
    Noted drive changed world := by
  obtain ⟨hanchored, begun, hfills⟩ := hrun
  refine ⟨hanchored.congr hsame (by rw [hlog]; exact .refl _), begun, ?_⟩
  rw [hlog, ← hsame.1.runType]
  exact hfills

theorem Onstep.noted (hrun : Onstep drive step begun run world) : Noted drive run world :=
  ⟨hrun.anchored, begun, hrun.log⟩

/-- A run that is over is stored with its log. -/
theorem Noted.persisted (hrun : Noted drive run world) (hterminal : run.status.terminal = true) :
    Persisted run world where
  log := hrun.log
  resumable hopen := by
    rw [hterminal] at hopen
    cases hopen

end Lasting

/-! ## What is kept -/

structure LogInv (executor : Executor) (world : DatedWorld) : Prop where
  coherent : world.timeline.map Prod.snd = world.world.history
  origins : origins.Inv world.world
  rows : ∀ runId row, Store.get world.world.rows runId = some row → Persisted row world
  saved : ∀ drive row, .saved drive row ∈ world.world.history →
    ∃ base, .loaded drive base ∈ world.world.history ∧
      Keeps base.runState.stepStartedAt row.runState.stepStartedAt
  deadlines : ∀ date drive step attempt message,
    (date, .logged drive (.stepRaised step attempt (.stepDeadlineExceeded message))) ∈
      world.timeline → Overdue executor drive step attempt date world

namespace LogInv

variable {executor : Executor} {world : DatedWorld}

theorem initial (clock : Time) : LogInv executor { world := { clock := clock } } where
  coherent := rfl
  origins := .initial clock
  rows _ _ hrow := by cases hrow
  saved _ _ hsaved := by cases hsaved
  deadlines _ _ _ _ _ hraised := by cases hraised

/-- One more event: a load, a call or a log record. -/
theorem note (hinv : LogInv executor world) {event : Event} {drive : DriveId}
    (hactor : event.actor = some drive) (hsaved : ∀ drive row, event ≠ .saved drive row)
    (hdeadline : ∀ step attempt message,
      event = .logged drive (.stepRaised step attempt (.stepDeadlineExceeded message)) →
        Overdue executor drive step attempt world.world.clock world) :
    LogInv executor (world.note event) := by
  have hfollows : world.Follows (world.note event) := .of_note event
  rw [DatedWorld.note_eq] at hfollows ⊢
  refine ⟨?_, ?_, fun runId row hrow => ?_, fun other row hmem => ?_,
    fun date other step attempt message hmem => ?_⟩
  · simp [World.record, hinv.coherent]
  · apply hinv.origins.record _ trivial
    rintro run rfl
    cases hactor
  · exact (hinv.rows runId row hrow).mono hfollows
  · rcases List.mem_cons.mp hmem with heq | hold
    · exact absurd heq.symm (hsaved other row)
    · obtain ⟨base, hbase, hkept⟩ := hinv.saved other row hold
      exact ⟨base, List.mem_cons_of_mem _ hbase, hkept⟩
  · rcases List.mem_cons.mp hmem with heq | hold
    · obtain ⟨rfl, rfl⟩ := Prod.mk.inj heq
      obtain rfl := Option.some.inj hactor
      exact (hdeadline step attempt message rfl).mono hfollows
    · exact (hinv.deadlines date other step attempt message hold).mono hfollows

/-- A run is saved as it goes on from the row its drive loaded. -/
theorem commit (hinv : LogInv executor world) {drive : DriveId} {run row : WorkflowRun}
    (hanchored : Anchored drive run world) (hrun : Persisted run world)
    (hsave : Store.save world.world.rows run = .ok row) :
    LogInv executor (world.follow (world.world.commit drive row)) := by
  have hfollows : world.Follows (world.follow (world.world.commit drive row)) :=
    .of_follow [.saved drive row] rfl (Int.le_refl _)
  have hrow := hinv.origins.saved_row hanchored.origin hsave
  obtain ⟨db, hdb, -, -⟩ := Store.save_eq_ok hsave
  have hget := fun runId => Store.get_put runId
    (show Store.get world.world.rows row.runId ≠ none by simp [hrow, hdb])
  have hpersisted : Persisted row world := by
    rw [hrow]
    refine ⟨hrun.log, fun hopen => ?_⟩
    obtain ⟨step, begun, hstart, hplanned, hreached, hlog, hothers, hattempt⟩ :=
      hrun.resumable hopen
    exact ⟨step, begun, hstart, hplanned, hreached, hlog, hothers, hattempt⟩
  rw [DatedWorld.follow_commit] at hfollows ⊢
  refine ⟨?_, hinv.origins.commit hanchored.origin hsave trivial trivial,
    fun runId found hfound => ?_, fun other found hmem => ?_,
    fun date other step attempt message hmem => ?_⟩
  · simp [World.commit, hinv.coherent]
  · simp only [World.commit, hget] at hfound
    split at hfound
    · obtain rfl := Option.some.inj hfound
      exact hpersisted.mono hfollows
    · exact (hinv.rows runId found hfound).mono hfollows
  · rcases List.mem_cons.mp hmem with heq | hold
    · obtain ⟨rfl, rfl⟩ := Event.saved.inj heq
      obtain ⟨base, hbase, hkept⟩ := hanchored.kept
      refine ⟨base, List.mem_cons_of_mem _ hbase, ?_⟩
      rw [hrow]
      exact hkept
    · obtain ⟨base, hbase, hkept⟩ := hinv.saved other found hold
      exact ⟨base, List.mem_cons_of_mem _ hbase, hkept⟩
  · have hold := (List.mem_cons.mp hmem).resolve_left (by simp)
    exact (hinv.deadlines date other step attempt message hold).mono hfollows

/-- A run is created with nothing noted. -/
theorem born (hinv : LogInv executor world) {run : WorkflowRun} (hrun : Newborn run)
    (hunstamped : Unstamped run) :
    LogInv executor (world.follow (world.world.insert run)) := by
  have horigins := hinv.origins.insert hrun
  unfold World.insert at horigins ⊢
  split
  next => simpa using hinv
  next htaken =>
    rw [if_neg htaken] at horigins
    have hfresh : Store.get world.world.rows run.runId = none := by simpa using htaken
    have hget := fun runId => Store.get_create runId hfresh
    have hpersisted : Persisted run world := by
      have hlog : Fills (runPlans run.runType) [] run.runState.stepStartedAt
          (.aware world.world.clock) := by
        rw [hunstamped.1]
        exact .blank _ _
      refine ⟨⟨[], hlog⟩, fun _ => ⟨firstStep run.runType, [], ?_, firstStep_mem _, .inl ?_, hlog,
        fun _ _ => ?_, fun started hstarted => ?_⟩⟩
      · simp [Executor.startStep, hrun.currentStep]
      · rw [preceding_firstStep]
      · rw [hrun.attempts]
        rfl
      · rw [hunstamped.2] at hstarted
        cases hstarted
    have hfollows : world.Follows (world.follow { world.world with
        rows := Store.create world.world.rows run
        history := .created run :: world.world.history }) :=
      .of_follow [.created run] rfl (Int.le_refl _)
    rw [DatedWorld.follow_cons rfl] at hfollows ⊢
    refine ⟨?_, horigins, fun runId row hrow => ?_, fun drive row hsaved => ?_,
      fun date drive step attempt message hraised => ?_⟩
    · simp [hinv.coherent]
    · simp only [hget] at hrow
      split at hrow
      · obtain rfl := Option.some.inj hrow
        exact hpersisted.mono hfollows
      · exact (hinv.rows runId row hrow).mono hfollows
    · obtain ⟨base, hbase, hkept⟩ :=
        hinv.saved drive row ((List.mem_cons.mp hsaved).resolve_left (by simp))
      exact ⟨base, List.mem_cons_of_mem _ hbase, hkept⟩
    · have hold := (List.mem_cons.mp hraised).resolve_left (by simp)
      exact (hinv.deadlines date drive step attempt message hold).mono hfollows

/-- Nothing but schedules or the clock is changed, and the clock goes forward. -/
theorem untouched (hinv : LogInv executor world) {after : World}
    (hhistory : after.history = world.world.history) (hclock : world.world.clock ≤ after.clock)
    (horigins : CloudioOrchestrator.origins.Inv after)
    (hrows : ∀ runId row, Store.get after.rows runId = some row →
      ∃ old scheduledAt, Store.get world.world.rows runId = some old ∧
        row = { old with scheduledAt := scheduledAt }) : LogInv executor (world.follow after) := by
  have hfollows : world.Follows (world.follow after) := .of_follow [] hhistory hclock
  rw [DatedWorld.follow_same hhistory] at hfollows ⊢
  refine ⟨?_, horigins, fun runId row hrow => ?_, fun drive row hsaved => ?_,
    fun date drive step attempt message hraised => ?_⟩
  · rw [hinv.coherent, hhistory]
  · obtain ⟨old, scheduledAt, hold, rfl⟩ := hrows runId row hrow
    exact ((hinv.rows runId old hold).rescheduled scheduledAt).mono hfollows
  · simp only [hhistory] at hsaved ⊢
    exact hinv.saved drive row hsaved
  · exact (hinv.deadlines date drive step attempt message hraised).mono hfollows

theorem reschedule (hinv : LogInv executor world) (select : WorkflowRun → Bool) (time : Time) :
    LogInv executor (world.follow { world.world with
      rows := Store.reschedule select time world.world.rows }) := by
  apply hinv.untouched
  · rfl
  · exact Int.le_refl _
  · exact hinv.origins.reschedule select time
  · intro runId row hrow
    rw [Store.get_reschedule] at hrow
    obtain ⟨old, hold, rfl⟩ := Option.map_eq_some_iff.mp hrow
    refine ⟨old, if select old then some time else old.scheduledAt, hold, ?_⟩
    split <;> rfl

theorem outside (hinv : LogInv executor world) (event : Outside) :
    LogInv executor (world.follow (world.world.outside (forward world.world.clock event))) := by
  cases event with
  | trigger runId workflow request =>
      simp only [forward, World.outside]
      split
      next run htrigger => exact hinv.born (trigger_newborn htrigger).2 (trigger_unstamped htrigger)
      next => simpa using hinv
  | triggerLegacy runId request => exact hinv.born (triggerLegacy_newborn _ _ _).2 ⟨rfl, rfl⟩
  | claimDue limit lease locked => exact hinv.reschedule _ _
  | wake runId => exact hinv.reschedule _ _
  | tick now =>
      apply hinv.untouched
      · rfl
      · exact Int.le_max_left _ _
      · exact hinv.origins.outside _
      · intro runId row hrow
        exact ⟨row, row.scheduledAt, hrow, rfl⟩

end LogInv

/-! ## The outline -/

section Outline

variable {executor : Executor} {drive : DriveId} {world : DatedWorld}
variable {run changed : WorkflowRun} {step : StepName} {begun : List StepName}

/-- What lasts, whatever others do. -/
def lasting (holds : WorkflowRun → DatedWorld → Prop)
    (hlasts : ∀ {run world later}, holds run world → world.Follows later → holds run later) :
    Assertion (minding (LogInv executor)) drive where
  holds := holds
  stable hrun hrely _ := hlasts hrun hrely

/-- Nothing is claimed any more. -/
def anything : Assertion (minding (LogInv executor)) drive :=
  lasting (fun _ _ => True) fun _ _ => trivial

/-- An event of the drive's own, put on record at the time. -/
theorem log_note (hinv : LogInv executor world) (event : Event) (hactor : event.actor = some drive)
    (hsaved : ∀ drive row, event ≠ .saved drive row)
    (hdeadline : ∀ step attempt message,
      event = .logged drive (.stepRaised step attempt (.stepDeadlineExceeded message)) →
        Overdue executor drive step attempt world.world.clock world)
    {post : DatedWorld → Prop}
    (hpost : ∀ final, world.Follows final → (final.world.clock, event) ∈ final.timeline →
      event ∈ final.world.history → post final) :
    (minding (LogInv executor)).inv (world.note event) ∧
      (minding (LogInv executor)).guar drive world (world.note event) ∧
          post (world.note event) := by
  refine ⟨hinv.note hactor hsaved hdeadline, .of_note event, hpost _ (.of_note event) ?_ ?_⟩
  · rw [DatedWorld.note_eq]
    exact List.mem_cons_self
  · exact List.mem_cons_self

theorem log_call {issuer : Issuer} {call : Call} (hinv : LogInv executor world)
    {post : call.Answer → DatedWorld → Prop}
    (hpost : ∀ answer final, world.Follows final → post answer final) :
    Serves (minding (LogInv executor)) drive (.provider issuer call) world post := by
  apply serves_dated
  apply serves_call
  intro answer applied _
  exact log_note hinv (.called drive issuer call answer applied) rfl (by simp) (by simp)
    fun final hfollows _ _ => hpost answer final hfollows

theorem log_log {record : LogRecord} (hinv : LogInv executor world)
    (hdeadline : ∀ step attempt message,
      record = .stepRaised step attempt (.stepDeadlineExceeded message) →
        Overdue executor drive step attempt world.world.clock world)
    {post : Unit → DatedWorld → Prop}
    (hpost : ∀ final, world.Follows final →
      (final.world.clock, .logged drive record) ∈ final.timeline → post () final) :
    Serves (minding (LogInv executor)) drive (.log record) world post := by
  apply serves_dated
  apply serves_log
  apply log_note hinv (.logged drive record) rfl (by simp)
  · intro step attempt message heq
    exact hdeadline step attempt message (Event.logged.inj heq).2
  · intro final hfollows hevent _
    exact hpost final hfollows hevent

theorem log_save (hinv : LogInv executor world) (hanchored : Anchored drive run world)
    (hrun : Persisted run world) {post : Except PyException Int → DatedWorld → Prop}
    (hpost : ∀ answer final, world.Follows final → post answer final) :
    Serves (minding (LogInv executor)) drive (.runsSave run) world post := by
  apply serves_dated
  apply serves_save
  · intro error
    simp only [glimpse, DatedWorld.follow_world]
    exact ⟨hinv, .refl world, hpost _ _ (.refl world)⟩
  · intro row hsave
    have hfollows : world.Follows (world.follow (world.world.commit drive row)) :=
      .of_follow [.saved drive row] rfl (Int.le_refl _)
    exact ⟨hinv.commit hanchored hrun hsave, hfollows, hpost _ _ hfollows, fun _ _ =>
      hpost _ _ hfollows⟩

/-- The times noted for a step that was reached: this one's is noted now, unless it was before. -/
theorem Onstep.note (hrun : Onstep drive step begun run world)
    (hreached : begun = preceding (runPlans run.runType) step ∨
      begun = preceding (runPlans run.runType) step ++ [step]) :
    Onstep drive step (preceding (runPlans run.runType) step ++ [step])
      (notedRun step world.world.clock run) world := by
  have hplan := preceding_append_following hrun.planned
  have hnext : preceding (runPlans run.runType) step ++ [step] <+: runPlans run.runType :=
    ⟨following (runPlans run.runType) step, by simpa using hplan⟩
  have hnoted : Fills (runPlans run.runType) (preceding (runPlans run.runType) step ++ [step])
      (notedRun step world.world.clock run).runState.stepStartedAt (.aware world.world.clock) ∧
      Keeps run.runState.stepStartedAt
        (notedRun step world.world.clock run).runState.stepStartedAt := by
    simp only [notedRun, StepMap.setDefault]
    rcases hreached with rfl | rfl
    · have hfresh : step ∉ preceding (runPlans run.runType) step := by
        intro hmem
        simpa using List.mem_takeWhile_imp hmem
      have hnone : (run.runState.stepStartedAt step).isSome = false := by
        simpa using mt (hrun.log.keys step).mp hfresh
      rw [hnone]
      refine ⟨hrun.log.note (runPlans_nodup _) hnext (StepMap.set_self _ _ _) fun key hkey =>
        StepMap.set_of_ne hkey, fun key time htime => ?_⟩
      have hkey : key ≠ step := by
        rintro rfl
        rw [htime] at hnone
        cases hnone
      exact (StepMap.set_of_ne hkey).trans htime
    · rw [(hrun.log.keys step).mpr (by simp)]
      exact ⟨hrun.log, .refl _⟩
  exact
    { anchored := hrun.anchored.congr ⟨.refl, .refl _⟩ hnoted.2
      current := hrun.current
      planned := hrun.planned
      log := hnoted.1
      others := hrun.others
      attempt := hrun.attempt }

/-- A run in memory at a step of which all is noted. -/
abbrev Atstep (drive : DriveId) (step : StepName) (run : WorkflowRun) (world : DatedWorld) : Prop :=
  Onstep drive step (preceding (runPlans run.runType) step ++ [step]) run world

/-- More than the step's budget has passed since the run's attempt was begun. -/
def Late (executor : Executor) (drive : DriveId) (step : StepName) (run : WorkflowRun)
    (world : DatedWorld) : Prop :=
  ∃ handler since, executor.handlers step = some handler ∧
    Began run.runType drive step (run.runState.attempts step) since world ∧
    handler.maxStepDuration < world.world.clock - since

theorem Late.mono {later : DatedWorld} (hlate : Late executor drive step run world)
    (hlater : world.Follows later) : Late executor drive step run later := by
  obtain ⟨handler, since, hhandler, hbegan, hover⟩ := hlate
  refine ⟨handler, since, hhandler, hbegan.mono hlater, ?_⟩
  have hclock := hlater.clock
  simp only [Time] at *
  omega

theorem Late.overdue (hlate : Late executor drive step run world)
    (hanchored : Anchored drive run world) :
    Overdue executor drive step (run.runState.attempts step) world.world.clock world := by
  obtain ⟨handler, since, hhandler, hbegan, hover⟩ := hlate
  obtain ⟨hid, ⟨origin, hcreated, -, hsame⟩, -⟩ := hanchored
  refine ⟨origin, handler, since, hcreated, hsame.1.runId.trans hid, hhandler, ?_, hover⟩
  rw [hsame.1.runType]
  exact hbegan

/-- The step has just been completed, as is on record. -/
structure Completed (drive : DriveId) (step : StepName) (run : WorkflowRun) (world : DatedWorld) :
    Prop where
  anchored : Anchored drive run world
  planned : step ∈ runPlans run.runType
  log : Fills (runPlans run.runType) (preceding (runPlans run.runType) step ++ [step])
    run.runState.stepStartedAt (.aware world.world.clock)
  attempts : ∀ other, run.runState.stepAttempts other = none
  unbegun : run.runState.attemptStartedAt = none
  recorded : ∃ date, (date, .logged drive (.stepCompleted step)) ∈ world.timeline ∧
    date ≤ world.world.clock

theorem Completed.mono {later : DatedWorld} (hrun : Completed drive step run world)
    (hlater : world.Follows later) : Completed drive step run later := by
  obtain ⟨date, hrecorded, hdate⟩ := hrun.recorded
  exact ⟨hrun.anchored.mono hlater, hrun.planned, logged_mono hlater hrun.log, hrun.attempts,
    hrun.unbegun, date, hlater.timeline.subset hrecorded, Int.le_trans hdate hlater.clock⟩

theorem Onstep.completed {later : DatedWorld} (hrun : Atstep drive step run world)
    (hlater : world.Follows later)
    (hrecorded : (later.world.clock, .logged drive (.stepCompleted step)) ∈ later.timeline) :
    Completed drive step (steppedRun step run) later where
  anchored := (hrun.anchored.mono hlater).congr ⟨.refl, .refl _⟩ (.refl _)
  planned := hrun.planned
  log := logged_mono hlater hrun.log
  attempts other := by
    by_cases hother : other = step
    · subst hother
      exact StepMap.pop_self _ _
    · exact (StepMap.pop_of_ne hother).trans (hrun.others other hother)
  unbegun := rfl
  recorded := ⟨_, hrecorded, Int.le_refl _⟩

/-- The step after one that was completed is open from there on. -/
theorem Completed.next {next : StepName} {rest : List StepName}
    (hrun : Completed drive step run world)
    (hnext : following (runPlans run.runType) step = next :: rest) :
    Onstep drive next (preceding (runPlans run.runType) next)
      { run with currentStep := some next.value } world := by
  obtain ⟨hin, -, hbefore⟩ := following_eq_cons (runPlans_nodup _) hrun.planned hnext
  obtain ⟨date, hrecorded, hdate⟩ := hrun.recorded
  refine ⟨hrun.anchored.congr ⟨.refl, .refl _⟩ (.refl _), rfl, hin, ?_, fun other _ =>
    hrun.attempts other, .inr ⟨hrun.unbegun, date, _, hrecorded, hdate, rfl, ?_⟩⟩
  · rw [hbefore]
    exact hrun.log
  · apply Opens.completed drive step rfl
    · rw [hnext]
      rfl
    · simp [RunState.attempts, hrun.attempts next]

/-- A run that is polled is stored at its step. -/
theorem Onstep.persisted (hrun : Atstep drive step run world) : Persisted run world where
  log := ⟨_, hrun.log⟩
  resumable _ := by
    refine ⟨step, _, startStep_named hrun.current, hrun.planned, .inr rfl, hrun.log, hrun.others,
      fun started hstarted => ?_⟩
    rcases hrun.attempt with ⟨since, hbegun, hbegan⟩ | ⟨hunbegun, -⟩
    · refine ⟨since, Option.some.inj (hstarted.symm.trans hbegun), ?_⟩
      rw [hrun.anchored.subject]
      exact hbegan.openBy
    · rw [hunbegun] at hstarted
      cases hstarted

section Retried

variable {engines : List WorkflowEngineType} {handler : StepHandler}
  (hhandler : buildHandlers engines step = some handler)
include hhandler

theorem retriedRun_kept : run.Continues (retriedRun step handler run) ∧
    (retriedRun step handler run).runState.stepStartedAt = run.runState.stepStartedAt ∧
    (retriedRun step handler run).runState.attemptStartedAt = none ∧
    ∀ other, other ≠ step → (retriedRun step handler run).runState.stepAttempts other =
      run.runState.stepAttempts other := by
  refine ⟨⟨.refl, retryState_sameRequest hhandler⟩, ?_⟩
  simp only [retriedRun, Executor.retryState, resetForRetry_eq hhandler]
  refine ⟨by split <;> rfl, trivial, fun other hother => ?_⟩
  have hcount : (Executor.countAttempt step run.runState).stepAttempts other =
      run.runState.stepAttempts other := StepMap.set_of_ne hother
  split <;> exact hcount

theorem Onstep.retried (hrun : Atstep drive step run world) :
    Noted drive (retriedRun step handler run) world ∧
      Persisted (retriedRun step handler run) world := by
  obtain ⟨hsame, hlog, hunbegun, hothers⟩ := @retriedRun_kept run step engines handler hhandler
  have hnoted := hrun.noted.congr hsame hlog
  refine ⟨hnoted, hnoted.log, fun _ => ⟨step, preceding (runPlans run.runType) step ++ [step],
    startStep_named hrun.current, hrun.planned, .inr rfl, ?_, fun other hother => ?_,
    fun started hstarted => ?_⟩⟩
  · rw [hlog]
    exact hrun.log
  · rw [hothers other hother]
    exact hrun.others other hother
  · rw [hunbegun] at hstarted
    cases hstarted

end Retried

/-- A run that is over, and noted as it is. -/
def Over (drive : DriveId) (run : WorkflowRun) (world : DatedWorld) : Prop :=
  Noted drive run world ∧ run.status.terminal = true

def Recordable (drive : DriveId) (run : WorkflowRun) (world : DatedWorld) : Prop :=
  Anchored drive run world ∧ Persisted run world

theorem Over.mono {later : DatedWorld} (hrun : Over drive run world)
    (hlater : world.Follows later) : Over drive run later :=
  ⟨hrun.1.mono hlater, hrun.2⟩

theorem Over.recordable (hrun : Over drive run world) : Recordable drive run world :=
  ⟨hrun.1.anchored, hrun.1.persisted hrun.2⟩

theorem Recordable.mono {later : DatedWorld} (hrun : Recordable drive run world)
    (hlater : world.Follows later) : Recordable drive run later :=
  ⟨hrun.1.mono hlater, hrun.2.mono hlater⟩

theorem Recordable.rescheduled (hrun : Recordable drive run world) (scheduledAt : Option Time) :
    Recordable drive { run with scheduledAt := scheduledAt } world :=
  ⟨hrun.1.congr ⟨.refl, .refl _⟩ (.refl _), hrun.2.rescheduled scheduledAt⟩

/-- From the end of the turns on, nothing is noted any more. -/
def logRest (executor : Executor) (drive : DriveId) :
    Ending (minding (LogInv executor)) drive where
  denied := lasting (Over drive) .mono
  dismissed := lasting (Over drive) .mono
  failing _ := lasting (Over drive) .mono
  escalating _ := lasting (Over drive) .mono
  failed := lasting (Over drive) .mono
  released := lasting (Over drive) .mono
  pending := lasting (Recordable drive) .mono
  quiet := lasting (Over drive) .mono
  troubled _ := lasting (Noted drive) .mono
  ended := anything
  wrecked _ := anything
  release hrun hinv _ := log_call hinv fun _ _ hlater => hrun.mono hlater
  unheld hrun _ := hrun
  dismissed_pending hrun := hrun.recordable
  logEscalating hrun hinv := log_log hinv (by simp) fun _ hlater _ => hrun.mono hlater
  openIncident request hrun hinv := by
    apply log_call hinv
    intro answer final hlater
    have hover := hrun.mono hlater
    split
    · exact ⟨hover.1.congr ⟨.refl, .refl _⟩ rfl, hover.2⟩
    · exact hover
  escalating_failed hrun := hrun
  aftermath hrun hinv _ := log_call hinv fun _ _ hlater => hrun.mono hlater
  ticketClosed hrun := ⟨hrun.1.congr ⟨.refl, .refl _⟩ rfl, hrun.2⟩
  releaseFailed hrun hinv _ := log_call hinv fun _ _ hlater => hrun.mono hlater
  unheldFailed hrun _ := hrun
  released_pending hrun := hrun.recordable
  released_quiet hrun := hrun
  save {run} world hrun hinv := by
    obtain ⟨hanchored, hpersisted⟩ := hrun
    apply log_save hinv hanchored hpersisted
    intro answer final hlater
    obtain ⟨begun, hlog⟩ := hpersisted.log
    split
    · trivial
    · trivial
    · exact ⟨hanchored.mono hlater, begun, logged_mono hlater hlog⟩
  saveQuietly hrun hinv := by
    apply log_save hinv hrun.recordable.1 hrun.recordable.2
    intro answer final hlater
    split <;> trivial
  unpersisted hrun hfailed hinv := log_log hinv (by simp) fun _ hlater _ =>
    ⟨hrun.mono hlater, by rw [hfailed]; rfl⟩
  unnamed _ _ _ _ := trivial
  crashed {error run} named world hrun _ _ hinv := by
    apply log_log hinv (by simp)
    intro final hlater _
    refine ⟨(hrun.mono hlater).congr ⟨.refl, ?_⟩ ?_, rfl⟩
    · cases named <;> exact .refl _
    · cases named <;> rfl

theorem onceRead_dated {drive : DriveId} {choice : Choice} {world : DatedWorld} :
    onceRead (V := dated) drive choice world = world :=
  DatedWorld.follow_world

theorem uniform_dated {drive : DriveId} {choice : Choice} {world : DatedWorld} :
    (dated.serve drive choice .uniform world).2 = world :=
  DatedWorld.follow_world

/-- The turns: the times they note, and the one they measure from. -/
def logCloseup {executor : Executor} {engines : List WorkflowEngineType} (drive : DriveId)
    (hwired : executor.handlers = buildHandlers engines) :
    Closeup (minding (LogInv executor)) drive executor where
  rest := logRest executor drive
  fresh := lasting (fun run world => Anchored drive run world ∧
      (∃ step begun, Resumable run step begun world) ∧
      .loaded drive run ∈ world.world.history ∧
      ∃ date, (date, .loaded drive run) ∈ world.timeline ∧ date ≤ world.world.clock) (by
    rintro run world later ⟨hanchored, ⟨step, begun, hrow⟩, hheld, date, hloaded, hdate⟩ hlater
    exact ⟨hanchored.mono hlater, ⟨step, begun, hrow.mono hlater⟩, hlater.history.subset hheld,
      date, hlater.timeline.subset hloaded, Int.le_trans hdate hlater.clock⟩)
  entering step := lasting (fun run world => ∃ begun,
      (begun = preceding (runPlans run.runType) step ∨
        begun = preceding (runPlans run.runType) step ++ [step]) ∧
      Onstep drive step begun run world) (by
    rintro run world later ⟨begun, hreached, hrun⟩ hlater
    exact ⟨begun, hreached, hrun.mono hlater⟩)
  noted step := lasting (Atstep drive step) Onstep.mono
  ready step started := lasting (fun run world => Atstep drive step run world ∧
    run.runState.attemptStartedAt = some started) fun hrun hlater => ⟨hrun.1.mono hlater, hrun.2⟩
  tried step attempt ended := lasting (fun run world => Atstep drive step run world ∧
      (∀ message, ended = .error (.stepDeadlineExceeded message) →
        attempt = run.runState.attempts step ∧ Late executor drive step run world)) (by
    rintro run world later ⟨hrun, hlate⟩ hlater
    refine ⟨hrun.mono hlater, fun message heq => ?_⟩
    exact ⟨(hlate message heq).1, (hlate message heq).2.mono hlater⟩)
  raised step _ := lasting (Atstep drive step) Onstep.mono
  drawn step _ _ := lasting (Atstep drive step) Onstep.mono
  passed step := lasting (Completed drive step) .mono
  utcnow choice world hinv := by
    rw [onceRead_dated]
    exact ⟨hinv, .refl world⟩
  uniform choice world hinv := by
    rw [uniform_dated]
    exact ⟨hinv, .refl world⟩
  start := by
    rintro run world step ⟨hanchored, ⟨_, begun, hrow⟩, hheld, date, hloaded, hdate⟩ hstart
    obtain rfl := Except.ok.inj (hrow.start.symm.trans hstart)
    refine ⟨begun, hrow.reached, hanchored.congr ⟨.refl, .refl _⟩ (.refl _), rfl, hrow.planned,
      hrow.log, hrow.others, ?_⟩
    -- a row whose attempt is not begun opens it by being loaded
    cases hbegun : run.runState.attemptStartedAt with
    | none =>
        refine .inr ⟨rfl, date, _, hloaded, hdate, rfl, ?_⟩
        exact .loaded drive run hanchored.subject hrow.start rfl hbegun
    | some started =>
        obtain ⟨since, rfl, hopen⟩ := hrow.attempt started hbegun
        rw [hanchored.subject] at hopen
        exact .inl ⟨since, rfl, .resumed run hheld hrow.start rfl hbegun hopen⟩
  badStart hrun hbad := by
    obtain ⟨-, ⟨_, _, hrow⟩, -⟩ := hrun
    rw [hrow.start] at hbad
    cases hbad
  unhandled hrun _ := by
    obtain ⟨begun, -, hrun⟩ := hrun
    exact hrun.noted
  note choice hrun _ := by
    obtain ⟨begun, hreached, hrun⟩ := hrun
    rw [onceRead_dated]
    exact hrun.note hreached
  resume hrun hstarted := ⟨hrun, hstarted⟩
  begin choice hrun _ hunbegun := by
    rw [onceRead_dated]
    rcases hrun.attempt with ⟨since, hbegun, -⟩ | ⟨-, hopened⟩
    · rw [hunbegun] at hbegun
      cases hbegun
    · exact ⟨⟨hrun.anchored.congr ⟨.refl, .refl _⟩ (.refl _), hrun.current, hrun.planned, hrun.log,
        hrun.others, .inl ⟨_, rfl, .opened hopened⟩⟩, rfl⟩
  glance choice hrun _ := by
    rw [onceRead_dated]
    exact hrun
  naive hrun := hrun.1.noted
  late := by
    intro step handler started run world choice hhandler hrun _ hover
    rw [onceRead_dated]
    obtain ⟨hrun, hstarted⟩ := hrun
    refine ⟨hrun, fun _ _ => ⟨rfl, handler, started, hhandler, ?_, hover⟩⟩
    rcases hrun.attempt with ⟨since, hbegun, hbegan⟩ | ⟨hunbegun, -⟩
    · obtain rfl := Datetime.aware.inj (Option.some.inj (hbegun.symm.trans hstarted))
      exact hbegan
    · rw [hunbegun] at hstarted
      cases hstarted
  execute {step} handler started run world hhandler hrun _ := by
    rw [hwired] at hhandler
    refine Discipline.wp_mono (wp_handler (fun _ final => Atstep drive step run final) hhandler
      ?_ ?_ hrun.1) ?_
    · intro _ world current hrun hrely _
      exact hrun.mono hrely
    · intro _ call world hrun _ hinv
      exact log_call hinv fun _ _ hlater => hrun.mono hlater
    · rintro ended state final ⟨_, hrun, hend⟩
      have hattempts : ∀ other, state.attempts other = run.runState.attempts other := by
        intro other
        rw [RunState.attempts, hend.stepAttempts]
        rfl
      refine ⟨⟨hrun.anchored.congr ⟨.refl, hend.sameRequest⟩ ?_, hrun.current, hrun.planned, ?_,
        fun other hother => ?_, ?_⟩, ?_⟩
      · change Keeps _ state.stepStartedAt
        rw [hend.times.1]
        exact .refl _
      · change Fills _ _ state.stepStartedAt _
        rw [hend.times.1]
        exact hrun.log
      · change state.stepAttempts other = none
        rw [hend.stepAttempts]
        exact hrun.others other hother
      · change (∃ since, state.attemptStartedAt = _ ∧ Began _ _ _ (state.attempts step) _ _) ∨
          state.attemptStartedAt = none ∧ OpenedBy _ _ _ (state.attempts step) _ _
        rw [hattempts, hend.times.2]
        exact hrun.attempt
      · rintro message rfl
        exact absurd hend HandlerEnd.not_deadline
  reject hrun := ⟨hrun.1.noted.congr ⟨.refl, .refl _⟩ rfl, rfl⟩
  logRaised hrun _ hinv := by
    obtain ⟨hrun, hlate⟩ := hrun
    refine log_log hinv (fun step attempt message heq => ?_) fun _ hlater _ => hrun.mono hlater
    obtain ⟨rfl, rfl, rfl⟩ := LogRecord.stepRaised.inj heq
    obtain ⟨rfl, hover⟩ := hlate message rfl
    exact hover.overdue hrun.anchored
  draw choice hrun _ := by
    rw [uniform_dated]
    exact hrun
  retry _ hhandler hrun _ _ _ := by
    rw [hwired] at hhandler
    rw [onceRead_dated]
    obtain ⟨hnoted, hpersisted⟩ := hrun.retried hhandler
    exact Recordable.rescheduled ⟨hnoted.anchored, hpersisted⟩ _
  retryOverflow _ hhandler hrun _ _ _ := by
    rw [hwired] at hhandler
    rw [onceRead_dated]
    exact (hrun.retried hhandler).1
  giveUp hrun _ := ⟨hrun.noted.congr ⟨.refl, .refl _⟩ rfl, rfl⟩
  poll _ _ hrun _ _ := by
    rw [onceRead_dated]
    exact Recordable.rescheduled ⟨hrun.1.anchored, hrun.1.persisted⟩ _
  pollOverflow _ _ hrun _ _ := by
    rw [onceRead_dated]
    exact hrun.1.noted
  logCompleted hrun hinv := log_log hinv (by simp) fun _ hlater hrecorded =>
    hrun.1.completed hlater hrecorded
  offPlan hrun _ := ⟨hrun.anchored, _, hrun.log⟩
  next hrun _ hnext := ⟨_, .inl rfl, hrun.next hnext⟩
  finish {step} run world hrun _ _ := by
    have hnoted : Noted drive run world := ⟨hrun.anchored, _, hrun.log⟩
    have hdone : Noted drive (completedRun run) world := hnoted.congr ⟨.refl, .refl _⟩ rfl
    exact ⟨hdone.anchored, hdone.persisted rfl⟩

theorem log_safe {engines : List WorkflowEngineType}
    (hwired : executor.handlers = buildHandlers engines) (drive : DriveId) (world : DatedWorld) :
    (minding (LogInv executor)).Safe drive (fun _ _ => True) (executor.handle drive.subject)
      world := by
  refine safe_handle (fun hrun => (logCloseup drive hwired).wp_driveOrCrash hrun)
    fun current _ hinv => ?_
  apply serves_dated
  refine serves_get (fun answer hmissed => ?_) fun row hget => ?_
  · simp only [glimpse, DatedWorld.follow_world]
    exact ⟨hinv, .refl current, fun run hanswer => absurd hanswer (hmissed run)⟩
  · have hfresh : ∀ final, current.Follows final →
        (final.world.clock, .loaded drive row) ∈ final.timeline →
        .loaded drive row ∈ final.world.history → row.status.terminal = false →
        (logCloseup drive hwired).fresh row final := by
      intro final hlater hdated hloaded hopen
      have hanchored : Anchored drive row final := by
        obtain ⟨origin, hcreated, hborn⟩ := (hinv.origins.rows _ _ hget).1
        exact ⟨Store.runId_of_get hget, ⟨origin, hlater.history.subset hcreated, hborn⟩, row,
          hloaded, .refl _⟩
      obtain ⟨step, begun, hrow⟩ := (hinv.rows _ _ hget).resumable hopen
      exact ⟨hanchored, ⟨step, begun, hrow.mono hlater⟩, hloaded, _, hdated, Int.le_refl _⟩
    obtain ⟨hkept, hguar, hdrivable⟩ :=
      log_note hinv (.loaded drive row) rfl (by simp) (by simp) hfresh
    refine ⟨hkept, hguar, fun run hanswer hopen => ?_⟩
    obtain rfl : row = run := by simpa using hanswer
    exact hdrivable hopen

end Outline

/-- What was noted when a run was saved is noted in its last write. -/
theorem lastWrite_keeps {world : World} (hledger : LedgerInv world)
    (hsaves : ∀ drive row, .saved drive row ∈ world.history →
      ∃ base, .loaded drive base ∈ world.history ∧
        Keeps base.runState.stepStartedAt row.runState.stepStartedAt)
    {newer older : History} {drive : DriveId} {row : WorkflowRun}
    (hsuffix : newer ++ .saved drive row :: older <:+ world.history) :
    ∃ last, lastWrite row.runId (newer ++ .saved drive row :: older) = some last ∧
      Keeps row.runState.stepStartedAt last.runState.stepStartedAt := by
  induction newer with
  | nil => exact ⟨row, by simp [lastWrite], .refl _⟩
  | cons event newer ih =>
      have hrest : newer ++ .saved drive row :: older <:+ world.history :=
        (List.suffix_cons event _).trans hsuffix
      obtain ⟨last, hlast, hkept⟩ := ih hrest
      have hlinks : Links event (newer ++ .saved drive row :: older) := by
        obtain ⟨latest, hhistory⟩ := hsuffix
        have hchained := hledger.chained
        rw [← hhistory] at hchained
        exact hchained.suffix.1
      rcases hlinks.lastWrite_cases hlast with
        hsame | ⟨other, base, later, rfl, hlater, hbase, hsame, -⟩
      · exact ⟨last, hsame, hkept⟩
      · refine ⟨later, hlater, ?_⟩
        -- what the drive loaded is what was last written
        obtain ⟨loaded, hloaded, hgrown⟩ :=
          hsaves other later (hsuffix.subset List.mem_cons_self)
        obtain rfl := hledger.loadedOnce other loaded base hloaded (hrest.subset hbase)
        rw [WorkflowRun.runState_unscheduled hsame] at hgrown
        exact hkept.trans hgrown

/-- Wherever drives reach by a clock that never goes back: a stored run has noted
just the steps of its plan up to some position, each begun no earlier than the
one before it; no later save changes or removes what was noted; and a step
raises over its deadline only if more than its budget has passed since its
current attempt was begun, which is not before that attempt was open. -/
theorem step_log_kept (engines : List WorkflowEngineType) (retryBase : Time) (defaultTeam : String)
    (clock : Time) (moves : List (Move dated)) :
    let executor := Executor.wired engines retryBase defaultTeam
    let world := (datedReached executor clock moves).world
    (∀ runId row, Store.get world.world.rows runId = some row →
      ∃ begun, Fills (runPlans row.runType) begun row.runState.stepStartedAt
        (.aware world.world.clock)) ∧
    (∀ newer older drive row, world.world.history = newer ++ .saved drive row :: older →
      ∀ other later, .saved other later ∈ newer → later.runId = row.runId →
        Keeps row.runState.stepStartedAt later.runState.stepStartedAt) ∧
    (∀ date drive step attempt message,
      (date, .logged drive (.stepRaised step attempt (.stepDeadlineExceeded message))) ∈
        world.timeline → Overdue executor drive step attempt date world) := by
  intro executor world
  have hwired : executor.handlers = buildHandlers engines := rfl
  have hinv : LogInv executor world := datedReached_inv clock (.initial clock)
    (fun event before hinv => hinv.outside event) (log_safe hwired) moves
  obtain ⟨others, hsystem⟩ := datedReached_world executor clock moves
  have hledger : LedgerInv world.world := hsystem ▸ reached_ledger clock others
  refine ⟨fun runId row hrow => (hinv.rows runId row hrow).log, ?_, hinv.deadlines⟩
  intro newer older drive row hhistory other later hlater hid
  obtain ⟨latest, between, rfl⟩ := List.append_of_mem hlater
  have hsuffix : (.saved other later :: between) ++ .saved drive row :: older <:+
      world.world.history := ⟨latest, by simp [hhistory]⟩
  obtain ⟨last, hlast, hkept⟩ := lastWrite_keeps hledger hinv.saved hsuffix
  have hlater : lastWrite row.runId (.saved other later :: between ++ .saved drive row :: older) =
      some later := by simp [lastWrite, hid]
  rw [hlater] at hlast
  obtain rfl := Option.some.inj hlast
  exact hkept

end CloudioOrchestrator

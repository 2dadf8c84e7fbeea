import CloudioOrchestrator.Handlers

/-! # The driver by the clock

A closer look at a turn: what the clock reads when the step and its attempt are
noted to begin, when the budget of the step is looked at, and when a poll or a
retry is scheduled. What a drive does once a step has raised for good, rejected
its run or completed the plan is left to an outline.
-/

namespace CloudioOrchestrator

open Interaction Drive

variable {V : Service Operations UUID} (D : Discipline V) (client : Client UUID)

/-- What the clock reads. -/
abbrev reading (choice : V.Choice) (world : V.World) : Time :=
  (V.serve client choice .utcnow world).1

/-- The world once the clock was read. -/
abbrev onceRead (choice : V.Choice) (world : V.World) : V.World :=
  (V.serve client choice .utcnow world).2

/-- The run once the beginning of a step is noted. -/
def notedRun (step : StepName) (now : Time) (run : WorkflowRun) : WorkflowRun :=
  { run with
    runState := { run.runState with
      stepStartedAt := run.runState.stepStartedAt.setDefault step (.aware now) } }

/-- The run once the beginning of an attempt is noted. -/
def begunRun (now : Time) (run : WorkflowRun) : WorkflowRun :=
  { run with runState := { run.runState with attemptStartedAt := some (.aware now) } }

def exceeded (step : StepName) : PyException :=
  .stepDeadlineExceeded ("Step " ++ step.str ++ " exceeded its wall-clock budget")

def naiveElapsed : PyException :=
  .typeError "can't subtract offset-naive and offset-aware datetimes"

/-- No handler touches the times of its run. -/
theorem HandlerEnd.times {engines : List WorkflowEngineType} {run : WorkflowRun}
    {state final : RunState} {step : StepName} {trace : Trace Providers}
    {ended : Except PyException Bool}
    (hend : HandlerEnd engines run state step trace ended final) :
    final.stepStartedAt = state.stepStartedAt ∧
      final.attemptStartedAt = state.attemptStartedAt := by
  cases hend with
  | succeededWith output hid hresource =>
      unfold captured
      split <;> exact ⟨rfl, rfl⟩
  | engineFailed failure hid => cases failure <;> exact ⟨rfl, rfl⟩
  | _ => exact ⟨rfl, rfl⟩

variable (executor : Executor)

structure Closeup where
  /-- From the end of the turns on. -/
  rest : Ending D client
  /-- Just loaded. -/
  fresh : Assertion D client
  /-- In the loop, at a step. -/
  entering : StepName → Assertion D client
  /-- The beginning of the step is noted. -/
  noted : StepName → Assertion D client
  /-- The attempt is known to have begun then. -/
  ready : StepName → Datetime → Assertion D client
  /-- The step was tried, on the given attempt, and ended so. -/
  tried : StepName → Int → Except PyException Bool → Assertion D client
  /-- The step's error is on record. -/
  raised : StepName → PyException → Assertion D client
  /-- The random part of the backoff after the error is drawn. -/
  drawn : StepName → PyException → Time → Assertion D client
  /-- The step's completion is on record. -/
  passed : StepName → Assertion D client

  utcnow : ∀ choice world, D.inv world →
    D.inv (onceRead client choice world) ∧ D.guar client world (onceRead client choice world)
  uniform : ∀ choice world, D.inv world →
    D.inv (V.serve client choice .uniform world).2 ∧
      D.guar client world (V.serve client choice .uniform world).2

  start : ∀ {run world step}, fresh run world → Executor.startStep run = .ok step →
    entering step { run with status := .running, currentStep := some step.value } world
  badStart : ∀ {run world error}, fresh run world → Executor.startStep run = .error error →
    rest.troubled error run world

  unhandled : ∀ {step run world}, entering step run world → executor.handlers step = none →
    rest.troubled (.keyError step.repr) run world
  note : ∀ {step run world} choice, entering step run world → D.inv world →
    noted step (notedRun step (reading client choice world) run) (onceRead client choice world)
  resume : ∀ {step run world started}, noted step run world →
    run.runState.attemptStartedAt = some started → ready step started run world
  begin : ∀ {step run world} choice, noted step run world → D.inv world →
    run.runState.attemptStartedAt = none →
    ready step (.aware (reading client choice world))
      (begunRun (reading client choice world) run) (onceRead client choice world)
  glance : ∀ {step started run world} choice, ready step started run world → D.inv world →
    ready step started run (onceRead client choice world)
  naive : ∀ {step instant run world}, ready step (.naive instant) run world →
    rest.troubled naiveElapsed run world
  late : ∀ {step handler started run world} choice, executor.handlers step = some handler →
    ready step (.aware started) run world → D.inv world →
    handler.maxStepDuration < reading client choice world - started →
    tried step (run.runState.attempts step) (.error (exceeded step)) run
      (onceRead client choice world)
  execute : ∀ {step handler started run world}, executor.handlers step = some handler →
    ready step (.aware started) run world → D.inv world →
    (D.through (S := Providers) (Op.provider (.step step)) fun _ answer => answer).wp client
      (handler.execute run) (fun ended state world =>
        tried step (run.runState.attempts step) ended { run with runState := state } world)
      run.runState world

  reject : ∀ {step attempt message run world},
    tried step attempt (.error (.runRejected message)) run world →
    rest.denied (rejectedRun step message run) world
  logRaised : ∀ {step attempt error run world}, tried step attempt (.error error) run world →
    (∀ message, error ≠ .runRejected message) → D.inv world →
    Serves D client (.log (.stepRaised step attempt error)) world fun _ world =>
      raised step error run world
  draw : ∀ {step error run world} choice, raised step error run world → D.inv world →
    drawn step error (V.serve client choice .uniform world).1 run
      (V.serve client choice .uniform world).2
  retry : ∀ {step handler error run world jitter due} choice,
    executor.handlers step = some handler → drawn step error jitter run world → D.inv world →
    mayRetry error (run.runState.attempts step + 1) run.maxRetries →
    later (reading client choice world)
      (backoff executor.retryBase (run.runState.attempts step + 1) jitter) = .ok due →
    rest.pending { retriedRun step handler run with scheduledAt := some due }
      (onceRead client choice world)
  retryOverflow : ∀ {step handler error run world jitter overflow} choice,
    executor.handlers step = some handler → drawn step error jitter run world → D.inv world →
    mayRetry error (run.runState.attempts step + 1) run.maxRetries →
    later (reading client choice world)
      (backoff executor.retryBase (run.runState.attempts step + 1) jitter) = .error overflow →
    rest.troubled overflow (retriedRun step handler run) (onceRead client choice world)
  giveUp : ∀ {step error run world}, raised step error run world →
    ¬ mayRetry error (run.runState.attempts step + 1) run.maxRetries →
    rest.failing error (failedRun step error run) world

  poll : ∀ {step handler attempt run world due} choice, executor.handlers step = some handler →
    tried step attempt (.ok false) run world → D.inv world →
    later (reading client choice world) handler.pollInterval = .ok due →
    rest.pending { run with scheduledAt := some due } (onceRead client choice world)
  pollOverflow : ∀ {step handler attempt run world overflow} choice,
    executor.handlers step = some handler → tried step attempt (.ok false) run world →
    D.inv world → later (reading client choice world) handler.pollInterval = .error overflow →
    rest.troubled overflow run (onceRead client choice world)

  logCompleted : ∀ {step attempt run world}, tried step attempt (.ok true) run world →
    D.inv world → Serves D client (.log (.stepCompleted step)) world fun _ world =>
      passed step (steppedRun step run) world
  offPlan : ∀ {step error run world}, passed step run world → step ∉ runPlans run.runType →
    rest.troubled error run world
  next : ∀ {step next following' run world}, passed step run world →
    step ∈ runPlans run.runType → following (runPlans run.runType) step = next :: following' →
    entering next { run with currentStep := some next.value } world
  finish : ∀ {step run world}, passed step run world → step ∈ runPlans run.runType →
    following (runPlans run.runType) step = [] → rest.pending (completedRun run) world

namespace Closeup

variable {D client executor} (C : Closeup D client executor)
variable {run : WorkflowRun} {world : V.World}

include C in
/-- Reading the clock where an assertion holds. -/
theorem wp_reading (P : Assertion D client)
    {post : Except PyException Time → WorkflowRun → V.World → Prop} {origin : WorkflowRun}
    (horigin : P origin world)
    (hpost : ∀ choice final, D.inv final → P origin final →
      post (.ok (reading client choice final)) run (onceRead client choice final)) :
    D.wp client (perform .utcnow) post run world := by
  refine wp_perform_of P horigin fun current hinv hcurrent choice => ?_
  obtain ⟨hkept, hguar⟩ := C.utcnow choice current hinv
  exact ⟨hkept, hguar, hpost choice current hinv hcurrent⟩

theorem wp_schedule (P : Assertion D client) {delay : Time} {origin : WorkflowRun}
    (horigin : P origin world)
    (hdue : ∀ choice due final, D.inv final → P origin final →
      later (reading client choice final) delay = .ok due →
      C.rest.pending { run with scheduledAt := some due } (onceRead client choice final))
    (hoverflow : ∀ choice overflow final, D.inv final → P origin final →
      later (reading client choice final) delay = .error overflow →
      C.rest.troubled overflow run (onceRead client choice final)) :
    D.wp client (Executor.schedule delay) C.rest.settled run world := by
  simp only [Executor.schedule, Discipline.wp_bind, Discipline.wp_ofExcept, Discipline.wp_update]
  apply C.wp_reading P horigin
  intro choice final hinv hfinal
  simp only
  split
  next due hlater => exact C.rest.wp_save (hdue choice due final hinv hfinal hlater)
  next overflow hlater => exact hoverflow choice overflow final hinv hfinal hlater

theorem wp_onStepError {step : StepName} {handler : StepHandler} {error : PyException}
    (hhandler : executor.handlers step = some handler) (hrun : C.raised step error run world) :
    D.wp client (executor.onStepError step handler error) C.rest.settled run world := by
  simp only [Executor.onStepError, Discipline.wp_bind, wp_updateState, Discipline.wp_read,
    Outline.countAttempt_attempts]
  split
  next hretry =>
    simp only [Discipline.wp_bind, wp_updateState]
    apply wp_perform_of _ hrun
    intro current hinv hcurrent choice
    obtain ⟨hkept, hguar⟩ := C.uniform choice current hinv
    refine ⟨hkept, hguar, ?_⟩
    apply C.wp_schedule _ (C.draw choice hcurrent hinv)
    · intro choice due final hinv hdrawn hlater
      exact C.retry choice hhandler hdrawn hinv hretry hlater
    · intro choice overflow final hinv hdrawn hlater
      exact C.retryOverflow choice hhandler hdrawn hinv hretry hlater
  next hretry => exact C.rest.wp_failStep (C.giveUp hrun hretry)

/-- A step's error, put on record and dealt with. -/
theorem wp_stepRaised {step : StepName} {handler : StepHandler} {attempt : Int}
    {error : PyException} (hhandler : executor.handlers step = some handler)
    (hrun : C.tried step attempt (.error error) run world)
    (herror : ∀ message, error ≠ .runRejected message) :
    D.wp client (do
      log (.stepRaised step attempt error)
      executor.onStepError step handler error) C.rest.settled run world := by
  simp only [Discipline.wp_bind]
  apply wp_perform_of _ hrun
  intro current hinv hcurrent choice
  obtain ⟨hkept, hguar, hraised⟩ := C.logRaised hcurrent herror hinv choice
  exact ⟨hkept, hguar, C.wp_onStepError hhandler hraised⟩

theorem wp_stamp {step : StepName} (hrun : C.entering step run world) :
    D.wp client (Executor.stamp step) (fun ended object final =>
      (∃ started, ended = .ok started ∧ C.ready step started object final) ∧
        object.runType = run.runType) run world := by
  simp only [Executor.stamp, Discipline.wp_bind, wp_updateState, Discipline.wp_read]
  apply C.wp_reading _ hrun
  intro choice final hinv hfinal
  have hnoted := C.note choice hfinal hinv
  simp only
  split
  next started hstarted => exact ⟨⟨started, rfl, C.resume hnoted hstarted⟩, rfl⟩
  next hnone =>
    simp only [Discipline.wp_bind, wp_updateState]
    apply C.wp_reading _ hnoted
    intro choice final hinv hnoted
    exact ⟨⟨_, rfl, C.begin choice hnoted hinv hnone⟩, rfl⟩

theorem wp_attemptStep {step : StepName} {handler : StepHandler} {started : Time}
    (hhandler : executor.handlers step = some handler)
    (hrun : C.ready step (.aware started) run world) :
    D.wp client (Executor.attemptStep step handler (.aware started)) (fun ended object final =>
      object.runType = run.runType ∧
        C.tried step (run.runState.attempts step) ended object final) run world := by
  simp only [Executor.attemptStep, Discipline.wp_bind, Discipline.wp_ofExcept, elapsed]
  apply C.wp_reading _ hrun
  intro choice final hinv hfinal
  simp only
  split
  next hlate =>
    simp only [Discipline.wp_bind, Discipline.wp_raise]
    exact ⟨trivial, C.late choice hhandler hfinal hinv hlate⟩
  next =>
    simp only [Discipline.wp_bind, Discipline.wp_read, wp_onProviders]
    apply Discipline.wp_mono (C.execute hhandler (C.glance choice hfinal hinv)
      (C.utcnow choice final hinv).1)
    intro ended state final htried
    exact ⟨trivial, htried⟩

/-- How one turn ends: the step is passed, the drive is over, or it is in trouble. -/
def turned (step : StepName) : Except PyException Bool → WorkflowRun → V.World → Prop
  | .ok true => C.passed step
  | .ok false => C.rest.ended
  | .error error => C.rest.troubled error

/-- What ends the drive within a turn ends the turn. -/
theorem wp_lastly {step : StepName} {runType : RunType} {body : Drive Unit}
    (hbody : D.wp client body C.rest.settled run world) :
    D.wp client (do body; return false) (fun ended object final =>
      C.turned step ended object final ∧ (ended = .ok true → object.runType = runType))
      run world := by
  simp only [Discipline.wp_bind, Discipline.wp_pure]
  apply Discipline.wp_mono hbody
  rintro (error | _) object final hfinal
  · exact ⟨hfinal, by simp⟩
  · exact ⟨hfinal, by simp⟩

theorem wp_turn {step : StepName}
    (hrun : C.entering step { run with currentStep := some step.value } world) :
    D.wp client (executor.turn step) (fun ended object final =>
      C.turned step ended object final ∧ (ended = .ok true → object.runType = run.runType))
      run world := by
  simp only [Executor.turn, Discipline.wp_bind, Discipline.wp_update]
  split
  next hmissing => exact ⟨C.unhandled hrun hmissing, by simp⟩
  next handler hhandler =>
    simp only [Discipline.wp_bind]
    apply Discipline.wp_mono (C.wp_stamp hrun)
    rintro _ object final ⟨⟨started, rfl, hready⟩, htype⟩
    simp only [Discipline.wp_read, Discipline.wp_ofExcept, Discipline.wp_attempt]
    apply C.wp_reading _ hready
    intro choice final hinv hready
    -- a naive start cannot be subtracted from an aware clock
    replace hready := C.glance choice hready hinv
    cases started with
    | naive instant => exact ⟨C.naive hready, by simp⟩
    | aware started =>
        apply Discipline.wp_mono (C.wp_attemptStep hhandler hready)
        rintro ended object final ⟨htype', htried⟩
        rw [← htype, ← htype']
        cases ended with
        | ok done =>
            cases done with
            | true =>
                simp only [Discipline.wp_bind, wp_updateState, Discipline.wp_pure]
                apply wp_perform_of _ htried
                intro current hinv hcurrent choice
                obtain ⟨hkept, hguar, hpassed⟩ := C.logCompleted hcurrent hinv choice
                exact ⟨hkept, hguar, hpassed, fun _ => rfl⟩
            | false =>
                apply C.wp_lastly
                apply C.wp_schedule _ htried
                · intro choice due final hinv htried hlater
                  exact C.poll choice hhandler htried hinv hlater
                · intro choice overflow final hinv htried hlater
                  exact C.pollOverflow choice hhandler htried hinv hlater
        | error error =>
            cases error with
            | runRejected message => exact C.wp_lastly (C.rest.wp_rejectRun (C.reject htried))
            | _ => exact C.wp_lastly (C.wp_stepRaised hhandler htried (by simp))

/-- One turn and what follows it, for a step on the plan and for one off it. -/
theorem wp_proceed {step : StepName} {andThen : Drive Unit}
    (hrun : C.entering step { run with currentStep := some step.value } world)
    (hthen : ∀ object final, C.passed step object final → object.runType = run.runType →
      step ∈ runPlans run.runType → D.wp client andThen C.rest.settled object final) :
    D.wp client (executor.proceed (runPlans run.runType) step andThen) C.rest.settled
      run world := by
  simp only [Executor.proceed, Discipline.wp_bind]
  apply Discipline.wp_mono (C.wp_turn hrun)
  rintro (error | _ | _) object final ⟨hturned, htype⟩
  · exact hturned
  · exact hturned
  · simp only [if_true]
    split
    next hoff => exact C.offPlan hturned (htype rfl ▸ hoff)
    next hon => exact hthen object final hturned (htype rfl) (by simpa using hon)

/-- The loop, by induction on what the plan still has after the step. -/
theorem wp_advance (run : WorkflowRun) {step : StepName} {later : List StepName}
    (hlater : following (runPlans run.runType) step = later)
    (hrun : C.entering step { run with currentStep := some step.value } world) :
    D.wp client (executor.advance (runPlans run.runType) later step) C.rest.settled
      run world := by
  induction later generalizing step run world with
  | nil =>
      apply C.wp_proceed hrun
      intro object final hpassed htype hstep
      rw [← htype] at hlater hstep
      exact C.rest.wp_save (C.finish hpassed hstep hlater)
  | cons next later ih =>
      apply C.wp_proceed hrun
      intro object final hpassed htype hstep
      rw [← htype] at hlater hstep ⊢
      obtain ⟨-, hfollowing, -⟩ := following_eq_cons (runPlans_nodup _) hstep hlater
      exact ih object hfollowing (C.next hpassed hstep hlater)

theorem wp_drive (hrun : C.fresh run world) :
    D.wp client executor.drive C.rest.settled run world := by
  simp only [Executor.drive, Discipline.wp_bind, Discipline.wp_read, Discipline.wp_ofExcept,
    Discipline.wp_update]
  split
  next step hstart =>
    have hstarted := C.start hrun hstart
    exact C.wp_advance { run with status := .running, currentStep := some step.value } rfl hstarted
  next error hstart => exact C.badStart hrun hstart

theorem wp_driveOrCrash (hrun : C.fresh run world) :
    D.wp client executor.driveOrCrash C.rest.handled run world := by
  simp only [Executor.driveOrCrash, Discipline.wp_bind, Discipline.wp_attempt]
  apply Discipline.wp_mono (C.wp_drive hrun)
  rintro (error | _) object final hsettled
  · apply Discipline.wp_mono (C.rest.wp_crash hsettled)
    intro _ _ _ hwrecked
    exact .inr hwrecked
  · exact .inl ⟨rfl, hsettled⟩

end Closeup

end CloudioOrchestrator

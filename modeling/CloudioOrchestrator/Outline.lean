import CloudioOrchestrator.Executor
import CloudioOrchestrator.Interaction.Tracing

/-! # A proof outline of the driver

What holds of the run in memory and of the world at each point of a drive, and
what has to be shown between the points. The outline walks the driver once, for
any service and any discipline; every result about drives is an instance.
-/

namespace CloudioOrchestrator

open Interaction

variable {V : Service Operations UUID} (D : Discipline V) (client : Client UUID)

/-- What holds of the run in memory and the world, whatever others do. -/
structure Assertion where
  holds : WorkflowRun → V.World → Prop
  stable : ∀ {run world current}, holds run world → D.rely client world current →
    D.inv current → holds run current

instance : CoeFun (Assertion D client) fun _ => WorkflowRun → V.World → Prop :=
  ⟨Assertion.holds⟩

/-- Whatever the environment chooses, serving the operation keeps the
discipline and ends as said. -/
def Serves (op : Op) (world : V.World) (post : op.Answer → V.World → Prop) : Prop :=
  ∀ choice, D.inv (V.serve client choice op world).2 ∧
    D.guar client world (V.serve client choice op world).2 ∧
    post (V.serve client choice op world).1 (V.serve client choice op world).2

theorem resourceInFlight_eq_some {state : RunState} {resource : ResourceSpec}
    (hflight : Escalator.resourceInFlight state = some resource) :
    state.resource = some resource ∧ state.resourceConfigured = true ∧
      state.resourceFinalized = false := by
  unfold Escalator.resourceInFlight at hflight
  split at hflight
  next hmarkers => exact ⟨hflight, hmarkers.1, by simpa using hmarkers.2⟩
  next => cases hflight

/-- The calls that release the resource a run left in flight. -/
inductive ReleaseCall (state : RunState) : Call → Prop
  | delete {resource : ResourceSpec} (hresource : Escalator.resourceInFlight state = some resource)
      (hcreate : state.operation = .create) :
      ReleaseCall state
        (.deleteResource resource.projectId resource.resourceType resource.vendorId)
  | ready {resource : ResourceSpec} (hresource : Escalator.resourceInFlight state = some resource)
      (hexisting : state.operation ≠ .create) :
      ReleaseCall state (.updateResource resource.projectId resource.resourceType
        resource.vendorId (resourceStateFields .ready))

/-- The calls an escalation makes once it has tried to raise its incident. -/
inductive AftermathCall (state : RunState) : Issuer → Call → Prop
  | documentation (request : IncidentRequest) :
      AftermathCall state .documentation (.openIncident request)
  | documented (incident : TicketRef) :
      AftermathCall state .documentation (.closeIncident incident .documentation)
  | close {ticket : TicketRef} (note : String) (hticket : state.ticket = some ticket) :
      AftermathCall state .escalation (.closeTicket ticket note .unsuccessful)
  | annotate {ticket : TicketRef} (note : String) (hticket : state.ticket = some ticket) :
      AftermathCall state .escalation (.annotateTicket ticket note)
  | release {call : Call} (hcall : ReleaseCall state call) : AftermathCall state .release call

/-- The run as it stands once the step is being retried. -/
def retriedRun (step : StepName) (handler : StepHandler) (run : WorkflowRun) : WorkflowRun :=
  { run with runState := Executor.retryState handler (Executor.countAttempt step run.runState) }

/-- The run as it stands once the step's error has ended it. -/
def failedRun (step : StepName) (error : PyException) (run : WorkflowRun) : WorkflowRun :=
  let state := Executor.countAttempt step run.runState
  { run with
    runState := { state with errors := state.errors.set step error.message }
    status := .failed, scheduledAt := none }

def rejectedRun (step : StepName) (message : String) (run : WorkflowRun) : WorkflowRun :=
  { run with
    runState := { run.runState with errors := run.runState.errors.set step message }
    status := .rejected, scheduledAt := none }

/-- The run as it stands once a step has completed. -/
def steppedRun (step : StepName) (run : WorkflowRun) : WorkflowRun :=
  { run with
    runState := { run.runState with
      stepAttempts := run.runState.stepAttempts.pop step, attemptStartedAt := none } }

def completedRun (run : WorkflowRun) : WorkflowRun :=
  { run with status := .completed, currentStep := none, scheduledAt := none }

/-- The run as it stands once a failure around the steps has ended it. -/
def crashedRun (step : Option StepName) (error : PyException) (run : WorkflowRun) : WorkflowRun :=
  { run with
    runState := match step with
      | some step => { run.runState with errors := run.runState.errors.set step error.message }
      | none => run.runState
    status := .failed, scheduledAt := none }

/-- The step a stored text names, if there is a text. -/
def namedStep : Option String → Option (Option StepName)
  | none => some none
  | some text => (StepName.ofValue text).map some

theorem startStep_named {run : WorkflowRun} {step : StepName}
    (hstep : run.currentStep = some step.value) : Executor.startStep run = .ok step := by
  have hvalue : step.value ≠ "" := by cases step <;> decide
  simp [Executor.startStep, hstep, hvalue, stepNamed]

variable (executor : Executor)

/-- The points of a drive from the end of its turns on, and the steps between them. -/
structure Ending where
  /-- The run is set rejected, and its resource not released yet. -/
  denied : Assertion D client
  /-- The run is set rejected, and releasing its resource has been tried. -/
  dismissed : Assertion D client
  /-- The run is set failed, and not escalated yet. -/
  failing : PyException → Assertion D client
  /-- The escalation is on record, and its incident is not raised yet. -/
  escalating : PyException → Assertion D client
  /-- The run is set failed, and raising its incident has been tried. -/
  failed : Assertion D client
  /-- The run is set failed, and releasing its resource has been tried. -/
  released : Assertion D client
  /-- About to save. -/
  pending : Assertion D client
  /-- About to save on the crash path. -/
  quiet : Assertion D client
  /-- An error left the driving code. -/
  troubled : PyException → Assertion D client
  /-- The drive is over. -/
  ended : Assertion D client
  /-- The crash path is over. -/
  wrecked : Except PyException Unit → Assertion D client

  release : ∀ {run world call}, denied run world → D.inv world → ReleaseCall run.runState call →
    Serves D client (.provider .release call) world fun _ world => dismissed run world
  unheld : ∀ {run world}, denied run world → Escalator.resourceInFlight run.runState = none →
    dismissed run world
  dismissed_pending : ∀ {run world}, dismissed run world → pending run world

  logEscalating : ∀ {error run world}, failing error run world → D.inv world →
    Serves D client (.log (.escalating error)) world fun _ world => escalating error run world
  openIncident : ∀ {error run world} request, escalating error run world → D.inv world →
    Serves D client (.provider .escalation (.openIncident request)) world fun answer world =>
      match answer with
      | .ok opened => failed { run with
          runState := { run.runState with incidentId := some opened.ticketId } } world
      | .error _ => failed run world
  escalating_failed : ∀ {error run world}, escalating error run world → failed run world
  aftermath : ∀ {run world issuer call}, failed run world → D.inv world →
    AftermathCall run.runState issuer call →
    Serves D client (.provider issuer call) world fun _ world => failed run world
  ticketClosed : ∀ {run world}, failed run world →
    failed { run with runState := { run.runState with ticketClosed := true } } world
  releaseFailed : ∀ {run world call}, failed run world → D.inv world →
    ReleaseCall run.runState call →
    Serves D client (.provider .release call) world fun _ world => released run world
  unheldFailed : ∀ {run world}, failed run world →
    Escalator.resourceInFlight run.runState = none → released run world
  released_pending : ∀ {run world}, released run world → pending run world
  released_quiet : ∀ {run world}, released run world → quiet run world

  save : ∀ {run world}, pending run world → D.inv world →
    Serves D client (.runsSave run) world fun answer world =>
      match answer with
      | .ok version => ended { run with version := version } world
      | .error (.staleRun _) => ended run world
      | .error error => troubled error run world
  saveQuietly : ∀ {run world}, quiet run world → D.inv world →
    Serves D client (.runsSave run) world fun answer world =>
      match answer with
      | .ok version => wrecked (.ok ()) { run with version := version } world
      | .error _ => wrecked (.ok ()) run world

  unpersisted : ∀ {error run world}, troubled error run world → run.status = .failed →
    D.inv world → Serves D client (.log (.unpersisted error)) world fun _ world => quiet run world
  unnamed : ∀ {error nameError run text world}, troubled error run world →
    run.status ≠ .failed → run.currentStep = some text → stepNamed text = .error nameError →
    wrecked (.error nameError) run world
  crashed : ∀ {error run step world}, troubled error run world → run.status ≠ .failed →
    namedStep run.currentStep = some step → D.inv world →
    Serves D client (.log (.crashed error)) world fun _ world =>
      failing error (crashedRun step error run) world

/-- The points of a drive and the steps between them. -/
structure Outline extends Ending D client where
  /-- Just loaded. -/
  fresh : Assertion D client
  /-- In the loop, at a step. -/
  turning : StepName → Assertion D client
  /-- The step was tried, on the given attempt, and ended so. -/
  tried : StepName → Int → Except PyException Bool → Assertion D client
  /-- The step's error is on record. -/
  raised : StepName → PyException → Assertion D client
  /-- The step's completion is on record. -/
  passed : StepName → Assertion D client

  guar_refl : ∀ world, D.inv world → D.guar client world world
  utcnow : ∀ choice world, (V.serve client choice .utcnow world).2 = world
  uniform : ∀ choice world, (V.serve client choice .uniform world).2 = world

  start : ∀ {run world step}, fresh run world → Executor.startStep run = .ok step →
    turning step { run with status := .running, currentStep := some step.value } world
  badStart : ∀ {run world error}, fresh run world → Executor.startStep run = .error error →
    troubled error run world

  unhandled : ∀ {step run world}, turning step run world → executor.handlers step = none →
    troubled (.keyError step.repr) run world
  restamp : ∀ {step run world} startedAt attemptStartedAt, turning step run world →
    turning step { run with
      runState := { run.runState with
        stepStartedAt := startedAt, attemptStartedAt := attemptStartedAt } } world
  naive : ∀ {step run world error}, turning step run world → troubled error run world
  deadline : ∀ {step run world}, turning step run world →
    tried step (run.runState.attempts step) (.error (.stepDeadlineExceeded
      ("Step " ++ step.str ++ " exceeded its wall-clock budget"))) run world
  execute : ∀ {step handler run world}, executor.handlers step = some handler →
    turning step run world → D.inv world →
    (D.through (S := Providers) (Op.provider (.step step)) fun _ answer => answer).wp client
      (handler.execute run) (fun ended state world =>
        tried step (run.runState.attempts step) ended { run with runState := state } world)
      run.runState world

  reject : ∀ {step attempt message run world},
    tried step attempt (.error (.runRejected message)) run world →
    denied (rejectedRun step message run) world

  logRaised : ∀ {step attempt error run world}, tried step attempt (.error error) run world →
    (∀ message, error ≠ .runRejected message) → D.inv world →
    Serves D client (.log (.stepRaised step attempt error)) world fun _ world =>
      raised step error run world
  retry : ∀ {step handler error run world} due, executor.handlers step = some handler →
    raised step error run world →
    mayRetry error (run.runState.attempts step + 1) run.maxRetries →
    pending { retriedRun step handler run with scheduledAt := some due } world
  retryOverflow : ∀ {step handler error overflow run world}, executor.handlers step = some handler →
    raised step error run world →
    mayRetry error (run.runState.attempts step + 1) run.maxRetries →
    troubled overflow (retriedRun step handler run) world
  giveUp : ∀ {step error run world}, raised step error run world →
    ¬ mayRetry error (run.runState.attempts step + 1) run.maxRetries →
    failing error (failedRun step error run) world

  poll : ∀ {step attempt run world} due, tried step attempt (.ok false) run world →
    pending { run with scheduledAt := some due } world
  pollOverflow : ∀ {step attempt overflow run world}, tried step attempt (.ok false) run world →
    troubled overflow run world

  logCompleted : ∀ {step attempt run world}, tried step attempt (.ok true) run world →
    D.inv world → Serves D client (.log (.stepCompleted step)) world fun _ world =>
      passed step (steppedRun step run) world
  offPlan : ∀ {step error run world}, passed step run world → step ∉ runPlans run.runType →
    troubled error run world
  next : ∀ {step next rest run world}, passed step run world → step ∈ runPlans run.runType →
    following (runPlans run.runType) step = next :: rest →
    turning next { run with currentStep := some next.value } world
  finish : ∀ {step run world}, passed step run world → step ∈ runPlans run.runType →
    following (runPlans run.runType) step = [] → pending (completedRun run) world

variable {D client}

/-- What holds whether or not an incident opens, and of a run that notes one, holds once it
was tried to open one. -/
theorem Serves.opened {request : IncidentRequest} {run : WorkflowRun} {world : V.World}
    {failed : Assertion D client}
    (hserves : Serves D client (.provider .escalation (.openIncident request)) world
      fun _ final => failed run final)
    (hnoted : ∀ (incidentId : Option String) {final : V.World}, failed run final →
      failed { run with runState := { run.runState with incidentId := incidentId } } final) :
    Serves D client (.provider .escalation (.openIncident request)) world fun answer final =>
      match answer with
      | .ok opened => failed { run with
          runState := { run.runState with incidentId := some opened.ticketId } } final
      | .error _ => failed run final := by
  intro choice
  obtain ⟨hkept, hguar, hfinal⟩ := hserves choice
  refine ⟨hkept, hguar, ?_⟩
  simp only
  split
  · exact hnoted _ hfinal
  · exact hfinal

end CloudioOrchestrator

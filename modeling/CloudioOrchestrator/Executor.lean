import CloudioOrchestrator.Escalator

/-! # The run driver

Load the run, advance it through as many steps as complete on this wake-up, and
complete it, schedule it for a later poll or retry, or end it badly. A failure
around the steps ends the run too. A drive that is cut off simply performs no
further operation.
-/

namespace CloudioOrchestrator

open Interaction Drive

/-- The last instant a datetime can name. -/
def datetimeMax : Time := 253402300799999999

/-- `utcnow() - started`. -/
def elapsed (now : Time) : Datetime → Except PyException Time
  | .aware started => .ok (now - started)
  | .naive _ => .error (.typeError "can't subtract offset-naive and offset-aware datetimes")

/-- What is said of a delay after which no datetime is left: whether it is a timedelta at all. -/
def overflow (delay : Time) : PyException :=
  let days := delay / seconds 86400
  .overflowError (if 2147483647 < days then "Python int too large to convert to C int"
    else if 999999999 < days then "days=" ++ toString days ++ "; must have magnitude <= 999999999"
    else "date value out of range")

/-- `utcnow() + timedelta(seconds=delay)`. -/
def later (now delay : Time) : Except PyException Time :=
  if now + delay ≤ datetimeMax then .ok (now + delay) else .error (overflow delay)

/-- `base * 2 ** (attempts - 1) + jitter`. -/
def backoff (base : Time) (attempts : Int) (jitter : Time) : Time :=
  if 1 ≤ attempts then base * Int.pow 2 (attempts - 1).toNat + jitter
  else base / Int.pow 2 (1 - attempts).toNat + jitter

/-- Whether an error may be retried, given the attempts made so far, this one included. -/
def mayRetry (error : PyException) (attempts maxRetries : Int) : Bool :=
  (policyFor error.kind).retryable ∧ attempts ≤ maxRetries

structure Executor where
  handlers : StepName → Option StepHandler
  retryBase : Time
  defaultTeam : String

/-- Run a handler over the working state of the run in memory. -/
def onProviders {α : Type} (step : StepName) (body : Handling α) : Drive α := fun run =>
  (Prog.relabel (T := Operations) (Op.provider (.step step)) (fun _ answer => answer)
    (body run.runState)).bind fun (outcome, state) => .ret (outcome, { run with runState := state })

namespace Executor

/-- Save, dropping the save when it lost to a concurrent writer. -/
def save : Drive Unit := do
  let run ← Routine.read
  match ← perform (.runsSave run) with
  | .ok version => Routine.update fun run => { run with version := version }
  -- whoever saved the run meanwhile carries it on
  | .error (.staleRun _) => return
  | .error error => Routine.raise error

def schedule (delay : Time) : Drive Unit := do
  let now ← perform .utcnow
  let due ← Routine.ofExcept (later now delay)
  Routine.update fun run => { run with scheduledAt := some due }
  save

/-- A request denied in the ticket system: terminal, with nothing escalated. -/
def rejectRun (step : StepName) (message : String) : Drive Unit := do
  updateState fun state => { state with errors := state.errors.set step message }
  Routine.update fun run => { run with status := .rejected, scheduledAt := none }
  Escalator.reject
  save

/-- The working state a retry of a step starts from. -/
def retryState (handler : StepHandler) (state : RunState) : RunState :=
  { handler.resetForRetry state with attemptStartedAt := none }

def countAttempt (step : StepName) (state : RunState) : RunState :=
  { state with stepAttempts := state.stepAttempts.set step (state.attempts step + 1) }

variable (executor : Executor)

/-- End the run as failed, for a step's error that is not retried. -/
def failStep (step : StepName) (error : PyException) : Drive Unit := do
  updateState fun state => { state with errors := state.errors.set step error.message }
  Routine.update fun run => { run with status := .failed, scheduledAt := none }
  Escalator.escalate executor.defaultTeam error
  save

/-- Count the attempt, then retry after a backoff or give up. -/
def onStepError (step : StepName) (handler : StepHandler) (error : PyException) :
    Drive Unit := do
  updateState (countAttempt step)
  let run ← Routine.read
  let attempts := run.runState.attempts step
  if mayRetry error attempts run.maxRetries then
    updateState (retryState handler)
    let jitter ← perform .uniform
    schedule (backoff executor.retryBase attempts jitter)
  else
    executor.failStep step error

/-- Note when the step and its attempt began, and return the latter. -/
def stamp (step : StepName) : Drive Datetime := do
  let now ← perform .utcnow
  updateState fun state =>
    { state with stepStartedAt := state.stepStartedAt.setDefault step (.aware now) }
  let run ← Routine.read
  match run.runState.attemptStartedAt with
  | some started => return started
  | none =>
    let now ← perform .utcnow
    updateState fun state => { state with attemptStartedAt := some (.aware now) }
    return .aware now

/-- The guarded part of a turn: the step's budget, then the step. -/
def attemptStep (step : StepName) (handler : StepHandler) (started : Datetime) :
    Drive Bool := do
  let now ← perform .utcnow
  let spent ← Routine.ofExcept (elapsed now started)
  if handler.maxStepDuration < spent then
    Routine.raise (.stepDeadlineExceeded ("Step " ++ step.str ++ " exceeded its wall-clock budget"))
  let run ← Routine.read
  onProviders step (handler.execute run)

/-- One turn of the loop: whether the step completed, so that the drive goes on. -/
def turn (step : StepName) : Drive Bool := do
  Routine.update fun run => { run with currentStep := some step.value }
  match executor.handlers step with
  | none => Routine.raise (.keyError step.repr)
  | some handler =>
    let started ← stamp step
    let run ← Routine.read
    let attempt := run.runState.attempts step
    -- the elapsed time is worked out for the log line as well, outside the guard
    let now ← perform .utcnow
    let _ ← Routine.ofExcept (elapsed now started)
    match ← Routine.attempt (attemptStep step handler started) with
    -- a denial counts as no failure, and is not retried
    | .error (.runRejected message) =>
      rejectRun step message
      return false
    | .error error =>
      log (.stepRaised step attempt error)
      executor.onStepError step handler error
      return false
    | .ok false =>
      schedule handler.pollInterval
      return false
    | .ok true =>
      -- the drive goes straight on: this is saved with whatever is saved next
      log (.stepCompleted step)
      updateState fun state =>
        { state with stepAttempts := state.stepAttempts.pop step, attemptStartedAt := none }
      return true

def complete : Drive Unit := do
  Routine.update fun run =>
    { run with status := .completed, currentStep := none, scheduledAt := none }
  save

/-- One turn, and what to do when the step completed; the step is looked up in
the plan again by then. -/
def proceed (plan : List StepName) (step : StepName) (andThen : Drive Unit) : Drive Unit := do
  if ← executor.turn step then
    -- `plan.index` goes by the plan of the run as it is now
    if step ∉ plan then Routine.raise (.valueError "tuple.index(x): x not in tuple")
    andThen

/-- The loop: turns from a step on, given what the plan has after the step. -/
def advance (plan : List StepName) : List StepName → StepName → Drive Unit
  | [], step => executor.proceed plan step complete
  | next :: rest, step => executor.proceed plan step (advance plan rest next)

/-- The step a drive starts at. -/
def startStep (run : WorkflowRun) : Except PyException StepName :=
  match run.currentStep with
  | none => .ok (firstStep run.runType)
  | some text => if text = "" then .ok (firstStep run.runType) else stepNamed text

def drive : Drive Unit := do
  let run ← Routine.read
  let plan := runPlans run.runType
  let step ← Routine.ofExcept (startStep run)
  Routine.update fun run => { run with status := .running, currentStep := some step.value }
  executor.advance plan (following plan step) step

/-- Save on the crash path, where a second failure must not escape. -/
def saveQuietly : Drive Unit := do
  let _ ← Routine.attempt save

/-- End the run for a failure in the driving code itself. -/
def crash (error : PyException) : Drive Unit := do
  let run ← Routine.read
  if run.status = .failed then
    -- the failure was dealt with already, and only its save raised
    log (.unpersisted error)
    saveQuietly
  else
    match run.currentStep with
    | none => pure ()
    | some text =>
      -- raises again where the name of the step is what the drive crashed on
      let step ← Routine.ofExcept (stepNamed text)
      updateState fun state => { state with errors := state.errors.set step error.message }
    Routine.update fun run => { run with status := .failed, scheduledAt := none }
    log (.crashed error)
    Escalator.escalate executor.defaultTeam error
    saveQuietly

/-- Drive the run in memory; a failure around the steps ends it. -/
def driveOrCrash : Drive Unit := do
  match ← Routine.attempt executor.drive with
  | .ok () => return
  | .error error => executor.crash error

/-- Handle one delivery of a run id. Returns how it ended and the run it held. -/
def handle (runId : UUID) : Prog Operations (Except PyException Unit × Option WorkflowRun) :=
  .call (.runsGet runId) fun
    | .error error => .ret (.error error, none)
    | .ok none => .ret (.ok (), none)
    | .ok (some run) =>
        if run.status.terminal then .ret (.ok (), some run)
        else (executor.driveOrCrash run).bind fun (outcome, run) => .ret (outcome, some run)

/-- The executor as the composition root wires it. -/
def wired (engines : List WorkflowEngineType) (retryBase : Time) (defaultTeam : String) :
    Executor where
  handlers := buildHandlers engines
  retryBase := retryBase
  defaultTeam := defaultTeam

end Executor

/-! An environment in which everything goes well, to evaluate runs in. -/

def sampleId : UUID :=
  ⟨List.replicate 32 0, by decide⟩

def rivalId : UUID :=
  ⟨List.replicate 32 ⟨1, by decide⟩, List.length_replicate⟩

def sampleExecutor : Executor :=
  .wired [.airflow] (seconds 10) "cloud"

def willing : (call : Call) → call.Answer
  | .openTicket .. => .ok ⟨"RITM0000001", "1"⟩
  | .getApprovalStatus _ => .ok .approved
  | .closeTicket .. | .annotateTicket .. | .closeIncident .. => .ok ()
  | .openIncident _ => .ok ⟨"INC0000001", "2"⟩
  | .createResource .. => .ok (some "3")
  | .validateResource _ => .ok { eligible := true }
  | .updateResource .. | .deleteResource .. => .ok ()
  | .submit .. => .ok none
  | .triggerWorkflow _ _ _ key => .ok key
  | .queryRunStatus .. => .ok .success
  | .getFailure .. => .ok {}
  | .getOutput .. => .ok none

/-- The legacy runner down, everything else as it should be. -/
def legacyDown (call : Call) : call.Answer :=
  match call with
  | .submit .. => .error (.other "ConnectError" "connection refused")
  | call => willing call

end CloudioOrchestrator

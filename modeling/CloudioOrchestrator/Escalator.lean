import CloudioOrchestrator.Plans

/-! # Escalation

The operations of a drive, the failure policy, and what the escalator does when
a run ends badly: apply the policy and release the resource left in flight.
-/

namespace CloudioOrchestrator

open Interaction

/-- Which part of the orchestrator makes a provider call. -/
inductive Issuer
  | step (step : StepName)
  | escalation
  | documentation
  | release
deriving DecidableEq, Repr

/-- The log records that say how a drive fares, with the values they are given. -/
inductive LogRecord
  | stepCompleted (step : StepName)
  | stepRaised (step : StepName) (attempt : Int) (error : PyException)
  | escalating (error : PyException)
  | crashed (error : PyException)
  | unpersisted (error : PyException)
deriving DecidableEq, Repr

inductive Op
  | runsGet (runId : UUID)
  | runsSave (run : WorkflowRun)
  | utcnow
  | uniform
  | provider (issuer : Issuer) (call : Call)
  | log (record : LogRecord)

/-- What a drive interacts with: the run store, the clock, the random backoff,
the providers and the log. A save that succeeds answers with the new version. -/
abbrev Op.Answer : Op → Type
  | .runsGet _ => Except PyException (Option WorkflowRun)
  | .runsSave _ => Except PyException Int
  | .utcnow => Time
  | .uniform => Time
  | .provider _ call => call.Answer
  | .log _ => Unit

abbrev Operations : Signature where
  Op := Op
  Answer := Op.Answer

/-- A computation of a drive, over the run it holds in memory. -/
abbrev Drive := Routine Operations PyException WorkflowRun

namespace Drive

def perform (op : Op) : Drive op.Answer :=
  Routine.ask (S := Operations) op

/-- Make a provider call on behalf of a part of the orchestrator. -/
def issue (issuer : Issuer) (call : Call) : Drive call.Result := do
  let answer ← perform (.provider issuer call)
  Routine.ofExcept (answer.mapError ProviderError.toException)

def log (record : LogRecord) : Drive Unit :=
  perform (.log record)

def updateState (change : RunState → RunState) : Drive Unit :=
  Routine.update fun run => { run with runState := change run.runState }

end Drive

structure FailurePolicy where
  retryable : Bool
  openIncident : Bool
  /-- The note a ticket is closed with, given the incident's id. -/
  closeComment : Option String → String

def validationComment : String := "Your request was closed due to a validation error"

def policyFor : FailureKind → FailurePolicy
  | .validation =>
      { retryable := false, openIncident := false, closeComment := fun _ => validationComment }
  | .infraPrecheck =>
      { retryable := false, openIncident := false, closeComment := fun _ => validationComment }
  | .task =>
      { retryable := true
        openIncident := true
        closeComment := fun incidentId =>
          "An error occurred. Incident " ++ incidentId.getD "None" ++ " was created" }

def incidentSummary (run : WorkflowRun) : String :=
  let title := "Error in " ++ run.runState.workflow.label ++ " automation"
  match run.runState.ticket with
  | some ticket => title ++ " (" ++ ticket.ticketId ++ ")"
  | none => title

def incidentDescription (run : WorkflowRun) (detail : String) : String :=
  "Run " ++ run.runId.str ++ " has failed with the following error:\n" ++ detail

/-- The engine task a failure names, if it names one. -/
def reportedTask (failure : Option EngineFailure) : Option String :=
  (failure.bind EngineFailure.failedTask).filter (· ≠ "")

def incidentFlowType (run : WorkflowRun) (failure : Option EngineFailure) : String :=
  let workflow := run.runState.workflow
  if (reportedTask failure).isSome then
    workflow.engineType.value.capitalize ++ ":" ++ workflow.automationId
  else workflow.identifier

/-- `StepName(text)`. -/
def stepNamed (text : String) : Except PyException StepName :=
  match StepName.ofValue text with
  | some step => .ok step
  | none => .error (.valueError ("'" ++ text ++ "' is not a valid StepName"))

def incidentFailedTask (run : WorkflowRun) (failure : Option EngineFailure) :
    Except PyException (Option String) :=
  match reportedTask failure, run.currentStep with
  | some task, _ => .ok (some task)
  | none, none => .ok none
  | none, some text =>
      if text = "" then .ok none else (stepNamed text).map fun step => some step.value

namespace Escalator

open Drive

/-- The incident raised for a run, routed to a team. -/
def incidentRequest (run : WorkflowRun) (team detail : String) (failure : Option EngineFailure) :
    Except PyException IncidentRequest :=
  (incidentFailedTask run failure).map fun failedTask =>
    { summary := incidentSummary run
      requestedBy := run.createdBy
      responsibleGroup := team
      flowType := some (incidentFlowType run failure)
      failedTask := failedTask
      comment := some detail
      description := some (incidentDescription run detail) }

/-- Leave the default team a record of a failure that another team owns. -/
def logDocumentationIncident (defaultTeam group detail : String) : Drive Unit := do
  -- its own incident is in that queue already
  if group = defaultTeam then return
  let run ← Routine.read
  let _ ← Routine.attempt do
    let incident ← Routine.ofExcept
      (incidentRequest run defaultTeam detail run.runState.engineFailure)
    let doc ← issue .documentation (.openIncident incident)
    issue .documentation (.closeIncident doc .documentation)

/-- The team an engine failure names, or the default one. -/
def responsibleTeam (defaultTeam : String) (failure : Option EngineFailure) : String :=
  ((failure.bind EngineFailure.responsibleGroup).filter (· ≠ "")).getD defaultTeam

def failureDetail (message : String) (failure : Option EngineFailure) : String :=
  match failure with
  | none => message
  | some failure =>
      match failure.detail.filter (· ≠ "") with
      | none => message
      | some detail =>
          (failure.exceptionName.filter (· ≠ "")).getD "Failure" ++ ": " ++ detail

/-- Raise the responsible team's incident, and a record of it for the default team. -/
def openByPolicy (defaultTeam message : String) : Drive Unit := do
  let run ← Routine.read
  let failure := run.runState.engineFailure
  let group := responsibleTeam defaultTeam failure
  let detail := failureDetail message failure
  let incident ← Routine.ofExcept (incidentRequest run group detail failure)
  -- nothing guards this: where it raises, the ticket is not closed either
  let opened ← issue .escalation (.openIncident incident)
  updateState fun state => { state with incidentId := some opened.ticketId }
  logDocumentationIncident defaultTeam group detail

/-- Close the requester's ticket, if there is one, with the policy's comment. -/
def closeByPolicy (kind : FailureKind) : Drive Unit := do
  let run ← Routine.read
  match run.runState.ticket with
  | none => return
  | some ticket =>
    let note := (policyFor kind).closeComment run.runState.incidentId
    issue .escalation (.closeTicket ticket note .unsuccessful)
    updateState fun state => { state with ticketClosed := true }

def escalateByPolicy (defaultTeam message : String) (kind : FailureKind) : Drive Unit := do
  log (.escalating (.stepFailure message kind))
  if (policyFor kind).openIncident then
    openByPolicy defaultTeam message
  closeByPolicy kind

def escalateUnclassified (defaultTeam : String) (error : PyException) : Drive Unit := do
  let run ← Routine.read
  let detail := error.typeName ++ ": " ++ error.message
  log (.escalating error)
  let incident ← Routine.ofExcept (incidentRequest run defaultTeam detail none)
  let opened ← issue .escalation (.openIncident incident)
  updateState fun state => { state with incidentId := some opened.ticketId }
  match run.runState.ticket with
  | none => return
  | some ticket =>
    issue .escalation (.annotateTicket ticket
      ("Incident " ++ opened.ticketId ++ " opened for failure: " ++ error.message))

/-- The resource a run configured and did not finalize. -/
def resourceInFlight (state : RunState) : Option ResourceSpec :=
  if state.resourceConfigured ∧ ¬ state.resourceFinalized then state.resource else none

/-- Delete a create's record; put an update's or delete's back to ready. -/
def releaseResource : Drive Unit := do
  let run ← Routine.read
  match resourceInFlight run.runState with
  | none => return
  | some resource =>
    let _ ← Routine.attempt <|
      if run.runState.operation = .create then
        issue .release (.deleteResource resource.projectId resource.resourceType
          resource.vendorId)
      else
        issue .release (.updateResource resource.projectId resource.resourceType
          resource.vendorId (resourceStateFields .ready))

def escalate (defaultTeam : String) (error : PyException) : Drive Unit := do
  let _ ← Routine.attempt <| match error with
    | .stepFailure message kind => escalateByPolicy defaultTeam message kind
    | error => escalateUnclassified defaultTeam error
  -- whatever became of the incident and the ticket
  releaseResource

def reject : Drive Unit :=
  releaseResource

end Escalator

end CloudioOrchestrator

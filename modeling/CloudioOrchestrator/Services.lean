import CloudioOrchestrator.Run

/-! # Triggering runs

How a request becomes a run: the checks of a trigger and the run it creates,
and the run created for a request in the legacy runner's own shape. A request
carries the bounds its schema enforces.
-/

namespace CloudioOrchestrator

/-- A registration: how a workflow's runs are built and routed. -/
structure Workflow where
  identifier : String
  name : Option String
  runType : RunType
  engineType : WorkflowEngineType
  automationId : String
  ticketTemplateId : String

structure TriggerRequest where
  createdBy : String
  maxRetries : Int := 3
  ticketParams : Json := "{}"
  workflowParams : Json := "{}"
  resource : Option ResourceSpec := none
  operation : ResourceOperation := .create
  ticket : Option TicketRef := none
  maxRetries_nonneg : 0 ≤ maxRetries := by decide
  maxRetries_le : maxRetries ≤ 10 := by decide

structure LegacyRunRequest where
  legacy : LegacyRequest
  createdBy : String
  maxRetries : Int := 3
  maxRetries_nonneg : 0 ≤ maxRetries := by decide
  maxRetries_le : maxRetries ≤ 10 := by decide

inductive TriggerError
  | unknownWorkflow
  | resourceParamsRequired
  | resourceVendorIdRequired
  | resourceIdRequired
  | ticketRefRequired
deriving DecidableEq, Repr

/-- The checks of a trigger on a resource workflow. -/
def checkResource (request : TriggerRequest) : Except TriggerError Unit :=
  match request.resource with
  | none => .error .resourceParamsRequired
  | some resource =>
    if request.operation ≠ .create ∧ resource.vendorId = "" then .error .resourceVendorIdRequired
    else if request.operation ≠ .create ∧ resource.resourceId = "" then .error .resourceIdRequired
    else .ok ()

def checkTrigger (runType : RunType) (request : TriggerRequest) : Except TriggerError Unit :=
  match runType with
  | .resource => checkResource request
  | .automation => if request.ticket.isNone then .error .ticketRefRequired else .ok ()
  | .legacy => .ok ()

/-- The run a trigger that passes its checks creates. -/
def triggered (now : Time) (runId : UUID) (workflow : Workflow) (request : TriggerRequest) :
    WorkflowRun where
  runId := runId
  runType := workflow.runType
  workflowIdentifier := workflow.identifier
  createdBy := request.createdBy
  maxRetries := request.maxRetries
  scheduledAt := some now
  runState := {
    workflow := {
      identifier := workflow.identifier
      name := workflow.name
      engineType := workflow.engineType
      automationId := workflow.automationId
      ticketTemplateId := workflow.ticketTemplateId }
    ticketParams := request.ticketParams
    workflowParams := request.workflowParams
    resource := if workflow.runType = .resource then request.resource else none
    operation := request.operation
    ticket := if workflow.runType = .automation then request.ticket else none }

/-- The run a trigger creates under a fresh id, given what its workflow
identifier is registered as. -/
def trigger (now : Time) (runId : UUID) (workflow : Option Workflow) (request : TriggerRequest) :
    Except TriggerError WorkflowRun :=
  match workflow with
  | none => .error .unknownWorkflow
  | some workflow =>
    match checkTrigger workflow.runType request with
    | .error error => .error error
    | .ok () => .ok (triggered now runId workflow request)

def triggerLegacy (now : Time) (runId : UUID) (request : LegacyRunRequest) : WorkflowRun where
  runId := runId
  runType := .legacy
  workflowIdentifier := request.legacy.flowType
  createdBy := request.createdBy
  maxRetries := request.maxRetries
  scheduledAt := some now
  runState := {
    workflow := {
      identifier := request.legacy.flowType
      name := none
      engineType := .legacy
      automationId := request.legacy.flowType
      ticketTemplateId := "" }
    legacy := some request.legacy }

/-- What every run is created as. -/
structure Newborn (run : WorkflowRun) : Prop where
  status : run.status = .pending
  currentStep : run.currentStep = none
  scheduled : run.scheduledAt.isSome
  version : run.version = 1
  maxRetries_nonneg : 0 ≤ run.maxRetries
  maxRetries_le : run.maxRetries ≤ 10
  markers : run.runState.engineRunId = none ∧ run.runState.resourceConfigured = false ∧
    run.runState.resourceFinalized = false ∧ run.runState.ticketClosed = false ∧
    run.runState.legacySubmitted = false ∧ run.runState.incidentId = none
  attempts : run.runState.stepAttempts = .empty
  stepResults : run.runState.stepResults = .empty
  engineFailure : run.runState.engineFailure = none
  /-- Only a resource run touches a resource, and it always has one. -/
  resource : run.runState.resource.isSome ↔ run.runType = .resource
  /-- Only an automation run is given its ticket, and it always is. -/
  ticket : run.runState.ticket.isSome ↔ run.runType = .automation

theorem checkTrigger_ok {runType : RunType} {request : TriggerRequest}
    (hcheck : checkTrigger runType request = .ok ()) :
    (runType = .resource → request.resource.isSome) ∧
      (runType = .automation → request.ticket.isSome) := by
  cases runType with
  | resource =>
      simp only [checkTrigger, checkResource] at hcheck
      cases hresource : request.resource with
      | none => simp [hresource] at hcheck
      | some resource => simp
  | automation =>
      cases hticket : request.ticket with
      | none => simp [checkTrigger, hticket] at hcheck
      | some ticket => simp
  | legacy => simp

theorem trigger_newborn {now : Time} {runId : UUID} {workflow : Option Workflow}
    {request : TriggerRequest} {run : WorkflowRun}
    (htrigger : trigger now runId workflow request = .ok run) :
    run.runId = runId ∧ Newborn run := by
  simp only [trigger] at htrigger
  split at htrigger
  next => cases htrigger
  next workflow =>
    split at htrigger
    next => cases htrigger
    next hcheck =>
      obtain ⟨hresource, hticket⟩ := checkTrigger_ok hcheck
      cases htrigger
      refine ⟨rfl, { status := rfl, currentStep := rfl, scheduled := rfl, version := rfl
                     maxRetries_nonneg := request.maxRetries_nonneg
                     maxRetries_le := request.maxRetries_le
                     markers := ⟨rfl, rfl, rfl, rfl, rfl, rfl⟩, attempts := rfl
                     stepResults := rfl, engineFailure := rfl, resource := ?_, ticket := ?_ }⟩
      · by_cases htype : workflow.runType = .resource <;> simp [triggered, htype, hresource]
      · by_cases htype : workflow.runType = .automation <;> simp [triggered, htype, hticket]

theorem triggerLegacy_newborn (now : Time) (runId : UUID) (request : LegacyRunRequest) :
    (triggerLegacy now runId request).runId = runId ∧ Newborn (triggerLegacy now runId request) :=
  ⟨rfl, { status := rfl, currentStep := rfl, scheduled := rfl, version := rfl
          maxRetries_nonneg := request.maxRetries_nonneg, maxRetries_le := request.maxRetries_le
          markers := ⟨rfl, rfl, rfl, rfl, rfl, rfl⟩, attempts := rfl, stepResults := rfl
          engineFailure := rfl
          resource := by simp [triggerLegacy], ticket := by simp [triggerLegacy] }⟩

/-! Workflows and requests to evaluate runs of. -/

def legacySample : LegacyRunRequest where
  legacy := { flowType := "vm", dbOperation := "create", name := "vm-1", region := "eu" }
  createdBy := "user"

def legacyOnceSample : LegacyRunRequest where
  legacy := legacySample.legacy
  createdBy := "user"
  maxRetries := 0

def resourceWorkflow : Workflow where
  identifier := "vm-create"
  name := none
  runType := .resource
  engineType := .airflow
  automationId := "vm_create"
  ticketTemplateId := "vm"

def automationWorkflow : Workflow where
  identifier := "vm-patch"
  name := none
  runType := .automation
  engineType := .airflow
  automationId := "vm_patch"
  ticketTemplateId := ""

def resourceSample : TriggerRequest where
  createdBy := "user"
  resource := some { projectId := "p", resourceType := "vm", name := "vm-1" }

def deletionSample : TriggerRequest where
  createdBy := "user"
  maxRetries := 0
  resource := some
    { projectId := "p", resourceType := "vm", vendorId := "vm-7", resourceId := "7",
      name := "vm-1" }
  operation := .delete

def automationSample : TriggerRequest where
  createdBy := "user"
  ticket := some ⟨"RITM0000001", "1"⟩

end CloudioOrchestrator

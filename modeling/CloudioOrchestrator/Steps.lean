import CloudioOrchestrator.Ports

/-! # Step handlers

What each step of a plan does on one wake-up. A handler reads the run and
writes its working state; it returns whether the step is complete and raises to
signal a failure.
-/

namespace CloudioOrchestrator

open Interaction

def finalVendorIdOutput : String := "final_vendor_id"

/-- Stable per run and step. -/
def idemKey (run : WorkflowRun) (step : StepName) : String :=
  run.runId.str ++ ":" ++ step.value

/-- The engine run id. Scoped to the attempt, so a retry triggers a fresh engine run. -/
def engineRunKey (run : WorkflowRun) : String :=
  run.runId.str ++ ":" ++ StepName.runEngine.value ++ ":" ++
    toString (run.runState.attempts .runEngine)

def inFlightStates : List ResourceState :=
  [.provisioning, .updating, .deleting]

/-- The state a requested operation puts its resource in until its run is over. -/
def operationStates : ResourceOperation → ResourceState
  | .create => .provisioning
  | .update => .updating
  | .delete => .deleting

/-- The state and the flag derived from it, which every state change writes together. -/
def resourceStateFields (state : ResourceState) : ResourceFields where
  state := state
  inProgress := state ∈ inFlightStates

/-- A computation of a handler: provider calls over the run's working state. -/
abbrev Handling := Routine Providers PyException RunState

/-- Make a provider call; what the adapter raises, the handler raises. -/
def request (call : Call) : Handling call.Result := do
  let answer ← Routine.ask (S := Providers) call
  Routine.ofExcept (answer.mapError ProviderError.toException)

structure StepHandler where
  pollInterval : Time := seconds 15
  maxStepDuration : Time := seconds 3600
  execute : WorkflowRun → Handling Bool
  resetForRetry : RunState → RunState := id

def createTicketExecute (run : WorkflowRun) : Handling Bool := do
  let state ← Routine.read
  if state.ticket.isSome then return true
  let ticket ← request (.openTicket state.workflow.ticketTemplateId state.ticketParams
    run.createdBy (idemKey run .createTicket))
  Routine.update fun state => { state with ticket := some ticket }
  return true

def createTicketStep : StepHandler where
  execute := createTicketExecute

/-- Register the request on its resource: a create makes the record, under the
run id; an update or delete only marks the record that exists. -/
def configureResourceExecute (run : WorkflowRun) : Handling Bool := do
  let state ← Routine.read
  if state.resourceConfigured then return true
  match state.resource with
  | none => Routine.raise .assertionError
  | some resource =>
    let fields := resourceStateFields (operationStates state.operation)
    if state.operation = .create then
      -- the record is named after the run before the call that may raise
      let resource := { resource with vendorId := run.runId.str }
      Routine.update fun state => { state with resource := some resource }
      let resourceId ← request (.createResource resource.projectId resource.resourceType
        { vendorId := resource.vendorId, desired := resource.desired, state := fields.state
          inProgress := fields.inProgress, lastModifiedBy := run.createdBy }
        (idemKey run .configureResource))
      match resourceId with
      | some assigned =>
        if assigned ≠ "" then
          Routine.update fun state =>
            { state with resource := some { resource with resourceId := assigned } }
      | none => pure ()
    else
      request (.updateResource resource.projectId resource.resourceType resource.vendorId fields)
    Routine.update fun state => { state with resourceConfigured := true }
    return true

def configureResourceStep : StepHandler where
  execute := configureResourceExecute

def awaitApprovalExecute (_run : WorkflowRun) : Handling Bool := do
  let state ← Routine.read
  match state.ticket with
  | none => Routine.raise .assertionError
  | some ticket =>
    match ← request (.getApprovalStatus ticket) with
    | .approved => return true
    | .rejected => Routine.raise (.runRejected s!"Ticket {ticket.ticketId} was rejected.")
    | .pending => return false

def awaitApprovalStep : StepHandler where
  pollInterval := seconds 30
  maxStepDuration := seconds (7 * 24 * 3600)
  execute := awaitApprovalExecute

def validateResourceExecute (_run : WorkflowRun) : Handling Bool := do
  let state ← Routine.read
  match state.resource with
  | none => Routine.raise .assertionError
  | some resource =>
    let result ← request (.validateResource
      { projectId := resource.projectId, resourceType := resource.resourceType
        name := resource.name, operation := state.operation
        workflowIdentifier := state.workflow.identifier, params := state.workflowParams
        region := resource.region, environment := resource.environment })
    if result.eligible then return true
    let reason := match result.reason with
      | some reason => if reason = "" then "no reason given" else reason
      | none => "no reason given"
    Routine.raise (.stepFailure
      s!"Validation refused the {state.operation.value} of resource '{resource.name}': {reason}"
      .infraPrecheck)

def validateResourceStep : StepHandler where
  execute := validateResourceExecute

/-- Record the vendor id the engine published, if it did; a read that fails is let pass. -/
def captureFinalVendorId : Handling Unit := do
  let state ← Routine.read
  match state.resource, state.engineRunId with
  | some _, some engineRunId =>
    let output ← Routine.attempt <| request (.getOutput state.workflow.engineType
      state.workflow.automationId engineRunId finalVendorIdOutput)
    match output with
    | .ok (some finalVendorId) =>
      Routine.update fun state =>
        { state with stepResults := state.stepResults.set .runEngine ⟨some finalVendorId⟩ }
    | .ok none | .error _ => pure ()
  | _, _ => pure ()

/-- Trigger the engine once per attempt, then poll the run it answered with. -/
def runEngineExecute (engines : List WorkflowEngineType) (run : WorkflowRun) : Handling Bool := do
  let state ← Routine.read
  let engine := state.workflow.engineType
  let automationId := state.workflow.automationId
  if engine ∉ engines then Routine.raise (.keyError engine.repr)
  match state.engineRunId with
  | none =>
    let engineRunId ← request (.triggerWorkflow engine automationId state.workflowParams
      (engineRunKey { run with runState := state }))
    Routine.update fun state => { state with engineRunId := some engineRunId }
    return false
  | some engineRunId =>
    match ← request (.queryRunStatus engine automationId engineRunId) with
    | .success =>
      captureFinalVendorId
      return true
    -- the failure stands whether or not its reasons can be read
    | .failed =>
      match ← Routine.attempt (request (.getFailure engine automationId engineRunId)) with
      | .ok failure => Routine.update fun state => { state with engineFailure := some failure }
      | .error _ => pure ()
      let state ← Routine.read
      let kind := (state.engineFailure.map EngineFailure.kind).getD .task
      Routine.raise (.stepFailure s!"Engine run {engineRunId} of '{automationId}' failed." kind)
    | .inProgress => return false

def runEngineReset (state : RunState) : RunState :=
  { state with
    engineRunId := none
    engineFailure := none
    stepResults := state.stepResults.pop .runEngine }

def runEngineStep (engines : List WorkflowEngineType) : StepHandler where
  execute := runEngineExecute engines
  resetForRetry := runEngineReset

/-- The id the engine provisioned under, when it differs from the record's. -/
def rekeyTo (state : RunState) (resource : ResourceSpec) : Option String :=
  match (state.stepResults .runEngine).bind StepResult.finalVendorId with
  | some engineVendorId =>
    if engineVendorId ≠ "" ∧ engineVendorId ≠ resource.vendorId then some engineVendorId else none
  | none => none

/-- What to write for a create or update that the engine completed. -/
def finalizeFields (run : WorkflowRun) (state : RunState) (resource : ResourceSpec) :
    ResourceFields :=
  let ready := resourceStateFields .ready
  let fields := if state.operation = .update then
    { ready with desired := some resource.desired, lastModifiedBy := some run.createdBy } else ready
  { fields with vendorId := rekeyTo state resource }

/-- Mark the record deleted, then delete it; a record that is gone was deleted before. -/
def finalizeDelete (resource : ResourceSpec) : Handling Unit := do
  let marked ← Routine.attempt <| request (.updateResource resource.projectId
    resource.resourceType resource.vendorId (resourceStateFields .deleted))
  match marked with
  -- an earlier attempt got as far as the delete
  | .ok () | .error (.resourceNotFound _) => pure ()
  | .error error => Routine.raise error
  request (.deleteResource resource.projectId resource.resourceType resource.vendorId)

def finalizeResourceExecute (run : WorkflowRun) : Handling Bool := do
  let state ← Routine.read
  match state.resource with
  | none => return true
  | some resource =>
    if state.resourceFinalized then return true
    if state.operation = .delete then
      finalizeDelete resource
    else
      let fields := finalizeFields run state resource
      request (.updateResource resource.projectId resource.resourceType resource.vendorId fields)
      match fields.vendorId with
      | some vendorId =>
        Routine.update fun state =>
          { state with resource := some { resource with vendorId := vendorId } }
      | none => pure ()
    -- set only once every call has returned
    Routine.update fun state => { state with resourceFinalized := true }
    return true

def finalizeResourceStep : StepHandler where
  execute := finalizeResourceExecute

def submitLegacyExecute (run : WorkflowRun) : Handling Bool := do
  let state ← Routine.read
  if state.legacySubmitted then return true
  match state.legacy with
  | none => Routine.raise .assertionError
  | some legacy =>
    let reference ← request (.submit legacy (idemKey run .submitLegacy))
    Routine.update fun state =>
      { state with legacyReference := reference, legacySubmitted := true }
    return true

def submitLegacyStep : StepHandler where
  execute := submitLegacyExecute

def closeTicketExecute (_run : WorkflowRun) : Handling Bool := do
  let state ← Routine.read
  if state.ticketClosed then return true
  match state.ticket with
  | none => Routine.raise .assertionError
  | some ticket =>
    let note := if state.resource.isSome then
      s!"Resource {state.operation.value} completed; request closed."
      else "CloudIO automation completed."
    request (.closeTicket ticket note .successful)
    Routine.update fun state => { state with ticketClosed := true }
    return true

def closeTicketStep : StepHandler where
  execute := closeTicketExecute

end CloudioOrchestrator

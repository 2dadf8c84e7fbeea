import CloudioOrchestrator.Walk
import CloudioOrchestrator.Plans

/-! # What the step handlers do

The calls each handler may make, and how each can end: with which exchanges,
which outcome and which working state. The results about runs use these
specifications and never open a handler again.
-/

namespace CloudioOrchestrator

open Interaction

variable (engines : List WorkflowEngineType) (run : WorkflowRun) (state : RunState)

/-- The query that asks after an engine run. -/
def engineQuery (engineRunId : String) : Call :=
  .queryRunStatus state.workflow.engineType state.workflow.automationId engineRunId

/-- The trigger of the run's current attempt. -/
def engineTrigger : Call :=
  .triggerWorkflow state.workflow.engineType state.workflow.automationId state.workflowParams
    (engineRunKey { run with runState := state })

def engineFailureCall (engineRunId : String) : Call :=
  .getFailure state.workflow.engineType state.workflow.automationId engineRunId

def engineOutputCall (engineRunId : String) : Call :=
  .getOutput state.workflow.engineType state.workflow.automationId engineRunId finalVendorIdOutput

def openTicketCall : Call :=
  .openTicket state.workflow.ticketTemplateId state.ticketParams run.createdBy
    (idemKey run .createTicket)

/-- The resource as a create configures it, under the run id. -/
def placeholder (resource : ResourceSpec) : ResourceSpec :=
  { resource with vendorId := run.runId.str }

def createResourceCall (resource : ResourceSpec) : Call :=
  .createResource resource.projectId resource.resourceType
    { vendorId := run.runId.str, desired := resource.desired
      state := (resourceStateFields (operationStates state.operation)).state
      inProgress := (resourceStateFields (operationStates state.operation)).inProgress
      lastModifiedBy := run.createdBy }
    (idemKey run .configureResource)

/-- A write to the record a resource names. -/
def patchCall (resource : ResourceSpec) (fields : ResourceFields) : Call :=
  .updateResource resource.projectId resource.resourceType resource.vendorId fields

def deleteCall (resource : ResourceSpec) : Call :=
  .deleteResource resource.projectId resource.resourceType resource.vendorId

def validateCall (resource : ResourceSpec) : Call :=
  .validateResource
    { projectId := resource.projectId, resourceType := resource.resourceType
      name := resource.name, operation := state.operation
      workflowIdentifier := state.workflow.identifier, params := state.workflowParams
      region := resource.region, environment := resource.environment }

def closingNote : String :=
  if state.resource.isSome then s!"Resource {state.operation.value} completed; request closed."
  else "CloudIO automation completed."

/-- The calls a step's handler may make. -/
inductive HandlerCall : StepName → Call → Prop
  | openTicket (hticket : state.ticket = none) :
      HandlerCall .createTicket (openTicketCall run state)
  | createResource {resource : ResourceSpec} (hnew : state.resourceConfigured = false)
      (hresource : state.resource = some resource) (hcreate : state.operation = .create) :
      HandlerCall .configureResource (createResourceCall run state resource)
  | markResource {resource : ResourceSpec} (hnew : state.resourceConfigured = false)
      (hresource : state.resource = some resource) (hexisting : state.operation ≠ .create) :
      HandlerCall .configureResource
        (patchCall resource (resourceStateFields (operationStates state.operation)))
  | getApproval {ticket : TicketRef} (hticket : state.ticket = some ticket) :
      HandlerCall .awaitApproval (.getApprovalStatus ticket)
  | validate {resource : ResourceSpec} (hresource : state.resource = some resource) :
      HandlerCall .validateResource (validateCall state resource)
  | trigger (hnone : state.engineRunId = none) : HandlerCall .runEngine (engineTrigger run state)
  | query {engineRunId : String} (hid : state.engineRunId = some engineRunId) :
      HandlerCall .runEngine (engineQuery state engineRunId)
  | failure {engineRunId : String} (hid : state.engineRunId = some engineRunId) :
      HandlerCall .runEngine (engineFailureCall state engineRunId)
  | output {engineRunId : String} (hid : state.engineRunId = some engineRunId) :
      HandlerCall .runEngine (engineOutputCall state engineRunId)
  | finalize {resource : ResourceSpec} (hresource : state.resource = some resource)
      (hnew : state.resourceFinalized = false) (hkept : state.operation ≠ .delete) :
      HandlerCall .finalizeResource (patchCall resource (finalizeFields run state resource))
  | markDeleted {resource : ResourceSpec} (hresource : state.resource = some resource)
      (hnew : state.resourceFinalized = false) (hdelete : state.operation = .delete) :
      HandlerCall .finalizeResource (patchCall resource (resourceStateFields .deleted))
  | delete {resource : ResourceSpec} (hresource : state.resource = some resource)
      (hnew : state.resourceFinalized = false) (hdelete : state.operation = .delete) :
      HandlerCall .finalizeResource (deleteCall resource)
  | close {ticket : TicketRef} (hopen : state.ticketClosed = false)
      (hticket : state.ticket = some ticket) :
      HandlerCall .closeTicket (.closeTicket ticket (closingNote state) .successful)
  | submit {legacy : LegacyRequest} (hnew : state.legacySubmitted = false)
      (hlegacy : state.legacy = some legacy) :
      HandlerCall .submitLegacy (.submit legacy (idemKey run .submitLegacy))

/-- The resource as the provider's answer to its creation leaves it. -/
def assigned (resource : ResourceSpec) : Option String → ResourceSpec
  | some resourceId =>
      if resourceId ≠ "" then { placeholder run resource with resourceId := resourceId }
      else placeholder run resource
  | none => placeholder run resource

/-- The working state with the vendor id the engine published, if it did. -/
def captured : Except ProviderError (Option String) → RunState
  | .ok (some finalVendorId) =>
      { state with stepResults := state.stepResults.set .runEngine ⟨some finalVendorId⟩ }
  | _ => state

/-- The working state with the engine's account of its failure, if it gave one. -/
def explained : Except ProviderError EngineFailure → RunState
  | .ok failure => { state with engineFailure := some failure }
  | .error _ => state

/-- The failure a run of the engine that failed is raised as. -/
def engineStepFailure (engineRunId : String) : PyException :=
  .stepFailure s!"Engine run {engineRunId} of '{state.workflow.automationId}' failed."
    ((state.engineFailure.map EngineFailure.kind).getD .task)

/-- The working state once the record is finalized, under the id it now has. -/
def finalized (resource : ResourceSpec) : RunState :=
  { state with
    resource := match rekeyTo state resource with
      | some vendorId => some { resource with vendorId := vendorId }
      | none => some resource
    resourceFinalized := true }

/-- How marking a record deleted may end without stopping its deletion. -/
def Tolerated : Except ProviderError Unit → Prop
  | .ok () | .error (.resourceNotFound _) => True
  | .error (.other _ _) => False

/-- How a step's handler can end: its exchanges, newest first, its outcome, and
the working state it leaves. -/
inductive HandlerEnd : StepName → Trace Providers → Except PyException Bool → RunState → Prop
  | ticketKnown (hticket : state.ticket.isSome) : HandlerEnd .createTicket [] (.ok true) state
  | ticketOpened (ticket : TicketRef) (hticket : state.ticket = none) :
      HandlerEnd .createTicket [⟨openTicketCall run state, .ok ticket⟩] (.ok true)
        { state with ticket := some ticket }
  | ticketRefused (error : ProviderError) (hticket : state.ticket = none) :
      HandlerEnd .createTicket [⟨openTicketCall run state, .error error⟩]
        (.error error.toException) state
  | configured (hdone : state.resourceConfigured = true) :
      HandlerEnd .configureResource [] (.ok true) state
  | nothingToConfigure (hnew : state.resourceConfigured = false)
      (hresource : state.resource = none) :
      HandlerEnd .configureResource [] (.error .assertionError) state
  | resourceCreated {resource : ResourceSpec} (resourceId : Option String)
      (hnew : state.resourceConfigured = false) (hresource : state.resource = some resource)
      (hcreate : state.operation = .create) :
      HandlerEnd .configureResource [⟨createResourceCall run state resource, .ok resourceId⟩]
        (.ok true)
        { state with
          resource := some (assigned run resource resourceId), resourceConfigured := true }
  | createRefused {resource : ResourceSpec} (error : ProviderError)
      (hnew : state.resourceConfigured = false) (hresource : state.resource = some resource)
      (hcreate : state.operation = .create) :
      HandlerEnd .configureResource [⟨createResourceCall run state resource, .error error⟩]
        (.error error.toException) { state with resource := some (placeholder run resource) }
  | resourceMarked {resource : ResourceSpec} (hnew : state.resourceConfigured = false)
      (hresource : state.resource = some resource) (hexisting : state.operation ≠ .create) :
      HandlerEnd .configureResource
        [⟨patchCall resource (resourceStateFields (operationStates state.operation)), .ok ()⟩]
        (.ok true) { state with resourceConfigured := true }
  | markRefused {resource : ResourceSpec} (error : ProviderError)
      (hnew : state.resourceConfigured = false) (hresource : state.resource = some resource)
      (hexisting : state.operation ≠ .create) :
      HandlerEnd .configureResource
        [⟨patchCall resource (resourceStateFields (operationStates state.operation)),
          .error error⟩] (.error error.toException) state
  | noTicket (hticket : state.ticket = none) :
      HandlerEnd .awaitApproval [] (.error .assertionError) state
  | approved {ticket : TicketRef} (hticket : state.ticket = some ticket) :
      HandlerEnd .awaitApproval [⟨.getApprovalStatus ticket, .ok .approved⟩] (.ok true) state
  | rejected {ticket : TicketRef} (hticket : state.ticket = some ticket) :
      HandlerEnd .awaitApproval [⟨.getApprovalStatus ticket, .ok .rejected⟩]
        (.error (.runRejected s!"Ticket {ticket.ticketId} was rejected.")) state
  | undecided {ticket : TicketRef} (hticket : state.ticket = some ticket) :
      HandlerEnd .awaitApproval [⟨.getApprovalStatus ticket, .ok .pending⟩] (.ok false) state
  | approvalUnknown {ticket : TicketRef} (error : ProviderError)
      (hticket : state.ticket = some ticket) :
      HandlerEnd .awaitApproval [⟨.getApprovalStatus ticket, .error error⟩]
        (.error error.toException) state
  | nothingToValidate (hresource : state.resource = none) :
      HandlerEnd .validateResource [] (.error .assertionError) state
  | eligible {resource : ResourceSpec} {result : ResourceValidationResult}
      (hresource : state.resource = some resource) (heligible : result.eligible = true) :
      HandlerEnd .validateResource [⟨validateCall state resource, .ok result⟩] (.ok true) state
  | ineligible {resource : ResourceSpec} {result : ResourceValidationResult} (message : String)
      (hresource : state.resource = some resource) (heligible : result.eligible = false) :
      HandlerEnd .validateResource [⟨validateCall state resource, .ok result⟩]
        (.error (.stepFailure message .infraPrecheck)) state
  | validationRaised {resource : ResourceSpec} (error : ProviderError)
      (hresource : state.resource = some resource) :
      HandlerEnd .validateResource [⟨validateCall state resource, .error error⟩]
        (.error error.toException) state
  | unknownEngine (hengine : state.workflow.engineType ∉ engines) :
      HandlerEnd .runEngine [] (.error (.keyError state.workflow.engineType.repr)) state
  | triggered (engineRunId : String) (hnone : state.engineRunId = none) :
      HandlerEnd .runEngine [⟨engineTrigger run state, .ok engineRunId⟩] (.ok false)
        { state with engineRunId := some engineRunId }
  | triggerRaised (error : ProviderError) (hnone : state.engineRunId = none) :
      HandlerEnd .runEngine [⟨engineTrigger run state, .error error⟩]
        (.error error.toException) state
  | inProgress {engineRunId : String} (hid : state.engineRunId = some engineRunId) :
      HandlerEnd .runEngine [⟨engineQuery state engineRunId, .ok .inProgress⟩] (.ok false) state
  | queryRaised {engineRunId : String} (error : ProviderError)
      (hid : state.engineRunId = some engineRunId) :
      HandlerEnd .runEngine [⟨engineQuery state engineRunId, .error error⟩]
        (.error error.toException) state
  | succeeded {engineRunId : String} (hid : state.engineRunId = some engineRunId)
      (hresource : state.resource = none) :
      HandlerEnd .runEngine [⟨engineQuery state engineRunId, .ok .success⟩] (.ok true) state
  | succeededWith {engineRunId : String} {resource : ResourceSpec}
      (output : Except ProviderError (Option String)) (hid : state.engineRunId = some engineRunId)
      (hresource : state.resource = some resource) :
      HandlerEnd .runEngine [⟨engineOutputCall state engineRunId, output⟩,
        ⟨engineQuery state engineRunId, .ok .success⟩] (.ok true) (captured state output)
  | engineFailed {engineRunId : String} (failure : Except ProviderError EngineFailure)
      (hid : state.engineRunId = some engineRunId) :
      HandlerEnd .runEngine [⟨engineFailureCall state engineRunId, failure⟩,
        ⟨engineQuery state engineRunId, .ok .failed⟩]
        (.error (engineStepFailure (explained state failure) engineRunId)) (explained state failure)
  | nothingToFinalize (hresource : state.resource = none) :
      HandlerEnd .finalizeResource [] (.ok true) state
  | alreadyFinalized (hdone : state.resourceFinalized = true) :
      HandlerEnd .finalizeResource [] (.ok true) state
  | written {resource : ResourceSpec} (hresource : state.resource = some resource)
      (hnew : state.resourceFinalized = false) (hkept : state.operation ≠ .delete) :
      HandlerEnd .finalizeResource
        [⟨patchCall resource (finalizeFields run state resource), .ok ()⟩] (.ok true)
        (finalized state resource)
  | writeRaised {resource : ResourceSpec} (error : ProviderError)
      (hresource : state.resource = some resource) (hnew : state.resourceFinalized = false)
      (hkept : state.operation ≠ .delete) :
      HandlerEnd .finalizeResource
        [⟨patchCall resource (finalizeFields run state resource), .error error⟩]
        (.error error.toException) state
  | deletionRefused {resource : ResourceSpec} (error : ProviderError)
      (hresource : state.resource = some resource) (hnew : state.resourceFinalized = false)
      (hdelete : state.operation = .delete) (herror : ¬ Tolerated (.error error)) :
      HandlerEnd .finalizeResource
        [⟨patchCall resource (resourceStateFields .deleted), .error error⟩]
        (.error error.toException) state
  | deleted {resource : ResourceSpec} (marked : Except ProviderError Unit)
      (hresource : state.resource = some resource) (hnew : state.resourceFinalized = false)
      (hdelete : state.operation = .delete) (hmarked : Tolerated marked) :
      HandlerEnd .finalizeResource [⟨deleteCall resource, .ok ()⟩,
        ⟨patchCall resource (resourceStateFields .deleted), marked⟩] (.ok true)
        { state with resourceFinalized := true }
  | deleteRaised {resource : ResourceSpec} (marked : Except ProviderError Unit)
      (error : ProviderError) (hresource : state.resource = some resource)
      (hnew : state.resourceFinalized = false) (hdelete : state.operation = .delete)
      (hmarked : Tolerated marked) :
      HandlerEnd .finalizeResource [⟨deleteCall resource, .error error⟩,
        ⟨patchCall resource (resourceStateFields .deleted), marked⟩]
          (.error error.toException) state
  | alreadyClosed (hclosed : state.ticketClosed = true) :
      HandlerEnd .closeTicket [] (.ok true) state
  | nothingToClose (hopen : state.ticketClosed = false) (hticket : state.ticket = none) :
      HandlerEnd .closeTicket [] (.error .assertionError) state
  | closed {ticket : TicketRef} (hopen : state.ticketClosed = false)
      (hticket : state.ticket = some ticket) :
      HandlerEnd .closeTicket [⟨.closeTicket ticket (closingNote state) .successful, .ok ()⟩]
        (.ok true) { state with ticketClosed := true }
  | closeRaised {ticket : TicketRef} (error : ProviderError) (hopen : state.ticketClosed = false)
      (hticket : state.ticket = some ticket) :
      HandlerEnd .closeTicket [⟨.closeTicket ticket (closingNote state) .successful, .error error⟩]
        (.error error.toException) state
  | submitted (hdone : state.legacySubmitted = true) : HandlerEnd .submitLegacy [] (.ok true) state
  | nothingToSubmit (hnew : state.legacySubmitted = false) (hlegacy : state.legacy = none) :
      HandlerEnd .submitLegacy [] (.error .assertionError) state
  | handedOver {legacy : LegacyRequest} (reference : Option String)
      (hnew : state.legacySubmitted = false) (hlegacy : state.legacy = some legacy) :
      HandlerEnd .submitLegacy [⟨.submit legacy (idemKey run .submitLegacy), .ok reference⟩]
        (.ok true) { state with legacyReference := reference, legacySubmitted := true }
  | handoverRaised {legacy : LegacyRequest} (error : ProviderError)
      (hnew : state.legacySubmitted = false) (hlegacy : state.legacy = some legacy) :
      HandlerEnd .submitLegacy [⟨.submit legacy (idemKey run .submitLegacy), .error error⟩]
        (.error error.toException) state

section Consequences

variable {engines run state} {step : StepName} {trace : Trace Providers}
  {ended : Except PyException Bool} {final : RunState}

/-- No handler touches the request of its run. -/
theorem HandlerEnd.sameRequest (hend : HandlerEnd engines run state step trace ended final) :
    state.SameRequest final := by
  cases hend with
  | resourceCreated resourceId hnew hresource hcreate =>
      have hanonymous : ∀ resource : ResourceSpec, (assigned run resource resourceId).anonymous =
          resource.anonymous := by
        intro resource
        unfold assigned
        split
        · split <;> rfl
        · rfl
      simp [RunState.SameRequest, hresource, hanonymous]
  | createRefused error hnew hresource hcreate =>
      simp [RunState.SameRequest, hresource, placeholder, ResourceSpec.anonymous]
  | succeededWith output hid hresource =>
      unfold captured
      split <;> simp [RunState.SameRequest]
  | engineFailed failure hid => cases failure <;> simp [RunState.SameRequest, explained]
  | written hresource hnew hkept =>
      unfold finalized
      split <;> simp [RunState.SameRequest, hresource, ResourceSpec.anonymous]
  | _ => simp [RunState.SameRequest]

/-- Only the executor counts attempts. -/
theorem HandlerEnd.stepAttempts (hend : HandlerEnd engines run state step trace ended final) :
    final.stepAttempts = state.stepAttempts := by
  cases hend with
  | succeededWith output hid hresource =>
      unfold captured
      split <;> rfl
  | engineFailed failure hid => cases failure <;> rfl
  | _ => rfl

/-- Only the engine's step has something to reset before it is retried. -/
theorem resetForRetry_eq {handler : StepHandler}
    (hhandler : buildHandlers engines step = some handler) :
    handler.resetForRetry = if step = .runEngine then runEngineReset else id := by
  cases step <;> cases hhandler <;> rfl

/-- A retry starts from the request as it was. -/
theorem retryState_sameRequest {handler : StepHandler}
    (hhandler : buildHandlers engines step = some handler) :
    state.SameRequest (Executor.retryState handler (Executor.countAttempt step state)) := by
  simp only [Executor.retryState, resetForRetry_eq hhandler]
  split <;> exact .refl _

end Consequences

section Specifications

instance (call : Call) : Nonempty call.Answer := ⟨.error (.other "" "")⟩

variable {engines run state}

/-- The discipline of a step's handler on its own: it makes only the step's calls. -/
abbrev handling (run : WorkflowRun) (state : RunState) (step : StepName) :
    Discipline (openService Providers UUID) :=
  tracing UUID fun _ call => HandlerCall run state step call

variable {client : Client UUID} {step : StepName} {trace : Trace Providers} {object : RunState}

theorem wp_request {call : Call}
    {post : Except PyException call.Result → RunState → Trace Providers → Prop}
    (hcall : HandlerCall run state step call)
    (hpost : ∀ answer : call.Answer, post (answer.mapError ProviderError.toException) object
      (⟨call, answer⟩ :: trace)) :
    (handling run state step).wp client (request call) post object trace := by
  simp only [request, Discipline.wp_bind, Discipline.wp_ofExcept]
  exact safe_tracing_call (fun _ => hcall) fun answer _ => hpost answer

theorem createTicket_spec : (handling run state .createTicket).wp client (createTicketExecute run)
    (fun ended final trace => HandlerEnd engines run state .createTicket trace ended final)
    state [] := by
  simp only [createTicketExecute, Discipline.wp_bind, Discipline.wp_read]
  split
  next hticket => exact .ticketKnown hticket
  next hticket =>
    have hnone : state.ticket = none := by simpa using hticket
    simp only [Discipline.wp_bind]
    refine wp_request (.openTicket hnone) ?_
    rintro (error | ticket)
    · exact .ticketRefused error hnone
    · exact .ticketOpened ticket hnone

theorem configureResource_spec : (handling run state .configureResource).wp client
    (configureResourceExecute run)
    (fun ended final trace => HandlerEnd engines run state .configureResource trace ended final)
    state [] := by
  simp only [configureResourceExecute, Discipline.wp_bind, Discipline.wp_read]
  split
  next hdone => exact .configured hdone
  next hdone =>
    have hnew : state.resourceConfigured = false := by simpa using hdone
    split
    next hresource => exact .nothingToConfigure hnew hresource
    next resource hresource =>
      split
      next hcreate =>
        simp only [Discipline.wp_bind, Discipline.wp_update]
        refine wp_request (.createResource hnew hresource hcreate) ?_
        rintro (error | _ | resourceId)
        · exact .createRefused error hnew hresource hcreate
        · exact .resourceCreated none hnew hresource hcreate
        · have hend := @HandlerEnd.resourceCreated engines run state resource (some resourceId)
            hnew hresource hcreate
          simp only [assigned] at hend
          simp only [Except.mapError]
          split
          next hassigned => 
            rw [if_pos hassigned] at hend
            exact hend
          next hassigned =>
            rw [if_neg hassigned] at hend
            exact hend
      next hexisting =>
        simp only [Discipline.wp_bind, Discipline.wp_update]
        refine wp_request (.markResource hnew hresource hexisting) ?_
        rintro (error | _)
        · exact .markRefused error hnew hresource hexisting
        · exact .resourceMarked hnew hresource hexisting

theorem awaitApproval_spec : (handling run state .awaitApproval).wp client
    (awaitApprovalExecute run)
    (fun ended final trace => HandlerEnd engines run state .awaitApproval trace ended final)
    state [] := by
  simp only [awaitApprovalExecute, Discipline.wp_bind, Discipline.wp_read]
  split
  next hticket => exact .noTicket hticket
  next ticket hticket =>
    simp only [Discipline.wp_bind]
    refine wp_request (.getApproval hticket) ?_
    rintro (error | _ | _ | _)
    · exact .approvalUnknown error hticket
    · exact .undecided hticket
    · exact .approved hticket
    · exact .rejected hticket

theorem validateResource_spec : (handling run state .validateResource).wp client
    (validateResourceExecute run)
    (fun ended final trace => HandlerEnd engines run state .validateResource trace ended final)
    state [] := by
  simp only [validateResourceExecute, Discipline.wp_bind, Discipline.wp_read]
  split
  next hresource => exact .nothingToValidate hresource
  next resource hresource =>
    simp only [Discipline.wp_bind]
    refine wp_request (.validate hresource) ?_
    rintro (error | result)
    · exact .validationRaised error hresource
    · simp only [Except.mapError]
      split
      next heligible => exact .eligible hresource heligible
      next heligible =>
        exact .ineligible _ hresource (by simpa using heligible)

/-- The deletion itself, once the record is marked or found missing. -/
theorem wp_deleteResource (engines : List WorkflowEngineType) {resource : ResourceSpec}
    (marked : Except ProviderError Unit)
    (hresource : state.resource = some resource) (hnew : state.resourceFinalized = false)
    (hdelete : state.operation = .delete) (hmarked : Tolerated marked) :
    (handling run state .finalizeResource).wp client (request (deleteCall resource))
      (fun ended object trace => match ended with
        | .ok _ => HandlerEnd engines run state .finalizeResource trace (.ok true)
            { object with resourceFinalized := true }
        | .error error =>
            HandlerEnd engines run state .finalizeResource trace (.error error) object)
      state [⟨patchCall resource (resourceStateFields .deleted), marked⟩] := by
  refine wp_request (.delete hresource hnew hdelete) ?_
  rintro (error | _)
  · exact .deleteRaised marked error hresource hnew hdelete hmarked
  · exact .deleted marked hresource hnew hdelete hmarked

theorem finalizeResource_spec : (handling run state .finalizeResource).wp client
    (finalizeResourceExecute run)
    (fun ended final trace => HandlerEnd engines run state .finalizeResource trace ended final)
    state [] := by
  simp only [finalizeResourceExecute, Discipline.wp_bind, Discipline.wp_read]
  split
  next hresource => exact .nothingToFinalize hresource
  next resource hresource =>
    split
    next hdone => exact .alreadyFinalized hdone
    next hdone =>
      have hnew : state.resourceFinalized = false := by simpa using hdone
      split
      next hdelete =>
        simp only [finalizeDelete, Discipline.wp_bind, Discipline.wp_attempt, Discipline.wp_update,
          Discipline.wp_pure]
        refine wp_request (.markDeleted hresource hnew hdelete) ?_
        rintro ((message | ⟨name, message⟩) | _)
        · refine Discipline.wp_mono (wp_deleteResource engines (.error (.resourceNotFound message))
            hresource hnew hdelete trivial) ?_
          rintro (error | _) object trace hend <;> exact hend
        · exact .deletionRefused _ hresource hnew hdelete (by simp [Tolerated])
        · refine Discipline.wp_mono (wp_deleteResource engines (.ok ()) hresource hnew hdelete
            trivial) ?_
          rintro (error | _) object trace hend <;> exact hend
      next hkept =>
        simp only [Discipline.wp_bind]
        refine wp_request (.finalize hresource hnew hkept) ?_
        rintro (error | _)
        · exact .writeRaised error hresource hnew hkept
        · have hend := @HandlerEnd.written engines run state resource hresource hnew hkept
          have hrekey : (finalizeFields run state resource).vendorId = rekeyTo state resource := rfl
          simp only [Except.mapError, hrekey]
          simp only [finalized] at hend
          split
          next vendorId hvendor =>
            rw [hvendor] at hend
            exact hend
          next hvendor =>
            rw [hvendor, ← hresource] at hend
            exact hend

theorem closeTicket_spec : (handling run state .closeTicket).wp client (closeTicketExecute run)
    (fun ended final trace => HandlerEnd engines run state .closeTicket trace ended final)
    state [] := by
  simp only [closeTicketExecute, Discipline.wp_bind, Discipline.wp_read]
  split
  next hclosed => exact .alreadyClosed hclosed
  next hclosed =>
    have hopen : state.ticketClosed = false := by simpa using hclosed
    split
    next hticket => exact .nothingToClose hopen hticket
    next ticket hticket =>
      simp only [Discipline.wp_bind]
      refine wp_request (.close hopen hticket) ?_
      rintro (error | _)
      · exact .closeRaised error hopen hticket
      · exact .closed hopen hticket

theorem submitLegacy_spec : (handling run state .submitLegacy).wp client (submitLegacyExecute run)
    (fun ended final trace => HandlerEnd engines run state .submitLegacy trace ended final)
    state [] := by
  simp only [submitLegacyExecute, Discipline.wp_bind, Discipline.wp_read]
  split
  next hdone => exact .submitted hdone
  next hdone =>
    have hnew : state.legacySubmitted = false := by simpa using hdone
    split
    next hlegacy => exact .nothingToSubmit hnew hlegacy
    next legacy hlegacy =>
      simp only [Discipline.wp_bind]
      refine wp_request (.submit hnew hlegacy) ?_
      rintro (error | reference)
      · exact .handoverRaised error hnew hlegacy
      · exact .handedOver reference hnew hlegacy

theorem runEngine_spec : (handling run state .runEngine).wp client
    (runEngineExecute engines run)
    (fun ended final trace => HandlerEnd engines run state .runEngine trace ended final)
    state [] := by
  simp only [runEngineExecute, Discipline.wp_bind, Discipline.wp_read]
  split
  next hengine => exact .unknownEngine hengine
  next hengine =>
    split
    next hnone =>
      simp only [Discipline.wp_bind]
      refine wp_request (.trigger hnone) ?_
      rintro (error | engineRunId)
      · exact .triggerRaised error hnone
      · exact .triggered engineRunId hnone
    next engineRunId hid =>
      simp only [Discipline.wp_bind]
      refine wp_request (.query hid) ?_
      rintro (error | _ | _ | _)
      · exact .queryRaised error hid
      · simp only [captureFinalVendorId, Except.mapError, Discipline.wp_bind,
          Discipline.wp_read, hid]
        split
        next resource _ hresource hsome =>
          obtain rfl := Option.some.inj hsome
          simp only [Discipline.wp_bind, Discipline.wp_attempt]
          refine wp_request (.output hid) ?_
          rintro (error | _ | finalVendorId)
          · exact .succeededWith (.error error) hid hresource
          · exact .succeededWith (.ok none) hid hresource
          · exact .succeededWith (.ok (some finalVendorId)) hid hresource
        next hnot =>
          have hresource : state.resource = none := by
            cases hresource : state.resource with
            | none => rfl
            | some resource => exact absurd rfl (hnot resource engineRunId hresource)
          exact .succeeded hid hresource
      · simp only [Except.mapError, Discipline.wp_bind, Discipline.wp_attempt]
        refine wp_request (.failure hid) ?_
        rintro (error | failure)
        · exact .engineFailed (.error error) hid
        · exact .engineFailed (.ok failure) hid
      · exact .inProgress hid

theorem handler_spec {handler : StepHandler}
    (hhandler : buildHandlers engines step = some handler) :
    (handling run state step).wp client (handler.execute run)
      (fun ended final trace => HandlerEnd engines run state step trace ended final) state [] := by
  cases step <;> cases hhandler
  · exact createTicket_spec
  · exact configureResource_spec
  · exact awaitApproval_spec
  · exact validateResource_spec
  · exact runEngine_spec
  · exact finalizeResource_spec
  · exact closeTicket_spec
  · exact submitLegacy_spec

/-- A handler under any discipline: what its step's calls keep between the
exchanges and the world holds where it ends as specified. -/
theorem wp_handler {V : Service Operations UUID} {D : Discipline V} {world : V.World}
    {handler : StepHandler} (related : Trace Providers → V.World → Prop)
    (hhandler : buildHandlers engines step = some handler)
    (hstable : ∀ {trace world current}, related trace world → D.rely client world current →
      D.inv current → related trace current)
    (hserves : ∀ trace call world, related trace world → HandlerCall run state step call →
      D.inv world → Serves D client (.provider (.step step) call) world fun answer final =>
        related (⟨call, answer⟩ :: trace) final)
    (hrelated : related [] world) :
    (D.through (S := Providers) (Op.provider (.step step)) fun _ answer => answer).wp client
      (handler.execute run) (fun ended final world => ∃ trace, related trace world ∧
        HandlerEnd engines run state step trace ended final) state world := by
  refine Discipline.Safe.transfer
    (D := D.through (S := Providers) (Op.provider (.step step)) fun _ answer => answer)
    (fun trace call world current choice hrelated hcall hrely hinv => ?_)
    (handler_spec hhandler) trivial hrelated
  exact hserves trace call current (hstable hrelated hrely hinv) hcall hinv choice

end Specifications

end CloudioOrchestrator

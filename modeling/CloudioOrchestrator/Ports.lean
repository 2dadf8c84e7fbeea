import CloudioOrchestrator.Run
import CloudioOrchestrator.Interaction.Discipline

/-! # Ports

The calls of the four external clients, with the value each returns when it
does not raise.
-/

namespace CloudioOrchestrator

/-- The fields of a resource record that describe the resource: what a create
writes beside its identity and an update writes on completion. -/
structure DesiredState where
  name : String
  region : Option String
  environment : Option String
  description : String
  tags : List String
  data : Json
  alertGroups : List String
deriving DecidableEq, Repr

def ResourceSpec.desired (resource : ResourceSpec) : DesiredState where
  name := resource.name
  region := resource.region
  environment := resource.environment
  description := resource.description
  tags := resource.tags
  data := resource.data
  alertGroups := resource.alertGroups

/-- The body a resource record is created with. -/
structure ResourceBody where
  vendorId : String
  desired : DesiredState
  state : ResourceState
  inProgress : Bool
  lastModifiedBy : String
deriving DecidableEq, Repr

/-- A partial update: only the fields present are written. -/
structure ResourceFields where
  state : ResourceState
  inProgress : Bool
  desired : Option DesiredState := none
  lastModifiedBy : Option String := none
  vendorId : Option String := none
deriving DecidableEq, Repr

structure IncidentRequest where
  summary : String
  requestedBy : String
  responsibleGroup : String
  flowType : Option String
  failedTask : Option String
  comment : Option String
  description : Option String
deriving DecidableEq, Repr

inductive Call
  | openTicket (templateId : String) (fields : Json) (requestedBy idempotencyKey : String)
  | getApprovalStatus (ticket : TicketRef)
  | closeTicket (ticket : TicketRef) (note : String) (outcome : TicketOutcome)
  | annotateTicket (ticket : TicketRef) (note : String)
  | openIncident (request : IncidentRequest)
  | closeIncident (incident : TicketRef) (outcome : TicketOutcome)
  | createResource (projectId resourceType : String) (body : ResourceBody)
      (idempotencyKey : String)
  | validateResource (request : ResourceValidationRequest)
  | updateResource (projectId resourceType vendorId : String) (fields : ResourceFields)
  | deleteResource (projectId resourceType vendorId : String)
  | submit (request : LegacyRequest) (idempotencyKey : String)
  | triggerWorkflow (engine : WorkflowEngineType) (automationId : String) (params : Json)
      (idempotencyKey : String)
  | queryRunStatus (engine : WorkflowEngineType) (automationId runId : String)
  | getFailure (engine : WorkflowEngineType) (automationId runId : String)
  | getOutput (engine : WorkflowEngineType) (automationId runId key : String)
deriving DecidableEq, Repr

abbrev Call.Result : Call → Type
  | .openTicket .. => TicketRef
  | .getApprovalStatus .. => ApprovalStatus
  | .closeTicket .. => Unit
  | .annotateTicket .. => Unit
  | .openIncident .. => TicketRef
  | .closeIncident .. => Unit
  | .createResource .. => Option String
  | .validateResource .. => ResourceValidationResult
  | .updateResource .. => Unit
  | .deleteResource .. => Unit
  | .submit .. => Option String
  | .triggerWorkflow .. => String
  | .queryRunStatus .. => EngineRunStatus
  | .getFailure .. => EngineFailure
  | .getOutput .. => Option String

/-- The answer to a call: its result, or what the adapter raised. -/
abbrev Call.Answer (call : Call) : Type :=
  Except ProviderError call.Result

/-- The provider calls on their own, as a step handler makes them. -/
abbrev Providers : Interaction.Signature where
  Op := Call
  Answer := Call.Answer

end CloudioOrchestrator

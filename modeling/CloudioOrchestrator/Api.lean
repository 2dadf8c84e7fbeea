import CloudioOrchestrator.Registry
import CloudioOrchestrator.Interaction.Program

/-! # The HTTP API

The routes as programs over the statements that they put to the database, behind
the gate of API keys. A body has passed its schema; what it says is untrusted.
-/

namespace CloudioOrchestrator

open Interaction

/-! ## API keys -/

/-- The inbound keys as they are configured. -/
structure ApiKeySettings where
  apiKeyUi : Option String := none
  apiKeyPortal : Option String := none
  apiKeyServicenow : Option String := none

/-- The configured keys by client name; unset or empty ones are left out. -/
def ApiKeySettings.apiKeys (settings : ApiKeySettings) : List (String × String) :=
  [("ui", settings.apiKeyUi), ("portal", settings.apiKeyPortal),
    ("servicenow", settings.apiKeyServicenow)].filterMap fun (client, key) =>
      match key with
      | some key => if key = "" then none else some (client, key)
      | none => none

structure ApiKeyAuthenticator where
  keys : List (String × String)

namespace ApiKeyAuthenticator

variable (authenticator : ApiKeyAuthenticator)

def enabled : Bool :=
  !authenticator.keys.isEmpty

/-- The client whose key was presented. Every key is compared; the last match counts. -/
def identify : Option String → Option String
  | none => none
  | some presented =>
    if presented = "" then none
    else authenticator.keys.foldl
      (fun found (client, key) => if presented = key then some client else found) none

end ApiKeyAuthenticator

/-! ## Requests and responses -/

structure WorkflowRegisterRequest where
  identifier : String
  runType : RunType
  engineType : WorkflowEngineType
  automationId : String
  ticketTemplateId : String
  name : Option String := none
  identifier_le : identifier.length ≤ 255 := by decide

structure WorkflowUpdateRequest where
  runType : RunType
  engineType : WorkflowEngineType
  automationId : String
  ticketTemplateId : String
  name : Option String := none

inductive Request
  | registerWorkflow (request : WorkflowRegisterRequest)
  | listWorkflows
  | getWorkflow (identifier : String)
  | updateWorkflow (identifier : String) (request : WorkflowUpdateRequest)
  | triggerWorkflowRun (workflowIdentifier : String) (request : TriggerRequest)
  | triggerLegacyRun (request : LegacyRunRequest)
  | getWorkflowRun (runId : UUID)
  | listWorkflowRuns (ticketId vendorId : Option String)
  | ticketApprovalCallback (ticketId : String)
  | engineRunCallback (engineRunId : String)

/-- A request with the key it came with. -/
structure Visitor where
  apiKey : Option String
  request : Request

structure WorkflowRunResponse where
  runId : UUID
  runType : RunType
  status : RunStatus
  currentStep : Option String
  createdBy : String
  maxRetries : Int
  runState : RunState

def WorkflowRun.response (run : WorkflowRun) : WorkflowRunResponse where
  runId := run.runId
  runType := run.runType
  status := run.status
  currentStep := run.currentStep
  createdBy := run.createdBy
  maxRetries := run.maxRetries
  runState := run.runState

inductive ResponseBody
  | workflow (registration : Registration)
  | workflows (registrations : List Registration)
  | run (run : WorkflowRunResponse)
  | runs (runs : List WorkflowRunResponse)
  | woken (count : Nat)
  | detail (text : String)

structure Response where
  status : Nat
  body : ResponseBody

/-! ## Statements -/

/-- What a run is created from. -/
inductive Creation
  | triggered (workflow : Workflow) (request : TriggerRequest)
  | legacy (request : LegacyRunRequest)

inductive Statement
  | workflowsInsert (workflow : Workflow)
  | workflowsSelect (identifier : String)
  | workflowsUpdate (workflowId : UUID) (patch : WorkflowPatch)
  | workflowsList
  | runsCreate (creation : Creation)
  | runsGet (runId : UUID)
  | runsFindByTicketId (ticketId : String)
  | runsFindByVendorId (vendorId : String)
  | runsFindByEngineRunId (engineRunId : String)
  | runsListRecent (limit : Nat)
  | runsWake (runId : UUID)

def Statement.Answer : Statement → Type
  | .workflowsInsert _ => Except Registry.DbError Registration
  | .workflowsSelect _ => Except Registry.DbError (Option Registration)
  | .workflowsUpdate .. => Except Registry.DbError Unit
  | .workflowsList => Except Registry.DbError (List Registration)
  | .runsCreate _ => Except Registry.DbError WorkflowRun
  | .runsGet _ => Except Registry.DbError (Option WorkflowRun)
  | .runsFindByTicketId _ | .runsFindByVendorId _ | .runsFindByEngineRunId _
  | .runsListRecent _ => Except Registry.DbError (List WorkflowRun)
  | .runsWake _ => Except Registry.DbError Bool

abbrev Statements : Signature where
  Op := Statement
  Answer := Statement.Answer

/-- A route, up to its response. -/
abbrev Route := Prog Statements Response

namespace Route

/-- An exception that no route handles. -/
def serverError : Response :=
  ⟨500, .detail "Internal Server Error"⟩

def notFound (identifier : String) : Response :=
  ⟨404, .detail ("Workflow '" ++ identifier ++ "' not found.")⟩

/-! ## Workflows -/

def registerWorkflow (request : WorkflowRegisterRequest) : Route :=
  let workflow : Workflow := {
    identifier := request.identifier
    name := request.name
    runType := request.runType
    engineType := request.engineType
    automationId := request.automationId
    ticketTemplateId := request.ticketTemplateId }
  .call (.workflowsInsert workflow) fun
    | .ok registration => .ret ⟨201, .workflow registration⟩
    | .error .integrity =>
        .ret ⟨409, .detail ("Workflow '" ++ request.identifier ++ "' is already registered.")⟩
    | .error .raised => .ret serverError

def listWorkflows : Route :=
  .call .workflowsList fun
    | .ok registrations => .ret ⟨200, .workflows registrations⟩
    | .error _ => .ret serverError

def getWorkflow (identifier : String) : Route :=
  .call (.workflowsSelect identifier) fun
    | .ok (some registration) => .ret ⟨200, .workflow registration⟩
    | .ok none => .ret (notFound identifier)
    | .error _ => .ret serverError

/-- The fields are written over the row that was read; the identifier is not one of them. -/
def updateWorkflow (identifier : String) (request : WorkflowUpdateRequest) : Route :=
  .call (.workflowsSelect identifier) fun
    | .ok none => .ret (notFound identifier)
    | .ok (some db) =>
        let workflow : Workflow := {
          identifier := db.workflow.identifier
          name := request.name
          runType := request.runType
          engineType := request.engineType
          automationId := request.automationId
          ticketTemplateId := request.ticketTemplateId }
        .call (.workflowsUpdate db.workflowId (db.workflow.changes workflow)) fun
          | .ok () => .ret ⟨200, .workflow { db with workflow := workflow }⟩
          | .error _ => .ret serverError
    | .error _ => .ret serverError

/-! ## Runs -/

def triggerRefused (workflowIdentifier : String) (request : TriggerRequest) :
    TriggerError → Response
  | .unknownWorkflow => ⟨404, .detail ("Unknown workflow '" ++ workflowIdentifier ++ "'.")⟩
  | .resourceParamsRequired => ⟨422, .detail "resource is required for a resource workflow."⟩
  | .resourceVendorIdRequired =>
      ⟨422, .detail ("resource.vendor_id is required for a " ++ request.operation.value ++
        " operation — it names the record to act on.")⟩
  | .resourceIdRequired =>
      ⟨422, .detail ("resource.resource_id is required for a " ++ request.operation.value ++
        " operation — it names the resource manager record to act on.")⟩
  | .ticketRefRequired => ⟨422, .detail "ticket is required for an automation workflow."⟩

def created : Except Registry.DbError WorkflowRun → Route
  | .ok run => .ret ⟨201, .run run.response⟩
  | .error _ => .ret serverError

def triggerWorkflowRun (workflowIdentifier : String) (request : TriggerRequest) : Route :=
  .call (.workflowsSelect workflowIdentifier) fun
    | .ok none => .ret (triggerRefused workflowIdentifier request .unknownWorkflow)
    | .ok (some wf) =>
        match checkTrigger wf.workflow.runType request with
        | .error error => .ret (triggerRefused workflowIdentifier request error)
        | .ok () => .call (.runsCreate (.triggered wf.workflow request)) created
    | .error _ => .ret serverError

def triggerLegacyRun (request : LegacyRunRequest) : Route :=
  .call (.runsCreate (.legacy request)) created

def getWorkflowRun (runId : UUID) : Route :=
  .call (.runsGet runId) fun
    | .ok (some run) => .ret ⟨200, .run run.response⟩
    | .ok none => .ret ⟨404, .detail ("Run " ++ runId.str ++ " not found.")⟩
    | .error _ => .ret serverError

def foundRuns : Except Registry.DbError (List WorkflowRun) → Route
  | .ok runs => .ret ⟨200, .runs (runs.map WorkflowRun.response)⟩
  | .error _ => .ret serverError

/-- An empty filter counts as none. -/
def listWorkflowRuns (ticketId vendorId : Option String) : Route :=
  if ticketId.getD "" ≠ "" then .call (.runsFindByTicketId (ticketId.getD "")) foundRuns
  else if vendorId.getD "" ≠ "" then .call (.runsFindByVendorId (vendorId.getD "")) foundRuns
  else .call (.runsListRecent 200) foundRuns

/-! ## Callbacks -/

/-- Wake the runs found, each in a transaction of its own, and count those that were woken. -/
def wakeAll : List UUID → Nat → Route
  | [], woken => .ret ⟨202, .woken woken⟩
  | runId :: rest, woken => .call (.runsWake runId) fun
    | .ok true => wakeAll rest (woken + 1)
    | .ok false => wakeAll rest woken
    | .error _ => .ret serverError

def wakeFound : Except Registry.DbError (List WorkflowRun) → Route
  | .ok runs => wakeAll (runs.map WorkflowRun.runId) 0
  | .error _ => .ret serverError

def ticketApprovalCallback (ticketId : String) : Route :=
  .call (.runsFindByTicketId ticketId) wakeFound

def engineRunCallback (engineRunId : String) : Route :=
  .call (.runsFindByEngineRunId engineRunId) wakeFound

end Route

def Request.route : Request → Route
  | .registerWorkflow request => .registerWorkflow request
  | .listWorkflows => .listWorkflows
  | .getWorkflow identifier => .getWorkflow identifier
  | .updateWorkflow identifier request => .updateWorkflow identifier request
  | .triggerWorkflowRun workflowIdentifier request =>
      .triggerWorkflowRun workflowIdentifier request
  | .triggerLegacyRun request => .triggerLegacyRun request
  | .getWorkflowRun runId => .getWorkflowRun runId
  | .listWorkflowRuns ticketId vendorId => .listWorkflowRuns ticketId vendorId
  | .ticketApprovalCallback ticketId => .ticketApprovalCallback ticketId
  | .engineRunCallback engineRunId => .engineRunCallback engineRunId

/-- Whether the router of the route is gated: the callbacks' is not. -/
def Request.gated : Request → Bool
  | .ticketApprovalCallback _ | .engineRunCallback _ => false
  | _ => true

namespace ApiKeyAuthenticator

variable (authenticator : ApiKeyAuthenticator)

/-- A request must carry a configured key, once there are any. -/
def requireApiKey (apiKey : Option String) : Option Response :=
  if !authenticator.enabled then none
  else
    match authenticator.identify apiKey with
    | none => some ⟨401, .detail "Missing or invalid API key."⟩
    | some _ => none

/-- The gate turns the visitor away. -/
def rejects (visitor : Visitor) : Bool :=
  visitor.request.gated && (authenticator.requireApiKey visitor.apiKey).isSome

/-- Answer a request: through the gate, where there is one, and down its route. -/
def answer (visitor : Visitor) : Route :=
  if visitor.request.gated then
    match authenticator.requireApiKey visitor.apiKey with
    | some refusal => .ret refusal
    | none => visitor.request.route
  else visitor.request.route

end ApiKeyAuthenticator

end CloudioOrchestrator

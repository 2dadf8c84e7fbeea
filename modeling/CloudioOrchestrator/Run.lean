import CloudioOrchestrator.Domain

/-! # Runs

The value objects a run carries, its working state, and the run as a row
stores it and a drive holds it. What no operation reads (creation and update
times) is left out.
-/

namespace CloudioOrchestrator

/-- A free-form payload, as its serialised text. -/
abbrev Json := String

/-- A ticket-system record; both identifiers are persisted. -/
structure TicketRef where
  ticketId : String
  nativeId : String
deriving DecidableEq, Repr

structure ResourceSpec where
  projectId : String
  resourceType : String
  vendorId : String := ""
  resourceId : String := ""
  name : String
  region : Option String := none
  environment : Option String := none
  description : String := ""
  tags : List String := []
  data : Json := "{}"
  alertGroups : List String := []
deriving DecidableEq, Repr

structure LegacyRequest where
  flowType : String
  projectId : Option String := none
  resourceType : Option String := none
  flowVariables : Json := "{}"
  dbOperation : String
  name : String
  region : String
deriving DecidableEq, Repr

structure ResourceValidationRequest where
  projectId : String
  resourceType : String
  name : String
  operation : ResourceOperation
  workflowIdentifier : String
  params : Json
  region : Option String
  environment : Option String
deriving DecidableEq, Repr

structure ResourceValidationResult where
  eligible : Bool
  reason : Option String := none
deriving DecidableEq, Repr

/-- The registry mapping, snapshotted into the run at trigger time. -/
structure ResolvedWorkflow where
  identifier : String
  name : Option String
  engineType : WorkflowEngineType
  automationId : String
  ticketTemplateId : String
deriving DecidableEq, Repr

def ResolvedWorkflow.label (workflow : ResolvedWorkflow) : String :=
  match workflow.name with
  | some name => if name = "" then workflow.identifier else name
  | none => workflow.identifier

structure EngineFailure where
  failedTask : Option String := none
  responsibleGroup : Option String := none
  detail : Option String := none
  exceptionName : Option String := none
  kind : FailureKind := .task
deriving DecidableEq, Repr

structure StepResult where
  finalVendorId : Option String := none
deriving DecidableEq, Repr

/-- A mapping keyed by step. -/
abbrev StepMap (α : Type) := StepName → Option α

namespace StepMap

variable {α : Type}

def empty : StepMap α := fun _ => none

def set (entries : StepMap α) (step : StepName) (value : α) : StepMap α :=
  fun other => if other = step then some value else entries other

def pop (entries : StepMap α) (step : StepName) : StepMap α :=
  fun other => if other = step then none else entries other

def setDefault (entries : StepMap α) (step : StepName) (value : α) : StepMap α :=
  if (entries step).isSome then entries else entries.set step value

@[simp] theorem empty_apply (step : StepName) : (empty : StepMap α) step = none := rfl

@[simp] theorem set_self (entries : StepMap α) (step : StepName) (value : α) :
    entries.set step value step = some value := by
  simp [set]

theorem set_of_ne {entries : StepMap α} {step other : StepName} {value : α}
    (hne : other ≠ step) : entries.set step value other = entries other := by
  simp [set, hne]

@[simp] theorem pop_self (entries : StepMap α) (step : StepName) :
    entries.pop step step = none := by
  simp [pop]

theorem pop_of_ne {entries : StepMap α} {step other : StepName} (hne : other ≠ step) :
    entries.pop step other = entries other := by
  simp [pop, hne]

end StepMap

/-- The run's working state, persisted as one value. -/
structure RunState where
  workflow : ResolvedWorkflow
  ticketParams : Json := "{}"
  workflowParams : Json := "{}"
  resource : Option ResourceSpec := none
  operation : ResourceOperation := .create
  legacy : Option LegacyRequest := none
  ticket : Option TicketRef := none
  engineRunId : Option String := none
  resourceConfigured : Bool := false
  resourceFinalized : Bool := false
  ticketClosed : Bool := false
  legacySubmitted : Bool := false
  legacyReference : Option String := none
  stepAttempts : StepMap Int := .empty
  stepStartedAt : StepMap Datetime := .empty
  attemptStartedAt : Option Datetime := none
  errors : StepMap String := .empty
  stepResults : StepMap StepResult := .empty
  engineFailure : Option EngineFailure := none
  incidentId : Option String := none

/-- `step_attempts.get(step, 0)`. -/
def RunState.attempts (state : RunState) (step : StepName) : Int :=
  (state.stepAttempts step).getD 0

/-- A resource but for its identity, which the providers assign. -/
def ResourceSpec.anonymous (resource : ResourceSpec) : ResourceSpec :=
  { resource with vendorId := "", resourceId := "" }

/-- The part of the working state that only the creation of a run writes. -/
def RunState.SameRequest (first second : RunState) : Prop :=
  first.workflow = second.workflow ∧ first.ticketParams = second.ticketParams ∧
    first.workflowParams = second.workflowParams ∧ first.operation = second.operation ∧
    first.legacy = second.legacy ∧
    first.resource.map ResourceSpec.anonymous = second.resource.map ResourceSpec.anonymous

namespace RunState.SameRequest

variable {first second third : RunState}

@[simp] protected theorem refl (state : RunState) : state.SameRequest state := by
  simp [SameRequest]

theorem trans (hfirst : first.SameRequest second) (hsecond : second.SameRequest third) :
    first.SameRequest third := by
  unfold SameRequest at *
  simp_all

theorem resource_isSome (hsame : first.SameRequest second) :
    first.resource.isSome = second.resource.isSome := by
  have hresource := congrArg Option.isSome hsame.2.2.2.2.2
  simpa using hresource

end RunState.SameRequest

/-- A run, as the row stores it and as a drive holds it. The column
`current_step` is text: a row may hold one that names no step. -/
structure WorkflowRun where
  runId : UUID
  runType : RunType
  status : RunStatus := .pending
  currentStep : Option String := none
  workflowIdentifier : String
  createdBy : String
  maxRetries : Int := 3
  scheduledAt : Option Time
  version : Int := 1
  runState : RunState

/-- The fields that `save` leaves as the row has them. -/
def WorkflowRun.SameOrigin (first second : WorkflowRun) : Prop :=
  first.runId = second.runId ∧ first.runType = second.runType ∧
    first.workflowIdentifier = second.workflowIdentifier ∧
    first.createdBy = second.createdBy ∧ first.maxRetries = second.maxRetries

namespace WorkflowRun.SameOrigin

variable {run first second third : WorkflowRun}

protected theorem refl : run.SameOrigin run := by
  simp [SameOrigin]

theorem symm (hsame : first.SameOrigin second) : second.SameOrigin first := by
  simpa [SameOrigin, eq_comm] using hsame

theorem trans (hfirst : first.SameOrigin second) (hsecond : second.SameOrigin third) :
    first.SameOrigin third := by
  simp only [SameOrigin] at *
  simp_all

theorem runId (hsame : first.SameOrigin second) : first.runId = second.runId :=
  hsame.1

theorem runType (hsame : first.SameOrigin second) : first.runType = second.runType := by
  obtain ⟨-, htype, -⟩ := hsame
  exact htype

theorem maxRetries (hsame : first.SameOrigin second) : first.maxRetries = second.maxRetries := by
  obtain ⟨-, -, -, -, hretries⟩ := hsame
  exact hretries

end WorkflowRun.SameOrigin

/-- The runs agree on everything that only the creation of a run writes. -/
def WorkflowRun.Continues (first second : WorkflowRun) : Prop :=
  first.SameOrigin second ∧ first.runState.SameRequest second.runState

namespace WorkflowRun.Continues

protected theorem refl (run : WorkflowRun) : run.Continues run :=
  ⟨.refl, .refl _⟩

theorem trans {first second third : WorkflowRun} (hfirst : first.Continues second)
    (hsecond : second.Continues third) : first.Continues third :=
  ⟨hfirst.1.trans hsecond.1, hfirst.2.trans hsecond.2⟩

end WorkflowRun.Continues

end CloudioOrchestrator

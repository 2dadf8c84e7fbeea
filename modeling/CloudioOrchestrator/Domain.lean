import Mathlib.Data.List.Basic

/-! # Domain of the orchestrator

Enumerations with the values that are persisted, value objects, the run's
working state and the run itself. Times are microseconds on the UTC clock.
Free-form payloads are passed through and never looked into, so each is kept
as its serialised text.
-/

namespace CloudioOrchestrator

inductive RunType
  | automation
  | resource
  | legacy
deriving DecidableEq, Repr

inductive RunStatus
  | pending
  | running
  | completed
  | failed
  | rejected
deriving DecidableEq, Repr

/-- The statuses `handle` ignores a delivery for. -/
def RunStatus.terminal : RunStatus → Bool
  | .pending | .running => false
  | .completed | .failed | .rejected => true

inductive WorkflowEngineType
  | airflow
  | legacy
deriving DecidableEq, Repr

def WorkflowEngineType.value : WorkflowEngineType → String
  | .airflow => "airflow"
  | .legacy => "legacy"

def WorkflowEngineType.repr : WorkflowEngineType → String
  | .airflow => "<WorkflowEngineType.AIRFLOW: 'airflow'>"
  | .legacy => "<WorkflowEngineType.LEGACY: 'legacy'>"

inductive StepName
  | createTicket
  | configureResource
  | awaitApproval
  | validateResource
  | runEngine
  | finalizeResource
  | closeTicket
  | submitLegacy
deriving DecidableEq, Repr

namespace StepName

def value : StepName → String
  | .createTicket => "creating_ticket"
  | .configureResource => "configuring_resource"
  | .awaitApproval => "awaiting_approval"
  | .validateResource => "validating_resource"
  | .runEngine => "running_engine"
  | .finalizeResource => "finalizing_resource"
  | .closeTicket => "closing_ticket"
  | .submitLegacy => "submitting_legacy"

/-- How the member itself prints, in an f-string for instance. -/
def str : StepName → String
  | .createTicket => "StepName.CREATE_TICKET"
  | .configureResource => "StepName.CONFIGURE_RESOURCE"
  | .awaitApproval => "StepName.AWAIT_APPROVAL"
  | .validateResource => "StepName.VALIDATE_RESOURCE"
  | .runEngine => "StepName.RUN_ENGINE"
  | .finalizeResource => "StepName.FINALIZE_RESOURCE"
  | .closeTicket => "StepName.CLOSE_TICKET"
  | .submitLegacy => "StepName.SUBMIT_LEGACY"

def repr (step : StepName) : String :=
  "<" ++ step.str ++ ": '" ++ step.value ++ "'>"

def members : List StepName :=
  [.createTicket, .configureResource, .awaitApproval, .validateResource, .runEngine,
    .finalizeResource, .closeTicket, .submitLegacy]

theorem mem_members (step : StepName) : step ∈ members := by
  cases step <;> decide

theorem value_injective : Function.Injective value := by
  intro first second hvalue
  cases first <;> cases second <;> first | rfl | exact absurd hvalue (by decide)

/-- The member with a given value, as calling the enumeration looks it up. -/
def ofValue (text : String) : Option StepName :=
  members.find? fun step => step.value = text

@[simp] theorem ofValue_value (step : StepName) : ofValue step.value = some step := by
  cases step <;> decide

theorem ofValue_eq_some {text : String} {step : StepName} :
    ofValue text = some step ↔ text = step.value := by
  constructor
  · intro hfound
    have := List.find?_some hfound
    simpa [eq_comm] using this
  · rintro rfl
    exact ofValue_value step

end StepName

inductive ResourceOperation
  | create
  | update
  | delete
deriving DecidableEq, Repr

def ResourceOperation.value : ResourceOperation → String
  | .create => "create"
  | .update => "update"
  | .delete => "delete"

inductive ResourceState
  | provisioning
  | updating
  | deleting
  | ready
  | deleted
deriving DecidableEq, Repr

inductive EngineRunStatus
  | success
  | failed
  | inProgress
deriving DecidableEq, Repr

inductive ApprovalStatus
  | pending
  | approved
  | rejected
deriving DecidableEq, Repr

inductive FailureKind
  | validation
  | infraPrecheck
  | task
deriving DecidableEq, Repr

inductive TicketOutcome
  | successful
  | unsuccessful
  | documentation
deriving DecidableEq, Repr

/-- Microseconds on the UTC clock. -/
abbrev Time := Int

def seconds (count : Int) : Time := count * 1000000

/-- A stored datetime. Loading a run state accepts one without an offset, and
subtracting such a value from the aware clock raises. -/
inductive Datetime
  | aware (instant : Time)
  | naive (instant : Time)
deriving DecidableEq, Repr

/-- The exceptions that a drive can meet, with what `str` makes of them. -/
inductive PyException
  | staleRun (message : String)
  | stepDeadlineExceeded (message : String)
  | runRejected (message : String)
  | stepFailure (message : String) (kind : FailureKind)
  | resourceNotFound (message : String)
  | keyError (message : String)
  | valueError (message : String)
  | typeError (message : String)
  | overflowError (message : String)
  | assertionError
  | other (name message : String)
deriving DecidableEq, Repr

namespace PyException

/-- `str(error)`. -/
def message : PyException → String
  | .staleRun message | .stepDeadlineExceeded message | .runRejected message
  | .stepFailure message _ | .resourceNotFound message | .keyError message
  | .valueError message | .typeError message | .overflowError message
  | .other _ message => message
  | .assertionError => ""

/-- `type(error).__name__`. -/
def typeName : PyException → String
  | .staleRun _ => "StaleRunError"
  | .stepDeadlineExceeded _ => "StepDeadlineExceeded"
  | .runRejected _ => "RunRejected"
  | .stepFailure _ _ => "StepFailure"
  | .resourceNotFound _ => "ResourceNotFoundError"
  | .keyError _ => "KeyError"
  | .valueError _ => "ValueError"
  | .typeError _ => "TypeError"
  | .overflowError _ => "OverflowError"
  | .assertionError => "AssertionError"
  | .other name _ => name

/-- The classification an error carries; anything unclassified is a task failure. -/
def kind : PyException → FailureKind
  | .stepFailure _ kind => kind
  | _ => .task

end PyException

/-- What an adapter raises: a missing resource record, or anything its transport
came to. No adapter raises an exception that steers the executor. -/
inductive ProviderError
  | resourceNotFound (message : String)
  | other (name message : String)
deriving DecidableEq, Repr

def ProviderError.toException : ProviderError → PyException
  | .resourceNotFound message => .resourceNotFound message
  | .other name message => .other name message

/-- Thirty-two hexadecimal digits. -/
structure UUID where
  digits : List (Fin 16)
  length_eq : digits.length = 32
deriving DecidableEq

namespace UUID

def digitChar (digit : Fin 16) : Char :=
  "0123456789abcdef".toList.getD digit.val '0'

/-- The digits in lower case, with dashes after 8, 12, 16 and 20 of them. -/
def chars (id : UUID) : List Char :=
  let hex := id.digits.map digitChar
  hex.take 8 ++ '-' :: (hex.drop 8).take 4 ++ '-' :: (hex.drop 12).take 4 ++
    '-' :: (hex.drop 16).take 4 ++ '-' :: hex.drop 20

def str (id : UUID) : String :=
  String.ofList id.chars

theorem digitChar_injective : Function.Injective digitChar := by
  have hdistinct : ∀ first second, digitChar first = digitChar second → first = second := by decide
  exact fun first second => hdistinct first second

theorem digitChar_ne_dash (digit : Fin 16) : digitChar digit ≠ '-' := by
  revert digit
  decide

theorem chars_length (id : UUID) : id.chars.length = 36 := by
  simp [chars, id.length_eq]

/-- Without its dashes the text is the digits. -/
theorem filter_chars (id : UUID) :
    id.chars.filter (· ≠ '-') = id.digits.map digitChar := by
  have hkeep : ∀ part : List (Fin 16),
      (part.map digitChar).filter (· ≠ '-') = part.map digitChar := by
    intro part
    rw [List.filter_eq_self]
    simp [digitChar_ne_dash]
  have hsplit : id.digits = id.digits.take 8 ++ ((id.digits.drop 8).take 4 ++
      ((id.digits.drop 12).take 4 ++ ((id.digits.drop 16).take 4 ++ id.digits.drop 20))) := by
    have hdrop : ∀ start, id.digits.drop start =
        (id.digits.drop start).take 4 ++ id.digits.drop (start + 4) := by
      intro start
      rw [← List.drop_drop, List.take_append_drop]
    rw [← hdrop 16, ← hdrop 12, ← hdrop 8, List.take_append_drop]
  rw [congrArg (List.map digitChar) hsplit]
  simp only [chars, ← List.map_drop, ← List.map_take, List.filter_append, List.filter_cons,
    hkeep, List.map_append]
  simp

theorem chars_injective : Function.Injective chars := by
  intro first second hchars
  have hdigits : first.digits.map digitChar = second.digits.map digitChar := by
    rw [← filter_chars, ← filter_chars, hchars]
  have := List.map_injective_iff.mpr digitChar_injective hdigits
  cases first
  cases second
  simpa using this

end UUID

end CloudioOrchestrator

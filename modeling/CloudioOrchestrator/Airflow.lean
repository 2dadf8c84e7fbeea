import CloudioOrchestrator.Run

/-! # Failures of DAGs

How the failure of a task comes to the orchestrator: what the task's callback
publishes of its exception, and what the engine adapter makes of a DAG run, of
which it sees the state, the task instances and the entries they published.
-/

namespace CloudioOrchestrator

/-- A value as JSON has it. Of numbers, booleans and lists only the text and the
truth are ever asked for. -/
inductive JsonValue
  | null
  | string (text : String)
  | object (entries : List (String × JsonValue))
  | other (text : String) (truth : Bool)

/-- The text form of values, and what reads it back. -/
structure JsonCodec where
  dumps : JsonValue → String
  loads : String → Option JsonValue
  /-- How a dictionary prints, which is not its JSON text. -/
  strDict : List (String × JsonValue) → String

namespace JsonValue

/-- `bool(value)`. -/
def truthy : JsonValue → Bool
  | .null => false
  | .string text => text ≠ ""
  | .object entries => !entries.isEmpty
  | .other _ truth => truth

/-- `str(value)`. -/
def str (codec : JsonCodec) : JsonValue → String
  | .null => "None"
  | .string text => text
  | .object entries => codec.strDict entries
  | .other text _ => text

/-- A text, or nothing. -/
def ofText : Option String → JsonValue
  | some text => .string text
  | none => .null

/-- A field declared to be a text or nothing; anything else is refused. -/
def asText : JsonValue → Option (Option String)
  | .null => some none
  | .string text => some (some text)
  | .object _ | .other _ _ => none

@[simp] theorem asText_ofText (text : Option String) : (ofText text).asText = some text := by
  cases text <;> rfl

end JsonValue

/-- `first or second`, of texts that may be missing. -/
def orElse (first second : Option String) : Option String :=
  if (first.filter (· ≠ "")).isSome then first else second

/-- An exception as the callback of a failed task finds it. -/
structure RaisedException where
  className : String
  message : String
  responsibleGroup : Option String
  className_ne : className ≠ "" := by decide

/-- The payload that a task's callback publishes, given the callback's own group. -/
def publishException (responsibleGroup : Option String) (error : Option RaisedException) :
    JsonValue :=
  .object
    [("message", .string ((error.map RaisedException.message).getD
        "Task failed without an exception.")),
      ("exception", .ofText (error.map RaisedException.className)),
      ("responsible_group",
        .ofText (orElse (error.bind RaisedException.responsibleGroup) responsibleGroup))]

structure TaskInstance where
  taskId : String
  state : String
  xcomEntries : List (String × JsonValue)

structure DagRun where
  state : String
  taskInstances : List TaskInstance

def exceptionXcomKey : String := "exception_type"

def flowFailedOutput : String := "flow_failed"

def failedTasksOutput : String := "failed_tasks"

/-- The classification that an exception's class name carries. -/
def failureKind (exceptionName : String) : FailureKind :=
  if exceptionName = "ValidationException" then .validation
  else if exceptionName = "InfraPrecheckException" then .infraPrecheck
  else .task

/-- The failure that a published payload describes; a payload whose group or
message is not a text is refused. -/
def failureFromPayload (failedTask : String) : JsonValue → Option EngineFailure
  | .object entries =>
      match ((entries.lookup "responsible_group").getD .null).asText,
        ((entries.lookup "message").getD .null).asText with
      | some group, some detail =>
          let exceptionName := match entries.lookup "exception" with
            | some (.string name) => some name
            | _ => none
          some { failedTask := some failedTask, responsibleGroup := group, detail := detail
                 exceptionName := exceptionName, kind := failureKind (exceptionName.getD "") }
      | _, _ => none
  | _ => some { failedTask := some failedTask }

/-- What the exception entry of a failed task says. -/
def failureFromXcom (codec : JsonCodec) (failedTask : String) : JsonValue → Option EngineFailure
  | .string text =>
      match codec.loads text with
      | none => some { failedTask := some failedTask, detail := some text }
      | some value => failureFromPayload failedTask value
  | value => failureFromPayload failedTask value

/-- `value.strip().lower() in {"true", "1", "yes"}`. -/
def truthyText (value : String) : Bool :=
  let blank := fun char : Char => char.isWhitespace || char.val ∈ [0x0b, 0x0c, 0x1c, 0x1d, 0x1e,
    0x1f, 0x85, 0xa0, 0x1680, 0x2028, 0x2029, 0x202f, 0x205f, 0x3000] ||
    0x2000 ≤ char.val && char.val ≤ 0x200a
  let stripped := ((value.toList.dropWhile blank).reverse.dropWhile blank).reverse
  String.ofList (stripped.map Char.toLower) ∈ ["true", "1", "yes"]

namespace DagRun

variable (codec : JsonCodec) (dag : DagRun)

/-- The first value that a task of the run published under the key. -/
def getOutput (key : String) : Option String :=
  dag.taskInstances.findSome? fun task =>
    match task.xcomEntries.lookup key with
    | none | some .null => none
    | some value => some (value.str codec)

/-- Whether the run's rollback branch reported that work failed. -/
def flowFailed : Bool :=
  ((dag.getOutput codec flowFailedOutput).map truthyText).getD false

def queryRunStatus : EngineRunStatus :=
  if dag.state = "success" then
    -- a run whose rollback succeeded reads as a success as well
    if dag.flowFailed codec then .failed else .success
  else if dag.state = "failed" then .failed
  else .inProgress

/-- The first task the run reads as failed. -/
def failedInstance : Option String :=
  ((dag.taskInstances.filter fun task => task.state = "failed").map TaskInstance.taskId).head?

/-- The task to report, and the group that the rollback controller says owns it. -/
def firstFailedTask : Option String × Option String :=
  match (dag.getOutput codec failedTasksOutput).bind codec.loads with
  | some (.object ((taskId, group) :: _)) =>
      (some taskId, if group.truthy then some (group.str codec) else none)
  | _ => (dag.failedInstance, none)

/-- The exception entry of a task. -/
def exceptionEntry (taskId : String) : Option JsonValue :=
  (dag.taskInstances.find? fun task => task.taskId = taskId).bind fun task =>
    task.xcomEntries.lookup exceptionXcomKey

/-- What a failed run says of its failure; none where the payload is refused. -/
def getFailure : Option EngineFailure :=
  match dag.firstFailedTask codec with
  | (none, _) => some {}
  | (some failedTask, group) =>
      match dag.exceptionEntry failedTask with
      | none => some { failedTask := some failedTask, responsibleGroup := group }
      | some entry =>
          (failureFromXcom codec failedTask entry).map fun failure =>
            { failure with responsibleGroup := orElse failure.responsibleGroup group }

end DagRun

section Failures

variable {codec : JsonCodec} {dag : DagRun}

theorem filter_orElse (first second : Option String) :
    (orElse first second).filter (· ≠ "") =
      (first.filter (· ≠ "")).or (second.filter (· ≠ "")) := by
  unfold orElse
  cases hfirst : first.filter (· ≠ "") with
  | none => simp
  | some text => simpa using hfirst

/-- The DAG run has failed, and gives this account of it. -/
def FailsAs (codec : JsonCodec) (failure : EngineFailure) (dag : DagRun) : Prop :=
  dag.queryRunStatus codec = .failed ∧ dag.getFailure codec = some failure

/-- A task of the DAG run failed, and no other did: with the exception's payload
published by its callback, and by the rollback controller, if the DAG has one,
a map of the task to its owner. -/
structure OnlyFailure (codec : JsonCodec) (task : String) (error : RaisedException)
    (callbackGroup : Option String) (controller : Option (Option String))
    (dag : DagRun) : Prop where
  status : dag.queryRunStatus codec = .failed
  collected : dag.getOutput codec failedTasksOutput =
    controller.map fun owner => codec.dumps (.object [(task, .ofText owner)])
  failing : (dag.taskInstances.filter fun failed => failed.state = "failed").map
    TaskInstance.taskId = [task]
  published : dag.exceptionEntry task =
    some (.string (codec.dumps (publishException callbackGroup (some error))))

/-- The two texts of a failed DAG run that are read back come back as they were. -/
structure Legible (codec : JsonCodec) (task : String) (error : RaisedException)
    (callbackGroup : Option String) (controller : Option (Option String)) : Prop where
  payload : codec.loads (codec.dumps (publishException callbackGroup (some error))) =
    some (publishException callbackGroup (some error))
  owners : ∀ owner ∈ controller, codec.loads (codec.dumps (.object [(task, .ofText owner)])) =
    some (.object [(task, .ofText owner)])

variable {task : String} {error : RaisedException} {callbackGroup : Option String}
  {controller : Option (Option String)}

/-- The failed task is found, whichever account of it there is. -/
theorem OnlyFailure.firstFailedTask
    (hdag : OnlyFailure codec task error callbackGroup controller dag)
    (hlegible : Legible codec task error callbackGroup controller) :
    dag.firstFailedTask codec = (some task, controller.join.filter (· ≠ "")) := by
  unfold DagRun.firstFailedTask
  rw [hdag.collected]
  cases controller with
  | none => simp [DagRun.failedInstance, hdag.failing]
  | some owner =>
      simp only [Option.map_some, Option.bind_some, hlegible.owners owner rfl, Option.join_some]
      cases owner with
      | none => simp [JsonValue.ofText, JsonValue.truthy]
      | some group =>
          by_cases hgroup : group = "" <;>
            simp [JsonValue.ofText, JsonValue.truthy, JsonValue.str, hgroup, Option.filter]

/-- What a callback publishes of an exception is read back as it was. -/
theorem failureFromPayload_publishException (task : String) (callbackGroup : Option String)
    (error : RaisedException) :
    failureFromPayload task (publishException callbackGroup (some error)) = some
      { failedTask := some task
        responsibleGroup := orElse error.responsibleGroup callbackGroup
        detail := some error.message
        exceptionName := some error.className
        kind := failureKind error.className } := by
  have hmessage : (JsonValue.string error.message).asText = some (some error.message) := rfl
  have hname : JsonValue.ofText (some error.className) = .string error.className := rfl
  simp [publishException, failureFromPayload, List.lookup_cons, hmessage, hname]

/-- What the adapter reports is the exception, its owner the first that is named
by the exception, its callback and the controller. -/
theorem OnlyFailure.getFailure (hdag : OnlyFailure codec task error callbackGroup controller dag)
    (hlegible : Legible codec task error callbackGroup controller) :
    dag.getFailure codec = some
      { failedTask := some task
        responsibleGroup := orElse (orElse error.responsibleGroup callbackGroup)
          (controller.join.filter (· ≠ ""))
        detail := some error.message
        exceptionName := some error.className
        kind := failureKind error.className } := by
  unfold DagRun.getFailure
  rw [hdag.firstFailedTask hlegible]
  simp only [hdag.published, failureFromXcom, hlegible.payload,
    failureFromPayload_publishException, Option.map_some]

end Failures

end CloudioOrchestrator

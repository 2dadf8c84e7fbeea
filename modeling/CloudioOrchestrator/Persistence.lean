import CloudioOrchestrator.Documents.Reading
import CloudioOrchestrator.Queue

/-! # The column of run states

A run state is dumped into one JSONB column and validated when it is loaded. The
database may reorder the entries and spell the free-form parts in its own way; a
later schema may have more fields.
-/

namespace CloudioOrchestrator

open Documents

/-- What is relied on of the validation library, which accepts more than it dumps:
a number for a time, for instance. -/
structure Pydantic where
  int : Reader Int
  bool : Reader Bool
  datetime : Reader Datetime
  isoformat : Datetime → String
  /-- The text of a validation error. -/
  describe : Document → String
  int_number : ∀ value, int (.number value) = some value
  bool_bool : ∀ value, bool (.bool value) = some value
  datetime_text : ∀ value, datetime (.text (isoformat value)) = some value

def WorkflowEngineType.members : List WorkflowEngineType :=
  [.airflow, .legacy]

def ResourceOperation.members : List ResourceOperation :=
  [.create, .update, .delete]

def FailureKind.members : List FailureKind :=
  [.validation, .infraPrecheck, .task]

def FailureKind.value : FailureKind → String
  | .validation => "validation"
  | .infraPrecheck => "infra_precheck"
  | .task => "task"

/-! ## The models, dumped and validated -/

namespace TicketRef

def modelDump (ticket : TicketRef) : Entries :=
  [("ticket_id", .text ticket.ticketId), ("native_id", .text ticket.nativeId)]

def modelValidate (entries : Entries) : Option TicketRef := do
  let ticketId ← requiredField Reader.text "ticket_id" entries
  let nativeId ← requiredField Reader.text "native_id" entries
  return { ticketId, nativeId }

end TicketRef

namespace ResourceSpec

def modelDump (resource : ResourceSpec) : Entries :=
  [("project_id", .text resource.projectId),
    ("resource_type", .text resource.resourceType),
    ("vendor_id", .text resource.vendorId),
    ("resource_id", .text resource.resourceId),
    ("name", .text resource.name),
    ("region", writeNullable .text resource.region),
    ("environment", writeNullable .text resource.environment),
    ("description", .text resource.description),
    ("tags", .list (resource.tags.map .text)),
    ("data", .payload resource.data),
    ("alert_groups", .list (resource.alertGroups.map .text))]

def modelValidate (entries : Entries) : Option ResourceSpec := do
  let projectId ← requiredField Reader.text "project_id" entries
  let resourceType ← requiredField Reader.text "resource_type" entries
  let vendorId ← optionalField Reader.text "" "vendor_id" entries
  let resourceId ← optionalField Reader.text "" "resource_id" entries
  let name ← requiredField Reader.text "name" entries
  let region ← optionalField (Reader.nullable Reader.text) none "region" entries
  let environment ← optionalField (Reader.nullable Reader.text) none "environment" entries
  let description ← optionalField Reader.text "" "description" entries
  let tags ← optionalField (Reader.list Reader.text) [] "tags" entries
  let data ← optionalField Reader.payload "{}" "data" entries
  let alertGroups ← optionalField (Reader.list Reader.text) [] "alert_groups" entries
  return { projectId, resourceType, vendorId, resourceId, name, region, environment, description,
           tags, data, alertGroups }

def respelled (spell : Json → Json) (resource : ResourceSpec) : ResourceSpec :=
  { resource with data := spell resource.data }

end ResourceSpec

namespace LegacyRequest

def modelDump (legacy : LegacyRequest) : Entries :=
  [("flow_type", .text legacy.flowType),
    ("project_id", writeNullable .text legacy.projectId),
    ("resource_type", writeNullable .text legacy.resourceType),
    ("variables", .payload legacy.flowVariables),
    ("db_operation", .text legacy.dbOperation),
    ("name", .text legacy.name),
    ("region", .text legacy.region)]

def modelValidate (entries : Entries) : Option LegacyRequest := do
  let flowType ← requiredField Reader.text "flow_type" entries
  let projectId ← optionalField (Reader.nullable Reader.text) none "project_id" entries
  let resourceType ← optionalField (Reader.nullable Reader.text) none "resource_type" entries
  let flowVariables ← optionalField Reader.payload "{}" "variables" entries
  let dbOperation ← requiredField Reader.text "db_operation" entries
  let name ← requiredField Reader.text "name" entries
  let region ← requiredField Reader.text "region" entries
  return { flowType, projectId, resourceType, flowVariables, dbOperation, name, region }

def respelled (spell : Json → Json) (legacy : LegacyRequest) : LegacyRequest :=
  { legacy with flowVariables := spell legacy.flowVariables }

end LegacyRequest

namespace ResolvedWorkflow

def modelDump (workflow : ResolvedWorkflow) : Entries :=
  [("identifier", .text workflow.identifier),
    ("name", writeNullable .text workflow.name),
    ("engine_type", .text workflow.engineType.value),
    ("automation_id", .text workflow.automationId),
    ("ticket_template_id", .text workflow.ticketTemplateId)]

def modelValidate (entries : Entries) : Option ResolvedWorkflow := do
  let identifier ← requiredField Reader.text "identifier" entries
  let name ← optionalField (Reader.nullable Reader.text) none "name" entries
  let engineType ← requiredField
    (Reader.member WorkflowEngineType.members WorkflowEngineType.value) "engine_type" entries
  let automationId ← requiredField Reader.text "automation_id" entries
  let ticketTemplateId ← requiredField Reader.text "ticket_template_id" entries
  return { identifier, name, engineType, automationId, ticketTemplateId }

end ResolvedWorkflow

namespace EngineFailure

def modelDump (failure : EngineFailure) : Entries :=
  [("failed_task", writeNullable .text failure.failedTask),
    ("responsible_group", writeNullable .text failure.responsibleGroup),
    ("detail", writeNullable .text failure.detail),
    ("exception_name", writeNullable .text failure.exceptionName),
    ("kind", .text failure.kind.value)]

def modelValidate (entries : Entries) : Option EngineFailure := do
  let failedTask ← optionalField (Reader.nullable Reader.text) none "failed_task" entries
  let responsibleGroup ← optionalField
    (Reader.nullable Reader.text) none "responsible_group" entries
  let detail ← optionalField (Reader.nullable Reader.text) none "detail" entries
  let exceptionName ← optionalField (Reader.nullable Reader.text) none "exception_name" entries
  let kind ← optionalField
    (Reader.member FailureKind.members FailureKind.value) .task "kind" entries
  return { failedTask, responsibleGroup, detail, exceptionName, kind }

end EngineFailure

namespace StepResult

def modelDump (result : StepResult) : Entries :=
  [("final_vendor_id", writeNullable .text result.finalVendorId)]

def modelValidate (entries : Entries) : Option StepResult := do
  let finalVendorId ← optionalField (Reader.nullable Reader.text) none "final_vendor_id" entries
  return { finalVendorId }

end StepResult

/-- A mapping keyed by step, in a document. -/
def StepMap.modelDump {α : Type} (write : α → Document) : StepMap α → Document :=
  writeMapping StepName.members StepName.value write

def StepMap.modelValidate {α : Type} (read : Reader α) : Reader (StepMap α) :=
  Reader.mapping StepName.members StepName.value read

namespace RunState

variable (pydantic : Pydantic)

def modelDump (state : RunState) : Entries :=
  [("workflow", .object state.workflow.modelDump),
    ("ticket_params", .payload state.ticketParams),
    ("workflow_params", .payload state.workflowParams),
    ("resource", writeNullable (fun resource => .object resource.modelDump) state.resource),
    ("operation", .text state.operation.value),
    ("legacy", writeNullable (fun legacy => .object legacy.modelDump) state.legacy),
    ("ticket", writeNullable (fun ticket => .object ticket.modelDump) state.ticket),
    ("engine_run_id", writeNullable .text state.engineRunId),
    ("resource_configured", .bool state.resourceConfigured),
    ("resource_finalized", .bool state.resourceFinalized),
    ("ticket_closed", .bool state.ticketClosed),
    ("legacy_submitted", .bool state.legacySubmitted),
    ("legacy_reference", writeNullable .text state.legacyReference),
    ("step_attempts", StepMap.modelDump .number state.stepAttempts),
    ("step_started_at", StepMap.modelDump (fun time => .text (pydantic.isoformat time))
      state.stepStartedAt),
    ("attempt_started_at", writeNullable (fun time => .text (pydantic.isoformat time))
      state.attemptStartedAt),
    ("errors", StepMap.modelDump .text state.errors),
    ("step_results", StepMap.modelDump (fun result => .object result.modelDump)
      state.stepResults),
    ("engine_failure", writeNullable (fun failure => .object failure.modelDump)
      state.engineFailure),
    ("incident_id", writeNullable .text state.incidentId)]

def modelValidate (entries : Entries) : Option RunState := do
  let workflow ← requiredField (Reader.record ResolvedWorkflow.modelValidate) "workflow" entries
  let ticketParams ← optionalField Reader.payload "{}" "ticket_params" entries
  let workflowParams ← optionalField Reader.payload "{}" "workflow_params" entries
  let resource ← optionalField
    (Reader.nullable (Reader.record ResourceSpec.modelValidate)) none "resource" entries
  let operation ← optionalField
    (Reader.member ResourceOperation.members ResourceOperation.value) .create "operation" entries
  let legacy ← optionalField
    (Reader.nullable (Reader.record LegacyRequest.modelValidate)) none "legacy" entries
  let ticket ← optionalField
    (Reader.nullable (Reader.record TicketRef.modelValidate)) none "ticket" entries
  let engineRunId ← optionalField (Reader.nullable Reader.text) none "engine_run_id" entries
  let resourceConfigured ← optionalField pydantic.bool false "resource_configured" entries
  let resourceFinalized ← optionalField pydantic.bool false "resource_finalized" entries
  let ticketClosed ← optionalField pydantic.bool false "ticket_closed" entries
  let legacySubmitted ← optionalField pydantic.bool false "legacy_submitted" entries
  let legacyReference ← optionalField (Reader.nullable Reader.text) none "legacy_reference" entries
  let stepAttempts ← optionalField
    (StepMap.modelValidate pydantic.int) .empty "step_attempts" entries
  let stepStartedAt ← optionalField
    (StepMap.modelValidate pydantic.datetime) .empty "step_started_at" entries
  let attemptStartedAt ← optionalField
    (Reader.nullable pydantic.datetime) none "attempt_started_at" entries
  let errors ← optionalField (StepMap.modelValidate Reader.text) .empty "errors" entries
  let stepResults ← optionalField
    (StepMap.modelValidate (Reader.record StepResult.modelValidate)) .empty "step_results" entries
  let engineFailure ← optionalField
    (Reader.nullable (Reader.record EngineFailure.modelValidate)) none "engine_failure" entries
  let incidentId ← optionalField (Reader.nullable Reader.text) none "incident_id" entries
  return { workflow, ticketParams, workflowParams, resource, operation, legacy, ticket, engineRunId,
           resourceConfigured, resourceFinalized, ticketClosed, legacySubmitted, legacyReference,
           stepAttempts, stepStartedAt, attemptStartedAt, errors, stepResults, engineFailure,
           incidentId }

/-- The state with its free-form parts as the database spells them. -/
def respelled (spell : Json → Json) (state : RunState) : RunState :=
  { state with
    ticketParams := spell state.ticketParams
    workflowParams := spell state.workflowParams
    resource := state.resource.map (ResourceSpec.respelled spell)
    legacy := state.legacy.map (LegacyRequest.respelled spell) }

/-- What the fields that may be missing are dumped as by default. -/
def fallbacks (workflow : ResolvedWorkflow) : Entries :=
  (modelDump pydantic { workflow := workflow }).tail

end RunState

/-! ## What is read back -/

theorem StepName.members_nodup : StepName.members.Nodup := by
  decide

section Reading

variable {α β : Type} {spell : Json → Json} {pydantic : Pydantic}

theorem bind_of_some {field : Option α} {value : α} {next : α → Option β} {result : Option β}
    (hfield : field = some value) (hnext : next value = result) : field >>= next = result := by
  rw [hfield]
  exact hnext

theorem reads_engineType : Reads spell (fun member : WorkflowEngineType => .text member.value)
    (Reader.member WorkflowEngineType.members WorkflowEngineType.value) id :=
  reads_member fun member => by cases member <;> decide

theorem reads_operation : Reads spell (fun member : ResourceOperation => .text member.value)
    (Reader.member ResourceOperation.members ResourceOperation.value) id :=
  reads_member fun member => by cases member <;> decide

theorem reads_kind : Reads spell (fun member : FailureKind => .text member.value)
    (Reader.member FailureKind.members FailureKind.value) id :=
  reads_member fun member => by cases member <;> decide

theorem reads_nullableText :
    Reads spell (writeNullable .text) (Reader.nullable Reader.text) id := by
  have hreads := @Reads.nullable String spell .text Reader.text id reads_text (by simp)
  rwa [Option.map_id] at hreads

theorem reads_texts :
    Reads spell (fun items => .list (items.map .text)) (Reader.list Reader.text) id := by
  have hreads := @Reads.list String spell .text Reader.text id reads_text
  rwa [List.map_id_fun] at hreads

theorem reads_number : Reads spell .number pydantic.int id := by
  intro value doc hkept
  cases hkept
  exact pydantic.int_number value

theorem reads_flag : Reads spell .bool pydantic.bool id := by
  intro value doc hkept
  cases hkept
  exact pydantic.bool_bool value

theorem reads_datetime :
    Reads spell (fun time => .text (pydantic.isoformat time)) pydantic.datetime id := by
  intro value doc hkept
  cases hkept
  exact pydantic.datetime_text value

theorem reads_steps {write : α → Document} {read : Reader α} (hreads : Reads spell write read id) :
    Reads spell (StepMap.modelDump write) (StepMap.modelValidate read) id := by
  have hmapping := hreads.mapping StepName.mem_members StepName.members_nodup
    StepName.value_injective
  intro entries doc hkept
  have hread := hmapping entries doc hkept
  simp only [Option.map_id, id] at hread
  exact hread

theorem TicketRef.reads : Reads spell (fun ticket => .object (modelDump ticket))
    (Reader.record modelValidate) id := by
  apply Reads.record
  intro ticket kept hcovers
  refine bind_of_some (hcovers.required reads_text rfl rfl) ?_
  refine bind_of_some (hcovers.required reads_text rfl rfl) ?_
  rfl

theorem ResourceSpec.reads : Reads spell (fun resource => .object (modelDump resource))
    (Reader.record modelValidate) (respelled spell) := by
  apply Reads.record
  intro resource kept hcovers
  refine bind_of_some (hcovers.required reads_text rfl rfl) ?_
  refine bind_of_some (hcovers.required reads_text rfl rfl) ?_
  refine bind_of_some (hcovers.optional reads_text rfl (by simp)) ?_
  refine bind_of_some (hcovers.optional reads_text rfl (by simp)) ?_
  refine bind_of_some (hcovers.required reads_text rfl rfl) ?_
  refine bind_of_some (hcovers.optional reads_nullableText rfl (by simp)) ?_
  refine bind_of_some (hcovers.optional reads_nullableText rfl (by simp)) ?_
  refine bind_of_some (hcovers.optional reads_text rfl (by simp)) ?_
  refine bind_of_some (hcovers.optional reads_texts rfl (by simp)) ?_
  refine bind_of_some (hcovers.optional reads_payload rfl (by simp)) ?_
  refine bind_of_some (hcovers.optional reads_texts rfl (by simp)) ?_
  rfl

theorem LegacyRequest.reads : Reads spell (fun legacy => .object (modelDump legacy))
    (Reader.record modelValidate) (respelled spell) := by
  apply Reads.record
  intro legacy kept hcovers
  refine bind_of_some (hcovers.required reads_text rfl rfl) ?_
  refine bind_of_some (hcovers.optional reads_nullableText rfl (by simp)) ?_
  refine bind_of_some (hcovers.optional reads_nullableText rfl (by simp)) ?_
  refine bind_of_some (hcovers.optional reads_payload rfl (by simp)) ?_
  refine bind_of_some (hcovers.required reads_text rfl rfl) ?_
  refine bind_of_some (hcovers.required reads_text rfl rfl) ?_
  refine bind_of_some (hcovers.required reads_text rfl rfl) ?_
  rfl

theorem ResolvedWorkflow.reads : Reads spell (fun workflow => .object (modelDump workflow))
    (Reader.record modelValidate) id := by
  apply Reads.record
  intro workflow kept hcovers
  refine bind_of_some (hcovers.required reads_text rfl rfl) ?_
  refine bind_of_some (hcovers.optional reads_nullableText rfl (by simp)) ?_
  refine bind_of_some (hcovers.required reads_engineType rfl rfl) ?_
  refine bind_of_some (hcovers.required reads_text rfl rfl) ?_
  refine bind_of_some (hcovers.required reads_text rfl rfl) ?_
  rfl

theorem EngineFailure.reads : Reads spell (fun failure => .object (modelDump failure))
    (Reader.record modelValidate) id := by
  apply Reads.record
  intro failure kept hcovers
  refine bind_of_some (hcovers.optional reads_nullableText rfl (by simp)) ?_
  refine bind_of_some (hcovers.optional reads_nullableText rfl (by simp)) ?_
  refine bind_of_some (hcovers.optional reads_nullableText rfl (by simp)) ?_
  refine bind_of_some (hcovers.optional reads_nullableText rfl (by simp)) ?_
  refine bind_of_some (hcovers.optional reads_kind rfl (by simp)) ?_
  rfl

theorem StepResult.reads : Reads spell (fun result => .object (modelDump result))
    (Reader.record modelValidate) id := by
  apply Reads.record
  intro result kept hcovers
  refine bind_of_some (hcovers.optional reads_nullableText rfl (by simp)) ?_
  rfl

/-- A state is validated as it was dumped, wherever what was dumped is covered. -/
theorem RunState.modelValidate_covers {state : RunState} {workflow : ResolvedWorkflow}
    {kept : Entries} (hcovers : Covers spell (state.modelDump pydantic)
      (fallbacks pydantic workflow) kept) :
    modelValidate pydantic kept = some (state.respelled spell) := by
  refine bind_of_some (hcovers.required ResolvedWorkflow.reads rfl rfl) ?_
  refine bind_of_some (hcovers.defaulted reads_payload rfl rfl rfl) ?_
  refine bind_of_some (hcovers.defaulted reads_payload rfl rfl rfl) ?_
  refine bind_of_some (hcovers.defaulted (ResourceSpec.reads.nullable (by simp)) rfl rfl rfl) ?_
  refine bind_of_some (hcovers.defaulted reads_operation rfl rfl rfl) ?_
  refine bind_of_some (hcovers.defaulted (LegacyRequest.reads.nullable (by simp)) rfl rfl rfl) ?_
  refine bind_of_some (hcovers.defaulted (TicketRef.reads.nullable (by simp)) rfl rfl rfl) ?_
  refine bind_of_some (hcovers.defaulted reads_nullableText rfl rfl rfl) ?_
  refine bind_of_some (hcovers.defaulted reads_flag rfl rfl (pydantic.bool_bool false)) ?_
  refine bind_of_some (hcovers.defaulted reads_flag rfl rfl (pydantic.bool_bool false)) ?_
  refine bind_of_some (hcovers.defaulted reads_flag rfl rfl (pydantic.bool_bool false)) ?_
  refine bind_of_some (hcovers.defaulted reads_flag rfl rfl (pydantic.bool_bool false)) ?_
  refine bind_of_some (hcovers.defaulted reads_nullableText rfl rfl rfl) ?_
  refine bind_of_some (hcovers.defaulted (reads_steps reads_number) rfl rfl rfl) ?_
  refine bind_of_some (hcovers.defaulted (reads_steps reads_datetime) rfl rfl rfl) ?_
  refine bind_of_some (hcovers.defaulted (reads_datetime.nullable (by simp)) rfl rfl rfl) ?_
  refine bind_of_some (hcovers.defaulted (reads_steps reads_text) rfl rfl rfl) ?_
  refine bind_of_some (hcovers.defaulted (reads_steps StepResult.reads) rfl rfl rfl) ?_
  refine bind_of_some (hcovers.defaulted (EngineFailure.reads.nullable (by simp)) rfl rfl rfl) ?_
  refine bind_of_some (hcovers.defaulted reads_nullableText rfl rfl rfl) ?_
  simp [respelled]

end Reading

section Spelling

variable {spell : Json → Json}

theorem ResourceSpec.respelled_comp (hspell : ∀ text, spell (spell text) = spell text) :
    ResourceSpec.respelled spell ∘ ResourceSpec.respelled spell = ResourceSpec.respelled spell := by
  funext resource
  simp only [Function.comp_apply, ResourceSpec.respelled, hspell]

theorem LegacyRequest.respelled_comp (hspell : ∀ text, spell (spell text) = spell text) :
    LegacyRequest.respelled spell ∘ LegacyRequest.respelled spell =
      LegacyRequest.respelled spell := by
  funext legacy
  simp only [Function.comp_apply, LegacyRequest.respelled, hspell]

theorem RunState.respelled_respelled (hspell : ∀ text, spell (spell text) = spell text)
    (state : RunState) : (state.respelled spell).respelled spell = state.respelled spell := by
  simp only [respelled, hspell, Option.map_map, ResourceSpec.respelled_comp hspell,
    LegacyRequest.respelled_comp hspell]

end Spelling

/-! ## The column type -/

/-- What is relied on of the database where a dumped state is written: it is refused,
as a text with a NUL character is, or kept. -/
structure Jsonb (pydantic : Pydantic) where
  write : Document → Option Json
  read : Json → Document
  /-- The text of a free-form part, once the database has read it. -/
  spell : Json → Json
  /-- The exception that a refused document is answered with. -/
  refusal : Document → String × String
  /-- How `#>>` prints what is no text. -/
  render : Document → String
  spell_spell : ∀ text, spell (spell text) = spell text
  spell_empty : spell "{}" = "{}"
  kept : ∀ (state : RunState) {text : Json},
    write (.object (state.modelDump pydantic)) = some text →
      Retained spell (.object (state.modelDump pydantic)) (read text)

namespace Jsonb

variable {pydantic : Pydantic} (jsonb : Jsonb pydantic)

def processBindParam (state : RunState) : Except PyException Json :=
  match jsonb.write (.object (state.modelDump pydantic)) with
  | some text => .ok text
  | none =>
    let (name, message) := jsonb.refusal (.object (state.modelDump pydantic))
    .error (.other name message)

def processResultValue : Queue.Decoder :=
  fun text =>
    match Reader.record (RunState.modelValidate pydantic) (jsonb.read text) with
    | some state => .ok state
    | none => .error (.other "ValidationError" (pydantic.describe (jsonb.read text)))

/-- `column #>> path`, where SQL's NULL is `none`. -/
def pathText (path : List String) (text : Json) : Option String :=
  match atPath path (jsonb.read text) with
  | none | some .null => none
  | some (.text found) => some found
  | some doc => some (jsonb.render doc)

variable {jsonb} {state : RunState} {text : Json}

theorem processBindParam_eq_ok (hwrite : jsonb.processBindParam state = .ok text) :
    Retained jsonb.spell (.object (state.modelDump pydantic)) (jsonb.read text) := by
  unfold processBindParam at hwrite
  cases hwritten : jsonb.write (.object (state.modelDump pydantic)) with
  | none =>
      rw [hwritten] at hwrite
      cases hwrite
  | some written =>
      rw [hwritten] at hwrite
      cases hwrite
      exact jsonb.kept state hwritten

theorem processResultValue_eq_ok (hwrite : jsonb.processBindParam state = .ok text) :
    jsonb.processResultValue text = .ok (state.respelled jsonb.spell) := by
  have hkept := processBindParam_eq_ok hwrite
  -- what was dumped is an object, so an object was kept of it
  generalize hdoc : jsonb.read text = doc at hkept
  cases hkept with
  | object hdistinct hkeys hvalues =>
      have hcovers := Retained.covers (.object hdistinct hkeys hvalues)
      have hread := RunState.modelValidate_covers
        (hcovers.mono (RunState.fallbacks pydantic state.workflow))
      simp only [processResultValue, hdoc, Reader.record, hread]

section Paths

variable {written : Entries} {name key : String} {α : Type}

theorem pathText_field (hkept : Retained jsonb.spell (.object written) (jsonb.read text))
    {value : Option String} (hwritten : written.lookup name = some (writeNullable .text value)) :
    jsonb.pathText [name] text = value := by
  obtain ⟨kept, held, hread, hheld, hlookup⟩ := hkept.field hwritten
  simp only [pathText, hread, atPath, hlookup, Option.bind_some]
  cases value with
  | none =>
      cases hheld
      rfl
  | some value =>
      cases hheld
      rfl

theorem pathText_nested (hkept : Retained jsonb.spell (.object written) (jsonb.read text))
    {fields : α → Entries} {value : Option α} {found : α → String}
    (hwritten : written.lookup name =
      some (writeNullable (fun value => .object (fields value)) value))
    (hfound : ∀ value, (fields value).lookup key = some (.text (found value))) :
    jsonb.pathText [name, key] text = value.map found := by
  obtain ⟨kept, held, hread, hheld, hlookup⟩ := hkept.field hwritten
  simp only [pathText, hread, atPath, hlookup, Option.bind_some]
  cases value with
  | none =>
      cases hheld
      rfl
  | some value =>
      obtain ⟨inner, leaf, hinner, hleaf, hdeep⟩ := Retained.field hheld (hfound value)
      cases hleaf
      simp only [hinner, atPath, hdeep, Option.bind_some, Option.map_some]

end Paths

/-- What the queries by path compare is what the state has in the field. -/
theorem pathText_eq (hwrite : jsonb.processBindParam state = .ok text) :
    jsonb.pathText ["ticket", "ticket_id"] text = state.ticket.map TicketRef.ticketId ∧
      jsonb.pathText ["resource", "vendor_id"] text = state.resource.map ResourceSpec.vendorId ∧
      jsonb.pathText ["resource", "resource_id"] text =
        state.resource.map ResourceSpec.resourceId ∧
      jsonb.pathText ["engine_run_id"] text = state.engineRunId := by
  have hkept := processBindParam_eq_ok hwrite
  exact ⟨pathText_nested hkept rfl fun _ => rfl, pathText_nested hkept rfl fun _ => rfl,
    pathText_nested hkept rfl fun _ => rfl, pathText_field hkept rfl⟩

end Jsonb

/-- What is read of a column that covers a dumped state, whether an older schema wrote it
without the fields that have their defaults or a newer one with fields of its own; and
saving what was read changes nothing about it. -/
theorem covered_state_kept {pydantic : Pydantic} (jsonb : Jsonb pydantic) (state : RunState)
    (text : Json) (kept : Entries) (hread : jsonb.read text = .object kept)
    (hcovers : Covers jsonb.spell (state.modelDump pydantic)
      (RunState.fallbacks pydantic state.workflow) kept) :
    jsonb.processResultValue text = .ok (state.respelled jsonb.spell) ∧
      ∀ later, jsonb.processBindParam (state.respelled jsonb.spell) = .ok later →
        jsonb.processResultValue later = .ok (state.respelled jsonb.spell) := by
  constructor
  · simp only [Jsonb.processResultValue, hread, Reader.record,
      RunState.modelValidate_covers hcovers]
  · intro later hwrite
    rw [Jsonb.processResultValue_eq_ok hwrite, RunState.respelled_respelled jsonb.spell_spell]

section Examples

/-- A text for every time; the sample has none. -/
def sampleIsoformat : Datetime → String
  | .aware (.ofNat instant) => String.ofList ('a' :: List.replicate instant '1')
  | .aware (.negSucc instant) => String.ofList ('b' :: List.replicate instant '1')
  | .naive (.ofNat instant) => String.ofList ('c' :: List.replicate instant '1')
  | .naive (.negSucc instant) => String.ofList ('d' :: List.replicate instant '1')

def samplePydantic : Pydantic where
  int
    | .number value => some value
    | _ => none
  bool
    | .bool value => some value
    | _ => none
  datetime
    | .text value =>
        match value.toList with
        | 'a' :: ones => some (.aware (.ofNat ones.length))
        | 'b' :: ones => some (.aware (.negSucc ones.length))
        | 'c' :: ones => some (.naive (.ofNat ones.length))
        | 'd' :: ones => some (.naive (.negSucc ones.length))
        | _ => none
    | _ => none
  isoformat := sampleIsoformat
  describe _ := "1 validation error for RunState"
  int_number _ := rfl
  bool_bool _ := rfl
  datetime_text value := by
    cases value with
    | aware instant => cases instant <;> simp [sampleIsoformat]
    | naive instant => cases instant <;> simp [sampleIsoformat]

def sampleState : RunState :=
  (triggered 0 sampleId automationWorkflow automationSample).runState

def sampleFields : Entries :=
  sampleState.modelDump samplePydantic

theorem sampleFields_kept : ∀ entry ∈ sampleFields, Retained id entry.2 entry.2 := by
  have hworkflow : ∀ entry ∈ sampleState.workflow.modelDump, Retained id entry.2 entry.2 := by
    simp only [ResolvedWorkflow.modelDump, List.forall_mem_cons]
    exact ⟨.text _, .null, .text _, .text _, .text _, by simp⟩
  have hticket : ∀ entry ∈ TicketRef.modelDump ⟨"RITM0000001", "1"⟩,
      Retained id entry.2 entry.2 := by
    simp only [TicketRef.modelDump, List.forall_mem_cons]
    exact ⟨.text _, .text _, by simp⟩
  have hsteps : Retained id (.object []) (.object []) := Retained.object_self (by simp) (by simp)
  simp only [sampleFields, RunState.modelDump, List.forall_mem_cons]
  exact ⟨Retained.object_self (by decide) hworkflow, .payload _, .payload _, .null, .text _, .null,
    Retained.object_self (by decide) hticket, .null, .bool _, .bool _, .bool _, .bool _, .null,
    hsteps, hsteps, .null, hsteps, hsteps, .null, .null, by simp⟩

/-- The state as an earlier schema has it, with a field that was dropped since. -/
def olderFields : Entries :=
  [("ticket", .object (TicketRef.modelDump ⟨"RITM0000001", "1"⟩)), ("retired", .bool true),
    ("workflow", .object sampleState.workflow.modelDump)]

open Classical in
/-- A database that takes the sample alone. -/
noncomputable def sampleJsonb : Jsonb samplePydantic where
  write doc := if doc = .object sampleFields then some "current" else none
  read text := .object (if text = "current" then sampleFields else olderFields)
  spell := id
  refusal _ := ("DataError", "invalid input for query argument")
  render _ := ""
  spell_spell _ := rfl
  spell_empty := rfl
  kept state text hwrite := by
    split at hwrite
    next hdoc =>
      cases hwrite
      rw [hdoc, if_pos rfl]
      exact Retained.object_self (by decide) sampleFields_kept
    next => cases hwrite

theorem covered_state_kept_older :
    sampleJsonb.processResultValue "older" = .ok (sampleState.respelled id) ∧
      ∀ later, sampleJsonb.processBindParam (sampleState.respelled id) = .ok later →
        sampleJsonb.processResultValue later = .ok (sampleState.respelled id) := by
  apply covered_state_kept sampleJsonb sampleState "older" olderFields
  · exact congrArg Document.object (if_neg (by decide))
  · -- every field of the sample is there, or has its default
    have hlookups : ∀ entry ∈ sampleFields, (olderFields.lookup entry.1).or
        ((RunState.fallbacks samplePydantic sampleState.workflow).lookup entry.1) =
          some entry.2 := by
      simp only [sampleFields, RunState.modelDump, List.forall_mem_cons]
      exact ⟨rfl, rfl, rfl, rfl, rfl, rfl, rfl, rfl, rfl, rfl, rfl, rfl, rfl, rfl, rfl, rfl, rfl,
        rfl, rfl, rfl, by simp⟩
    intro name doc hwritten
    have hmem := mem_of_lookup hwritten
    exact ⟨doc, sampleFields_kept _ hmem, hlookups _ hmem⟩

end Examples

end CloudioOrchestrator

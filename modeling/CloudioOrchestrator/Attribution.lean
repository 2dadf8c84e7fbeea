import CloudioOrchestrator.Deletions
import CloudioOrchestrator.Lookups

/-! # Attribution of runs to records

Under which record a run is stored, at any point of its drives and however it
ends. What a lookup of a record answers are runs against that record, unless a
create is triggered that carries the id of a record of its own accord: nothing
takes that id off the run before the provider answers with another one.
-/

namespace CloudioOrchestrator

open Interaction

/-! ## The rows of a store -/

namespace Store

theorem map_runId_put (rows : Rows) (row : WorkflowRun) :
    (put rows row).map WorkflowRun.runId = rows.map WorkflowRun.runId := by
  rw [put, List.map_map]
  apply List.map_congr_left
  intro other _
  by_cases hid : other.runId = row.runId <;> simp [hid]

theorem map_runId_reschedule (select : WorkflowRun → Bool) (time : Time) (rows : Rows) :
    (reschedule select time rows).map WorkflowRun.runId = rows.map WorkflowRun.runId := by
  rw [reschedule, List.map_map]
  apply List.map_congr_left
  intro row _
  by_cases hselect : select row = true <;> simp [hselect]

/-- Where ids are not shared, a row is what its id is looked up as. -/
theorem get_of_mem {rows : Rows} {row : WorkflowRun}
    (hrows : (rows.map WorkflowRun.runId).Nodup) (hrow : row ∈ rows) :
    get rows row.runId = some row := by
  induction rows with
  | nil => cases hrow
  | cons first rest ih =>
      rw [List.map_cons, List.nodup_cons] at hrows
      by_cases hid : first.runId = row.runId
      · cases List.mem_cons.mp hrow with
        | inl heq => simp [get, heq]
        | inr hrest =>
            have hshared : first.runId ∈ rest.map WorkflowRun.runId := by
              rw [hid]
              exact List.mem_map_of_mem hrest
            exact absurd hshared hrows.1
      · have hrest : row ∈ rest := by
          cases List.mem_cons.mp hrow with
          | inl heq => exact absurd (congrArg WorkflowRun.runId heq).symm hid
          | inr hrest => exact hrest
        have hfound := ih hrows.2 hrest
        simpa [get, hid] using hfound

end Store

theorem World.insert_runIds {world : World} (run : WorkflowRun)
    (hrows : (world.rows.map WorkflowRun.runId).Nodup) :
    ((world.insert run).rows.map WorkflowRun.runId).Nodup := by
  unfold insert
  split
  next => exact hrows
  next htaken =>
    simp only [Store.create, htaken, if_false, Bool.false_eq_true, List.map_cons, List.nodup_cons]
    constructor
    · intro hmem
      obtain ⟨row, hrow, hid⟩ := List.mem_map.mp hmem
      have hget := Store.get_of_mem hrows hrow
      rw [hid] at hget
      exact htaken (by simp [hget])
    · exact hrows

/-- No two rows have one id, whatever drives and the outside do. -/
theorem reached_runIds (executor : Executor) (clock : Time) (moves : List (Move system)) :
    ((reached executor clock moves).world.rows.map WorkflowRun.runId).Nodup := by
  apply Pool.run_keeps (V := system) executor.handle
    fun world => ((World.rows world).map WorkflowRun.runId).Nodup
  · intro drive choice op world hrows
    cases op with
    | runsGet runId =>
        simp only [World.serve]
        rcases world.load_cases drive choice runId with ⟨_, -, hserved⟩ | ⟨_, -, hserved⟩
        · rwa [hserved]
        · rwa [hserved]
    | runsSave run =>
        simp only [World.serve]
        rcases world.save_cases drive choice run with ⟨_, hserved⟩ | ⟨row, _, -, -, hserved⟩
        · rwa [hserved]
        · rw [hserved]
          simp only [World.commit, Store.map_runId_put]
          exact hrows
    | _ => exact hrows
  · intro event world _ hrows
    cases event with
    | trigger runId workflow request =>
        simp only [World.outside]
        split
        · exact World.insert_runIds _ hrows
        · exact hrows
    | triggerLegacy runId request => exact World.insert_runIds _ hrows
    | claimDue limit lease locked =>
        simp only [World.outside, Store.claimDue, Store.map_runId_reschedule]
        exact hrows
    | wake runId =>
        simp only [World.outside, Store.wake, Store.map_runId_reschedule]
        exact hrows
    | tick now => exact hrows
  · exact List.nodup_nil

/-! ## Where runs come from -/

/-- A run is one that a request among the moves creates. -/
def Requested (moves : List (Move system)) (origin : WorkflowRun) : Prop :=
  (∃ now runId workflow request, .outside (.trigger runId workflow request) ∈ moves ∧
    trigger now runId workflow request = .ok origin) ∨
  ∃ now runId request, .outside (.triggerLegacy runId request) ∈ moves ∧
    origin = triggerLegacy now runId request

theorem World.insert_created {world : World} {run origin : WorkflowRun}
    (hcreated : .created origin ∈ (world.insert run).history) :
    .created origin ∈ world.history ∨ origin = run := by
  unfold insert at hcreated
  split at hcreated
  · exact .inl hcreated
  · cases List.mem_cons.mp hcreated with
    | inl heq =>
        cases heq
        exact .inr rfl
    | inr hold => exact .inl hold

theorem reached_requested (executor : Executor) (clock : Time) (moves : List (Move system)) :
    ∀ origin, .created origin ∈ (reached executor clock moves).world.history →
      Requested moves origin := by
  apply Pool.run_keeps (V := system) executor.handle fun world =>
    ∀ origin, .created origin ∈ World.history world → Requested moves origin
  · intro drive choice op world hrequested origin hcreated
    have hgrows : world.Grows (fun event => event.actor = some drive)
        (world.serve drive choice op).2 := World.grows_serve drive choice op fun _ hown => hown
    obtain ⟨newer, hhistory, hown⟩ := hgrows
    change .created origin ∈ (world.serve drive choice op).2.history at hcreated
    rw [hhistory] at hcreated
    cases List.mem_append.mp hcreated with
    | inl hnew => cases hown _ hnew
    | inr hold => exact hrequested origin hold
  · intro event world hmove hrequested origin hcreated
    cases event with
    | trigger runId workflow request =>
        simp only [World.outside] at hcreated
        split at hcreated
        next run htrigger =>
          cases World.insert_created hcreated with
          | inl hold => exact hrequested origin hold
          | inr heq => exact .inl ⟨_, runId, workflow, request, hmove, heq ▸ htrigger⟩
        next => exact hrequested origin hcreated
    | triggerLegacy runId request =>
        cases World.insert_created hcreated with
        | inl hold => exact hrequested origin hold
        | inr heq => exact .inr ⟨_, runId, request, hmove, heq⟩
    | _ => exact hrequested origin hcreated
  · intro origin hcreated
    cases hcreated

/-! ## The record of a run -/

/-- The provider answered a create of the run with the id of a record. -/
def CreateAnsweredWith (resourceId : String) (runId : UUID) (history : History) : Prop :=
  ∃ projectId resourceType body key, Answered runId (.step .configureResource)
    (.createResource projectId resourceType body key) (.ok (some resourceId)) history

/-- A run was triggered, for an operation, on the record with the id. -/
def TriggeredWith (resourceId : String) (runId : UUID) (operation : ResourceOperation)
    (history : History) : Prop :=
  ∃ origin resource, .created origin ∈ history ∧ origin.runId = runId ∧
    origin.runState.operation = operation ∧ origin.runState.resource = some resource ∧
    resource.resourceId = resourceId

/-- The record a run is stored under is the one it was triggered with, or the one
its create was answered with. -/
def Attributed (run : WorkflowRun) (history : History) : Prop :=
  ∀ resource, run.runState.resource = some resource →
    TriggeredWith resource.resourceId run.runId run.runState.operation history ∨
    run.runState.operation = .create ∧
      CreateAnsweredWith resource.resourceId run.runId history

namespace Attributed

variable {run : WorkflowRun} {older : History}

theorem grows (event : Event) (hattributed : Attributed run older) :
    Attributed run (event :: older) := by
  intro resource hresource
  cases hattributed resource hresource with
  | inl htriggered =>
      obtain ⟨origin, wanted, hcreated, horigin⟩ := htriggered
      exact .inl ⟨origin, wanted, List.mem_cons_of_mem _ hcreated, horigin⟩
  | inr hanswered =>
      obtain ⟨hcreate, projectId, resourceType, body, key, hanswered⟩ := hanswered
      exact .inr ⟨hcreate, projectId, resourceType, body, key, hanswered.grows event⟩

theorem congr {changed : WorkflowRun} (hattributed : Attributed run older)
    (hsame : run.SameOrigin changed) (hprogress : run.runState.SameProgress changed.runState) :
    Attributed changed older := by
  obtain ⟨hid, -⟩ := hsame
  obtain ⟨-, -, -, hoperation, -, hresource, -⟩ := hprogress
  unfold Attributed at *
  rw [← hid, ← hoperation, ← hresource]
  exact hattributed

theorem born : Attributed run (.created run :: older) := by
  intro resource hresource
  exact .inl ⟨run, resource, List.mem_cons_self, rfl, rfl, hresource, rfl⟩

/-- A resource under the same record id is attributed as well. -/
theorem of_sameRecord {state : RunState} (hattributed : Attributed run older)
    (hoperation : run.runState.operation = state.operation)
    (hresource : ∀ resource, state.resource = some resource → ∃ known,
      run.runState.resource = some known ∧ known.resourceId = resource.resourceId) :
    Attributed { run with runState := state } older := by
  intro resource hstate
  obtain ⟨known, hknown, hid⟩ := hresource resource hstate
  have hattributed := hattributed known hknown
  rw [hid, hoperation] at hattributed
  exact hattributed

/-- Only the answer to a create puts a run under another record. -/
theorem ended {engines : List WorkflowEngineType} {drive : DriveId} {step : StepName}
    {trace : Trace Providers} {outcome : Except PyException Bool} {final : RunState}
    (hid : run.runId = drive.subject) (hattributed : Attributed run older)
    (hrecorded : Recorded drive step trace older)
    (hend : HandlerEnd engines run run.runState step trace outcome final) :
    Attributed { run with runState := final } older := by
  cases hend with
  | resourceCreated answer hnew hresource hcreate =>
      rename_i known
      intro resource hassigned
      obtain rfl := Option.some.inj hassigned
      have hsame := hattributed known hresource
      cases answer with
      | none => exact hsame
      | some resourceId =>
          by_cases hblank : resourceId = ""
          · have hkept : (assigned run known (some resourceId)).resourceId = known.resourceId := by
              simp [assigned, placeholder, hblank]
            rw [hkept]
            exact hsame
          · -- The provider's id replaces whatever the run was triggered with.
            have hreplaced : (assigned run known (some resourceId)).resourceId = resourceId := by
              simp [assigned, hblank]
            have hanswered := hrecorded.answered List.mem_cons_self
            rw [← hid] at hanswered
            rw [hreplaced]
            exact .inr ⟨hcreate, _, _, _, _, hanswered⟩
  -- the placeholder keeps the id the run was triggered with
  | createRefused error hnew hresource hcreate =>
      refine hattributed.of_sameRecord rfl ?_
      intro resource hplaced
      obtain rfl := Option.some.inj hplaced
      exact ⟨_, hresource, rfl⟩
  | written hresource hnew hkept =>
      refine hattributed.of_sameRecord rfl ?_
      intro resource hfinal
      unfold finalized at hfinal
      split at hfinal
      · obtain rfl := Option.some.inj hfinal
        exact ⟨_, hresource, rfl⟩
      · obtain rfl := Option.some.inj hfinal
        exact ⟨_, hresource, rfl⟩
  | succeededWith output hsome hresource =>
      unfold captured
      split <;> exact hattributed
  | engineFailed failure hsome => cases failure <;> exact hattributed
  | _ => exact hattributed

end Attributed

/-- Runs are stored under records of their own. -/
def attributing (engines : List WorkflowEngineType) : Upkeep engines where
  fact := ⟨Attributed, fun event hattributed => hattributed.grows event⟩
  event _ _ := True
  steady hattributed hsame hprogress := hattributed.congr hsame hprogress
  born _ := .born
  created _ _ := trivial
  loaded _ _ _ := trivial
  saved _ _ _ := trivial
  logged _ _ _ := trivial
  aside _ _ _ _ _ _ := trivial
  called _ _ _ _ _ _ := trivial
  ended hid hattributed hrecorded hend := hattributed.ended hid hrecorded hend

/-! ## What the lookups answer -/

/-- No create is triggered on the record with the id. -/
def NoCreateNames (resourceId : String) (moves : List (Move system)) : Prop :=
  ∀ runId workflow request resource,
    .outside (.trigger runId (some workflow) request) ∈ moves → workflow.runType = .resource →
    request.operation = .create → request.resource = some resource →
    resource.resourceId ≠ resourceId

/-- A run against the record: it was triggered to update or delete it, or it
creates and its create was answered with it. -/
def Targets (resourceId : String) (run : WorkflowRun) (history : History) : Prop :=
  run.runState.operation ≠ .create ∧
      TriggeredWith resourceId run.runId run.runState.operation history ∨
    run.runState.operation = .create ∧ CreateAnsweredWith resourceId run.runId history

/-- The rows of a world with the times they were created and written at. -/
def World.table (world : World) (createdAt updatedAt : UUID → Time) : List RunRow :=
  world.rows.map fun run => ⟨run, createdAt run.runId, updatedAt run.runId⟩

theorem Requested.names {moves : List (Move system)} {origin : WorkflowRun}
    {resource : ResourceSpec} (hrequested : Requested moves origin)
    (hresource : origin.runState.resource = some resource)
    (hcreate : origin.runState.operation = .create) :
    ¬ NoCreateNames resource.resourceId moves := by
  intro hnone
  cases hrequested with
  | inl htriggered =>
      obtain ⟨now, runId, workflow, request, hmove, htrigger⟩ := htriggered
      unfold trigger at htrigger
      split at htrigger
      next => cases htrigger
      next workflow =>
        split at htrigger
        next => cases htrigger
        next =>
          cases htrigger
          simp only [triggered] at hresource hcreate
          by_cases htype : workflow.runType = .resource
          · rw [if_pos htype] at hresource
            exact hnone runId workflow request resource hmove htype hcreate hresource rfl
          · rw [if_neg htype] at hresource
            cases hresource
  | inr hlegacy =>
      obtain ⟨now, runId, request, hmove, heq⟩ := hlegacy
      rw [heq] at hresource
      cases hresource

theorem findLastByResourceId_mem {rows : List RunRow} {resourceId : String} {row : RunRow}
    (hfound : Store.findLastByResourceId rows resourceId = some row) :
    row ∈ rows ∧ row.resourceId = some resourceId := by
  have hlatest := findLastByResourceId_latest rows resourceId
  rw [hfound] at hlatest
  exact ⟨hlatest.1, hlatest.2.1⟩

theorem findLastByResourceIds_mem {collation : Collation} {rows : List RunRow}
    {resourceIds : List String} {row : RunRow}
    (hfound : row ∈ Store.findLastByResourceIds collation rows resourceIds) : row ∈ rows := by
  unfold Store.findLastByResourceIds at hfound
  split at hfound
  · cases hfound
  · have hsorted := Relational.mem_of_mem_distinctFrom hfound
    rw [List.mem_mergeSort] at hsorted
    exact (List.mem_filter.mp hsorted).1

/-- However drives interleave, wherever they leave their runs, a lookup of a record
answers a run against that record, provided no create was triggered under its id. -/
theorem lookups_attributed (engines : List WorkflowEngineType) (retryBase : Time)
    (defaultTeam : String) (clock : Time) (moves : List (Move system))
    (createdAt updatedAt : UUID → Time) (collation : Collation) (resourceId : String)
    (hnone : NoCreateNames resourceId moves) :
    let world := (reached (.wired engines retryBase defaultTeam) clock moves).world
    let rows := world.table createdAt updatedAt
    (∀ row, Store.findLastByResourceId rows resourceId = some row →
      Targets resourceId row.run world.history) ∧
    ∀ resourceIds, ∀ row ∈ Store.findLastByResourceIds collation rows resourceIds,
      row.resourceId = some resourceId → Targets resourceId row.run world.history := by
  intro world rows
  have hattributing : (attributing engines).account.Inv world :=
    Upkeep.reached_inv _ rfl clock moves
  have htargets : ∀ row ∈ rows, row.resourceId = some resourceId →
      Targets resourceId row.run world.history := by
    intro row hrow hrecord
    obtain ⟨run, hrun, rfl⟩ := List.mem_map.mp hrow
    have hget := Store.get_of_mem (reached_runIds _ clock moves) hrun
    obtain ⟨-, hattributed⟩ := hattributing.rows _ _ hget
    obtain ⟨resource, hresource, hid⟩ := Option.map_eq_some_iff.mp hrecord
    have hcase := hattributed resource hresource
    rw [hid] at hcase
    cases hcase with
    | inr hanswered => exact .inr hanswered
    -- a creation that was triggered with the id is what the premise excludes
    | inl htriggered =>
        left
        refine ⟨fun hcreate => ?_, htriggered⟩
        obtain ⟨origin, wanted, hcreated, -, hoperation, hwanted, hsame⟩ := htriggered
        have hrequested := reached_requested _ clock moves origin hcreated
        have hnamed := hrequested.names hwanted (hoperation.trans hcreate)
        rw [hsame] at hnamed
        exact hnamed hnone
  constructor
  · intro row hfound
    obtain ⟨hrow, hrecord⟩ := findLastByResourceId_mem hfound
    exact htargets row hrow hrecord
  · intro resourceIds row hfound hrecord
    exact htargets row (findLastByResourceIds_mem hfound) hrecord

theorem findLastByResourceId_singleton {row : RunRow} {resourceId : String}
    (hrecord : row.resourceId = some resourceId) :
    Store.findLastByResourceId [row] resourceId = some row := by
  simp [Store.findLastByResourceId, hrecord]

/-- One request on the resource workflow. -/
def requesting (request : TriggerRequest) : List (Move system) :=
  [.outside (.trigger sampleId (some resourceWorkflow) request)]

/-- A lookup answers the run that deletes the record. -/
theorem lookups_attributed_deletion :
    ∃ row, Store.findLastByResourceId
        ((reached sampleExecutor 0 (requesting deletionSample)).world.table
          (fun _ => 0) fun _ => 0) "7" = some row ∧
      Targets "7" row.run (reached sampleExecutor 0 (requesting deletionSample)).world.history := by
  have hnone : NoCreateNames "7" (requesting deletionSample) := by
    intro runId workflow request resource hmove _ hcreate _
    cases List.mem_singleton.mp hmove
    cases hcreate
  have hfound := @findLastByResourceId_singleton
    ⟨triggered 0 sampleId resourceWorkflow deletionSample, 0, 0⟩ "7" rfl
  exact ⟨_, hfound, (lookups_attributed [.airflow] (seconds 10) "cloud" 0
    (requesting deletionSample) (fun _ => 0) (fun _ => 0) byCodePoint "7" hnone).1 _ hfound⟩

/-- A create that names a record of its own accord. -/
def recordSample : TriggerRequest :=
  { resourceSample with
    resource := some { projectId := "p", resourceType := "vm", resourceId := "7", name := "vm-1" } }

/-- Before anything was created, both lookups answer the create for the record it
names. -/
theorem lookups_unattributed :
    ∃ row, Store.findLastByResourceId
        ((reached sampleExecutor 0 (requesting recordSample)).world.table
          (fun _ => 0) fun _ => 0) "7" = some row ∧
      row ∈ Store.findLastByResourceIds byCodePoint
        ((reached sampleExecutor 0 (requesting recordSample)).world.table
          (fun _ => 0) fun _ => 0) ["7"] ∧
      ¬ Targets "7" row.run (reached sampleExecutor 0 (requesting recordSample)).world.history := by
  let row : RunRow := ⟨triggered 0 sampleId resourceWorkflow recordSample, 0, 0⟩
  have hrows : (reached sampleExecutor 0 (requesting recordSample)).world.table
      (fun _ => 0) (fun _ => 0) = [row] := rfl
  have hrecord : row.resourceId = some "7" := rfl
  rw [hrows]
  refine ⟨row, findLastByResourceId_singleton hrecord, ?_, ?_⟩
  · simp [Store.findLastByResourceIds, Store.isAmong, hrecord, Relational.distinctOn,
      Relational.distinctFrom]
  · intro htargets
    cases htargets with
    | inl htriggered => exact htriggered.1 rfl
    | inr hanswered =>
        obtain ⟨-, projectId, resourceType, body, key, drive, applied, -, hcalled⟩ := hanswered
        cases List.mem_singleton.mp hcalled

end CloudioOrchestrator

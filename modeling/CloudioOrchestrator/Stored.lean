import CloudioOrchestrator.Attribution
import CloudioOrchestrator.Gateway
import CloudioOrchestrator.Interaction.Refining
import CloudioOrchestrator.Persistence

/-! # The system over the table as it is stored

The operations on the table of runs once more, each on rows whose run state is a
column of text: what is loaded is validated, what is saved is dumped, and the
queries by path look into the column. Every run of this system is one of the
system over runs.
-/

namespace CloudioOrchestrator

open Interaction Documents

/-- What drives and the outside share, with the runs as they are stored. -/
structure StoredWorld where
  table : List StoredRow := []
  history : History := []
  clock : Time := 0

namespace Table

variable {pydantic : Pydantic} (jsonb : Jsonb pydantic)

def get (table : List StoredRow) (runId : UUID) : Option StoredRow :=
  table.find? fun row => row.runId = runId

/-- The row of a run that is created. -/
def rowOf (run : WorkflowRun) : Except PyException StoredRow :=
  (jsonb.processBindParam run.runState).map fun text =>
    { runId := run.runId
      runType := run.runType
      status := run.status
      currentStep := run.currentStep
      workflowIdentifier := run.workflowIdentifier
      createdBy := run.createdBy
      maxRetries := run.maxRetries
      scheduledAt := run.scheduledAt
      version := run.version
      runState := text }

def put (table : List StoredRow) (row : StoredRow) : List StoredRow :=
  table.map fun other => if other.runId = row.runId then row else other

/-- The row a save commits: it is loaded, its version checked, and the state dumped. -/
def save (table : List StoredRow) (run : WorkflowRun) : Except PyException StoredRow :=
  match get table run.runId with
  | none => .error (.staleRun ("Run " ++ run.runId.str ++ " no longer exists"))
  | some db => do
    -- the entity is read again, and its column validated, before the version is looked at
    let _ ← Queue.load jsonb.processResultValue db
    if db.version ≠ run.version then
      .error (.staleRun ("Run " ++ run.runId.str ++ " changed concurrently (db v" ++
        toString db.version ++ " != v" ++ toString run.version ++ ")"))
    else
      let text ← jsonb.processBindParam run.runState
      .ok { db with
        status := run.status
        currentStep := run.currentStep
        scheduledAt := run.scheduledAt
        runState := text
        version := run.version + 1 }

/-- Whether a wake reaches a row. -/
def wakes (runId : UUID) (row : StoredRow) : Bool :=
  row.runId = runId ∧ (row.status = .pending ∨ row.status = .running)

def wake (now : Time) (runId : UUID) (table : List StoredRow) : Bool × List StoredRow :=
  (table.any (wakes runId), Queue.reschedule (wakes runId) now table)

/-- The runs whose state has the value at the path. -/
def findByPath (path : List String) (value : String) (table : List StoredRow) :
    Except PyException (List WorkflowRun) :=
  (table.filter fun row => jsonb.pathText path row.runState = some value).mapM
    (Queue.load jsonb.processResultValue)

end Table

namespace StoredWorld

variable {pydantic : Pydantic} (jsonb : Jsonb pydantic)

/-- The row, and the event that the run it holds was come by. -/
def note (row : StoredRow) (event : WorkflowRun → Event) (world : StoredWorld) : History :=
  match Queue.load jsonb.processResultValue row with
  | .ok run => event run :: world.history
  | .error _ => world.history

/-- Insert a run that was just created; a taken id is refused, and so may its state be. -/
def insert (run : WorkflowRun) (world : StoredWorld) : StoredWorld :=
  match Table.rowOf jsonb run with
  | .error _ => world
  | .ok row =>
    if (Table.get world.table row.runId).isSome then world
    else { world with table := row :: world.table, history := world.note jsonb row .created }

def commit (drive : DriveId) (row : StoredRow) (world : StoredWorld) : StoredWorld :=
  { world with table := Table.put world.table row, history := world.note jsonb row (.saved drive) }

def load (drive : DriveId) (choice : Choice) (runId : UUID) (world : StoredWorld) :
    Op.Answer (.runsGet runId) × StoredWorld :=
  match choice.readFault with
  | some (name, message) => (.error (.other name message), world)
  | none =>
    match Table.get world.table runId with
    | none => (.ok none, world)
    | some row =>
      match Queue.load jsonb.processResultValue row with
      | .error error => (.error error, world)
      | .ok run => (.ok (some run), { world with history := .loaded drive run :: world.history })

def save (drive : DriveId) (choice : Choice) (run : WorkflowRun) (world : StoredWorld) :
    Op.Answer (.runsSave run) × StoredWorld :=
  match choice.saveFault, Table.save jsonb world.table run with
  | some (.beforeCommit name message), _ => (.error (.other name message), world)
  | _, .error error => (.error error, world)
  | some (.afterCommit name message), .ok row =>
      (.error (.other name message), world.commit jsonb drive row)
  | none, .ok row => (.ok row.version, world.commit jsonb drive row)

def serve (drive : DriveId) (choice : Choice) : (op : Op) → StoredWorld → op.Answer × StoredWorld
  | .runsGet runId, world => world.load jsonb drive choice runId
  | .runsSave run, world => world.save jsonb drive choice run
  | .utcnow, world => (world.clock, world)
  | .uniform, world => (choice.jitter.val, world)
  | .provider issuer call, world =>
      (choice.answer call, { world with
        history := .called drive issuer call (choice.answer call)
          ((choice.answer call).isOk || choice.applied) :: world.history })
  | .log record, world => ((), { world with history := .logged drive record :: world.history })

def outside : Outside → StoredWorld → StoredWorld
  | .trigger runId workflow request, world =>
      match trigger world.clock runId workflow request with
      | .ok run => world.insert jsonb run
      | .error _ => world
  | .triggerLegacy runId request, world =>
      world.insert jsonb (triggerLegacy world.clock runId request)
  | .claimDue limit lease locked, world =>
      { world with
        table := (Queue.claimDue jsonb.processResultValue world.clock limit lease locked
          world.table).2 }
  | .wake runId, world => { world with table := (Table.wake world.clock runId world.table).2 }
  | .tick now, world => { world with clock := now }

end StoredWorld

/-- The system with its runs as they are stored. -/
abbrev storedSystem {pydantic : Pydantic} (jsonb : Jsonb pydantic) : Service Operations UUID where
  World := StoredWorld
  Choice := Choice
  Outside := Outside
  serve := StoredWorld.serve jsonb
  outside := StoredWorld.outside jsonb

/-- The stored system after the given moves, started with an empty table. -/
def storedReached {pydantic : Pydantic} (jsonb : Jsonb pydantic) (executor : Executor)
    (clock : Time) (moves : List (Move (storedSystem jsonb))) :
    Pool (storedSystem jsonb) (Except PyException Unit × Option WorkflowRun) :=
  Pool.run executor.handle moves ⟨{ clock := clock }, []⟩

/-! ## Rows and the runs they hold -/

section Rows

variable {pydantic : Pydantic} {jsonb : Jsonb pydantic} {table : List StoredRow}
variable {rows : Store.Rows} {row : StoredRow} {run : WorkflowRun}

/-- The row was written, and loads as the run. -/
def Holds (jsonb : Jsonb pydantic) (row : StoredRow) (run : WorkflowRun) : Prop :=
  ∃ state, jsonb.processBindParam state = .ok row.runState ∧
    run =
      { runId := row.runId
        runType := row.runType
        status := row.status
        currentStep := row.currentStep
        workflowIdentifier := row.workflowIdentifier
        createdBy := row.createdBy
        maxRetries := row.maxRetries
        scheduledAt := row.scheduledAt
        version := row.version
        runState := state.respelled jsonb.spell }

theorem Holds.load (hholds : Holds jsonb row run) :
    Queue.load jsonb.processResultValue row = .ok run := by
  obtain ⟨state, hwrite, rfl⟩ := hholds
  rw [Queue.load, Jsonb.processResultValue_eq_ok hwrite]
  rfl

theorem Holds.runId (hholds : Holds jsonb row run) : row.runId = run.runId := by
  obtain ⟨state, -, rfl⟩ := hholds
  rfl

theorem Holds.reschedule (hholds : Holds jsonb row run) (time : Time) :
    Holds jsonb { row with scheduledAt := some time } { run with scheduledAt := some time } := by
  obtain ⟨state, hwrite, rfl⟩ := hholds
  exact ⟨state, hwrite, rfl⟩

theorem get_holds (hrows : List.Forall₂ (Holds jsonb) table rows) (runId : UUID) :
    (Table.get table runId = none ∧ Store.get rows runId = none) ∨
      ∃ row run, Table.get table runId = some row ∧ Store.get rows runId = some run ∧
        Holds jsonb row run := by
  induction hrows with
  | nil => exact .inl ⟨rfl, rfl⟩
  | @cons row run table rows hholds _ ih =>
      have hid := hholds.runId
      by_cases hfound : row.runId = runId
      · refine .inr ⟨row, run, ?_, ?_, hholds⟩
        · simp [Table.get, hfound]
        · simp [Store.get, ← hid, hfound]
      · simpa [Table.get, Store.get, ← hid, hfound] using ih

theorem put_holds (hrows : List.Forall₂ (Holds jsonb) table rows) (hholds : Holds jsonb row run) :
    List.Forall₂ (Holds jsonb) (Table.put table row) (Store.put rows run) := by
  have hid := hholds.runId
  simp only [Table.put, Store.put, List.forall₂_map_left_iff, List.forall₂_map_right_iff]
  apply hrows.imp
  intro other held hother
  rw [hother.runId, hid]
  split
  · exact hholds
  · exact hother

theorem reschedule_holds (hrows : List.Forall₂ (Holds jsonb) table rows)
    {select : StoredRow → Bool} {selectRun : WorkflowRun → Bool}
    (hselect : ∀ row run, Holds jsonb row run → select row = selectRun run) (time : Time) :
    List.Forall₂ (Holds jsonb) (Queue.reschedule select time table)
      (Store.reschedule selectRun time rows) := by
  simp only [Queue.reschedule, Store.reschedule, List.forall₂_map_left_iff,
    List.forall₂_map_right_iff]
  apply hrows.imp
  intro row run hholds
  rw [hselect row run hholds]
  split
  · exact hholds.reschedule time
  · exact hholds

/-- Rows that hold runs decode, and as those runs. -/
theorem entities_of_holds (hrows : List.Forall₂ (Holds jsonb) table rows) (fallback : RunState) :
    (∀ row ∈ table, Queue.Decodes jsonb.processResultValue row) ∧
      table.map (Queue.entity jsonb.processResultValue fallback) = rows := by
  induction hrows with
  | nil => exact ⟨by simp, rfl⟩
  | @cons row run table rows hholds _ ih =>
      obtain ⟨state, hwrite, rfl⟩ := hholds
      have hstate := Jsonb.processResultValue_eq_ok hwrite
      constructor
      · intro other hother
        cases List.mem_cons.mp hother with
        | inl hhead => exact hhead ▸ ⟨_, hstate⟩
        | inr hrest => exact ih.1 other hrest
      · rw [List.map_cons, ih.2, Queue.entity, hstate]
        rfl

/-- A claim of rows that hold runs does not raise, and claims what the store of runs would. -/
theorem claimDue_holds (hrows : List.Forall₂ (Holds jsonb) table rows) (now : Time)
    (limit : Nat) (lease : Time) (locked : UUID → Bool) :
    (Queue.claimDue jsonb.processResultValue now limit lease locked table).1 =
        .ok (Store.claimDue now limit lease locked rows).1 ∧
      List.Forall₂ (Holds jsonb)
        (Queue.claimDue jsonb.processResultValue now limit lease locked table).2
        (Store.claimDue now limit lease locked rows).2 := by
  obtain ⟨hdecodes, hentities⟩ := entities_of_holds hrows
    (triggerLegacy 0 sampleId legacySample).runState
  obtain ⟨hclaimed, -⟩ := @Queue.claimDue_refines jsonb.processResultValue now lease limit locked
    table _ hdecodes
  rw [hentities] at hclaimed
  refine ⟨hclaimed, ?_⟩
  unfold Queue.claimDue at hclaimed ⊢
  cases hload : ((Queue.queue now locked table).take limit).mapM
      (Queue.load jsonb.processResultValue) with
  | error error =>
      rw [hload] at hclaimed
      cases hclaimed
  | ok runs =>
      rw [hload] at hclaimed
      injection hclaimed with hids
      simp only [hids]
      apply reschedule_holds hrows
      intro row run hholds
      obtain ⟨state, -, rfl⟩ := hholds
      rfl

theorem wake_holds (hrows : List.Forall₂ (Holds jsonb) table rows) (now : Time) (runId : UUID) :
    List.Forall₂ (Holds jsonb) (Table.wake now runId table).2 (Store.wake now runId rows).2 := by
  apply reschedule_holds hrows
  intro row run hholds
  obtain ⟨state, -, rfl⟩ := hholds
  rfl

/-- The column of a state that is written holds the state as the database spells it. -/
theorem holds_rowOf (hrow : Table.rowOf jsonb run = .ok row) :
    Holds jsonb row { run with runState := run.runState.respelled jsonb.spell } := by
  unfold Table.rowOf at hrow
  cases hwrite : jsonb.processBindParam run.runState with
  | error error =>
      rw [hwrite] at hrow
      cases hrow
  | ok text =>
      rw [hwrite] at hrow
      cases hrow
      exact ⟨run.runState, hwrite, rfl⟩

/-- A query by path, where the path leads to a field that is spelled as it is, finds the
runs by that field. -/
theorem findByPath_holds (hrows : List.Forall₂ (Holds jsonb) table rows) {path : List String}
    {field : RunState → Option String}
    (hpath : ∀ {state text}, jsonb.processBindParam state = .ok text →
      jsonb.pathText path text = field state)
    (hfield : ∀ state : RunState, field (state.respelled jsonb.spell) = field state)
    (value : String) :
    Table.findByPath jsonb path value table =
      .ok (rows.filter fun row => field row.runState = some value) := by
  unfold Table.findByPath
  induction hrows with
  | nil => rfl
  | @cons row run table rows hholds _ ih =>
      have hload := hholds.load
      obtain ⟨state, hwrite, hrun⟩ := hholds
      have hsame : field run.runState = jsonb.pathText path row.runState := by
        rw [hrun]
        exact (hfield state).trans (hpath hwrite).symm
      by_cases hfound : jsonb.pathText path row.runState = some value
      · rw [List.filter_cons_of_pos (by simpa using hfound),
          List.filter_cons_of_pos (by simpa [hsame] using hfound), List.mapM_cons, hload, ih]
        rfl
      · rw [List.filter_cons_of_neg (by simpa using hfound),
          List.filter_cons_of_neg (by simpa [hsame] using hfound), ih]

/-- A save raises as the store's does, or because the database refuses the state, or
writes a row that holds what the store's writes. -/
theorem save_holds (hrows : List.Forall₂ (Holds jsonb) table rows) (run : WorkflowRun) :
    (∃ error, Table.save jsonb table run = .error error ∧ Store.save rows run = .error error) ∨
    (∃ name message, Table.save jsonb table run = .error (.other name message)) ∨
    ∃ row saved, Table.save jsonb table run = .ok row ∧ Store.save rows run = .ok saved ∧
      row.version = saved.version ∧ Store.get rows saved.runId ≠ none ∧
      (saved.runState.respelled jsonb.spell = saved.runState → Holds jsonb row saved) := by
  cases get_holds hrows run.runId with
  | inl hnone =>
      refine .inl ⟨.staleRun ("Run " ++ run.runId.str ++ " no longer exists"), ?_, ?_⟩
      · simp only [Table.save, hnone.1]
      · simp only [Store.save, hnone.2]
  | inr hfound =>
      obtain ⟨db, held, hdb, hheld, hholds⟩ := hfound
      have hload := hholds.load
      obtain ⟨state, -, heq⟩ := hholds
      have hversion : held.version = db.version := by rw [heq]
      simp only [Table.save, hdb, hload, Store.save, hheld, hversion, bind, Except.bind]
      by_cases hsame : db.version = run.version
      · simp only [ne_eq, hsame, not_true_eq_false, if_false]
        cases hwrite : jsonb.processBindParam run.runState with
        | error error =>
            refine .inr (.inl ?_)
            unfold Jsonb.processBindParam at hwrite
            split at hwrite
            · cases hwrite
            · cases hwrite
              exact ⟨_, _, rfl⟩
        | ok text =>
            refine .inr (.inr ⟨_, _, rfl, rfl, rfl, ?_, ?_⟩)
            · have hid : held.runId = run.runId := Store.runId_of_get hheld
              simp [hid, hheld]
            · intro hsettled
              refine ⟨run.runState, hwrite, ?_⟩
              rw [hsettled, heq]
      · exact .inl ⟨_, if_pos hsame, if_pos hsame⟩

end Rows

/-! ## Requests as the database spells them -/

section Requests

variable {spell : Json → Json}

def TriggerRequest.respelled (spell : Json → Json) (request : TriggerRequest) : TriggerRequest :=
  { request with
    ticketParams := spell request.ticketParams
    workflowParams := spell request.workflowParams
    resource := request.resource.map (ResourceSpec.respelled spell) }

def LegacyRunRequest.respelled (spell : Json → Json) (request : LegacyRunRequest) :
    LegacyRunRequest :=
  { request with legacy := request.legacy.respelled spell }

def WorkflowRun.respelled (spell : Json → Json) (run : WorkflowRun) : WorkflowRun :=
  { run with runState := run.runState.respelled spell }

/-- A request whose free-form parts the database spells as they are. -/
def Outside.Settled (spell : Json → Json) : Outside → Prop
  | .trigger _ _ request => request.respelled spell = request
  | .triggerLegacy _ request => request.respelled spell = request
  | _ => True

theorem TriggerRequest.respelled_respelled (hspell : ∀ text, spell (spell text) = spell text)
    (request : TriggerRequest) : (request.respelled spell).respelled spell =
      request.respelled spell := by
  simp only [respelled, hspell, Option.map_map, ResourceSpec.respelled_comp hspell]

theorem LegacyRunRequest.respelled_respelled (hspell : ∀ text, spell (spell text) = spell text)
    (request : LegacyRunRequest) : (request.respelled spell).respelled spell =
      request.respelled spell := by
  have hlegacy := congrFun (LegacyRequest.respelled_comp hspell) request.legacy
  rw [Function.comp_apply] at hlegacy
  simp only [respelled, hlegacy]

theorem triggered_respelled (now : Time) (runId : UUID) (workflow : Workflow)
    (request : TriggerRequest) : triggered now runId workflow (request.respelled spell) =
      (triggered now runId workflow request).respelled spell := by
  simp only [triggered, TriggerRequest.respelled, WorkflowRun.respelled, RunState.respelled]
  congr 2
  split <;> rfl

theorem trigger_respelled (now : Time) (runId : UUID) (workflow : Option Workflow)
    (request : TriggerRequest) : trigger now runId workflow (request.respelled spell) =
      (trigger now runId workflow request).map (WorkflowRun.respelled spell) := by
  cases workflow with
  | none => rfl
  | some workflow =>
      have hcheck : checkTrigger workflow.runType (request.respelled spell) =
          checkTrigger workflow.runType request := by
        cases workflow.runType with
        | resource =>
            simp only [checkTrigger, checkResource, TriggerRequest.respelled]
            cases request.resource with
            | none => rfl
            | some resource => rfl
        | automation => rfl
        | legacy => rfl
      simp only [trigger, hcheck]
      cases checkTrigger workflow.runType request with
      | error error => rfl
      | ok => simp only [Except.map, triggered_respelled]

theorem triggerLegacy_respelled (hempty : spell "{}" = "{}") (now : Time) (runId : UUID)
    (request : LegacyRunRequest) : triggerLegacy now runId (request.respelled spell) =
      (triggerLegacy now runId request).respelled spell := by
  simp only [triggerLegacy, LegacyRunRequest.respelled, WorkflowRun.respelled,
    RunState.respelled, hempty]
  rfl

end Requests

/-! ## The refinement -/

section Refinement

variable {pydantic : Pydantic} {jsonb : Jsonb pydantic} {stored : StoredWorld} {world : World}

/-- The stored runs are those of the world. -/
structure Mirrors (jsonb : Jsonb pydantic) (stored : StoredWorld) (world : World) : Prop where
  rows : List.Forall₂ (Holds jsonb) stored.table world.rows
  history : stored.history = world.history
  clock : stored.clock = world.clock

/-- The free-form parts of all runs are as the database spells them. -/
def World.Settled (spell : Json → Json) (world : World) : Prop :=
  ∀ runId run, Store.get world.rows runId = some run →
    run.runState.respelled spell = run.runState

theorem note_holds {row : StoredRow} {run : WorkflowRun} (hholds : Holds jsonb row run)
    (event : WorkflowRun → Event) : stored.note jsonb row event = event run :: stored.history := by
  simp only [StoredWorld.note, hholds.load]

theorem insert_mirrors (hmirrors : Mirrors jsonb stored world) (run : WorkflowRun) :
    stored.insert jsonb run = stored ∨
      Mirrors jsonb (stored.insert jsonb run) (world.insert (run.respelled jsonb.spell)) := by
  unfold StoredWorld.insert
  cases hrow : Table.rowOf jsonb run with
  | error error => exact .inl rfl
  | ok row =>
      have hholds := holds_rowOf hrow
      have hid : row.runId = (run.respelled jsonb.spell).runId := hholds.runId
      simp only [hid]
      cases get_holds hmirrors.rows (run.respelled jsonb.spell).runId with
      | inl hnone =>
          right
          rw [hnone.1, World.insert, hnone.2]
          simp only [Option.isSome_none, Bool.false_eq_true, if_false, note_holds hholds,
            Store.create, hnone.2]
          exact ⟨.cons hholds hmirrors.rows, by rw [hmirrors.history]; rfl, hmirrors.clock⟩
      | inr hfound =>
          obtain ⟨other, held, hother, -, -⟩ := hfound
          left
          rw [hother, Option.isSome_some, if_pos rfl]

theorem commit_mirrors (hmirrors : Mirrors jsonb stored world) (drive : DriveId) {row : StoredRow}
    {saved : WorkflowRun} (htaken : Store.get world.rows saved.runId ≠ none)
    (hholds : saved.runState.respelled jsonb.spell = saved.runState → Holds jsonb row saved)
    (hsettled : (world.commit drive saved).Settled jsonb.spell) :
    Mirrors jsonb (stored.commit jsonb drive row) (world.commit drive saved) := by
  have hsaved : Holds jsonb row saved := by
    -- the run that is saved is one of the world's now, whose free-form parts are settled
    apply hholds
    apply hsettled saved.runId
    simp [World.commit, Store.get_put saved.runId htaken]
  refine ⟨put_holds hmirrors.rows hsaved, ?_, hmirrors.clock⟩
  simp only [StoredWorld.commit, note_holds hsaved, World.commit, hmirrors.history]

/-- A save that the database refuses is one that it fails. -/
theorem save_mirrors (drive : DriveId) (choice : Choice) (run : WorkflowRun)
    (hmirrors : Mirrors jsonb stored world) :
    ∃ picked, (world.save drive picked run).1 = (stored.save jsonb drive choice run).1 ∧
      ((world.save drive picked run).2.Settled jsonb.spell →
        Mirrors jsonb (stored.save jsonb drive choice run).2 (world.save drive picked run).2) := by
  rcases save_holds hmirrors.rows run with
    ⟨error, hsave, hsame⟩ | ⟨name, message, hsave⟩ |
      ⟨row, saved, hsave, hsame, hversion, htaken, hholds⟩
  · refine ⟨choice, ?_⟩
    simp only [StoredWorld.save, World.save, hsave, hsame]
    cases choice.saveFault with
    | none => exact ⟨rfl, fun _ => hmirrors⟩
    | some fault => cases fault <;> exact ⟨rfl, fun _ => hmirrors⟩
  · -- refused at the flush, so nothing is committed even where the commit would have failed
    cases hfault : choice.saveFault with
    | none =>
        refine ⟨{ choice with saveFault := some (.beforeCommit name message) }, ?_⟩
        simp only [StoredWorld.save, World.save, hsave, hfault]
        exact ⟨trivial, fun _ => hmirrors⟩
    | some fault =>
        cases fault with
        | beforeCommit reason text =>
            refine ⟨choice, ?_⟩
            simp only [StoredWorld.save, World.save, hfault]
            exact ⟨trivial, fun _ => hmirrors⟩
        | afterCommit reason text =>
            refine ⟨{ choice with saveFault := some (.beforeCommit name message) }, ?_⟩
            simp only [StoredWorld.save, World.save, hsave, hfault]
            exact ⟨trivial, fun _ => hmirrors⟩
  · refine ⟨choice, ?_⟩
    simp only [StoredWorld.save, World.save, hsave, hsame]
    cases choice.saveFault with
    | none => exact ⟨congrArg Except.ok hversion.symm, commit_mirrors hmirrors drive htaken hholds⟩
    | some fault =>
        cases fault with
        | beforeCommit reason text => exact ⟨rfl, fun _ => hmirrors⟩
        | afterCommit reason text => exact ⟨rfl, commit_mirrors hmirrors drive htaken hholds⟩

/-- What a save or a load of the stored system is answered, the system over runs answers too. -/
theorem serve_mirrors (drive : DriveId) (choice : Choice) (op : Op)
    (hmirrors : Mirrors jsonb stored world) :
    ∃ picked, (world.serve drive picked op).1 = (stored.serve jsonb drive choice op).1 ∧
      ((world.serve drive picked op).2.Settled jsonb.spell →
        Mirrors jsonb (stored.serve jsonb drive choice op).2 (world.serve drive picked op).2) := by
  have hnoted : ∀ event, Mirrors jsonb { stored with history := event :: stored.history }
      (world.record event) := fun event =>
    ⟨hmirrors.rows, congrArg (event :: ·) hmirrors.history, hmirrors.clock⟩
  cases op with
  | runsGet runId =>
      refine ⟨choice, ?_⟩
      simp only [StoredWorld.serve, StoredWorld.load, World.serve, World.load]
      cases choice.readFault with
      | some fault => exact ⟨rfl, fun _ => hmirrors⟩
      | none =>
          cases get_holds hmirrors.rows runId with
          | inl hnone =>
              rw [hnone.1, hnone.2]
              exact ⟨rfl, fun _ => hmirrors⟩
          | inr hfound =>
              obtain ⟨row, run, hrow, hrun, hholds⟩ := hfound
              simp only [hrow, hrun, hholds.load]
              exact ⟨trivial, fun _ => hnoted _⟩
  | runsSave run =>
      exact save_mirrors drive choice run hmirrors
  | utcnow => exact ⟨choice, hmirrors.clock.symm, fun _ => hmirrors⟩
  | uniform => exact ⟨choice, rfl, fun _ => hmirrors⟩
  | provider issuer call => exact ⟨choice, rfl, fun _ => hnoted _⟩
  | log record => exact ⟨choice, rfl, fun _ => hnoted _⟩

/-- What happens to the stored runs happens to the runs, as the database spells them; where
it refuses one, nothing does. -/
theorem outside_mirrors (event : Outside) (hmirrors : Mirrors jsonb stored world) :
    ∃ other : Outside, other.Settled jsonb.spell ∧
      Mirrors jsonb (stored.outside jsonb event) (world.outside other) := by
  have hnothing : Mirrors jsonb stored (world.outside (.tick world.clock)) := hmirrors
  cases event with
  | trigger runId workflow request =>
      have htrigger := @trigger_respelled jsonb.spell stored.clock runId workflow request
      simp only [StoredWorld.outside]
      cases hrun : trigger stored.clock runId workflow request with
      | error error => exact ⟨.tick world.clock, trivial, hnothing⟩
      | ok run =>
          simp only
          cases insert_mirrors hmirrors run with
          | inl hrefused =>
              rw [hrefused]
              exact ⟨.tick world.clock, trivial, hnothing⟩
          | inr hinserted =>
              refine ⟨.trigger runId workflow (request.respelled jsonb.spell),
                request.respelled_respelled jsonb.spell_spell, ?_⟩
              rw [hrun, hmirrors.clock] at htrigger
              simp only [World.outside, htrigger, Except.map]
              exact hinserted
  | triggerLegacy runId request =>
      simp only [StoredWorld.outside]
      cases insert_mirrors hmirrors (triggerLegacy stored.clock runId request) with
      | inl hrefused =>
          rw [hrefused]
          exact ⟨.tick world.clock, trivial, hnothing⟩
      | inr hinserted =>
          refine ⟨.triggerLegacy runId (request.respelled jsonb.spell),
            request.respelled_respelled jsonb.spell_spell, ?_⟩
          rw [hmirrors.clock, ← triggerLegacy_respelled jsonb.spell_empty] at hinserted
          rw [hmirrors.clock]
          exact hinserted
  | claimDue limit lease locked =>
      refine ⟨.claimDue limit lease locked, trivial, ?_, hmirrors.history, hmirrors.clock⟩
      simp only [StoredWorld.outside, World.outside, hmirrors.clock]
      exact (claimDue_holds hmirrors.rows _ _ _ _).2
  | wake runId =>
      refine ⟨.wake runId, trivial, ?_, hmirrors.history, hmirrors.clock⟩
      simp only [StoredWorld.outside, World.outside, hmirrors.clock]
      exact wake_holds hmirrors.rows _ _
  | tick now => exact ⟨.tick now, trivial, hmirrors.rows, hmirrors.history, rfl⟩

/-- The stored system refines the one over runs. -/
def storing (jsonb : Jsonb pydantic) : Refines (storedSystem jsonb) system where
  mirrors := Mirrors jsonb
  permits := Outside.Settled jsonb.spell
  known := World.Settled jsonb.spell
  serve drive choice op _ _ hmirrors _ := serve_mirrors drive choice op hmirrors
  outside event _ _ hmirrors _ := by
    obtain ⟨other, hother, hlater⟩ := outside_mirrors event hmirrors
    exact ⟨other, hother, fun _ => hlater⟩

/-- A run is created as the database spells it where its request is so. -/
theorem created_settled {executor : Executor} {moves : List (Move system)}
    (hmoves : (storing jsonb).Permitted moves) (clock : Time) {origin : WorkflowRun}
    (hcreated : .created origin ∈ (reached executor clock moves).world.history) :
    origin.runState.respelled jsonb.spell = origin.runState := by
  have hstate : ∀ {run : WorkflowRun}, run.respelled jsonb.spell = run →
      run.runState.respelled jsonb.spell = run.runState := fun hrun =>
    congrArg WorkflowRun.runState hrun
  cases reached_requested executor clock moves origin hcreated with
  | inl htriggered =>
      obtain ⟨now, runId, workflow, request, hmove, htrigger⟩ := htriggered
      have hrequest : request.respelled jsonb.spell = request := hmoves _ hmove
      have hrespelled := @trigger_respelled jsonb.spell now runId workflow request
      rw [hrequest, htrigger, Except.map, Except.ok.injEq] at hrespelled
      exact hstate hrespelled.symm
  | inr hlegacy =>
      obtain ⟨now, runId, request, hmove, horigin⟩ := hlegacy
      have hrequest : request.respelled jsonb.spell = request := hmoves _ hmove
      apply hstate
      rw [horigin, ← triggerLegacy_respelled jsonb.spell_empty, hrequest]

theorem RunState.respelled_eq_iff {spell : Json → Json} {state : RunState} :
    state.respelled spell = state ↔ spell state.ticketParams = state.ticketParams ∧
      spell state.workflowParams = state.workflowParams ∧
      (∀ resource ∈ state.resource, spell resource.data = resource.data) ∧
      state.legacy.map (LegacyRequest.respelled spell) = state.legacy := by
  have hresource : ∀ resource : Option ResourceSpec,
      resource.map (ResourceSpec.respelled spell) = resource ↔
        ∀ named ∈ resource, spell named.data = named.data := by
    intro resource
    cases resource with
    | none => simp
    | some resource =>
        cases resource
        simp [ResourceSpec.respelled]
  rw [← hresource]
  cases state
  simp [respelled]

/-- What continues a run as the database spells it is spelled so. -/
theorem RunState.SameRequest.settled {spell : Json → Json} {origin state : RunState}
    (hsame : origin.SameRequest state) (hsettled : origin.respelled spell = origin) :
    state.respelled spell = state := by
  obtain ⟨-, hticket, hparams, -, hlegacy, hresource⟩ := hsame
  rw [RunState.respelled_eq_iff] at hsettled ⊢
  obtain ⟨hticketSettled, hparamsSettled, hresourceSettled, hlegacySettled⟩ := hsettled
  refine ⟨hticket ▸ hticketSettled, hparams ▸ hparamsSettled, ?_, hlegacy ▸ hlegacySettled⟩
  intro resource hmem
  rw [Option.mem_def] at hmem
  rw [hmem, Option.map_some, Option.map_eq_some_iff] at hresource
  obtain ⟨wanted, hwanted, hanonymous⟩ := hresource
  have hdata : wanted.anonymous.data = resource.anonymous.data := by
    rw [hanonymous]
  have hspelled := hresourceSettled wanted hwanted
  simp only [ResourceSpec.anonymous] at hdata
  rw [← hdata, hspelled]

theorem reached_settled {executor : Executor} {engines : List WorkflowEngineType}
    (hwired : executor.handlers = buildHandlers engines) {moves : List (Move system)}
    (hmoves : (storing jsonb).Permitted moves) (clock : Time) :
    (reached executor clock moves).world.Settled jsonb.spell := by
  intro runId run hrun
  have hinv := (attributing engines).reached_inv hwired clock moves
  obtain ⟨⟨origin, hcreated, -, hcontinues⟩, -⟩ := hinv.rows runId run hrun
  exact hcontinues.2.settled (created_settled hmoves clock hcreated)

theorem storedReached_mirrors {executor : Executor} {engines : List WorkflowEngineType}
    (hwired : executor.handlers = buildHandlers engines) (clock : Time)
    (moves : List (Move (storedSystem jsonb))) :
    ∃ others : List (Move system),
      (reached executor clock others).threads = (storedReached jsonb executor clock moves).threads ∧
      Mirrors jsonb (storedReached jsonb executor clock moves).world
        (reached executor clock others).world := by
  have hstart : (storing jsonb).mirrors { clock := clock } { clock := clock } := ⟨.nil, rfl, rfl⟩
  have hknown : ∀ others, (storing jsonb).Permitted others →
      (storing jsonb).known (Pool.run executor.handle others ⟨{ clock := clock }, []⟩).world :=
    fun others hothers => reached_settled hwired hothers clock
  obtain ⟨others, -, hrun⟩ := Refines.run hstart hknown moves
  exact ⟨others, hrun⟩

end Refinement

/-- Whatever the stored system does, the system over runs may do: its drives stand where
the drives stand, the same has happened, and every stored row loads as the run there. -/
theorem stored_runs_mirrored {executor : Executor} {engines : List WorkflowEngineType}
    (hwired : executor.handlers = buildHandlers engines) {pydantic : Pydantic}
    (jsonb : Jsonb pydantic) (clock : Time) (moves : List (Move (storedSystem jsonb))) :
    ∃ others : List (Move system),
      (reached executor clock others).threads = (storedReached jsonb executor clock moves).threads ∧
      Mirrors jsonb (storedReached jsonb executor clock moves).world
        (reached executor clock others).world := by
  exact storedReached_mirrors hwired clock moves

/-- A run that is triggered and loaded by a drive. -/
noncomputable def storedMoves : List (Move (storedSystem sampleJsonb)) :=
  [.outside (.trigger sampleId (some automationWorkflow) automationSample), .start sampleId,
    .advance 0 { answer := willing }]

theorem stored_runs_mirrored_loaded :
    ∃ others : List (Move system),
      (reached sampleExecutor 0 others).threads =
          (storedReached sampleJsonb sampleExecutor 0 storedMoves).threads ∧
        Mirrors sampleJsonb (storedReached sampleJsonb sampleExecutor 0 storedMoves).world
          (reached sampleExecutor 0 others).world :=
  @stored_runs_mirrored sampleExecutor [.airflow] rfl samplePydantic sampleJsonb 0 storedMoves

/-- No claim and no query by path of a table that was reached raises, and they return what
they would over the runs that the table holds. -/
theorem stored_queries_answered {executor : Executor} {engines : List WorkflowEngineType}
    (hwired : executor.handlers = buildHandlers engines) {pydantic : Pydantic}
    (jsonb : Jsonb pydantic) (clock : Time) (moves : List (Move (storedSystem jsonb))) :
    ∃ runs, List.Forall₂ (Holds jsonb) (storedReached jsonb executor clock moves).world.table runs ∧
      (∀ now limit lease locked,
        (Queue.claimDue jsonb.processResultValue now limit lease locked
          (storedReached jsonb executor clock moves).world.table).1 =
            .ok (Store.claimDue now limit lease locked runs).1) ∧
      ∀ value,
        Table.findByPath jsonb ["ticket", "ticket_id"] value
            (storedReached jsonb executor clock moves).world.table =
          .ok (Store.findByTicketId value runs) ∧
        Table.findByPath jsonb ["resource", "vendor_id"] value
            (storedReached jsonb executor clock moves).world.table =
          .ok (Store.findByVendorId value runs) ∧
        Table.findByPath jsonb ["engine_run_id"] value
            (storedReached jsonb executor clock moves).world.table =
          .ok (Store.findByEngineRunId value runs) := by
  obtain ⟨others, -, hmirrors⟩ := @storedReached_mirrors pydantic jsonb executor engines hwired
    clock moves
  refine ⟨_, hmirrors.rows, ?_, ?_⟩
  · intro now limit lease locked
    exact (claimDue_holds hmirrors.rows now limit lease locked).1
  · intro value
    refine ⟨?_, ?_, ?_⟩
    · exact findByPath_holds hmirrors.rows (fun hwrite => (Jsonb.pathText_eq hwrite).1)
        (fun _ => rfl) value
    · refine findByPath_holds hmirrors.rows (fun hwrite => (Jsonb.pathText_eq hwrite).2.1) ?_ value
      intro state
      simp only [RunState.respelled, Option.map_map]
      rfl
    · exact findByPath_holds hmirrors.rows (fun hwrite => (Jsonb.pathText_eq hwrite).2.2.2)
        (fun _ => rfl) value

theorem stored_queries_answered_loaded :
    ∃ runs, List.Forall₂ (Holds sampleJsonb)
        (storedReached sampleJsonb sampleExecutor 0 storedMoves).world.table runs ∧
      (∀ now limit lease locked,
        (Queue.claimDue sampleJsonb.processResultValue now limit lease locked
          (storedReached sampleJsonb sampleExecutor 0 storedMoves).world.table).1 =
            .ok (Store.claimDue now limit lease locked runs).1) ∧
      ∀ value,
        Table.findByPath sampleJsonb ["ticket", "ticket_id"] value
            (storedReached sampleJsonb sampleExecutor 0 storedMoves).world.table =
          .ok (Store.findByTicketId value runs) ∧
        Table.findByPath sampleJsonb ["resource", "vendor_id"] value
            (storedReached sampleJsonb sampleExecutor 0 storedMoves).world.table =
          .ok (Store.findByVendorId value runs) ∧
        Table.findByPath sampleJsonb ["engine_run_id"] value
            (storedReached sampleJsonb sampleExecutor 0 storedMoves).world.table =
          .ok (Store.findByEngineRunId value runs) :=
  @stored_queries_answered sampleExecutor [.airflow] rfl samplePydantic sampleJsonb 0 storedMoves

end CloudioOrchestrator

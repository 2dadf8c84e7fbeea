import CloudioOrchestrator.Store
import CloudioOrchestrator.Executor
import CloudioOrchestrator.Services

/-! # Claiming from a table that may not decode

The rows as the table holds them: the run state is a document, and loading a
row validates it. A claim loads the rows that it selects, so that one of them
may raise and roll the claim back; the workers then claim again.
-/

namespace CloudioOrchestrator

/-- A row of the table, with its run state as stored. -/
structure StoredRow where
  runId : UUID
  runType : RunType
  status : RunStatus
  currentStep : Option String
  workflowIdentifier : String
  createdBy : String
  maxRetries : Int
  scheduledAt : Option Time
  version : Int
  runState : Json

namespace Queue

open StoredRow

/-- What validates a stored run state. -/
abbrev Decoder := Json → Except PyException RunState

variable (decode : Decoder)

/-- Load the entity of a row. -/
def load (row : StoredRow) : Except PyException WorkflowRun :=
  (decode row.runState).map fun state =>
    { runId := row.runId
      runType := row.runType
      status := row.status
      currentStep := row.currentStep
      workflowIdentifier := row.workflowIdentifier
      createdBy := row.createdBy
      maxRetries := row.maxRetries
      scheduledAt := row.scheduledAt
      version := row.version
      runState := state }

def Decodes (row : StoredRow) : Prop :=
  ∃ state, decode row.runState = .ok state

/-- The entity of a row that decodes. -/
def entity (fallback : RunState) (row : StoredRow) : WorkflowRun :=
  { runId := row.runId
    runType := row.runType
    status := row.status
    currentStep := row.currentStep
    workflowIdentifier := row.workflowIdentifier
    createdBy := row.createdBy
    maxRetries := row.maxRetries
    scheduledAt := row.scheduledAt
    version := row.version
    runState := (decode row.runState).toOption.getD fallback }

def isDue (now : Time) (row : StoredRow) : Bool :=
  match row.scheduledAt with
  | some scheduledAt => scheduledAt ≤ now
  | none => false

def earlier (first second : StoredRow) : Bool :=
  first.scheduledAt.getD 0 ≤ second.scheduledAt.getD 0

/-- The due rows that no other transaction holds, in the order of their schedule. -/
def queue (now : Time) (locked : UUID → Bool) (rows : List StoredRow) : List StoredRow :=
  (rows.filter fun row => isDue now row && !locked row.runId).mergeSort earlier

/-- Set the schedule of the rows selected. -/
def reschedule (select : StoredRow → Bool) (time : Time) (rows : List StoredRow) :
    List StoredRow :=
  rows.map fun row => if select row then { row with scheduledAt := some time } else row

/-- Claim due rows by pushing their schedule past a lease. A selected row that
does not load raises, and the transaction is rolled back. -/
def claimDue (now : Time) (limit : Nat) (lease : Time) (locked : UUID → Bool)
    (rows : List StoredRow) : Except PyException (List UUID) × List StoredRow :=
  match ((queue now locked rows).take limit).mapM (load decode) with
  | .error error => (.error error, rows)
  | .ok runs =>
    let ids := runs.map WorkflowRun.runId
    (.ok ids, reschedule (fun row => isDue now row && row.runId ∈ ids) (now + lease) rows)

/-- A claim and the ones that follow it at the given times, with nobody else at work. -/
def claims (limit : Nat) (lease : Time) :
    List Time → List StoredRow → List (Except PyException (List UUID)) × List StoredRow
  | [], rows => ([], rows)
  | now :: times, rows =>
    let (outcome, rows) := claimDue decode now limit lease (fun _ => false) rows
    let (outcomes, rows) := claims limit lease times rows
    (outcome :: outcomes, rows)

section Loading

variable {decode : Decoder} {row : StoredRow} {run : WorkflowRun}

theorem load_eq_ok (hload : load decode row = .ok run) :
    Decodes decode row ∧ run.runId = row.runId := by
  unfold load at hload
  cases hdecode : decode row.runState with
  | error error =>
      rw [hdecode] at hload
      cases hload
  | ok state =>
      rw [hdecode] at hload
      cases hload
      exact ⟨⟨state, hdecode⟩, rfl⟩

theorem load_of_decodes (hdecodes : Decodes decode row) : ∃ run, load decode row = .ok run := by
  obtain ⟨state, hstate⟩ := hdecodes
  unfold load
  rw [hstate]
  exact ⟨_, rfl⟩

/-- Rows load together exactly if each of them decodes. -/
theorem mapM_load_iff (rows : List StoredRow) :
    (∃ runs, rows.mapM (load decode) = .ok runs) ↔ ∀ row ∈ rows, Decodes decode row := by
  induction rows with
  | nil => simp [pure, Except.pure]
  | cons row rows ih =>
      rw [List.mapM_cons, List.forall_mem_cons, ← ih]
      constructor
      · rintro ⟨runs, hruns⟩
        cases hrow : load decode row with
        | error error => simp [hrow, bind, Except.bind] at hruns
        | ok run =>
            cases hrest : rows.mapM (load decode) with
            | error error => simp [hrow, hrest, bind, Except.bind] at hruns
            | ok rest => exact ⟨(load_eq_ok hrow).1, rest, rfl⟩
      · rintro ⟨hrow, rest, hrest⟩
        obtain ⟨run, hrun⟩ := load_of_decodes hrow
        exact ⟨run :: rest, by simp [hrun, hrest, bind, Except.bind, pure, Except.pure]⟩

/-- The ids are those of the rows, in their order. -/
theorem runIds_of_mapM_load {rows : List StoredRow} {runs : List WorkflowRun}
    (hload : rows.mapM (load decode) = .ok runs) :
    runs.map WorkflowRun.runId = rows.map StoredRow.runId := by
  induction rows generalizing runs with
  | nil =>
      cases hload
      rfl
  | cons row rows ih =>
      rw [List.mapM_cons] at hload
      cases hrow : load decode row with
      | error error => simp [hrow, bind, Except.bind] at hload
      | ok run =>
          cases hrest : rows.mapM (load decode) with
          | error error => simp [hrow, hrest, bind, Except.bind] at hload
          | ok rest =>
              simp only [hrow, hrest, bind, Except.bind, pure, Except.pure] at hload
              cases hload
              rw [List.map_cons, List.map_cons, (load_eq_ok hrow).2, ih hrest]

end Loading

section Claiming

variable {decode : Decoder} {now lease : Time} {limit : Nat} {locked : UUID → Bool}
  {rows : List StoredRow}

theorem mem_queue {row : StoredRow} :
    row ∈ queue now locked rows ↔ row ∈ rows ∧ isDue now row = true ∧ locked row.runId = false := by
  simp [queue]

/-- A claim returns the ids of the rows it selects, or raises and changes nothing. -/
theorem claimDue_cases :
    (∃ error, claimDue decode now limit lease locked rows = (.error error, rows)) ∨
    (∀ row ∈ (queue now locked rows).take limit, Decodes decode row) ∧
      (claimDue decode now limit lease locked rows).1 =
        .ok (((queue now locked rows).take limit).map StoredRow.runId) := by
  unfold claimDue
  cases hload : ((queue now locked rows).take limit).mapM (load decode) with
  | error error => exact .inl ⟨error, rfl⟩
  | ok runs =>
      right
      refine ⟨(mapM_load_iff _).mp ⟨runs, hload⟩, ?_⟩
      simp only [runIds_of_mapM_load hload]

/-- Where a row that does not decode is due before all others, every claim raises. -/
theorem claimDue_raises_of_first {row : StoredRow} (hlimit : 1 ≤ limit) (hrow : row ∈ rows)
    (hdue : isDue now row = true) (hfree : locked row.runId = false) (hbad : ¬ Decodes decode row)
    (hfirst : ∀ other ∈ rows, other ≠ row → isDue now other = true → earlier other row = false) :
    ∃ error, claimDue decode now limit lease locked rows = (.error error, rows) := by
  rcases @claimDue_cases decode now lease limit locked rows with hraised | ⟨hdecodes, -⟩
  · exact hraised
  · -- the row is at the head of the queue, so the claim selects it
    exfalso
    have hmem : row ∈ queue now locked rows := mem_queue.mpr ⟨hrow, hdue, hfree⟩
    have hsorted : (queue now locked rows).Pairwise fun first second => earlier first second := by
      apply List.pairwise_mergeSort
      · intro first second third hfirst hsecond
        simp only [earlier, decide_eq_true_eq] at hfirst hsecond ⊢
        exact Int.le_trans hfirst hsecond
      · intro first second
        simp only [earlier, Bool.or_eq_true, decide_eq_true_eq]
        exact Int.le_total _ _
    cases hqueue : queue now locked rows with
    | nil =>
        rw [hqueue] at hmem
        cases hmem
    | cons head rest =>
        have hhead : head = row := by
          by_contra hne
          obtain ⟨hheadMem, hheadDue, -⟩ := mem_queue.mp (hqueue ▸ List.mem_cons_self)
          have hrest : row ∈ rest := by
            rw [hqueue] at hmem
            exact (List.mem_cons.mp hmem).resolve_left (Ne.symm hne)
          rw [hqueue, List.pairwise_cons] at hsorted
          have hle := hsorted.1 row hrest
          rw [hfirst head hheadMem hne hheadDue] at hle
          cases hle
        rw [hqueue, hhead] at hdecodes
        apply hbad
        apply hdecodes
        obtain ⟨count, rfl⟩ := Nat.exists_eq_add_of_le' hlimit
        rw [List.take_succ_cons]
        exact List.mem_cons_self

/-- Setting schedules and loading commute. -/
theorem map_reschedule {select : StoredRow → Bool} {selectRun : WorkflowRun → Bool} {time : Time}
    {fallback : RunState} (hselect : ∀ row, select row = selectRun (entity decode fallback row)) :
    (reschedule select time rows).map (entity decode fallback) =
      Store.reschedule selectRun time (rows.map (entity decode fallback)) := by
  simp only [reschedule, Store.reschedule, List.map_map]
  apply List.map_congr_left
  intro row _
  simp only [Function.comp, ← hselect]
  cases select row with
  | false => rfl
  | true => rfl

/-- Where every row decodes, the claim is the one of the store of runs. -/
theorem claimDue_refines (fallback : RunState) (hrows : ∀ row ∈ rows, Decodes decode row) :
    (claimDue decode now limit lease locked rows).1 = .ok (Store.claimDue now limit lease locked
        (rows.map (entity decode fallback))).1 ∧
      (claimDue decode now limit lease locked rows).2.map (entity decode fallback) =
        (Store.claimDue now limit lease locked (rows.map (entity decode fallback))).2 := by
  have hselected : ∀ row ∈ (queue now locked rows).take limit, Decodes decode row := by
    intro row hrow
    exact hrows row (mem_queue.mp (List.mem_of_mem_take hrow)).1
  have hqueue : (queue now locked rows).map (entity decode fallback) =
      ((rows.map (entity decode fallback)).filter fun row =>
        Store.isDue now row && !locked row.runId).mergeSort fun first second =>
          first.scheduledAt.getD 0 ≤ second.scheduledAt.getD 0 := by
    rw [List.filter_map]
    exact List.map_mergeSort fun _ _ _ _ => rfl
  have hids : ((queue now locked rows).take limit).map StoredRow.runId =
      Store.dueIds now limit locked (rows.map (entity decode fallback)) := by
    unfold Store.dueIds
    simp only [← hqueue, ← List.map_take, List.map_map]
    rfl
  obtain ⟨runs, hload⟩ := (mapM_load_iff _).mpr hselected
  simp only [claimDue, hload, runIds_of_mapM_load hload, Store.claimDue, hids]
  exact ⟨trivial, map_reschedule fun _ => rfl⟩

/-- Nobody gets a run any more: the claims that follow a wedged one raise as well. -/
theorem claims_raise {row : StoredRow} (hlimit : 1 ≤ limit) (hrow : row ∈ rows)
    (hbad : ¬ Decodes decode row) (times : List Time) (hdue : ∀ now ∈ times, isDue now row = true)
    (hfirst : ∀ other ∈ rows, other ≠ row → earlier other row = false) :
    (claims decode limit lease times rows).2 = rows ∧
      ∀ outcome ∈ (claims decode limit lease times rows).1, ∃ error, outcome = .error error := by
  induction times with
  | nil => simp [claims]
  | cons now times ih =>
      obtain ⟨hrows, houtcomes⟩ := ih fun later hlater => hdue later (List.mem_cons_of_mem _ hlater)
      obtain ⟨error, hraised⟩ := @claimDue_raises_of_first decode now lease limit (fun _ => false)
        rows row hlimit hrow (hdue now List.mem_cons_self) rfl hbad
        fun other hother hne _ => hfirst other hother hne
      simp only [claims, hraised]
      refine ⟨hrows, ?_⟩
      intro outcome houtcome
      rcases List.mem_cons.mp houtcome with rfl | hrest
      · exact ⟨error, rfl⟩
      · exact houtcomes outcome hrest

/-- In any table with a due row that decodes, a claim returns an id exactly if
all the rows decode that it comes to first. -/
theorem claim_returns_iff (decode : Decoder) (now lease : Time) (limit : Nat)
    (locked : UUID → Bool) (rows : List StoredRow) (hlimit : 1 ≤ limit)
    (hdue : ∃ row ∈ rows, isDue now row = true ∧ locked row.runId = false ∧ Decodes decode row) :
    (∃ runId runIds, (claimDue decode now limit lease locked rows).1 = .ok (runId :: runIds)) ↔
      ∀ row ∈ (queue now locked rows).take limit, Decodes decode row := by
  constructor
  · rintro ⟨runId, runIds, hclaimed⟩
    rcases @claimDue_cases decode now lease limit locked rows with ⟨error, hraised⟩ | ⟨hdecodes, -⟩
    · rw [hraised] at hclaimed
      cases hclaimed
    · exact hdecodes
  · intro hdecodes
    -- whatever else is due, the queue is not empty
    obtain ⟨row, hrow, hrowDue, hfree, -⟩ := hdue
    rcases @claimDue_cases decode now lease limit locked rows with ⟨error, hraised⟩ | ⟨-, hclaimed⟩
    · exfalso
      obtain ⟨runs, hload⟩ := (mapM_load_iff _).mpr hdecodes
      rw [claimDue, hload] at hraised
      cases hraised
    · have hmem := mem_queue.mpr ⟨hrow, hrowDue, hfree⟩
      obtain ⟨count, rfl⟩ := Nat.exists_eq_add_of_le' hlimit
      cases hqueue : queue now locked rows with
      | nil =>
          rw [hqueue] at hmem
          cases hmem
      | cons head rest =>
          rw [hclaimed, hqueue, List.take_succ_cons, List.map_cons]
          exact ⟨_, _, rfl⟩

end Claiming

section Examples

/-- A decoder that refuses the state of a step that was renamed since. -/
def strict (document : Json) : Except PyException RunState :=
  if document = "provisioning" then .error (.valueError "Input should be a member of StepName")
  else .ok (triggerLegacy 0 sampleId legacySample).runState

def storedRow (scheduledAt : Time) (runState : Json) : StoredRow where
  runId := sampleId
  runType := .legacy
  status := .running
  currentStep := none
  workflowIdentifier := "vm"
  createdBy := "user"
  maxRetries := 3
  scheduledAt := some scheduledAt
  version := 1
  runState := runState

/-- The row that does not decode is due last, and a claim of one row passes it by. -/
theorem claim_returns_iff_readable :
    (∃ runId runIds, (claimDue strict 2 1 60 (fun _ => false)
      [storedRow 1 "provisioning", storedRow 0 "running_engine"]).1 = .ok (runId :: runIds)) ↔
      ∀ row ∈ (queue 2 (fun _ => false)
        [storedRow 1 "provisioning", storedRow 0 "running_engine"]).take 1, Decodes strict row :=
  claim_returns_iff strict 2 60 1 (fun _ => false) _ (Nat.le_refl 1)
    ⟨storedRow 0 "running_engine", by simp, rfl, rfl, _, rfl⟩

/-- It is due first: the claim raises though another row is due and decodes. -/
theorem claim_raises_unreadable :
    isDue 2 (storedRow 1 "running_engine") = true ∧ Decodes strict (storedRow 1 "running_engine") ∧
      (claimDue strict 2 1 60 (fun _ => false)
        [storedRow 0 "provisioning", storedRow 1 "running_engine"]) =
        (.error (.valueError "Input should be a member of StepName"),
          [storedRow 0 "provisioning", storedRow 1 "running_engine"]) := by
  refine ⟨rfl, ⟨_, rfl⟩, ?_⟩
  simp [claimDue, queue, isDue, storedRow, List.mergeSort, earlier, load, strict]
  rfl

end Examples

end Queue

end CloudioOrchestrator

import CloudioOrchestrator.Run

/-! # The run store

The repository's operations on the table of runs, each one transaction. A save
checks the version and writes every mutable field; claiming and waking write
only the schedule and look at no version.
-/

namespace CloudioOrchestrator.Store

abbrev Rows := List WorkflowRun

def get (rows : Rows) (runId : UUID) : Option WorkflowRun :=
  rows.find? fun row => row.runId = runId

/-- Insert a row; the primary key refuses an id that is taken. -/
def create (rows : Rows) (run : WorkflowRun) : Rows :=
  if (get rows run.runId).isSome then rows else run :: rows

/-- Overwrite the row that has the given row's id. -/
def put (rows : Rows) (row : WorkflowRun) : Rows :=
  rows.map fun other => if other.runId = row.runId then row else other

/-- The row a save commits, if its version check passes. -/
def save (rows : Rows) (run : WorkflowRun) : Except PyException WorkflowRun :=
  match get rows run.runId with
  | none => .error (.staleRun ("Run " ++ run.runId.str ++ " no longer exists"))
  | some db =>
    if db.version ≠ run.version then
      .error (.staleRun ("Run " ++ run.runId.str ++ " changed concurrently (db v" ++
        toString db.version ++ " != v" ++ toString run.version ++ ")"))
    else
      -- every other column stays as the row has it
      .ok { db with
        status := run.status
        currentStep := run.currentStep
        scheduledAt := run.scheduledAt
        runState := run.runState
        version := run.version + 1 }

def isDue (now : Time) (row : WorkflowRun) : Bool :=
  match row.scheduledAt with
  | some scheduledAt => scheduledAt ≤ now
  | none => false

theorem scheduled_of_isDue {now : Time} {row : WorkflowRun} (hdue : isDue now row = true) :
    row.scheduledAt ≠ none := by
  intro hnone
  simp [isDue, hnone] at hdue

/-- The ids of the earliest due rows, skipping those another transaction holds. -/
def dueIds (now : Time) (limit : Nat) (locked : UUID → Bool) (rows : Rows) : List UUID :=
  let due := rows.filter fun row => isDue now row && !locked row.runId
  let ordered := due.mergeSort fun first second =>
    first.scheduledAt.getD 0 ≤ second.scheduledAt.getD 0
  (ordered.take limit).map WorkflowRun.runId

/-- Set the schedule of the rows selected. -/
def reschedule (select : WorkflowRun → Bool) (time : Time) (rows : Rows) : Rows :=
  rows.map fun row => if select row then { row with scheduledAt := some time } else row

/-- Claim due rows by pushing their schedule past a lease. -/
def claimDue (now : Time) (limit : Nat) (lease : Time) (locked : UUID → Bool) (rows : Rows) :
    List UUID × Rows :=
  let ids := dueIds now limit locked rows
  (ids, reschedule (fun row => isDue now row && row.runId ∈ ids) (now + lease) rows)

/-- Whether a wake reaches a row. -/
def wakes (runId : UUID) (row : WorkflowRun) : Bool :=
  row.runId = runId ∧ (row.status = .pending ∨ row.status = .running)

/-- Make a run due now unless it is terminal; says whether a row was woken. -/
def wake (now : Time) (runId : UUID) (rows : Rows) : Bool × Rows :=
  (rows.any (wakes runId), reschedule (wakes runId) now rows)

section Lookup

variable {rows : Rows} {run row : WorkflowRun} {runId : UUID}

theorem runId_of_get (hget : get rows runId = some row) : row.runId = runId := by
  simpa using List.find?_some hget

theorem get_create (runId : UUID) (hfresh : get rows run.runId = none) :
    get (create rows run) runId = if run.runId = runId then some run else get rows runId := by
  simp only [create, hfresh, Option.isSome_none, Bool.false_eq_true, if_false]
  simp only [get, List.find?_cons]
  by_cases hid : run.runId = runId <;> simp [hid]

theorem get_put (runId : UUID) (htaken : get rows row.runId ≠ none) :
    get (put rows row) runId = if row.runId = runId then some row else get rows runId := by
  induction rows with
  | nil => simp [get] at htaken
  | cons head rest ih =>
      by_cases hhead : head.runId = row.runId
      · by_cases hid : row.runId = runId
        · simp [get, put, hhead, hid]
        · have hrest : ∀ tail : Rows, get (put tail row) runId = get tail runId := by
            intro tail
            induction tail with
            | nil => rfl
            | cons first rest ih =>
                simp only [get, put, List.map_cons, List.find?_cons] at ih ⊢
                by_cases hfirst : first.runId = row.runId
                · simpa [hfirst, hid] using ih
                · simp only [hfirst, if_false]
                  rw [ih]
          have := hrest (head :: rest)
          simpa [hid] using this
      · have htaken' : get rest row.runId ≠ none := by simpa [get, hhead] using htaken
        have := ih htaken'
        simp only [get, put, List.map_cons, List.find?_cons, hhead, if_false] at this ⊢
        by_cases hid : row.runId = runId
        · subst hid
          simpa [hhead] using this
        · rw [this]
          simp [hid]

theorem get_reschedule (select : WorkflowRun → Bool) (time : Time) (rows : Rows)
    (runId : UUID) :
    get (reschedule select time rows) runId = (get rows runId).map fun row =>
      if select row then { row with scheduledAt := some time } else row := by
  induction rows with
  | nil => rfl
  | cons head rest ih =>
      have hid : (if select head then { head with scheduledAt := some time } else head).runId =
          head.runId := by split <;> rfl
      simp only [get, reschedule, List.map_cons, List.find?_cons, hid] at ih ⊢
      by_cases hhead : head.runId = runId <;> simp [hhead, ih]

/-- A save that passes its check writes over the row it read. -/
theorem save_eq_ok (hsave : save rows run = .ok row) :
    ∃ db, get rows run.runId = some db ∧ db.version = run.version ∧
      row = { db with
        status := run.status, currentStep := run.currentStep, scheduledAt := run.scheduledAt
        runState := run.runState, version := run.version + 1 } := by
  simp only [save] at hsave
  split at hsave
  next => cases hsave
  next db hget =>
    split at hsave
    next => cases hsave
    next hversion =>
      exact ⟨db, hget, by simpa using hversion, (Except.ok.inj hsave).symm⟩

/-- The only error of a save's own is that it lost to another writer. -/
theorem save_eq_error {error : PyException} (hsave : save rows run = .error error) :
    ∃ message, error = .staleRun message := by
  simp only [save] at hsave
  split at hsave
  next => exact ⟨_, (Except.error.inj hsave).symm⟩
  next =>
    split at hsave
    next => exact ⟨_, (Except.error.inj hsave).symm⟩
    next => cases hsave

end Lookup

end CloudioOrchestrator.Store

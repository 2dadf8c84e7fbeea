import CloudioOrchestrator.Services

/-! # The registry of workflows

Registrations as their table keeps them, under unique identifiers and unique ids.
An update reads its row in one statement and writes the columns that it changes in
another, so that two updates of one registration may meet in between.
-/

namespace CloudioOrchestrator

/-- A row of the table. -/
structure Registration where
  workflowId : UUID
  workflow : Workflow

/-- What a `VARCHAR(255)` column takes. -/
def fitsColumn (text : String) : Bool :=
  text.length ≤ 255 && !text.toList.contains '\x00'

def Workflow.storable (workflow : Workflow) : Bool :=
  fitsColumn workflow.identifier &&
    workflow.name.all fitsColumn &&
    fitsColumn workflow.automationId &&
    fitsColumn workflow.ticketTemplateId

/-- The columns that an update changes. -/
structure WorkflowPatch where
  name : Option (Option String) := none
  runType : Option RunType := none
  engineType : Option WorkflowEngineType := none
  automationId : Option String := none
  ticketTemplateId : Option String := none

/-- The columns in which the editable fields differ from the row as it was read. -/
def Workflow.changes (db workflow : Workflow) : WorkflowPatch where
  name := if db.name = workflow.name then none else some workflow.name
  runType := if db.runType = workflow.runType then none else some workflow.runType
  engineType := if db.engineType = workflow.engineType then none else some workflow.engineType
  automationId :=
    if db.automationId = workflow.automationId then none else some workflow.automationId
  ticketTemplateId :=
    if db.ticketTemplateId = workflow.ticketTemplateId then none
    else some workflow.ticketTemplateId

namespace WorkflowPatch

variable (patch : WorkflowPatch)

def storable : Bool :=
  (patch.name.all fun name => name.all fitsColumn) &&
    patch.automationId.all fitsColumn &&
    patch.ticketTemplateId.all fitsColumn

def apply (workflow : Workflow) : Workflow :=
  { workflow with
    name := patch.name.getD workflow.name
    runType := patch.runType.getD workflow.runType
    engineType := patch.engineType.getD workflow.engineType
    automationId := patch.automationId.getD workflow.automationId
    ticketTemplateId := patch.ticketTemplateId.getD workflow.ticketTemplateId }

@[simp] theorem apply_identifier (workflow : Workflow) :
    (patch.apply workflow).identifier = workflow.identifier := rfl

end WorkflowPatch

theorem getD_ite {α : Type} [DecidableEq α] (old new : α) :
    (if old = new then none else some new).getD old = new := by
  split
  next heq => exact heq
  next => rfl

/-- Applied to the row it was read from, an update makes it what was asked for. -/
theorem WorkflowPatch.apply_changes (db workflow : Workflow) :
    (db.changes workflow).apply db = { workflow with identifier := db.identifier } := by
  simp only [apply, Workflow.changes, getD_ite]

namespace Registry

abbrev Rows := List Registration

inductive DbError
  /-- A unique column has the value already. -/
  | integrity
  | raised
deriving DecidableEq, Repr

def getByIdentifier (rows : Rows) (identifier : String) : Option Registration :=
  rows.find? fun row => row.workflow.identifier = identifier

/-- Another row has the identifier or the id. -/
def taken (rows : Rows) (row : Registration) : Bool :=
  rows.any fun other =>
    other.workflow.identifier = row.workflow.identifier || other.workflowId = row.workflowId

def insert (rows : Rows) (row : Registration) : Except DbError Rows :=
  if !row.workflow.storable then .error .raised
  else if taken rows row then .error .integrity
  else .ok (rows ++ [row])

/-- Write the columns of one row. -/
def write (workflowId : UUID) (patch : WorkflowPatch) (rows : Rows) : Rows :=
  rows.map fun row =>
    if row.workflowId = workflowId then { row with workflow := patch.apply row.workflow } else row

/-- What was done to the registry, and on whose behalf. -/
inductive Filing (Clerk : Type)
  | registered (clerk : Clerk) (row : Registration)
  | updated (clerk : Clerk) (workflowId : UUID) (patch : WorkflowPatch)
  /-- An insert was refused because its random id was taken. -/
  | collided (clerk : Clerk) (workflowId : UUID)

variable {Clerk : Type}

def Filing.clerk : Filing Clerk → Clerk
  | .registered clerk _ | .updated clerk _ _ | .collided clerk _ => clerk

/-- The table after the filings, which are kept newest first. -/
def tableOf : List (Filing Clerk) → Rows
  | [] => []
  | .registered _ row :: older => tableOf older ++ [row]
  | .updated _ workflowId patch :: older => write workflowId patch (tableOf older)
  | .collided _ _ :: older => tableOf older

/-- Only what was free was registered. -/
def Regular : List (Filing Clerk) → Prop
  | [] => True
  | .registered _ row :: older => taken (tableOf older) row = false ∧ Regular older
  | _ :: older => Regular older

section Identity

variable {rows : Rows} {row other : Registration} {newer older : List (Filing Clerk)}
variable {identifier : String}

/-- Two rows of the table are the same registration or share neither identifier nor id. -/
def Distinct (rows : Rows) : Prop :=
  rows.Pairwise fun first second =>
    first.workflow.identifier ≠ second.workflow.identifier ∧
      first.workflowId ≠ second.workflowId

theorem not_taken (hfree : taken rows row = false) {other : Registration} (hother : other ∈ rows) :
    other.workflow.identifier ≠ row.workflow.identifier ∧ other.workflowId ≠ row.workflowId := by
  simp only [taken, List.any_eq_false, Bool.or_eq_true, decide_eq_true_eq, not_or] at hfree
  exact hfree other hother

theorem Distinct.append (hrows : Distinct rows) (hfree : taken rows row = false) :
    Distinct (rows ++ [row]) := by
  apply List.pairwise_append.mpr
  refine ⟨hrows, List.pairwise_singleton _ _, ?_⟩
  intro other hother new hnew
  rw [List.mem_singleton.mp hnew]
  exact not_taken hfree hother

theorem Distinct.write (hrows : Distinct rows) (workflowId : UUID) (patch : WorkflowPatch) :
    Distinct (write workflowId patch rows) := by
  apply List.pairwise_map.mpr
  apply hrows.imp
  intro first second hne
  split <;> split <;> exact hne

theorem tableOf_distinct {journal : List (Filing Clerk)} (hregular : Regular journal) :
    Distinct (tableOf journal) := by
  induction journal with
  | nil => exact .nil
  | cons filing older ih =>
      cases filing with
      | registered clerk row => exact (ih hregular.2).append hregular.1
      | updated clerk workflowId patch => exact (ih hregular).write workflowId patch
      | collided clerk workflowId => exact ih hregular

theorem mem_of_getByIdentifier (hget : getByIdentifier rows identifier = some row) :
    row ∈ rows ∧ row.workflow.identifier = identifier :=
  ⟨List.mem_of_find?_eq_some hget, by simpa using List.find?_some hget⟩

theorem getByIdentifier_of_mem (hrows : Distinct rows) (hrow : row ∈ rows) :
    getByIdentifier rows row.workflow.identifier = some row := by
  induction rows with
  | nil => cases hrow
  | cons first rest ih =>
      obtain ⟨hfirst, hrest⟩ := List.pairwise_cons.mp hrows
      simp only [getByIdentifier, List.find?_cons]
      cases List.mem_cons.mp hrow with
      | inl hsame => simp [hsame]
      | inr hlater =>
          have hne := (hfirst row hlater).1
          simp only [hne, decide_false]
          exact ih hrest hlater

/-- What is registered stays registered, under its identifier and id. -/
theorem tableOf_stays (newer : List (Filing Clerk)) (hrow : row ∈ tableOf older) :
    ∃ later ∈ tableOf (newer ++ older), later.workflowId = row.workflowId ∧
      later.workflow.identifier = row.workflow.identifier := by
  induction newer with
  | nil => exact ⟨row, hrow, rfl, rfl⟩
  | cons filing newer ih =>
      obtain ⟨later, hlater, hid, hidentifier⟩ := ih
      cases filing with
      | registered clerk new => exact ⟨later, List.mem_append_left _ hlater, hid, hidentifier⟩
      | updated clerk workflowId patch =>
          refine ⟨_, List.mem_map.mpr ⟨later, hlater, rfl⟩, ?_, ?_⟩
          · split <;> exact hid
          · split <;> exact hidentifier
      | collided clerk workflowId => exact ⟨later, hlater, hid, hidentifier⟩

theorem Regular.suffix (newer : List (Filing Clerk)) (hregular : Regular (newer ++ older)) :
    Regular older := by
  induction newer with
  | nil => exact hregular
  | cons filing newer ih =>
      cases filing with
      | registered clerk row => exact ih hregular.2
      | _ => exact ih hregular

/-- An identifier is registered once. -/
theorem Regular.once {journal : List (Filing Clerk)} (hregular : Regular journal)
    {first second : Clerk} (hfirst : .registered first row ∈ journal)
    (hsecond : .registered second other ∈ journal)
    (hsame : row.workflow.identifier = other.workflow.identifier) :
    first = second ∧ row = other := by
  induction journal with
  | nil => cases hfirst
  | cons filing older ih =>
      -- what is registered above finds everything below taken
      have hbelow : ∀ {clerk new}, .registered clerk new ∈ older →
          ∃ later ∈ tableOf older, later.workflow.identifier = new.workflow.identifier := by
        intro clerk new hnew
        obtain ⟨newer, rest, hsplit⟩ := List.append_of_mem hnew
        have hmem : new ∈ tableOf (.registered clerk new :: rest) :=
          List.mem_append_right _ (List.mem_singleton_self _)
        obtain ⟨later, hlater, -, hidentifier⟩ := tableOf_stays newer hmem
        rw [← hsplit] at hlater
        exact ⟨later, hlater, hidentifier⟩
      cases List.mem_cons.mp hfirst with
      | inl htop =>
          cases List.mem_cons.mp hsecond with
          | inl htop' =>
              rw [← htop] at htop'
              injection htop' with hclerk hrow
              exact ⟨hclerk.symm, hrow.symm⟩
          | inr hlow =>
              subst htop
              obtain ⟨later, hlater, hidentifier⟩ := hbelow hlow
              exact absurd (hidentifier.trans hsame.symm) (not_taken hregular.1 hlater).1
      | inr hlow =>
          cases List.mem_cons.mp hsecond with
          | inl htop =>
              subst htop
              obtain ⟨later, hlater, hidentifier⟩ := hbelow hlow
              exact absurd (hidentifier.trans hsame) (not_taken hregular.1 hlater).1
          | inr hlow' =>
              have hrest : Regular older := Regular.suffix [filing] hregular
              exact ih hrest hlow hlow'

/-- A row that nobody else writes between the reading and the writing of an update is
what the update asked for. -/
theorem tableOf_settled {between : List (Filing Clerk)} {clerk : Clerk} {workflow : Workflow}
    (hregular : Regular (between ++ older))
    (hget : getByIdentifier (tableOf older) identifier = some row)
    (halone : ∀ filing ∈ between, ∀ other patch, filing ≠ .updated other row.workflowId patch)
    (hidentifier : workflow.identifier = row.workflow.identifier) :
    getByIdentifier (tableOf (.updated clerk row.workflowId (row.workflow.changes workflow) ::
      (between ++ older))) identifier = some { row with workflow := workflow } := by
  have hrow : row ∈ tableOf (between ++ older) := by
    induction between with
    | nil => exact (mem_of_getByIdentifier hget).1
    | cons filing between ih =>
        have hrest := ih (Regular.suffix [filing] hregular) fun other hother =>
          halone other (List.mem_cons_of_mem _ hother)
        have hfiling := halone filing List.mem_cons_self
        cases filing with
        | registered clerk new => exact List.mem_append_left _ hrest
        | updated clerk workflowId patch =>
            refine List.mem_map.mpr ⟨row, hrest, if_neg ?_⟩
            intro hid
            exact hfiling clerk patch (by rw [hid])
        | collided clerk workflowId => exact hrest
  have hwritten : { row with workflow := workflow } ∈
      write row.workflowId (row.workflow.changes workflow) (tableOf (between ++ older)) := by
    refine List.mem_map.mpr ⟨row, hrow, ?_⟩
    rw [if_pos rfl, WorkflowPatch.apply_changes, ← hidentifier]
  have hfound := getByIdentifier_of_mem
    ((tableOf_distinct hregular).write row.workflowId (row.workflow.changes workflow)) hwritten
  rw [hidentifier, (mem_of_getByIdentifier hget).2] at hfound
  exact hfound

end Identity

end Registry

end CloudioOrchestrator

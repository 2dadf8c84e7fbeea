import CloudioOrchestrator.Relational.Distinct
import CloudioOrchestrator.Executor
import CloudioOrchestrator.Services
import Mathlib.Data.List.ReduceOption

/-! # Latest-run lookups

The last run against a resource record, asked for one record or for several at
once, and what the routes answer of it. The batch is one query, whose rows are
keyed by record again and put in the order asked.
-/

namespace CloudioOrchestrator

open Relational

/-- A row with the times it was created and last written at. -/
structure RunRow where
  run : WorkflowRun
  createdAt : Time
  updatedAt : Time

/-- `run_state #>> '{resource,resource_id}'`; NULL for a run without a resource. -/
def RunRow.resourceId (row : RunRow) : Option String :=
  row.run.runState.resource.map ResourceSpec.resourceId

/-- The order the database sorts texts in. -/
structure Collation where
  le : String → String → Bool
  total : ∀ first second, le first second || le second first
  trans : ∀ first second third, le first second → le second third → le first third
  antisymm : ∀ first second, le first second → le second first → first = second

namespace Store

def newestFirst (first second : RunRow) : Bool :=
  second.createdAt ≤ first.createdAt

def findLastByResourceId (rows : List RunRow) (resourceId : String) : Option RunRow :=
  ((rows.filter fun row => row.resourceId = some resourceId).mergeSort newestFirst).head?

/-- By the record id, then newest first; rows without a record come last. -/
def byRecordThenNewest (collation : Collation) (first second : RunRow) : Bool :=
  match first.resourceId, second.resourceId with
  | some one, some other =>
      if one = other then newestFirst first second else collation.le one other
  | none, some _ => false
  | some _, none => true
  | none, none => newestFirst first second

/-- `column IN (...)`, which NULL is not. -/
def isAmong (resourceIds : List String) (row : RunRow) : Bool :=
  match row.resourceId with
  | some recordId => recordId ∈ resourceIds
  | none => false

def findLastByResourceIds (collation : Collation) (rows : List RunRow)
    (resourceIds : List String) : List RunRow :=
  if resourceIds = [] then []
  else
    distinctOn RunRow.resourceId
      ((rows.filter (isAmong resourceIds)).mergeSort (byRecordThenNewest collation))

end Store

/-! ## The routes -/

inductive ApiError
  | unprocessable (detail : String)
  | notFound (detail : String)
  | raised (error : PyException)
deriving DecidableEq, Repr

structure RunSummaryIncludes where
  includeResourceData : Bool := false
  includeTicketData : Bool := false
  includeEngineData : Bool := false
  includeStepsData : Bool := false

/-- A section left out is absent from the response, not null in it. -/
structure ResourceRunSummary where
  runId : UUID
  resourceId : String
  status : RunStatus
  currentStep : Option String
  operation : ResourceOperation
  createdBy : String
  createdAt : Time
  updatedAt : Time
  ticketId : Option String
  incidentId : Option String
  failureDetail : Option String
  resourceData : Option Json := none
  ticket : Option (Option TicketRef) := none
  engineRunId : Option (Option String) := none
  stepsStartedAt : Option (List (StepName × Datetime)) := none

/-- The steps in the order JSONB keeps keys in, shorter ones first. -/
def storedOrder : List StepName :=
  [.closeTicket, .runEngine, .createTicket, .awaitApproval, .submitLegacy, .finalizeResource,
    .validateResource, .configureResource]

def StepMap.items {α : Type} (entries : StepMap α) : List (StepName × α) :=
  storedOrder.filterMap fun step => (entries step).map (step, ·)

/-- What the engine reported, where it said anything, or the last error stored. -/
def failureDetail (state : RunState) : Option String :=
  match state.engineFailure.bind EngineFailure.detail with
  | some detail => if detail = "" then lastError else some detail
  | none => lastError
where
  lastError : Option String := (state.errors.items.map Prod.snd).getLast?

def Datetime.instant : Datetime → Time
  | .aware instant | .naive instant => instant

def Datetime.isAware : Datetime → Bool
  | .aware _ => true
  | .naive _ => false

/-- The items sorted by time; two times of different kinds do not compare. -/
def sortByTime (items : List (StepName × Datetime)) :
    Except PyException (List (StepName × Datetime)) :=
  if items.all (fun item => item.2.isAware) || items.all (fun item => !item.2.isAware) then
    .ok (items.mergeSort fun first second => first.2.instant ≤ second.2.instant)
  else .error (.typeError "can't compare offset-naive and offset-aware datetimes")

def stepsSection (state : RunState) (includes : RunSummaryIncludes) :
    Except ApiError (Option (List (StepName × Datetime))) :=
  if includes.includeStepsData then
    match sortByTime state.stepStartedAt.items with
    | .ok items => .ok (some items)
    | .error error => .error (.raised error)
  else .ok none

def summarizeRun (row : RunRow) (includes : RunSummaryIncludes) :
    Except ApiError ResourceRunSummary := do
  let state := row.run.runState
  let stepsStartedAt ← stepsSection state includes
  return {
    runId := row.run.runId
    resourceId := row.resourceId.getD ""
    status := row.run.status
    currentStep := row.run.currentStep
    operation := state.operation
    createdBy := row.run.createdBy
    createdAt := row.createdAt
    updatedAt := row.updatedAt
    ticketId := state.ticket.map TicketRef.ticketId
    incidentId := state.incidentId
    failureDetail := failureDetail state
    resourceData := if includes.includeResourceData then
      some ((state.resource.map ResourceSpec.data).getD "{}") else none
    ticket := if includes.includeTicketData then some state.ticket else none
    engineRunId := if includes.includeEngineData then some state.engineRunId else none
    stepsStartedAt := stepsStartedAt }

def maxBatchResourceIds : Nat := 200

/-- The characters `str.strip` takes off. -/
def strippable (char : Char) : Bool :=
  (0x09 ≤ char.val && char.val ≤ 0x0d) || (0x1c ≤ char.val && char.val ≤ 0x20) ||
    (0x2000 ≤ char.val && char.val ≤ 0x200a) ||
    char.val ∈ [0x85, 0xa0, 0x1680, 0x2028, 0x2029, 0x202f, 0x205f, 0x3000]

def strip (text : List Char) : String :=
  String.ofList ((text.dropWhile strippable).reverse.dropWhile strippable).reverse

/-- A part of the raw list is taken up unless it is blank or there already. -/
def addRecordId (seen : List String) (part : List Char) : List String :=
  let recordId := strip part
  if recordId = "" then seen else addNew seen recordId

def parseResourceIds (raw : String) : Except ApiError (List String) :=
  let resourceIds := (raw.toList.splitOn ',').foldl addRecordId []
  if resourceIds = [] then
    .error (.unprocessable "resource_id must carry at least one record id.")
  else if maxBatchResourceIds < resourceIds.length then
    .error (.unprocessable ("resource_id carries " ++ toString resourceIds.length ++
      " record ids; at most " ++ toString maxBatchResourceIds ++ " per request."))
  else .ok resourceIds

def getLatestResourceRun (rows : List RunRow) (resourceId : String)
    (includes : RunSummaryIncludes) : Except ApiError ResourceRunSummary :=
  match Store.findLastByResourceId rows resourceId with
  | none => .error (.notFound ("No runs for resource record '" ++ resourceId ++ "'."))
  | some row => summarizeRun row includes

/-- The rows keyed by record; of two with one record the later row stays. -/
def byRecord (rows : List RunRow) (recordId : String) : Option RunRow :=
  rows.reverse.find? fun row => row.resourceId = some recordId

def getLatestResourceRuns (collation : Collation) (rows : List RunRow) (raw : String)
    (includes : RunSummaryIncludes) : Except ApiError (List ResourceRunSummary) := do
  let resourceIds ← parseResourceIds raw
  let found := Store.findLastByResourceIds collation rows resourceIds
  (resourceIds.filterMap (byRecord found)).mapM fun row => summarizeRun row includes

/-! ## The batch and the single lookup -/

section Agreement

variable {rows : List RunRow}

/-- No two runs of one record were created at the same time. -/
def DistinctTimes (rows : List RunRow) : Prop :=
  rows.Pairwise fun first second => first.resourceId.isSome →
    first.resourceId = second.resourceId → first.createdAt ≠ second.createdAt

theorem DistinctTimes.eq (hdistinct : DistinctTimes rows) {recordId : String}
    {first second : RunRow} (hfirst : first ∈ rows) (hsecond : second ∈ rows)
    (hkey : first.resourceId = some recordId) (hother : second.resourceId = some recordId)
    (htime : first.createdAt = second.createdAt) : first = second := by
  by_contra hne
  have hsymm : Std.Symm fun first second : RunRow => first.resourceId.isSome →
      first.resourceId = second.resourceId → first.createdAt ≠ second.createdAt := by
    constructor
    intro one other hone hsome heq htimes
    exact hone (heq ▸ hsome) heq.symm htimes.symm
  have hapart := List.Pairwise.forall hdistinct hfirst hsecond hne
  exact hapart (by simp [hkey]) (hkey.trans hother.symm) htime

theorem newestFirst_sorted (rows : List RunRow) :
    (rows.mergeSort Store.newestFirst).Pairwise fun first second =>
      first.resourceId = second.resourceId → second.createdAt ≤ first.createdAt := by
  have htrans : ∀ first second third, Store.newestFirst first second = true →
      Store.newestFirst second third = true → Store.newestFirst first third = true := by
    intro first second third hfirst hsecond
    simp only [Store.newestFirst, decide_eq_true_eq, Time] at *
    omega
  have htotal : ∀ first second,
      (Store.newestFirst first second || Store.newestFirst second first) = true := by
    intro first second
    simp only [Store.newestFirst, Bool.or_eq_true, decide_eq_true_eq, Time]
    omega
  have hsorted := List.pairwise_mergeSort htrans htotal rows
  apply hsorted.imp
  intro first second hnewest _
  simpa [Store.newestFirst] using hnewest

/-- A lookup of one record answers its latest run. -/
theorem findLastByResourceId_latest (rows : List RunRow) (recordId : String) :
    FindsLatest RunRow.resourceId RunRow.createdAt rows (some recordId)
      (Store.findLastByResourceId rows recordId) := by
  have hfound : Store.findLastByResourceId rows recordId =
      ((rows.filter fun row => row.resourceId = some recordId).mergeSort Store.newestFirst).find?
        fun row => row.resourceId = some recordId := by
    rw [Store.findLastByResourceId, ← List.head?_filter]
    congr 1
    rw [eq_comm, List.filter_eq_self]
    intro row hrow
    rw [List.mem_mergeSort] at hrow
    exact (List.mem_filter.mp hrow).2
  rw [hfound]
  apply FindsLatest.of_filter fun row => row.resourceId = some recordId
  · intro row _ hkey
    simpa using hkey
  · exact findsLatest_of_sorted Int.le_refl (List.mergeSort_perm _ _) (newestFirst_sorted _)

theorem byRecordThenNewest_trans (collation : Collation) (first second third : RunRow)
    (hfirst : Store.byRecordThenNewest collation first second = true)
    (hsecond : Store.byRecordThenNewest collation second third = true) :
    Store.byRecordThenNewest collation first third = true := by
  unfold Store.byRecordThenNewest Store.newestFirst at *
  cases hone : first.resourceId with
  | none =>
      cases htwo : second.resourceId with
      | some two => simp [hone, htwo] at hfirst
      | none =>
          cases hthree : third.resourceId with
          | some three => simp [htwo, hthree] at hsecond
          | none =>
              simp only [hone, htwo, hthree, decide_eq_true_eq, Time] at *
              omega
  | some one =>
      cases hthree : third.resourceId with
      | none => rfl
      | some three =>
          cases htwo : second.resourceId with
          | none => simp [htwo, hthree] at hsecond
          | some two =>
              simp only [hone, htwo, hthree] at *
              by_cases hleft : one = two
              · subst hleft
                by_cases hright : one = three
                · subst hright
                  simp only [if_true, decide_eq_true_eq, Time] at *
                  omega
                · simpa [hright] using hsecond
              · rw [if_neg hleft] at hfirst
                by_cases hright : two = three
                · subst hright
                  simpa [hleft] using hfirst
                · rw [if_neg hright] at hsecond
                  -- Records sorted both ways around a third one are the same record as it.
                  have hne : one ≠ three := by
                    intro heq
                    subst heq
                    exact hleft (collation.antisymm one two hfirst hsecond)
                  rw [if_neg hne]
                  exact collation.trans one two three hfirst hsecond

theorem byRecordThenNewest_total (collation : Collation) (first second : RunRow) :
    (Store.byRecordThenNewest collation first second ||
      Store.byRecordThenNewest collation second first) = true := by
  unfold Store.byRecordThenNewest Store.newestFirst
  cases first.resourceId with
  | none =>
      cases second.resourceId with
      | none =>
          simp only [Bool.or_eq_true, decide_eq_true_eq, Time]
          omega
      | some two => rfl
  | some one =>
      cases second.resourceId with
      | none => rfl
      | some two =>
          by_cases heq : one = two
          · subst heq
            simp only [if_true, Bool.or_eq_true, decide_eq_true_eq, Time]
            omega
          · simpa [heq, Ne.symm heq] using collation.total one two

theorem byRecordThenNewest_sorted (collation : Collation) (rows : List RunRow) :
    (rows.mergeSort (Store.byRecordThenNewest collation)).Pairwise fun first second =>
      first.resourceId = second.resourceId → second.createdAt ≤ first.createdAt := by
  have hsorted := List.pairwise_mergeSort (byRecordThenNewest_trans collation)
    (byRecordThenNewest_total collation) rows
  apply hsorted.imp
  intro first second hordered hkey
  unfold Store.byRecordThenNewest Store.newestFirst at hordered
  rw [hkey] at hordered
  cases hsecond : second.resourceId with
  | none => simpa [hsecond] using hordered
  | some recordId => simpa [hsecond] using hordered

/-- A lookup of several records answers the latest run of each. -/
theorem findLastByResourceIds_latest (collation : Collation) (rows : List RunRow)
    {resourceIds : List String} {recordId : String} (hasked : recordId ∈ resourceIds) :
    FindsLatest RunRow.resourceId RunRow.createdAt rows (some recordId)
      ((Store.findLastByResourceIds collation rows resourceIds).find?
        fun row => row.resourceId = some recordId) := by
  rw [Store.findLastByResourceIds, if_neg (List.ne_nil_of_mem hasked), find?_distinctOn]
  apply FindsLatest.of_filter (Store.isAmong resourceIds)
  · intro row _ hkey
    simpa [Store.isAmong, hkey] using hasked
  · exact findsLatest_of_sorted Int.le_refl (List.mergeSort_perm _ _)
      (byRecordThenNewest_sorted collation _)

/-- Keyed by record again, the rows of the batch answer as the single lookup does. -/
theorem byRecord_findLast (collation : Collation) (hdistinct : DistinctTimes rows)
    {resourceIds : List String} {recordId : String} (hasked : recordId ∈ resourceIds) :
    byRecord (Store.findLastByResourceIds collation rows resourceIds) recordId =
      Store.findLastByResourceId rows recordId := by
  have honce : (Store.findLastByResourceIds collation rows resourceIds).Pairwise
      fun first second => first.resourceId ≠ second.resourceId := by
    unfold Store.findLastByResourceIds
    split
    · exact List.Pairwise.nil
    · exact pairwise_distinctFrom _ _
  have hreverse : byRecord (Store.findLastByResourceIds collation rows resourceIds) recordId =
      (Store.findLastByResourceIds collation rows resourceIds).find?
        fun row => row.resourceId = some recordId := by
    apply find?_reverse
    apply honce.imp
    intro first second hne hboth
    simp only [decide_eq_true_eq] at hboth
    exact hne (hboth.1.trans hboth.2.symm)
  rw [hreverse]
  apply FindsLatest.unique (findLastByResourceIds_latest collation rows hasked)
    (findLastByResourceId_latest rows recordId)
  · intro early late hle hge
    exact Int.le_antisymm hle hge
  · intro row hrow other hother hkey hsame htime
    exact hdistinct.eq hrow hother hkey hsame htime

end Agreement

/-! ## The routes agree -/

/-- The ids a raw list carries, each without its blanks. -/
def recordIds (raw : String) : List String :=
  ((raw.toList.splitOn ',').map strip).filter (· ≠ "")

theorem foldl_addRecordId (parts : List (List Char)) :
    parts.foldl addRecordId [] = ((parts.map strip).filter (· ≠ "")).eraseDups := by
  rw [← foldl_addNew]
  generalize ([] : List String) = seen
  induction parts generalizing seen with
  | nil => rfl
  | cons part rest ih =>
      rw [List.foldl_cons, ih, List.map_cons, List.filter_cons]
      by_cases hblank : strip part = "" <;> simp [addRecordId, hblank]

theorem eraseDups_eq_nil {items : List String} : items.eraseDups = [] ↔ items = [] := by
  cases items <;> simp [List.eraseDups_cons]

theorem parseResourceIds_eq (raw : String) :
    parseResourceIds raw =
      if recordIds raw = [] then
        .error (.unprocessable "resource_id must carry at least one record id.")
      else if maxBatchResourceIds < (recordIds raw).eraseDups.length then
        .error (.unprocessable ("resource_id carries " ++
          toString (recordIds raw).eraseDups.length ++
          " record ids; at most " ++ toString maxBatchResourceIds ++ " per request."))
      else .ok (recordIds raw).eraseDups := by
  rw [parseResourceIds, foldl_addRecordId]
  rw [← recordIds]
  simp only [eraseDups_eq_nil]

/-- A summary that is not there is left out; any other error stays one. -/
def present {α : Type} : Except ApiError α → Except ApiError (Option α)
  | .ok value => .ok (some value)
  | .error (.notFound _) => .ok none
  | .error error => .error error

theorem summarizeRun_error {row : RunRow} {includes : RunSummaryIncludes} {error : ApiError}
    (hsummary : summarizeRun row includes = .error error) : ∃ cause, error = .raised cause := by
  unfold summarizeRun at hsummary
  cases hsteps : stepsSection row.run.runState includes with
  | ok steps => simp [hsteps] at hsummary
  | error found =>
      simp only [hsteps] at hsummary
      cases hsummary
      unfold stepsSection at hsteps
      split at hsteps
      · split at hsteps
        next => cases hsteps
        next cause _ => exact ⟨cause, (Except.error.inj hsteps).symm⟩
      · cases hsteps

theorem summarizeRun_resourceId {row : RunRow} {includes : RunSummaryIncludes}
    {summary : ResourceRunSummary} (hsummary : summarizeRun row includes = .ok summary) :
    summary.resourceId = row.resourceId.getD "" := by
  unfold summarizeRun at hsummary
  cases hsteps : stepsSection row.run.runState includes with
  | error found => simp [hsteps] at hsummary
  | ok steps =>
      simp only [hsteps] at hsummary
      cases hsummary
      rfl

/-- What the single route makes of what was found for a record. -/
def answerOne (found : Option RunRow) (recordId : String) (includes : RunSummaryIncludes) :
    Except ApiError ResourceRunSummary :=
  match found with
  | none => .error (.notFound ("No runs for resource record '" ++ recordId ++ "'."))
  | some row => summarizeRun row includes

/-- Summing up what is found is answering one by one and leaving out what is not. -/
theorem mapM_summarizeRun (found : String → Option RunRow) (includes : RunSummaryIncludes)
    (asked : List String) :
    (asked.filterMap found).mapM (fun row => summarizeRun row includes) =
      List.reduceOption <$> asked.mapM fun recordId =>
        present (answerOne (found recordId) recordId includes) := by
  induction asked with
  | nil => rfl
  | cons recordId rest ih =>
      rw [List.filterMap_cons, List.mapM_cons]
      generalize rest.mapM (fun recordId =>
        present (answerOne (found recordId) recordId includes)) = answers at ih ⊢
      cases hfound : found recordId with
      | none =>
          simp only [answerOne, present]
          rw [ih]
          cases answers <;> rfl
      | some row =>
          simp only [answerOne]
          rw [List.mapM_cons, ih]
          cases hsummary : summarizeRun row includes with
          | error error =>
              obtain ⟨cause, rfl⟩ := summarizeRun_error hsummary
              rfl
          | ok summary => cases answers <;> rfl

theorem getLatestResourceRun_eq (rows : List RunRow) (recordId : String)
    (includes : RunSummaryIncludes) :
    getLatestResourceRun rows recordId includes =
      answerOne (Store.findLastByResourceId rows recordId) recordId includes := by
  unfold getLatestResourceRun answerOne
  cases Store.findLastByResourceId rows recordId <;> rfl

variable {rows : List RunRow}

/-- Once its list is accepted the batch answers as one lookup a record does. -/
theorem getLatestResourceRuns_of_parsed (collation : Collation) {raw : String}
    {asked : List String} (includes : RunSummaryIncludes) (hdistinct : DistinctTimes rows)
    (hparsed : parseResourceIds raw = .ok asked) :
    getLatestResourceRuns collation rows raw includes =
      List.reduceOption <$> asked.mapM fun recordId =>
        present (getLatestResourceRun rows recordId includes) := by
  have hfound : asked.filterMap
        (byRecord (Store.findLastByResourceIds collation rows asked)) =
      asked.filterMap (Store.findLastByResourceId rows) := by
    apply List.filterMap_congr
    intro recordId hasked
    exact byRecord_findLast collation hdistinct hasked
  have hanswers : (fun recordId => present (getLatestResourceRun rows recordId includes)) =
      fun recordId =>
        present (answerOne (Store.findLastByResourceId rows recordId) recordId includes) := by
    funext recordId
    rw [getLatestResourceRun_eq]
  rw [hanswers, ← mapM_summarizeRun, ← hfound]
  simp only [getLatestResourceRuns, hparsed]
  rfl

theorem mapM_error {α β ε : Type} {f : α → Except ε β} {items : List α} {error : ε}
    (hmap : items.mapM f = .error error) : ∃ item ∈ items, f item = .error error := by
  induction items with
  | nil => cases hmap
  | cons item rest ih =>
      rw [List.mapM_cons] at hmap
      cases hitem : f item with
      | error found =>
          rw [hitem] at hmap
          cases hmap
          exact ⟨item, by simp, hitem⟩
      | ok value =>
          rw [hitem] at hmap
          cases hrest : rest.mapM f with
          | error found =>
              rw [hrest] at hmap
              cases hmap
              obtain ⟨other, hother, herror⟩ := ih hrest
              exact ⟨other, List.mem_cons_of_mem _ hother, herror⟩
          | ok values =>
              rw [hrest] at hmap
              cases hmap

/-- The summaries of rows of distinct records name distinct records. -/
theorem mapM_summarizeRun_nodup {found : List RunRow} {includes : RunSummaryIncludes}
    {summaries : List ResourceRunSummary}
    (hfound : (found.map fun row => row.resourceId.getD "").Nodup)
    (hmap : found.mapM (fun row => summarizeRun row includes) = .ok summaries) :
    (summaries.map ResourceRunSummary.resourceId).Nodup := by
  have hsame : summaries.map ResourceRunSummary.resourceId =
      found.map fun row => row.resourceId.getD "" := by
    clear hfound
    induction found generalizing summaries with
    | nil =>
        cases hmap
        rfl
    | cons row rest ih =>
        rw [List.mapM_cons] at hmap
        cases hsummary : summarizeRun row includes with
        | error error =>
            rw [hsummary] at hmap
            cases hmap
        | ok summary =>
            rw [hsummary] at hmap
            cases hrest : rest.mapM fun row => summarizeRun row includes with
            | error error =>
                rw [hrest] at hmap
                cases hmap
            | ok others =>
                rw [hrest] at hmap
                cases hmap
                rw [List.map_cons, List.map_cons, ih hrest, summarizeRun_resourceId hsummary]
  rw [hsame]
  exact hfound

/-- What is found for distinct records is of distinct records. -/
theorem filterMap_byRecord_nodup {asked : List String} (found : List RunRow)
    (hasked : asked.Nodup) :
    ((asked.filterMap (byRecord found)).map fun row => row.resourceId.getD "").Nodup := by
  have hsublist : ((asked.filterMap (byRecord found)).map fun row =>
      row.resourceId.getD "").Sublist asked := by
    clear hasked
    induction asked with
    | nil => exact List.Sublist.refl _
    | cons recordId rest ih =>
        rw [List.filterMap_cons]
        cases hrow : byRecord found recordId with
        | none => exact ih.cons _
        | some row =>
            have hkey := List.find?_some hrow
            simp only [decide_eq_true_eq] at hkey
            rw [List.map_cons, hkey]
            exact ih.cons_cons _
  exact hsublist.nodup hasked

/-- The batch refuses exactly a list without ids or with too many of them, and
otherwise answers, in the order asked, what the single lookup answers for each
record that has a run. -/
theorem getLatestResourceRuns_eq (collation : Collation) (raw : String)
    (includes : RunSummaryIncludes) (hdistinct : DistinctTimes rows) :
    ((∃ detail, getLatestResourceRuns collation rows raw includes =
        .error (.unprocessable detail)) ↔
      recordIds raw = [] ∨ 200 < (recordIds raw).eraseDups.length) ∧
    (recordIds raw ≠ [] → (recordIds raw).eraseDups.length ≤ 200 →
      getLatestResourceRuns collation rows raw includes =
        List.reduceOption <$> (recordIds raw).eraseDups.mapM fun recordId =>
          present (getLatestResourceRun rows recordId includes)) ∧
    ∀ summaries, getLatestResourceRuns collation rows raw includes = .ok summaries →
      (summaries.map ResourceRunSummary.resourceId).Nodup := by
  have hparse := parseResourceIds_eq raw
  by_cases hnone : recordIds raw = []
  · rw [if_pos hnone] at hparse
    simp only [getLatestResourceRuns, hparse]
    refine ⟨⟨fun _ => .inl hnone, fun _ => ⟨_, rfl⟩⟩, fun hsome => absurd hnone hsome, ?_⟩
    intro summaries hanswer
    cases hanswer
  · rw [if_neg hnone] at hparse
    by_cases hmany : maxBatchResourceIds < (recordIds raw).eraseDups.length
    · rw [if_pos hmany] at hparse
      simp only [getLatestResourceRuns, hparse]
      refine ⟨⟨fun _ => .inr hmany, fun _ => ⟨_, rfl⟩⟩, fun _ hfew => ?_, ?_⟩
      · exact absurd hmany (Nat.not_lt.mpr hfew)
      · intro summaries hanswer
        cases hanswer
    · rw [if_neg hmany] at hparse
      refine ⟨⟨?_, ?_⟩, fun _ _ => ?_, ?_⟩
      · -- A list accepted leads to no such error: summing up raises at most.
        rintro ⟨detail, hanswer⟩
        simp only [getLatestResourceRuns, hparse] at hanswer
        obtain ⟨row, -, herror⟩ := mapM_error hanswer
        obtain ⟨cause, hcause⟩ := summarizeRun_error herror
        cases hcause
      · rintro (hempty | hover)
        · exact absurd hempty hnone
        · exact absurd hover hmany
      · exact getLatestResourceRuns_of_parsed collation includes hdistinct hparse
      · intro summaries hanswer
        simp only [getLatestResourceRuns, hparse] at hanswer
        apply mapM_summarizeRun_nodup _ hanswer
        exact filterMap_byRecord_nodup _ (nodup_eraseDups _)

/-- Texts sorted by their code points. -/
def byCodePoint : Collation where
  le first second := first ≤ second
  total first second := by simpa using String.le_total first second
  trans first second third hfirst hsecond := by
    simp only [decide_eq_true_eq] at *
    exact String.le_trans hfirst hsecond
  antisymm first second hfirst hsecond := by
    simp only [decide_eq_true_eq] at *
    exact String.le_antisymm hfirst hsecond

/-- Two runs that delete one record, the later of which is the one to answer. -/
def deletionRows : List RunRow :=
  [⟨triggered 0 sampleId resourceWorkflow deletionSample, 0, 5⟩,
    ⟨triggered 3 rivalId resourceWorkflow deletionSample, 3, 3⟩]

theorem getLatestResourceRuns_deletionRows :
    DistinctTimes deletionRows ∧
      getLatestResourceRuns byCodePoint deletionRows " 7,8,, 7" {} =
        List.reduceOption <$> ["7", "8"].mapM fun recordId =>
          present (getLatestResourceRun deletionRows recordId {}) := by
  have hdistinct : DistinctTimes deletionRows := by
    simp [DistinctTimes, deletionRows]
  have hasked : (recordIds " 7,8,, 7").eraseDups = ["7", "8"] := by decide
  constructor
  · exact hdistinct
  · rw [← hasked]
    exact (getLatestResourceRuns_eq byCodePoint " 7,8,, 7" {} hdistinct).2.1 (by decide) (by decide)

end CloudioOrchestrator

import CloudioOrchestrator.Attempts
import CloudioOrchestrator.Journal

/-! # The exception table

What the class of the exception that a DAG's task raises decides: whether the
engine run is repeated, whether an incident is opened and for whom, and with
which note the requester's ticket is closed.
-/

namespace CloudioOrchestrator

open Interaction Drive

section After

variable {runId : UUID} {row : WorkflowRun} {books final : Books} (executor : Executor)

/-- Nothing of the run's was added to the books but that it was loaded. -/
structure Undisturbed (runId : UUID) (row : WorkflowRun) (books final : Books) : Prop where
  row : ∃ scheduledAt, Store.get final.1 runId = some { row with scheduledAt := scheduledAt }
  grown : ∃ newer, final.2 = newer ++ books.2 ∧ ∀ part, ∀ event ∈ newer, Aside runId part event

/-- A visit finds that the run is over. -/
theorem Visit.attend_over (visit : Visit) (serial : Nat)
    (hget : Store.get books.1 runId = some row) (hover : row.status.terminal = true) :
    Undisturbed runId row books (visit.attend executor runId serial books) := by
  obtain ⟨scheduledAt, newer, hlater, hhistory, hnewer⟩ := meanwhile_row visit.before hget
  apply Visit.attend_of_safe
  rintro current rfl - moment
  refine ⟨trivial, trivial, ?_⟩
  simp only [World.serve, World.load, hlater, World.record, hover, if_true]
  refine ⟨⟨scheduledAt, hlater⟩,
    .loaded ⟨runId, serial⟩ { row with scheduledAt := scheduledAt } :: newer, ?_,
    fun part => List.forall_mem_cons.mpr ⟨?_, ?_⟩⟩
  · rw [hhistory, List.cons_append]
  · exact ⟨rfl, rfl⟩
  · intro event hevent
    obtain ⟨run, rfl⟩ := hnewer event hevent
    exact ⟨rfl, rfl⟩

/-- So does every later one. -/
theorem attendAll_over (visits : List Visit) (serial : Nat)
    (hget : Store.get books.1 runId = some row) (hover : row.status.terminal = true) :
    Undisturbed runId row books (attendAll executor runId visits serial books) := by
  induction visits generalizing serial books row with
  | nil => exact ⟨⟨row.scheduledAt, hget⟩, [], rfl, by simp⟩
  | cons visit visits ih =>
      obtain ⟨⟨between, hbetween⟩, first, hfirst, hfirstAside⟩ :=
        visit.attend_over executor serial hget hover
      obtain ⟨⟨scheduledAt, hlater⟩, newer, hnewer, hnewerAside⟩ := ih (serial + 1) hbetween hover
      refine ⟨⟨scheduledAt, hlater⟩, newer ++ first, ?_, fun part => ?_⟩
      · rw [List.append_assoc, ← hfirst]
        exact hnewer
      · exact List.forall_mem_append.mpr ⟨hnewerAside part, hfirstAside part⟩

theorem ClosedAs.later {engineRuns : Nat} {note : String} (visits : List Visit) (serial : Nat)
    (hclosed : ClosedAs runId engineRuns note books) :
    ClosedAs runId engineRuns note (attendAll executor runId visits serial books) := by
  obtain ⟨⟨row, drive, ticket, hget, hstatus, hticket, hdrive, hnote⟩, hcount⟩ := hclosed
  obtain ⟨⟨scheduledAt, hlater⟩, newer, hhistory, hnewer⟩ :=
    attendAll_over executor visits serial hget (by simp [hstatus, RunStatus.terminal])
  refine ⟨⟨_, drive, ticket, hlater, hstatus, hticket, hdrive, ?_⟩, ?_⟩
  · rw [hhistory]
    exact List.mem_append_right _ hnote
  · rw [hhistory, List.countP_append, (countP_aside (hnewer .escalation)).1, hcount, Nat.zero_add]

theorem ReportedTo.later {engineRuns : Nat} {team comment : String} (visits : List Visit)
    (serial : Nat) (hreported : ReportedTo runId engineRuns team comment books) :
    ReportedTo runId engineRuns team comment (attendAll executor runId visits serial books) := by
  obtain ⟨⟨drive, request, incident, hdrive, hopened, hteam, hcomment, hclosed⟩, honce⟩ := hreported
  obtain ⟨row, -, -, hget, hstatus, -⟩ := hclosed.row
  obtain ⟨-, newer, hhistory, hnewer⟩ :=
    attendAll_over executor visits serial hget (by simp [hstatus, RunStatus.terminal])
  refine ⟨⟨drive, request, incident, hdrive, ?_, hteam, hcomment,
    hclosed.later executor visits serial⟩, ?_⟩
  · rw [hhistory]
    exact List.mem_append_right _ hopened
  · rw [hhistory, List.countP_append, (countP_aside (hnewer .escalation)).2, honce]

theorem Dismissed.later {engineRuns : Nat} {note : String} (visits : List Visit) (serial : Nat)
    (hdismissed : Dismissed runId engineRuns note books) :
    Dismissed runId engineRuns note (attendAll executor runId visits serial books) := by
  obtain ⟨row, -, -, hget, hstatus, -⟩ := hdismissed.closed.row
  obtain ⟨-, newer, hhistory, hnewer⟩ :=
    attendAll_over executor visits serial hget (by simp [hstatus, RunStatus.terminal])
  refine ⟨hdismissed.closed.later executor visits serial, fun part => ?_⟩
  rw [hhistory]
  exact List.forall_mem_append.mpr
    ⟨fun event hevent => (hnewer part event hevent).2, hdismissed.unraised part⟩

end After

section Table

/-- The first of the groups that is named, or the default one. -/
def firstNamed (groups : List (Option String)) (defaultTeam : String) : String :=
  (groups.findSome? fun group => group.filter (· ≠ "")).getD defaultTeam

/-- The visits of a run: those before it is approved, its engine runs one after the
other, and any after these. -/
structure Itinerary where
  pendings : List Visit := []
  attempts : List Attempt
  others : List Visit := []

def Itinerary.visits (itinerary : Itinerary) : List Visit :=
  itinerary.pendings ++ itinerary.attempts.flatMap Attempt.visits ++ itinerary.others

/-- The calls are answered and every wait is within its budget: a resource run's
approval is waited for since a given time, and every engine run fails. -/
structure Itinerary.Meets (codec : JsonCodec) (retryBase : Time) (workflow : Workflow)
    (request : TriggerRequest) (since : Time) (failed : DagRun → Prop) (itinerary : Itinerary) :
    Prop where
  pendings : ∀ visit ∈ itinerary.pendings, workflow.runType = .resource ∧ visit.Served codec ∧
    Pends visit.answer ∧ visit.WithinApproval since ∧ visit.Schedulable retryBase request.maxRetries
  approved : ∀ attempt ∈ itinerary.attempts.head?, workflow.runType = .resource →
    Approves attempt.trigger.answer ∧ attempt.trigger.WithinApproval since
  fails : ∀ attempt ∈ itinerary.attempts, attempt.Fails codec retryBase request.maxRetries failed

variable {engines : List WorkflowEngineType} {workflow : Workflow} {request : TriggerRequest}
  {runId : UUID} {since created : Time} {books : Books} {executor : Executor} {codec : JsonCodec}
  {task : String} {error : RaisedException} {callbackGroup : Option String}
  {controller : Option (Option String)} {itinerary : Itinerary}

/-- The failure as the orchestrator keeps it. -/
def reportedFailure (task : String) (error : RaisedException) (callbackGroup : Option String)
    (controller : Option (Option String)) : EngineFailure where
  failedTask := some task
  responsibleGroup := orElse (orElse error.responsibleGroup callbackGroup)
    (controller.join.filter (· ≠ ""))
  detail := some error.message
  exceptionName := some error.className
  kind := failureKind error.className

theorem OnlyFailure.failsAs {dag : DagRun}
    (hlegible : Legible codec task error callbackGroup controller)
    (hdag : OnlyFailure codec task error callbackGroup controller dag) :
    FailsAs codec (reportedFailure task error callbackGroup controller) dag :=
  ⟨hdag.status, hdag.getFailure hlegible⟩

theorem Attempt.Fails.mono {retryBase : Time} {maxRetries : Int} {failed failed' : DagRun → Prop}
    {attempt : Attempt} (himp : ∀ dag, failed dag → failed' dag)
    (hattempt : attempt.Fails codec retryBase maxRetries failed) :
    attempt.Fails codec retryBase maxRetries failed' :=
  { hattempt with failed := himp _ hattempt.failed }

/-- The incident goes to the first group that is named. -/
theorem responsibleTeam_reportedFailure (defaultTeam : String) :
    Escalator.responsibleTeam defaultTeam
        (some (reportedFailure task error callbackGroup controller)) =
      firstNamed [error.responsibleGroup, callbackGroup, controller.join] defaultTeam := by
  simp only [Escalator.responsibleTeam, Option.bind_some, reportedFailure, filter_orElse,
    firstNamed, List.findSome?]
  cases error.responsibleGroup.filter (· ≠ "") with
  | some group => rfl
  | none =>
      cases callbackGroup.filter (· ≠ "") with
      | some group => rfl
      | none =>
          -- the controller's own entry was filtered once before
          cases controller.join with
          | none => rfl
          | some owner => by_cases howner : owner = "" <;> simp [Option.filter, howner]

/-- Its comment is the exception's own account. -/
theorem failureDetail_reportedFailure (message : String) (hmessage : error.message ≠ "") :
    Escalator.failureDetail message
        (some (reportedFailure task error callbackGroup controller)) =
      error.className ++ ": " ++ error.message := by
  simp [Escalator.failureDetail, reportedFailure, Option.filter, hmessage, error.className_ne]

/-- Where a run stands once it was triggered. -/
theorem standing_triggered {world : World}
    (haccepted : checkTrigger workflow.runType request = .ok ())
    (hfresh : Store.get world.rows runId = none)
    (hunheard : ∀ event ∈ world.history, event.subject ≠ runId) :
    Standing runId (Entering (triggered world.clock runId workflow request) since) 0
      (world.outside (.trigger runId (some workflow) request)).books := by
  have hbooks : (world.outside (.trigger runId (some workflow) request)).books =
      (Store.create world.rows (triggered world.clock runId workflow request),
        .created (triggered world.clock runId workflow request) :: world.history) := by
    have hnone : Store.get world.rows (triggered world.clock runId workflow request).runId =
        none := hfresh
    simp [World.outside, trigger, haccepted, World.insert, hnone, World.books]
  have hnone : ∀ event ∈ world.history, triggersEngine runId event = false ∧
      speaksOut runId event = false := by
    intro event hevent
    have hother := hunheard event hevent
    cases event with
    | called drive issuer call answer applied =>
        cases call <;> simp_all [triggersEngine, speaksOut, Event.subject]
    | _ => exact ⟨rfl, rfl⟩
  rw [hbooks]
  refine ⟨⟨triggered world.clock runId workflow request, ?_, .inl ⟨some world.clock, rfl⟩⟩, ?_,
    List.forall_mem_cons.mpr ⟨rfl, fun event hevent => (hnone event hevent).2⟩⟩
  · rw [Store.get_create _ hfresh]
    exact if_pos rfl
  · rw [List.countP_cons, List.countP_eq_zero.mpr fun event hevent => by
      simp [(hnone event hevent).1]]
    rfl

/-- The visits up to the one that first asks for an engine run. -/
theorem attendAll_engages {attempt : Attempt} {attempts : List Attempt} (serial : Nat)
    (hwired : executor.handlers = buildHandlers engines)
    (htype : workflow.runType ≠ .legacy) (hengine : workflow.engineType ∈ engines)
    (haccepted : checkTrigger workflow.runType request = .ok ()) {failed : DagRun → Prop}
    (hmeets : itinerary.Meets codec executor.retryBase workflow request since failed)
    (hattempts : itinerary.attempts = attempt :: attempts)
    (hbooks : Standing runId (Entering (triggered created runId workflow request) since) 0 books) :
    Standing runId (Busy (triggered created runId workflow request) 0 attempt.trigger.opens) 1
      (attempt.trigger.attend executor runId (serial + itinerary.pendings.length)
        (attendAll executor runId itinerary.pendings serial books)) := by
  have hfails : attempt.Fails codec executor.retryBase request.maxRetries failed :=
    hmeets.fails attempt (hattempts ▸ List.mem_cons_self)
  have htrigger : attempt.trigger ∈ attempt.visits := List.mem_cons_self
  refine attend_trigger _ hwired htype hengine haccepted (hfails.served _ htrigger)
    (hmeets.approved attempt (by simp [hattempts])) (hfails.schedulable _ htrigger) ?_
  cases hpendings : itinerary.pendings with
  | nil => exact hbooks
  | cons visit rest =>
      rw [← hpendings]
      have hresource := (hmeets.pendings visit (hpendings ▸ List.mem_cons_self)).1
      exact attendAll_pendings serial hwired hresource haccepted itinerary.pendings
        (fun visit hvisit => (hmeets.pendings visit hvisit).2) hbooks

/-- What comes of a run all of whose engine runs fail by one exception, as its
class decides: whatever group the exception, its callback and the rollback
controller name, and however many retries the run was given, so long as a datetime
can name when each visit is due. -/
theorem exception_table (engines : List WorkflowEngineType) (retryBase : Time)
    (defaultTeam : String)
    (codec : JsonCodec) (workflow : Workflow) (request : TriggerRequest) (runId : UUID)
    (world : World) (task : String) (error : RaisedException) (callbackGroup : Option String)
    (controller : Option (Option String)) (since : Time) (itinerary : Itinerary) (serial : Nat)
    (haccepted : checkTrigger workflow.runType request = .ok ())
    (htype : workflow.runType ≠ .legacy) (hengine : workflow.engineType ∈ engines)
    (hfresh : Store.get world.rows runId = none)
    (hunheard : ∀ event ∈ world.history, event.subject ≠ runId)
    (hlegible : Legible codec task error callbackGroup controller)
    (hmeets : itinerary.Meets codec retryBase workflow request since
      (OnlyFailure codec task error callbackGroup controller)) :
    let final := attendAll (.wired engines retryBase defaultTeam) runId itinerary.visits serial
      (world.outside (.trigger runId (some workflow) request)).books
    (error.className ∈ ["ValidationException", "InfraPrecheckException"] →
      itinerary.attempts.length = 1 →
        Dismissed runId 1 validationComment final) ∧
    (error.className ∉ ["ValidationException", "InfraPrecheckException"] →
      (itinerary.attempts.length : Int) = request.maxRetries + 1 →
        ∃ comment, ReportedTo runId itinerary.attempts.length
          (firstNamed [error.responsibleGroup, callbackGroup, controller.join] defaultTeam) comment
          final ∧
        (error.message ≠ "" → comment = error.className ++ ": " ++ error.message)) := by
  intro final
  have hwired : (Executor.wired engines retryBase defaultTeam).handlers =
      buildHandlers engines := rfl
  have hstanding : Standing runId (Entering (triggered world.clock runId workflow request) since) 0
      (world.outside (.trigger runId (some workflow) request)).books :=
    standing_triggered haccepted hfresh hunheard
  have hfails : ∀ attempt ∈ itinerary.attempts, attempt.Fails codec retryBase request.maxRetries
      (FailsAs codec (reportedFailure task error callbackGroup controller)) :=
          fun attempt hattempt =>
    (hmeets.fails attempt hattempt).mono fun dag => OnlyFailure.failsAs hlegible
  cases hattempts : itinerary.attempts with
  | nil =>
      have hnonneg := request.maxRetries_nonneg
      refine ⟨fun _ hlength => ?_, fun _ hlength => ?_⟩
      · cases hlength
      · rw [List.length_nil] at hlength
        omega
  | cons attempt attempts =>
      -- the engine is triggered once the run has got as far; its failures are counted from there
      have hbusy :=
        attendAll_engages serial hwired htype hengine haccepted hmeets hattempts hstanding
      have hvisits : itinerary.visits = itinerary.pendings ++ attempt.trigger ::
          (attempt.rest ++ attempts.flatMap Attempt.visits ++ itinerary.others) := by
        simp [Itinerary.visits, hattempts, Attempt.visits, Attempt.rest]
      simp only [final, hvisits, attendAll_append, attendAll]
      constructor
      · intro hclass hlength
        obtain rfl : attempts = [] := by simpa using hlength
        have hkind : failureKind error.className ≠ .task := by
          rcases List.mem_pair.mp hclass with hclass | hclass <;> (rw [hclass]; decide)
        rw [List.flatMap_nil, List.append_nil]
        apply Dismissed.later
        refine attendAll_dismisses _ hwired hengine hkind (hfails attempt ?_) hbusy
        exact hattempts ▸ List.mem_cons_self
      · intro hclass hlength
        have hkind : failureKind error.className = .task := by
          simp only [List.mem_cons, List.not_mem_nil, or_false, not_or] at hclass
          simp [failureKind, hclass.1, hclass.2]
        have hlast : ((0 : Nat) : Int) + attempts.length = request.maxRetries := by
          rw [List.length_cons] at hlength
          omega
        obtain ⟨message, hreported⟩ := attendAll_reports
          (serial + itinerary.pendings.length + 1) hwired hengine hkind attempts
          (hattempts ▸ hfails) hlast hbusy
        rw [responsibleTeam_reportedFailure, Nat.zero_add, attendAll_append] at hreported
        exact ⟨_, hreported.later _ itinerary.others _, failureDetail_reportedFailure message⟩

end Table

section Examples

/-- JSON as it prints flat objects whose texts need no escape. -/
def flatText : JsonValue → String
  | .string text => "\"" ++ text ++ "\""
  | .other text _ => text
  | .null | .object _ => "null"

def flatObject (quote : String) (entries : List (String × JsonValue)) : String :=
  let entry := fun (key, value) => quote ++ key ++ quote ++ ": " ++ flatText value
  "\x7b" ++ ", ".intercalate (entries.map entry) ++ "\x7d"

def diskFull : RaisedException where
  className := "RuntimeError"
  message := "disk full"
  responsibleGroup := none

def diskFullPayload : JsonValue :=
  publishException (some "storage") (some diskFull)

def diskFullOwners : JsonValue :=
  .object [("provision", .ofText (some "compute"))]

def flatDumps : JsonValue → String
  | .object entries => flatObject "\"" entries
  | value => flatText value

/-- What is needed of JSON to report the failure of a full disk. -/
def flatLoads (text : String) : Option JsonValue :=
  if text = flatDumps diskFullPayload then some diskFullPayload
  else if text = flatDumps diskFullOwners then some diskFullOwners
  else none

def sampleCodec : JsonCodec where
  dumps := flatDumps
  loads := flatLoads
  strDict := flatObject "'"

def runningDag : DagRun where
  state := "running"
  taskInstances := []

def failedDag : DagRun where
  state := "failed"
  taskInstances :=
    [{ taskId := "provision", state := "failed"
       xcomEntries := [(exceptionXcomKey, .string (sampleCodec.dumps diskFullPayload))] },
      { taskId := "controller", state := "success"
        xcomEntries := [(failedTasksOutput, .string (sampleCodec.dumps diskFullOwners))] }]

/-- What the engine answers, as its adapter makes it of the DAG run. -/
def engineAnswers (dag : DagRun) : (call : Call) → call.Answer
  | .queryRunStatus .. => .ok (dag.queryRunStatus sampleCodec)
  | .getFailure .. => .ok ((dag.getFailure sampleCodec).getD {})
  | call => willing call

def sampleMoment (time : Time) : Moment time time where
  time := time
  opens_le := Int.le_refl time
  le_closes := Int.le_refl time

/-- A visit that takes no time. -/
def sampleVisit (dag : DagRun) : Visit where
  answer := engineAnswers dag
  dag := dag
  opens := 0
  closes := 0
  moments _ := sampleMoment 0

def sampleAttempt : Attempt where
  trigger := sampleVisit runningDag
  polls := [sampleVisit runningDag]
  failing := sampleVisit failedDag

def sampleItinerary : Itinerary where
  attempts := List.replicate 4 sampleAttempt

theorem sampleVisit_served (dag : DagRun) : (sampleVisit dag).Served sampleCodec where
  cooperative :=
    { answers := fun call => by cases call <;> exact ⟨_, rfl⟩
      undenied := fun ticket => by simp [sampleVisit, engineAnswers, willing]
      eligible := fun request result hresult => by
        cases hresult
        rfl }
  status _ _ _ := rfl
  failure _ _ _ failure hfailure := by
    simp [sampleVisit, engineAnswers] at hfailure ⊢
    simp [hfailure]
  brief := (by decide : (0 : Time) - 0 ≤ seconds 3600)

theorem sampleVisit_schedulable (dag : DagRun) :
    (sampleVisit dag).Schedulable (seconds 10) automationSample.maxRetries := by
  refine ⟨(by decide : (0 : Time) + seconds 30 ≤ datetimeMax), fun attempts hfirst hlast => ?_⟩
  have hretries : attempts ≤ 3 := hlast
  change (0 : Time) + backoff (seconds 10) attempts (seconds 5) ≤ datetimeMax
  obtain rfl | rfl | rfl : attempts = 1 ∨ attempts = 2 ∨ attempts = 3 := by omega
  all_goals decide

theorem sampleCodec_legible :
    Legible sampleCodec "provision" diskFull (some "storage") (some (some "compute")) where
  payload := by
    change flatLoads (flatDumps diskFullPayload) = some diskFullPayload
    rw [flatLoads, if_pos rfl]
  owners owner howner := by
    obtain rfl := Option.some.inj howner
    have hdistinct : flatDumps diskFullOwners ≠ flatDumps diskFullPayload := by decide +kernel
    change flatLoads (flatDumps diskFullOwners) = some diskFullOwners
    rw [flatLoads, if_neg hdistinct, if_pos rfl]

theorem failedDag_onlyFailure :
    OnlyFailure sampleCodec "provision" diskFull (some "storage") (some (some "compute"))
      failedDag where
  status := by decide +kernel
  collected := by decide +kernel
  failing := by decide +kernel
  published := rfl

theorem sampleItinerary_meets :
    sampleItinerary.Meets sampleCodec (seconds 10) automationWorkflow automationSample 0
      (OnlyFailure sampleCodec "provision" diskFull (some "storage") (some (some "compute"))) where
  pendings _ hvisit := by cases hvisit
  approved _ _ hresource := by cases hresource
  fails attempt hattempt := by
    obtain rfl := List.eq_of_mem_replicate hattempt
    have hvisits : ∀ visit ∈ sampleAttempt.visits, ∃ dag, visit = sampleVisit dag := by
      intro visit hvisit
      simp only [sampleAttempt, Attempt.visits, List.cons_append, List.nil_append, List.mem_cons,
        List.not_mem_nil, or_false] at hvisit
      rcases hvisit with rfl | rfl | rfl <;> exact ⟨_, rfl⟩
    refine ⟨?_, ?_, failedDag_onlyFailure, ?_, ?_⟩
    · intro visit hvisit
      obtain ⟨dag, rfl⟩ := hvisits visit hvisit
      exact sampleVisit_served dag
    · intro visit hvisit
      obtain rfl := List.mem_singleton.mp hvisit
      decide +kernel
    · intro visit hvisit
      obtain ⟨dag, rfl⟩ := hvisits visit hvisit
      exact (by decide : (0 : Time) - 0 ≤ seconds 3600)
    · intro visit hvisit
      obtain ⟨dag, rfl⟩ := hvisits visit hvisit
      exact sampleVisit_schedulable dag

/-- A disk is full in each of four engine runs: the incident is for the team that
the callback names. -/
theorem exception_table_disk_full :
    ∃ comment, ReportedTo sampleId 4 "storage" comment
      (attendAll sampleExecutor sampleId sampleItinerary.visits 0
        (World.outside (.trigger sampleId (some automationWorkflow) automationSample) {}).books) ∧
      (diskFull.message ≠ "" → comment = "RuntimeError: disk full") :=
  (exception_table [.airflow] (seconds 10) "cloud" sampleCodec automationWorkflow automationSample
    sampleId {} "provision" diskFull (some "storage") (some (some "compute")) 0
      sampleItinerary 0 rfl
    (by decide) (by decide) rfl (by simp) sampleCodec_legible sampleItinerary_meets).2
      (by decide) rfl

end Examples

end CloudioOrchestrator

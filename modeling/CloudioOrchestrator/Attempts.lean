import CloudioOrchestrator.Course

/-! # Engine runs that fail

What visits make of a run from its first to its last engine run: how a failure
that may be repeated is repeated, and how the run is given up, with an incident
or without one, and with a note in the requester's ticket.
-/

namespace CloudioOrchestrator

open Interaction Drive

/-- An incident is opened for the run, by a part of the orchestrator. -/
def raisesIncident (runId : UUID) (part : Issuer) : Event → Bool
  | .called drive issuer (.openIncident _) _ _ => drive.subject = runId && issuer = part
  | _ => false

/-- The event is neither an engine run asked for nor an incident of that part. -/
def Aside (runId : UUID) (part : Issuer) (event : Event) : Prop :=
  triggersEngine runId event = false ∧ raisesIncident runId part event = false

section Escalation

variable {answer : (call : Call) → call.Answer} {opens closes : Time} {drive : DriveId}
  {run : WorkflowRun} {books : Books}

/-- The run's ticket was closed with a note, as unsuccessful. -/
def closedEvent (drive : DriveId) (ticket : TicketRef) (note : String) : Event :=
  .called drive .escalation (.closeTicket ticket note .unsuccessful) (.ok ()) true

theorem attended_closeByPolicy (hanswer : Cooperative answer) (kind : FailureKind)
    (ticket : TicketRef) (hticket : run.runState.ticket = some ticket)
    {post : Except PyException Unit → WorkflowRun → Books → Prop}
    (hpost : post (.ok ()) { run with runState := { run.runState with ticketClosed := true } }
      (books.1, closedEvent drive ticket ((policyFor kind).closeComment run.runState.incidentId) ::
        books.2)) :
    (attended answer opens closes).alone.wp drive (Escalator.closeByPolicy kind) post
      run books := by
  simp only [Escalator.closeByPolicy, Discipline.wp_bind, Discipline.wp_read, hticket]
  apply attended_issue
  obtain ⟨⟨⟩, hresult⟩ := hanswer.answers
    (.closeTicket ticket ((policyFor kind).closeComment run.runState.incidentId) .unsuccessful)
  rw [hresult]
  exact hpost

theorem attended_release {post : Except PyException Unit → WorkflowRun → Books → Prop}
    (hpost : ∀ newer, (∀ runId part, ∀ event ∈ newer, Aside runId part event) →
      post (.ok ()) run (books.1, newer ++ books.2)) :
    (attended answer opens closes).alone.wp drive Escalator.releaseResource post run books := by
  simp only [Escalator.releaseResource, Discipline.wp_bind, Discipline.wp_read]
  split
  next hnone => exact hpost [] (by simp)
  next resource hresource =>
    simp only [Discipline.wp_bind, Discipline.wp_attempt, Discipline.wp_pure]
    split
    next hcreate =>
      apply attended_issue
      exact hpost [_] (by simp [Aside, triggersEngine, raisesIncident])
    next hexisting =>
      apply attended_issue
      exact hpost [_] (by simp [Aside, triggersEngine, raisesIncident])

/-- The default team's record of a failure that another team owns. -/
theorem attended_documents {defaultTeam group detail : String}
    {post : Except PyException Unit → WorkflowRun → Books → Prop}
    (hpost : ∀ newer, (∀ runId, ∀ event ∈ newer, Aside runId .escalation event) →
      post (.ok ()) run (books.1, newer ++ books.2)) :
    (attended answer opens closes).alone.wp drive
      (Escalator.logDocumentationIncident defaultTeam group detail) post run books := by
  simp only [Escalator.logDocumentationIncident]
  split
  next => exact hpost [] (by simp)
  next =>
    simp only [Discipline.wp_bind, Discipline.wp_pure, Discipline.wp_read,
      Discipline.wp_attempt, Discipline.wp_ofExcept]
    split
    next incident hincident =>
      apply attended_issue
      split
      next doc hdoc =>
        apply attended_issue
        exact hpost [_, _] (by simp [Aside, triggersEngine, raisesIncident])
      next error hdoc => exact hpost [_] (by simp [Aside, triggersEngine, raisesIncident])
    next error hincident => exact hpost [] (by simp)

/-- An incident was opened for the run. -/
def openedEvent (drive : DriveId) (request : IncidentRequest) (incident : TicketRef) : Event :=
  .called drive .escalation (.openIncident request) (.ok incident) true

theorem incidentRequest_ok {step : StepName} (team detail : String) (failure : Option EngineFailure)
    (hstep : run.currentStep = some step.value) :
    ∃ request, Escalator.incidentRequest run team detail failure = .ok request ∧
      request.responsibleGroup = team ∧ request.comment = some detail := by
  have hvalue : step.value ≠ "" := by cases step <;> decide
  unfold Escalator.incidentRequest incidentFailedTask
  cases reportedTask failure with
  | some task => exact ⟨_, rfl, rfl, rfl⟩
  | none =>
      simp only [hstep, hvalue, if_false, stepNamed, StepName.ofValue_value]
      exact ⟨_, rfl, rfl, rfl⟩

theorem attended_openByPolicy (hanswer : Cooperative answer) {defaultTeam message : String}
    {step : StepName} (hstep : run.currentStep = some step.value)
    {post : Except PyException Unit → WorkflowRun → Books → Prop}
    (hpost : ∀ request incident newer,
      request.responsibleGroup = Escalator.responsibleTeam defaultTeam run.runState.engineFailure →
      request.comment = some (Escalator.failureDetail message run.runState.engineFailure) →
      (∀ runId, ∀ event ∈ newer, Aside runId .escalation event) →
      post (.ok ()) { run with
        runState := { run.runState with incidentId := some incident.ticketId } }
        (books.1, newer ++ openedEvent drive request incident :: books.2)) :
    (attended answer opens closes).alone.wp drive (Escalator.openByPolicy defaultTeam message) post
      run books := by
  obtain ⟨request, hrequest, hgroup, hcomment⟩ := incidentRequest_ok
    (Escalator.responsibleTeam defaultTeam run.runState.engineFailure)
    (Escalator.failureDetail message run.runState.engineFailure) run.runState.engineFailure hstep
  simp only [Escalator.openByPolicy, Discipline.wp_bind, Discipline.wp_read,
    Discipline.wp_ofExcept, hrequest]
  apply attended_issue
  obtain ⟨incident, hincident⟩ := hanswer.answers (.openIncident request)
  rw [hincident]
  simp only [Except.mapError, wp_updateState]
  apply attended_documents
  intro newer hnewer
  exact hpost request incident newer hgroup hcomment hnewer

end Escalation

/-- The run ended as failed after so many engine runs, and its ticket was closed
with a note. -/
structure ClosedAs (runId : UUID) (engineRuns : Nat) (note : String) (books : Books) : Prop where
  row : ∃ row drive ticket, Store.get books.1 runId = some row ∧ row.status = .failed ∧
    row.runState.ticket = some ticket ∧ drive.subject = runId ∧
    closedEvent drive ticket note ∈ books.2
  engineRuns : books.2.countP (triggersEngine runId) = engineRuns

theorem ClosedAs.of_save {rows : Store.Rows} {events : History} {run : WorkflowRun} {runId : UUID}
    {drive : DriveId} {ticket : TicketRef} {note : String} {engineRuns : Nat}
    (hid : run.runId = runId)
    (hstored : Stored rows run) (hstatus : run.status = .failed)
    (hticket : run.runState.ticket = some ticket) (hdrive : drive.subject = runId)
    (hclosed : closedEvent drive ticket note ∈ events)
    (hcount : events.countP (triggersEngine runId) = engineRuns) :
    ClosedAs runId engineRuns note
      (Store.put rows (savedRun run), .saved drive (savedRun run) :: events) := by
  subst hid
  refine ⟨⟨_, drive, ticket, hstored.get_put, hstatus, hticket, hdrive, ?_⟩, ?_⟩
  · exact List.mem_cons_of_mem _ hclosed
  · simpa [triggersEngine] using hcount

/-- The run ended as failed and no incident was opened for it. -/
structure Dismissed (runId : UUID) (engineRuns : Nat) (note : String) (books : Books) : Prop where
  closed : ClosedAs runId engineRuns note books
  unraised : ∀ part, ∀ event ∈ books.2, raisesIncident runId part event = false

theorem raisesIncident_of_silent {runId : UUID} {event : Event} (part : Issuer)
    (hevent : speaksOut runId event = false) : raisesIncident runId part event = false := by
  cases event with
  | called drive issuer call answer applied => cases call <;> simp_all [speaksOut, raisesIncident]
  | _ => rfl

theorem countP_aside {runId : UUID} {part : Issuer} {newer : History}
    (hnewer : ∀ event ∈ newer, Aside runId part event) :
    newer.countP (triggersEngine runId) = 0 ∧ newer.countP (raisesIncident runId part) = 0 := by
  constructor <;> rw [List.countP_eq_zero] <;> intro event hevent
  · simp [(hnewer event hevent).1]
  · simp [(hnewer event hevent).2]

section GivingUp

variable {answer : (call : Call) → call.Answer} {opens closes : Time} {drive : DriveId}
  {run : WorkflowRun} {books : Books} {triggers : Nat} {executor : Executor}

/-- Giving up where the policy opens no incident. -/
theorem attended_dismisses (hanswer : Cooperative answer) {step : StepName} {message : String}
    {kind : FailureKind} (hkind : (policyFor kind).openIncident = false)
    (hdriven : Driven run triggers books) (hdrive : drive.subject = run.runId)
    (hticket : run.runState.ticket.isSome) :
    (attended answer opens closes).alone.wp drive
      (executor.failStep step (.stepFailure message kind))
      (fun ended _ final => ended = .ok () ∧
        Dismissed run.runId triggers ((policyFor kind).closeComment run.runState.incidentId) final)
      run books := by
  obtain ⟨ticket, hticket⟩ := Option.isSome_iff_exists.mp hticket
  simp only [Executor.failStep, Discipline.wp_bind, wp_updateState, Discipline.wp_update,
    Escalator.escalate, Discipline.wp_attempt, Escalator.escalateByPolicy]
  apply attended_log
  simp only [hkind, Bool.false_eq_true, if_false]
  apply attended_closeByPolicy hanswer kind ticket
  · exact hticket
  apply attended_release
  intro newer hnewer
  apply attended_stored
  · exact hdriven.stored.congr .refl rfl
  refine ⟨rfl, ClosedAs.of_save rfl ?_ rfl hticket hdrive ?_ ?_, ?_⟩
  · exact hdriven.stored.congr .refl rfl
  · exact List.mem_append_right _ List.mem_cons_self
  · rw [List.countP_append, (countP_aside (hnewer run.runId .escalation)).1]
    simpa [closedEvent, triggersEngine] using hdriven.triggers
  · intro part event hevent
    simp only [List.mem_cons, List.mem_append] at hevent
    rcases hevent with rfl | hevent | rfl | rfl | hevent
    · rfl
    · exact (hnewer run.runId part event hevent).2
    · rfl
    · rfl
    · exact raisesIncident_of_silent part (hdriven.silent event hevent)

/-- One incident was opened for the run, with a team and a comment, and the ticket
was closed naming it. -/
structure ReportedTo (runId : UUID) (engineRuns : Nat) (team comment : String) (books : Books) :
    Prop where
  closed : ∃ drive request incident, drive.subject = runId ∧
    openedEvent drive request incident ∈ books.2 ∧ request.responsibleGroup = team ∧
    request.comment = some comment ∧
    ClosedAs runId engineRuns
      ("An error occurred. Incident " ++ incident.ticketId ++ " was created") books
  once : books.2.countP (raisesIncident runId .escalation) = 1

/-- Giving up where the policy opens an incident. -/
theorem attended_reports (hanswer : Cooperative answer) {step current : StepName} {message : String}
    {kind : FailureKind} (hkind : kind = .task) (hcurrent : run.currentStep = some current.value)
    (hdriven : Driven run triggers books) (hdrive : drive.subject = run.runId)
    (hticket : run.runState.ticket.isSome) :
    (attended answer opens closes).alone.wp drive
      (executor.failStep step (.stepFailure message kind))
      (fun ended _ final => ended = .ok () ∧ ReportedTo run.runId triggers
        (Escalator.responsibleTeam executor.defaultTeam run.runState.engineFailure)
        (Escalator.failureDetail message run.runState.engineFailure) final) run books := by
  obtain ⟨ticket, hticket⟩ := Option.isSome_iff_exists.mp hticket
  subst hkind
  simp only [Executor.failStep, Discipline.wp_bind, wp_updateState, Discipline.wp_update,
    Escalator.escalate, Discipline.wp_attempt, Escalator.escalateByPolicy]
  apply attended_log
  simp only [policyFor, if_true, Discipline.wp_bind]
  apply attended_openByPolicy hanswer
  · exact hcurrent
  intro request incident later hteam hcomment hlater
  apply attended_closeByPolicy hanswer .task ticket
  · exact hticket
  apply attended_release
  intro newer hnewer
  apply attended_stored
  · exact hdriven.stored.congr .refl rfl
  refine ⟨rfl, ⟨drive, request, incident, hdrive, ?_, hteam, hcomment,
    ClosedAs.of_save rfl ?_ rfl hticket hdrive ?_ ?_⟩, ?_⟩
  · simp
  · exact hdriven.stored.congr .refl rfl
  · exact List.mem_append_right _ List.mem_cons_self
  · rw [List.countP_append, (countP_aside (hnewer run.runId .escalation)).1, List.countP_cons,
      List.countP_append, (countP_aside (hlater run.runId)).1]
    simpa [closedEvent, openedEvent, triggersEngine] using hdriven.triggers
  · have hbefore : books.2.countP (raisesIncident run.runId .escalation) = 0 := by
      rw [List.countP_eq_zero]
      intro event hevent
      simp [raisesIncident_of_silent .escalation (hdriven.silent event hevent)]
    rw [List.countP_cons, List.countP_append, (countP_aside (hnewer run.runId .escalation)).2,
      List.countP_cons, List.countP_append, (countP_aside (hlater run.runId)).2, List.countP_cons,
      List.countP_cons, hbefore]
    simp [closedEvent, openedEvent, raisesIncident, hdrive]

end GivingUp

section Visits

variable {engines : List WorkflowEngineType} {origin run : WorkflowRun} {drive : DriveId}
  {since : Time} {books : Books} {failures triggers : Nat} {executor : Executor} {codec : JsonCodec}
  {visit : Visit} {failure : EngineFailure}

/-- A failed engine run that is not asked for again ends the run. -/
theorem attended_gives_up (hwired : executor.handlers = buildHandlers engines)
    (hengine : origin.runState.workflow.engineType ∈ engines) (hserved : visit.Served codec)
    (hstatus : visit.dag.queryRunStatus codec = .failed)
    (hfailure : visit.dag.getFailure codec = some failure) (hrun : Busy origin failures since run)
    (hdriven : Driven run triggers books) (hbudget : visit.closes - since ≤ seconds 3600)
    (hretry : ∀ message,
      mayRetry (.stepFailure message failure.kind) (failures + 1) origin.maxRetries = false)
    {post : Books → Prop}
    (hends : ∀ blamed message current, blamed.runId = run.runId → Driven blamed triggers current →
      blamed.runState.ticket.isSome → blamed.runState.incidentId = none →
      blamed.runState.engineFailure = some failure →
      blamed.currentStep = some StepName.runEngine.value →
      (attended visit.answer visit.opens visit.closes).alone.wp drive
        (executor.failStep .runEngine (.stepFailure message failure.kind))
        (fun ended _ final => ended = .ok () ∧ post final) blamed current) :
    (attended visit.answer visit.opens visit.closes).alone.wp drive (executor.turn .runEngine)
      (fun ended _ final => ended = .ok false ∧ post final) run books := by
  refine attended_fails hwired hengine hserved hstatus hfailure hrun hdriven hbudget ?_
  intro now started message current hcurrent
  have hattempts : (blamedRun now started failure run).runState.attempts .runEngine = failures :=
    hrun.attempts
  -- the retries are those the run was created with
  have hgiven : mayRetry (.stepFailure message failure.kind) (failures + 1)
      (blamedRun now started failure run).maxRetries = false := by
    have hsame : origin.maxRetries = run.maxRetries := hrun.continues.1.maxRetries
    change mayRetry _ _ run.maxRetries = false
    rw [← hsame]
    exact hretry message
  simp only [Executor.onStepError, Discipline.wp_bind, wp_updateState, Discipline.wp_read,
    Outline.countAttempt_attempts, hattempts, hgiven, Bool.false_eq_true, if_false,
    Discipline.wp_pure]
  refine Discipline.wp_mono (hends _ message current ?_ (hcurrent.congr .refl rfl) ?_ ?_ ?_ ?_) ?_
  · rfl
  · exact hrun.ticket
  · exact hrun.incidentId
  · rfl
  · rfl
  · rintro _ object final ⟨rfl, hfinal⟩
    exact ⟨trivial, hfinal⟩

/-- A turn that ends the drive is all there is to the drive. -/
theorem wp_advance_ends {V : Service Operations UUID} {D : Discipline V} {world : V.World}
    {plan rest : List StepName} {step : StepName}
    {post : Except PyException Unit → WorkflowRun → V.World → Prop}
    (hturn : D.wp drive (executor.turn step) (fun ended object world =>
      ended = .ok false ∧ post (.ok ()) object world) run world) :
    D.wp drive (executor.advance plan rest step) post run world := by
  cases rest <;> simp only [Executor.advance, Executor.proceed, Discipline.wp_bind]
  all_goals
    refine Discipline.wp_mono hturn ?_
    rintro _ object final ⟨rfl, hfinal⟩
    simpa using hfinal

/-- A visit of a run that stands at its engine's step. -/
theorem Visit.attend_engine {phase : WorkflowRun → Prop} {runId : UUID} {serial : Nat}
    (hbooks : Standing runId phase triggers books) (hunscheduled : Unscheduled phase)
    (hphase : ∀ row, phase row → row.status = .running ∧
      row.currentStep = some StepName.runEngine.value) {post : Books → Prop}
    (hturn : ∀ row current, row.runId = runId → phase row → Driven row triggers current →
      (attended visit.answer visit.opens visit.closes).alone.wp ⟨runId, serial⟩
        (executor.turn .runEngine) (fun ended _ final => ended = .ok false ∧ post final) row
          current) :
    post (visit.attend executor runId serial books) := by
  obtain ⟨row, hid, hget, hrow, hdriven⟩ :=
    (hbooks.meanwhile hunscheduled visit.before).driven ⟨runId, serial⟩
  obtain ⟨hrunning, hstep⟩ := hphase row hrow
  have hsame : { row with status := .running, currentStep := some StepName.runEngine.value } =
      row := by
    rw [← hrunning, ← hstep]
  apply Visit.attend_of_safe
  refine attended_delivery hget (by simp [hrunning, RunStatus.terminal]) ?_
  apply attended_driveOrCrash
  apply wp_drive_of_start (startStep_named hstep)
  rw [hsame]
  apply wp_advance_ends
  refine Discipline.wp_mono (hturn row _ hid hrow hdriven) ?_
  rintro _ object final ⟨rfl, hfinal⟩
  exact ⟨rfl, rfl, hfinal⟩

end Visits

/-- An engine run from its trigger to the visit that finds it failed. -/
structure Attempt where
  trigger : Visit
  polls : List Visit
  failing : Visit

def Attempt.visits (attempt : Attempt) : List Visit :=
  attempt.trigger :: attempt.polls ++ [attempt.failing]

/-- The times that a visit schedules the run for can be named. -/
def Visit.Schedulable (retryBase : Time) (maxRetries : Int) (visit : Visit) : Prop :=
  visit.closes + seconds 30 ≤ datetimeMax ∧
    ∀ attempts, 1 ≤ attempts → attempts ≤ maxRetries →
      visit.closes + backoff retryBase attempts (seconds 5) ≤ datetimeMax

/-- The engine run is in progress until it has failed, and every visit of it is
within the step's budget. -/
structure Attempt.Fails (codec : JsonCodec) (retryBase : Time) (maxRetries : Int)
    (failed : DagRun → Prop) (attempt : Attempt) : Prop where
  served : ∀ visit ∈ attempt.visits, visit.Served codec
  inProgress : ∀ visit ∈ attempt.polls, visit.dag.queryRunStatus codec = .inProgress
  failed : failed attempt.failing.dag
  budget : ∀ visit ∈ attempt.visits, visit.closes - attempt.trigger.opens ≤ seconds 3600
  schedulable : ∀ visit ∈ attempt.visits, visit.Schedulable retryBase maxRetries

section Attempts

variable {engines : List WorkflowEngineType} {origin : WorkflowRun} {runId : UUID} {since : Time}
  {books : Books} {failures triggers : Nat} {executor : Executor} {codec : JsonCodec}
  {failure : EngineFailure} {attempt : Attempt} {maxRetries : Int} (serial : Nat)

theorem Visit.Schedulable.poll {visit : Visit}
    (hvisit : visit.Schedulable executor.retryBase maxRetries) :
    visit.closes + seconds 15 ≤ datetimeMax :=
  Int.le_trans (Int.add_le_add_left (by decide) visit.closes) hvisit.1

/-- Polls of an engine run in progress leave the run where it stands. -/
theorem attendAll_polls (hwired : executor.handlers = buildHandlers engines)
    (hengine : origin.runState.workflow.engineType ∈ engines) (polls : List Visit)
    (hpolls : ∀ visit ∈ polls, visit.Served codec ∧
      visit.dag.queryRunStatus codec = .inProgress ∧ visit.closes - since ≤ seconds 3600 ∧
      visit.Schedulable executor.retryBase maxRetries)
    (hbooks : Standing runId (Busy origin failures since) triggers books) :
    Standing runId (Busy origin failures since) triggers
      (attendAll executor runId polls serial books) := by
  induction polls generalizing serial books with
  | nil => exact hbooks
  | cons visit rest ih =>
      obtain ⟨hserved, hstatus, hbudget, hlater⟩ := hpolls visit List.mem_cons_self
      refine ih _ (fun other hother => hpolls other (List.mem_cons_of_mem _ hother)) ?_
      refine Visit.attend_engine hbooks (Busy.unscheduled _ _ _)
        (fun row hrow => ⟨hrow.running, hrow.atStep⟩) ?_
      rintro row current rfl hrow hdriven
      exact attended_polls hwired hengine hserved hstatus hrow hdriven hbudget hlater.poll

/-- The visits of an attempt after its trigger. -/
def Attempt.rest (attempt : Attempt) : List Visit :=
  attempt.polls ++ [attempt.failing]

/-- What a turn that finds the engine run failed comes to, the attempt comes to. -/
theorem attendAll_rest (hwired : executor.handlers = buildHandlers engines)
    (hengine : origin.runState.workflow.engineType ∈ engines)
    (hattempt : attempt.Fails codec executor.retryBase maxRetries (FailsAs codec failure))
    (hbooks : Standing runId (Busy origin failures attempt.trigger.opens) triggers books)
    (post : Books → Prop)
    (hturn : ∀ row current drive, row.runId = runId → drive.subject = runId →
      Busy origin failures attempt.trigger.opens row → Driven row triggers current →
      (attended attempt.failing.answer attempt.failing.opens attempt.failing.closes).alone.wp drive
        (executor.turn .runEngine) (fun ended _ final => ended = .ok false ∧ post final) row
          current) :
    post (attendAll executor runId attempt.rest serial books) := by
  have hmem : ∀ visit ∈ attempt.polls, visit ∈ attempt.visits := fun visit hvisit =>
    List.mem_cons_of_mem _ (List.mem_append_left _ hvisit)
  rw [Attempt.rest, attendAll_append]
  have hpolled := attendAll_polls serial hwired hengine attempt.polls
    (fun visit hvisit =>
      ⟨hattempt.served visit (hmem visit hvisit), hattempt.inProgress visit hvisit,
      hattempt.budget visit (hmem visit hvisit),
        hattempt.schedulable visit (hmem visit hvisit)⟩) hbooks
  refine Visit.attend_engine hpolled (Busy.unscheduled _ _ _)
    (fun row hrow => ⟨hrow.running, hrow.atStep⟩) ?_
  intro row current hid hrow hdriven
  exact hturn row current _ hid rfl hrow hdriven

/-- An attempt that failed and may be repeated. -/
theorem attendAll_retried (hwired : executor.handlers = buildHandlers engines)
    (hengine : origin.runState.workflow.engineType ∈ engines)
    (hattempt : attempt.Fails codec executor.retryBase origin.maxRetries (FailsAs codec failure))
    (hkind : failure.kind = .task) (hretries : (failures : Int) + 1 ≤ origin.maxRetries)
    (hbooks : Standing runId (Busy origin failures attempt.trigger.opens) triggers books) :
    Standing runId (Retrying origin (failures + 1)) triggers
      (attendAll executor runId attempt.rest serial books) := by
  have hfailing : attempt.failing ∈ attempt.visits := by simp [Attempt.visits]
  refine attendAll_rest serial hwired hengine hattempt hbooks
    (Standing runId (Retrying origin (failures + 1)) triggers) ?_
  rintro row current drive rfl - hrow hdriven
  exact attended_retries hwired hengine (hattempt.served _ hfailing) hattempt.failed.1
    hattempt.failed.2 hkind hretries hrow hdriven (hattempt.budget _ hfailing)
    ((hattempt.schedulable _ hfailing).2 _ (by omega) hretries)

/-- The engine run is asked for again. -/
theorem attend_retrigger (hwired : executor.handlers = buildHandlers engines)
    (hengine : origin.runState.workflow.engineType ∈ engines)
    (hattempt : attempt.Fails codec executor.retryBase maxRetries (FailsAs codec failure))
    (hbooks : Standing runId (Retrying origin failures) triggers books) :
    Standing runId (Busy origin failures attempt.trigger.opens) (triggers + 1)
      (attempt.trigger.attend executor runId serial books) := by
  have htrigger : attempt.trigger ∈ attempt.visits := List.mem_cons_self
  have hserved := hattempt.served _ htrigger
  refine Visit.attend_engine hbooks (Retrying.unscheduled _ _)
    (fun row hrow => ⟨hrow.running, hrow.atStep⟩) ?_
  rintro row current rfl hrow hdriven
  exact attended_triggers hwired hengine hserved.cooperative hrow.toIdle hdriven rfl hserved.brief
    (hattempt.schedulable _ htrigger).poll

/-- Engine runs one after the other that all fail as a task does, until no retry
is left. -/
theorem attendAll_reports (hwired : executor.handlers = buildHandlers engines)
    (hengine : origin.runState.workflow.engineType ∈ engines) (hkind : failure.kind = .task)
    (attempts : List Attempt)
    (hattempts : ∀ other ∈ attempt :: attempts,
      other.Fails codec executor.retryBase origin.maxRetries (FailsAs codec failure))
    (hlast : (failures : Int) + attempts.length = origin.maxRetries)
    (hbooks : Standing runId (Busy origin failures attempt.trigger.opens) (failures + 1) books) :
    ∃ message, ReportedTo runId (failures + attempts.length + 1)
      (Escalator.responsibleTeam executor.defaultTeam (some failure))
      (Escalator.failureDetail message (some failure))
      (attendAll executor runId
          (attempt.rest ++ attempts.flatMap Attempt.visits) serial books) := by
  induction attempts generalizing attempt failures serial books with
  | nil =>
      have hattempt := hattempts attempt List.mem_cons_self
      have hfailing : attempt.failing ∈ attempt.visits := by simp [Attempt.visits]
      have hserved := hattempt.served _ hfailing
      rw [List.flatMap_nil, List.append_nil]
      refine attendAll_rest serial hwired hengine hattempt hbooks (fun final =>
        ∃ message, ReportedTo runId (failures + 1)
          (Escalator.responsibleTeam executor.defaultTeam (some failure))
          (Escalator.failureDetail message (some failure)) final) ?_
      rintro row current drive rfl hdrive hrow hdriven
      refine attended_gives_up hwired hengine hserved hattempt.failed.1 hattempt.failed.2
        hrow hdriven (hattempt.budget _ hfailing) ?_ ?_
      · intro message
        -- this is one failure more than there are retries
        have hexhausted : ¬ (failures : Int) + 1 ≤ origin.maxRetries := by
          simp only [List.length_nil] at hlast
          omega
        simp [mayRetry, PyException.kind, hkind, policyFor, hexhausted]
      · intro blamed message final hid hblamed hticket _ hfailure hstep
        refine Discipline.wp_mono (attended_reports hserved.cooperative hkind hstep hblamed
          (hdrive.trans hid.symm) hticket) ?_
        rintro _ object after ⟨rfl, hreported⟩
        rw [hid, hfailure] at hreported
        exact ⟨rfl, message, hreported⟩
  | cons next rest ih =>
      have hattempt := hattempts attempt List.mem_cons_self
      have hnext := hattempts next (List.mem_cons_of_mem _ List.mem_cons_self)
      simp only [List.length_cons] at hlast
      -- this attempt is retried, and the next one triggers the engine anew
      have hretried := attendAll_retried serial hwired hengine hattempt hkind (by omega) hbooks
      have hbusy := attend_retrigger (serial + attempt.rest.length) hwired hengine hnext hretried
      have hreported := ih (serial + attempt.rest.length + 1)
        (fun other hother => hattempts other (List.mem_cons_of_mem _ hother)) (by omega) hbusy
      have hvisits : next.visits = next.trigger :: next.rest := rfl
      rw [List.flatMap_cons, attendAll_append, hvisits, List.cons_append, attendAll,
        List.length_cons]
      have hcount : failures + (rest.length + 1) + 1 = failures + 1 + rest.length + 1 := by omega
      rw [hcount]
      exact hreported

/-- An engine run that failed as a validation does is not asked for again. -/
theorem attendAll_dismisses (hwired : executor.handlers = buildHandlers engines)
    (hengine : origin.runState.workflow.engineType ∈ engines) (hkind : failure.kind ≠ .task)
    (hattempt : attempt.Fails codec executor.retryBase maxRetries (FailsAs codec failure))
    (hbooks : Standing runId (Busy origin failures attempt.trigger.opens) triggers books) :
    Dismissed runId triggers validationComment
      (attendAll executor runId attempt.rest serial books) := by
  have hfailing : attempt.failing ∈ attempt.visits := by simp [Attempt.visits]
  have hserved := hattempt.served _ hfailing
  have hpolicy : (policyFor failure.kind).openIncident = false ∧
      (policyFor failure.kind).retryable = false ∧
      ∀ incident, (policyFor failure.kind).closeComment incident = validationComment := by
    cases hvalue : failure.kind with
    | task => exact absurd hvalue hkind
    | validation => exact ⟨rfl, rfl, fun _ => rfl⟩
    | infraPrecheck => exact ⟨rfl, rfl, fun _ => rfl⟩
  obtain ⟨hquiet, honce, hnote⟩ := hpolicy
  refine attendAll_rest serial hwired hengine hattempt hbooks
    (Dismissed runId triggers validationComment) ?_
  rintro row current drive rfl hdrive hrow hdriven
  refine attended_gives_up hwired hengine hserved hattempt.failed.1 hattempt.failed.2 hrow hdriven
    (hattempt.budget _ hfailing) ?_ ?_
  · intro message
    simp [mayRetry, PyException.kind, honce]
  · intro blamed message final hid hblamed hticket _ hfailure hstep
    refine Discipline.wp_mono (attended_dismisses hserved.cooperative hquiet hblamed
      (hdrive.trans hid.symm) hticket) ?_
    rintro _ object after ⟨rfl, hdismissed⟩
    rw [hid, hnote] at hdismissed
    exact ⟨rfl, hdismissed⟩

end Attempts

/-- A run that waits for its approval, and has done so since a given time at most. -/
structure AwaitingApproval (origin : WorkflowRun) (since : Time) (run : WorkflowRun) : Prop extends
    Preparing origin run where
  ticket : run.runState.ticket.isSome
  begun : ∃ started, run.runState.attemptStartedAt = some (.aware started) ∧ since ≤ started
  running : run.status = .running
  atStep : run.currentStep = some StepName.awaitApproval.value

/-- A run as it was created but for its schedule, or one that waits for its approval. -/
def Entering (origin : WorkflowRun) (since : Time) (run : WorkflowRun) : Prop :=
  (∃ scheduledAt, run = { origin with scheduledAt := scheduledAt }) ∨
    origin.runType = .resource ∧ AwaitingApproval origin since run

theorem Entering.unscheduled (origin : WorkflowRun) (since : Time) :
    Unscheduled (Entering origin since) := by
  intro row scheduledAt hrow
  rcases hrow with ⟨earlier, rfl⟩ | ⟨htype, hrow⟩
  · exact .inl ⟨scheduledAt, rfl⟩
  · refine .inr ⟨htype, hrow.congr .refl (.refl _) rfl rfl rfl rfl, hrow.ticket, hrow.begun, ?_, ?_⟩
    · exact hrow.running
    · exact hrow.atStep

section Entering

variable {engines : List WorkflowEngineType} {workflow : Workflow} {request : TriggerRequest}
  {runId : UUID} {since created : Time} {books : Books} {executor : Executor} {codec : JsonCodec}
  {maxRetries : Int} {visit : Visit} (serial : Nat)

theorem Preparing.idle {origin run : WorkflowRun} (hrun : Preparing origin run)
    (hticket : run.runState.ticket.isSome) (hunbegun : run.runState.attemptStartedAt = none)
    (hrunning : run.status = .running) : Idle origin 0 run where
  continues := hrun.continues
  ticket := hticket
  incidentId := hrun.incidentId
  attempts := by
    rw [RunState.attempts, hrun.stepAttempts]
    rfl
  running := hrunning
  engineRunId := hrun.engineRunId
  unbegun := hunbegun

/-- What a drive does before the engine's step leaves the account of the run as it was. -/
theorem Driven.prepared {run changed : WorkflowRun} {drive : DriveId} {newer : History}
    (hrun : Driven run 0 books) (hsame : run.SameOrigin changed)
    (hversion : changed.version = run.version)
    (hnewer : ∀ event ∈ newer, preparatory drive event = true) :
    Driven changed 0 (books.1, newer ++ books.2) := by
  refine hrun.next newer 0 hsame hversion ?_ fun event hevent =>
    (preparatory_silent _ (hnewer event hevent)).2
  rw [List.countP_eq_zero]
  intro event hevent
  simp [(preparatory_silent run.runId (hnewer event hevent)).1]

/-- A drive at one of the steps before the engine's. -/
theorem attended_entering {origin run : WorkflowRun} (hid : run.runId = runId)
    (hwired : executor.handlers = buildHandlers engines)
    (htype : origin.runType = .resource) (hserved : visit.Served codec)
    (hsince : since ≤ visit.opens) (hlater : visit.Schedulable executor.retryBase maxRetries)
    (steps : List StepName) (step : StepName)
    (hsteps : ∀ other ∈ step :: steps, other ∈ preceding (runPlans .resource) .runEngine)
    (happroval : .awaitApproval ∈ step :: steps)
    (hrun : Preparing origin run) (hrunning : run.status = .running)
    (hticket : step ≠ .createTicket → run.runState.ticket.isSome)
    (hbegun : run.runState.attemptStartedAt = none ∨ step = .awaitApproval ∧
      visit.closes - since ≤ seconds (7 * 24 * 3600) ∧
      ∃ started, run.runState.attemptStartedAt = some (.aware started) ∧ since ≤ started)
    (hdriven : Driven run 0 books) {post : Books → Prop}
    (harrived : ¬ Pends visit.answer → ∀ arrived current, Idle origin 0 arrived →
      arrived.runId = runId → Driven arrived 0 current →
      (attended visit.answer visit.opens visit.closes).alone.wp ⟨runId, serial⟩
        (executor.turn .runEngine) (fun ended _ final => ended = .ok false ∧ post final)
          arrived current)
    (hwaiting : ¬ Approves visit.answer → ∀ final, Standing runId (Entering origin since) 0 final →
      post final) :
    (attended visit.answer visit.opens visit.closes).alone.wp ⟨runId, serial⟩
      (executor.advance (runPlans .resource)
        (steps ++ [.runEngine, .finalizeResource, .closeTicket]) step)
      (fun ended _ final => ended = .ok () ∧ post final) run books := by
  subst hid
  refine attended_preparations hwired hserved.cooperative hserved.brief hlater.1 steps step hsteps
    hrun hticket hdriven.stored ?_ ?_ ?_ ?_
  · rintro instant hnaive
    rcases hbegun with hnone | ⟨-, -, started, hstarted, -⟩
    · rw [hnone] at hnaive
      cases hnaive
    · rw [hstarted] at hnaive
      cases hnaive
  · intro started handler hdated hhandler
    rw [hwired] at hhandler
    -- an attempt from an earlier visit is the wait for the approval, which has a week
    rcases hbegun with hnone | ⟨rfl, happroval, begun, hstarted, hbegun⟩
    · have hopens : visit.opens ≤ started := by
        rcases hdated with hsome | ⟨-, hopens, -⟩
        · rw [hnone] at hsome
          cases hsome
        · exact hopens
      exact Int.le_trans (Int.sub_le_sub_left hopens visit.closes)
        (Int.le_trans hserved.brief (hour_le_budget hhandler))
    · cases hhandler
      rcases hdated with hsome | ⟨hnone, -⟩
      · rw [hstarted] at hsome
        cases hsome
        exact Int.le_trans (Int.sub_le_sub_left hbegun visit.closes) happroval
      · rw [hstarted] at hnone
        cases hnone
  · intro hdecided arrived newer harrives hticket hunbegun hversion hstatus hnewer
    apply wp_advance_ends
    have hsame : run.SameOrigin arrived := hrun.continues.1.symm.trans harrives.continues.1
    refine Discipline.wp_mono (harrived (hdecided happroval) arrived _
      (harrives.idle hticket hunbegun (hstatus.trans hrunning)) hsame.runId.symm
      (hdriven.prepared hsame hversion hnewer)) ?_
    rintro ended object final ⟨rfl, hfinal⟩
    exact ⟨rfl, rfl, hfinal⟩
  · intro hunapproved waiting newer started hwaits hticket hstarted hbegins hstep hversion hstatus
      hnewer
    have hsame : run.SameOrigin waiting := hrun.continues.1.symm.trans hwaits.continues.1
    have hwaitsFor : AwaitingApproval origin since (savedRun waiting) := by
      refine ⟨hwaits.congr .refl (.refl _) rfl rfl rfl rfl, hticket, ⟨started, hstarted, ?_⟩,
        hstatus.trans hrunning, hstep⟩
      rcases hbegins with hsome | hopens
      · rcases hbegun with hnone | ⟨-, -, begun, hbegan, hbegun⟩
        · rw [hnone] at hsome
          cases hsome
        · rw [hbegan] at hsome
          cases hsome
          exact hbegun
      · exact Int.le_trans hsince hopens
    have hprepared := hdriven.prepared hsame hversion hnewer
    refine ⟨rfl, hwaiting hunapproved _ ⟨⟨_, ?_, .inr ⟨htype, hwaitsFor⟩⟩, ?_, ?_⟩⟩
    · rw [hsame.runId]
      exact hprepared.stored.get_put
    · rw [hsame.runId]
      exact hprepared.triggers
    · rw [hsame.runId]
      exact hprepared.silent

/-- A visit of a resource run before its engine run: the drive comes to the engine's
step, or waits for the approval. -/
theorem Visit.attend_entering (hwired : executor.handlers = buildHandlers engines)
    (htype : workflow.runType = .resource)
    (haccepted : checkTrigger workflow.runType request = .ok ())
    (hserved : visit.Served codec) (hsince : since ≤ visit.opens)
    (happroval : visit.closes - since ≤ seconds (7 * 24 * 3600))
    (hlater : visit.Schedulable executor.retryBase maxRetries)
    (hbooks : Standing runId (Entering (triggered created runId workflow request) since) 0 books)
    {post : Books → Prop}
    (harrived : ¬ Pends visit.answer → ∀ arrived current,
      Idle (triggered created runId workflow request) 0 arrived → arrived.runId = runId →
      Driven arrived 0 current →
      (attended visit.answer visit.opens visit.closes).alone.wp ⟨runId, serial⟩
        (executor.turn .runEngine) (fun ended _ final => ended = .ok false ∧ post final)
          arrived current)
    (hwaiting : ¬ Approves visit.answer → ∀ final,
      Standing runId (Entering (triggered created runId workflow request) since) 0 final →
        post final) :
    post (visit.attend executor runId serial books) := by
  obtain ⟨row, hid, hget, hrow, hdriven⟩ :=
    (hbooks.meanwhile (Entering.unscheduled _ _) visit.before).driven ⟨runId, serial⟩
  have hopen : row.status.terminal = false := by
    rcases hrow with ⟨scheduledAt, rfl⟩ | ⟨-, hrow⟩
    · rfl
    · simp [hrow.running, RunStatus.terminal]
  have hplan : row.runType = .resource → runPlans row.runType = runPlans .resource :=
    congrArg runPlans
  apply Visit.attend_of_safe
  refine attended_delivery hget hopen (attended_driveOrCrash ?_)
  rcases hrow with ⟨scheduledAt, rfl⟩ | ⟨-, hrow⟩
  -- a run nobody has driven starts with its first step, and one that waits with the approval
  · obtain ⟨hresource, -⟩ := checkTrigger_ok haccepted
    have hstart : Executor.startStep { triggered created runId workflow request with
        scheduledAt := scheduledAt } = .ok (firstStep workflow.runType) := rfl
    apply wp_drive_of_start hstart
    rw [hplan htype, htype]
    refine attended_entering serial ?_ hwired htype hserved hsince hlater
      [.configureResource, .awaitApproval, .validateResource] .createTicket (by decide) (by decide)
      ?_ ?_ ?_ ?_ ?_ harrived hwaiting
    · exact hid
    · refine ⟨⟨.refl, .refl _⟩, rfl, rfl, rfl, rfl, ?_⟩
      simpa [triggered, htype] using hresource htype
    · rfl
    · simp
    · exact .inl rfl
    · exact hdriven.congr .refl rfl
  · apply wp_drive_of_start (startStep_named hrow.atStep)
    rw [hplan (hrow.continues.1.runType.symm.trans htype)]
    refine attended_entering serial ?_ hwired htype hserved hsince hlater [.validateResource]
      .awaitApproval (by decide) (by decide) ?_ ?_ ?_ ?_ ?_ harrived hwaiting
    · exact hid
    · exact hrow.congr .refl (.refl _) rfl rfl rfl rfl
    · rfl
    · exact fun _ => hrow.ticket
    · exact .inr ⟨rfl, happroval, hrow.begun⟩
    · exact hdriven.congr .refl rfl

/-- The visit is within the budget of an approval that is waited for since then. -/
def Visit.WithinApproval (since : Time) (visit : Visit) : Prop :=
  since ≤ visit.opens ∧ visit.closes - since ≤ seconds (7 * 24 * 3600)

/-- Visits before the approval leave the run where it stands. -/
theorem attendAll_pendings (hwired : executor.handlers = buildHandlers engines)
    (htype : workflow.runType = .resource)
    (haccepted : checkTrigger workflow.runType request = .ok ()) (pendings : List Visit)
    (hpendings : ∀ visit ∈ pendings, visit.Served codec ∧ Pends visit.answer ∧
      visit.WithinApproval since ∧ visit.Schedulable executor.retryBase maxRetries)
    (hbooks : Standing runId (Entering (triggered created runId workflow request) since) 0 books) :
    Standing runId (Entering (triggered created runId workflow request) since) 0
      (attendAll executor runId pendings serial books) := by
  induction pendings generalizing serial books with
  | nil => exact hbooks
  | cons visit rest ih =>
      obtain ⟨hserved, hpends, ⟨hsince, happroval⟩, hlater⟩ := hpendings visit List.mem_cons_self
      refine ih _ (fun other hother => hpendings other (List.mem_cons_of_mem _ hother)) ?_
      exact Visit.attend_entering serial hwired htype haccepted hserved hsince happroval
        hlater hbooks (fun hdecided => absurd hpends hdecided) fun _ final hfinal => hfinal

/-- The visit that first asks for an engine run. -/
theorem attend_trigger (hwired : executor.handlers = buildHandlers engines)
    (htype : workflow.runType ≠ .legacy) (hengine : workflow.engineType ∈ engines)
    (haccepted : checkTrigger workflow.runType request = .ok ()) (hserved : visit.Served codec)
    (happroved : workflow.runType = .resource → Approves visit.answer ∧ visit.WithinApproval since)
    (hlater : visit.Schedulable executor.retryBase maxRetries)
    (hbooks : Standing runId (Entering (triggered created runId workflow request) since) 0 books) :
    Standing runId (Busy (triggered created runId workflow request) 0 visit.opens) 1
      (visit.attend executor runId serial books) := by
  cases hvalue : workflow.runType with
  | legacy => exact absurd hvalue htype
  | resource =>
      obtain ⟨happroves, hsince, happroval⟩ := happroved hvalue
      refine Visit.attend_entering serial hwired hvalue haccepted hserved hsince happroval
        hlater hbooks
        (fun _ arrived current hidle hid hdriven => ?_) fun hunapproved =>
          absurd happroves hunapproved
      have hdrive : (⟨runId, serial⟩ : DriveId).subject = arrived.runId := hid.symm
      have hasked := attended_triggers hwired hengine hserved.cooperative hidle hdriven hdrive
        hserved.brief hlater.poll
      rwa [hid] at hasked
  | automation =>
      obtain ⟨-, hticket⟩ := checkTrigger_ok haccepted
      obtain ⟨row, hid, hget, hrow, hdriven⟩ :=
        (hbooks.meanwhile (Entering.unscheduled _ _) visit.before).driven ⟨runId, serial⟩
      rcases hrow with ⟨scheduledAt, rfl⟩ | ⟨hresource, -⟩
      · apply Visit.attend_of_safe
        refine attended_delivery hget rfl (attended_driveOrCrash ?_)
        have hstart : Executor.startStep { triggered created runId workflow request with
            scheduledAt := scheduledAt } = .ok (firstStep workflow.runType) := rfl
        apply wp_drive_of_start hstart
        have hfirst : firstStep workflow.runType = .runEngine := by
          rw [hvalue]
          rfl
        rw [hfirst]
        apply wp_advance_ends
        have hidle : Idle (triggered created runId workflow request) 0
            { triggered created runId workflow request with
              scheduledAt := scheduledAt
              status := .running
              currentStep := some StepName.runEngine.value } :=
          ⟨⟨⟨.refl, .refl _⟩, by simpa [triggered, hvalue] using hticket hvalue, rfl, rfl, rfl⟩,
            rfl, rfl⟩
        refine Discipline.wp_mono (attended_triggers hwired hengine hserved.cooperative hidle
          (hdriven.congr .refl rfl) rfl hserved.brief hlater.poll) ?_
        rintro ended object final ⟨rfl, hfinal⟩
        exact ⟨rfl, rfl, hfinal⟩
      · cases hvalue.symm.trans hresource

end Entering

end CloudioOrchestrator

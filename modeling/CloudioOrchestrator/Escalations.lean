import CloudioOrchestrator.Executor
import CloudioOrchestrator.Interaction.Playing

/-! # An escalation on its own

What the escalator does for one run that ended badly, whatever the providers
answer it: which calls it makes of the ticket system, and which of the resource
manager.
-/

namespace CloudioOrchestrator

open Interaction Drive

/-- The calls of the ticket system's port. -/
def Call.ofTicketSystem : Call → Bool
  | .openTicket .. | .getApprovalStatus _ | .closeTicket .. | .annotateTicket .. | .openIncident _
  | .closeIncident .. => true
  | _ => false

/-- The calls of the resource manager's port. -/
def Call.ofResourceManager : Call → Bool
  | .createResource .. | .validateResource _ | .updateResource .. | .deleteResource .. => true
  | _ => false

def Op.ofTicketSystem : Op → Bool
  | .provider _ call => call.ofTicketSystem
  | _ => false

def Op.ofResourceManager : Op → Bool
  | .provider _ call => call.ofResourceManager
  | _ => false

/-- The operations of the ticket side of an escalation: its calls and its log records. -/
def Op.ofTicketSide : Op → Bool
  | .provider _ call => call.ofTicketSystem
  | .log _ => true
  | _ => false

/-- A close of the ticket as unsuccessful. -/
def Op.closes (ticket : TicketRef) : Op → Bool
  | .provider _ (.closeTicket other _ .unsuccessful) => other = ticket
  | _ => false

/-- The operations of a kind that were performed, oldest first. -/
def performed (part : Op → Bool) (trace : Trace Operations) : List Op :=
  ((view part trace).map Exchange.op).reverse

/-- One escalation of the run: how it ended, the run it left, and what was exchanged. -/
def escalated (environment : Environment Operations) (defaultTeam : String) (error : PyException)
    (run : WorkflowRun) : (Except PyException Unit × WorkflowRun) × Trace Operations :=
  (Escalator.escalate defaultTeam error run).play environment []

def dismissed (environment : Environment Operations) (run : WorkflowRun) :
    (Except PyException Unit × WorkflowRun) × Trace Operations :=
  (Escalator.reject run).play environment []

section Ticket

variable {environment : Environment Operations} {run : WorkflowRun} {trace : Trace Operations}
  {part : Op → Bool}

theorem play_issue (environment : Environment Operations) (run : WorkflowRun)
    (trace : Trace Operations) (issuer : Issuer) (call : Call) :
    (issue issuer call run).play environment trace =
      (((environment trace (.provider issuer call)).mapError ProviderError.toException, run),
        ⟨.provider issuer call, environment trace (.provider issuer call)⟩ :: trace) := by
  rw [issue, perform, Routine.play_bind_ok (Routine.play_ask _), Routine.play_ofExcept]

theorem confined_issue {issuer : Issuer} {call : Call}
    (hcall : part (.provider issuer call) = true) : (issue issuer call).Confined part := by
  apply Routine.Confined.bind (Routine.confined_ask hcall)
  intro answer
  exact Routine.confined_ofExcept _

theorem preserves_issue {τ : Type} {feature : WorkflowRun → τ} (issuer : Issuer) (call : Call) :
    (issue issuer call).Preserves feature := by
  apply Routine.Preserves.bind (Routine.preserves_ask _)
  intro answer
  exact Routine.preserves_ofExcept _

/-- What the release reads of a run. -/
def heldResource (run : WorkflowRun) : Option ResourceSpec × ResourceOperation :=
  (Escalator.resourceInFlight run.runState, run.runState.operation)

/-- The documentation incident is a matter of its own: it never raises, and leaves the run. -/
theorem confined_logDocumentationIncident (defaultTeam group detail : String)
    (hopen : ∀ request, part (.provider .documentation (.openIncident request)) = true)
    (hclose : ∀ incident,
      part (.provider .documentation (.closeIncident incident .documentation)) = true) :
    (Escalator.logDocumentationIncident defaultTeam group detail).Confined part := by
  unfold Escalator.logDocumentationIncident
  split
  · exact Routine.confined_pure ()
  · apply Routine.Confined.bind Routine.confined_read
    intro run
    apply Routine.Confined.bind _ fun _ => Routine.confined_pure ()
    apply Routine.Confined.attempt
    apply Routine.Confined.bind (Routine.confined_ofExcept _)
    intro incident
    apply Routine.Confined.bind (confined_issue (hopen _))
    intro doc
    exact confined_issue (hclose doc)

theorem play_logDocumentationIncident (defaultTeam group detail : String) :
    ((Escalator.logDocumentationIncident defaultTeam group detail run).play environment trace).1 =
      (.ok (), run) := by
  unfold Escalator.logDocumentationIncident
  split
  · rfl
  · rw [Routine.play_bind_ok Routine.play_read,
      Routine.play_bind_ok (Routine.play_attempt _), Routine.play_pure]
    -- whatever the record costs, it leaves the run as it was
    have hkept : Routine.Preserves (ε := PyException) (fun run : WorkflowRun => run) (do
        let incident ← Routine.ofExcept
          (Escalator.incidentRequest run defaultTeam detail run.runState.engineFailure)
        let doc ← issue .documentation (.openIncident incident)
        issue .documentation (.closeIncident doc .documentation)) := by
      apply Routine.Preserves.bind (Routine.preserves_ofExcept _)
      intro incident
      apply Routine.Preserves.bind (preserves_issue _ _)
      intro doc
      exact preserves_issue _ _
    exact congrArg _ (hkept environment run trace)

theorem preserves_logDocumentationIncident {τ : Type} {feature : WorkflowRun → τ}
    (defaultTeam group detail : String) :
    (Escalator.logDocumentationIncident defaultTeam group detail).Preserves feature := by
  intro environment run trace
  rw [play_logDocumentationIncident]

theorem confined_releaseResource :
    Escalator.releaseResource.Confined Op.ofResourceManager := by
  apply Routine.Confined.bind Routine.confined_read
  intro run
  cases Escalator.resourceInFlight run.runState with
  | none => exact Routine.confined_pure ()
  | some resource =>
      apply Routine.Confined.bind _ fun _ => Routine.confined_pure ()
      apply Routine.Confined.attempt
      split
      · exact confined_issue rfl
      · exact confined_issue rfl

theorem confined_openByPolicy (defaultTeam message : String)
    (hopen : ∀ issuer request, part (.provider issuer (.openIncident request)) = true)
    (hclose : ∀ incident,
      part (.provider .documentation (.closeIncident incident .documentation)) = true) :
    (Escalator.openByPolicy defaultTeam message).Confined part := by
  apply Routine.Confined.bind Routine.confined_read
  intro run
  apply Routine.Confined.bind (Routine.confined_ofExcept _)
  intro incident
  apply Routine.Confined.bind (confined_issue (hopen _ _))
  intro opened
  apply Routine.Confined.bind (Routine.confined_update _)
  intro _
  exact confined_logDocumentationIncident _ _ _ (hopen _) hclose

theorem confined_closeByPolicy (kind : FailureKind)
    (hclose : ∀ ticket note,
      part (.provider .escalation (.closeTicket ticket note .unsuccessful)) = true) :
    (Escalator.closeByPolicy kind).Confined part := by
  apply Routine.Confined.bind Routine.confined_read
  intro run
  cases run.runState.ticket with
  | none => exact Routine.confined_pure ()
  | some ticket =>
      apply Routine.Confined.bind (confined_issue (hclose _ _))
      intro _
      exact Routine.confined_update _

theorem confined_escalateByPolicy (defaultTeam message : String) (kind : FailureKind) :
    (Escalator.escalateByPolicy defaultTeam message kind).Confined Op.ofTicketSide := by
  apply Routine.Confined.bind (Routine.confined_ask rfl)
  intro _
  split
  · apply Routine.Confined.bind (confined_openByPolicy _ _ (fun _ _ => rfl) fun _ => rfl)
    intro _
    exact confined_closeByPolicy kind fun _ _ => rfl
  · exact confined_closeByPolicy kind fun _ _ => rfl

theorem confined_escalateUnclassified (defaultTeam : String) (error : PyException) :
    (Escalator.escalateUnclassified defaultTeam error).Confined Op.ofTicketSide := by
  apply Routine.Confined.bind Routine.confined_read
  intro run
  apply Routine.Confined.bind (Routine.confined_ask rfl)
  intro _
  apply Routine.Confined.bind (Routine.confined_ofExcept _)
  intro incident
  apply Routine.Confined.bind (confined_issue rfl)
  intro opened
  apply Routine.Confined.bind (Routine.confined_update _)
  intro _
  cases run.runState.ticket with
  | none => exact Routine.confined_pure ()
  | some ticket => exact confined_issue rfl

/-- Opening an incident leaves of the run all but the id of the incident. -/
theorem preserves_openByPolicy {τ : Type} {feature : WorkflowRun → τ} (defaultTeam message : String)
    (hfeature : ∀ (run : WorkflowRun) (id : Option String),
      feature { run with runState := { run.runState with incidentId := id } } = feature run) :
    (Escalator.openByPolicy defaultTeam message).Preserves feature := by
  apply Routine.Preserves.bind Routine.preserves_read
  intro run
  apply Routine.Preserves.bind (Routine.preserves_ofExcept _)
  intro incident
  apply Routine.Preserves.bind (preserves_issue _ _)
  intro opened
  apply Routine.Preserves.bind
  · exact Routine.preserves_update fun run => hfeature run _
  intro _
  exact preserves_logDocumentationIncident _ _ _

theorem preserves_closeByPolicy (kind : FailureKind) :
    (Escalator.closeByPolicy kind).Preserves heldResource := by
  apply Routine.Preserves.bind Routine.preserves_read
  intro run
  cases run.runState.ticket with
  | none => exact Routine.preserves_pure ()
  | some ticket =>
      apply Routine.Preserves.bind (preserves_issue _ _)
      intro _
      exact Routine.preserves_update fun _ => rfl

theorem preserves_escalateByPolicy (defaultTeam message : String) (kind : FailureKind) :
    (Escalator.escalateByPolicy defaultTeam message kind).Preserves heldResource := by
  apply Routine.Preserves.bind (Routine.preserves_ask _)
  intro _
  split
  · apply Routine.Preserves.bind (preserves_openByPolicy _ _ fun _ _ => rfl)
    intro _
    exact preserves_closeByPolicy kind
  · exact preserves_closeByPolicy kind

theorem preserves_escalateUnclassified (defaultTeam : String) (error : PyException) :
    (Escalator.escalateUnclassified defaultTeam error).Preserves heldResource := by
  apply Routine.Preserves.bind Routine.preserves_read
  intro run
  apply Routine.Preserves.bind (Routine.preserves_ask _)
  intro _
  apply Routine.Preserves.bind (Routine.preserves_ofExcept _)
  intro incident
  apply Routine.Preserves.bind (preserves_issue _ _)
  intro opened
  apply Routine.Preserves.bind
  · exact Routine.preserves_update fun _ => rfl
  intro _
  cases run.runState.ticket with
  | none => exact Routine.preserves_pure ()
  | some ticket => exact preserves_issue _ _

end Ticket

section Close

variable {environment : Environment Operations} {run : WorkflowRun} {trace : Trace Operations}
  {ticket : TicketRef} {defaultTeam message : String} {kind : FailureKind}

theorem exists_view {part : Op → Bool} :
    (∃ exchange ∈ trace, part exchange.op = true) ↔ view part trace ≠ [] := by
  simp [view, List.filter_eq_nil_iff]

/-- Once it is reached, the close is issued, whatever the ticket system makes of it. -/
theorem closes_of_closeByPolicy (environment : Environment Operations) (trace : Trace Operations)
    (kind : FailureKind) (hticket : run.runState.ticket = some ticket) :
    ∃ exchange ∈ ((Escalator.closeByPolicy kind run).play environment trace).2,
      exchange.op.closes ticket = true := by
  rw [Escalator.closeByPolicy, Routine.play_bind_ok Routine.play_read, hticket]
  have hissued := play_issue environment run trace .escalation
    (.closeTicket ticket ((policyFor kind).closeComment run.runState.incidentId) .unsuccessful)
  cases hanswer : environment trace (.provider .escalation (.closeTicket ticket
      ((policyFor kind).closeComment run.runState.incidentId) .unsuccessful)) with
  | ok closed =>
      rw [hanswer] at hissued
      rw [Routine.play_bind_ok hissued]
      exact ⟨_, List.mem_cons_self, by simp [Op.closes]⟩
  | error error =>
      rw [hanswer] at hissued
      rw [Routine.play_bind_error hissued]
      exact ⟨_, List.mem_cons_self, by simp [Op.closes]⟩

/-- The responsible team's incident can be described, and the ticket system opens it. -/
def IncidentOpens (environment : Environment Operations) (trace : Trace Operations)
    (defaultTeam message : String) (run : WorkflowRun) : Prop :=
  let failure := run.runState.engineFailure
  ∃ request, Escalator.incidentRequest run (Escalator.responsibleTeam defaultTeam failure)
      (Escalator.failureDetail message failure) failure = .ok request ∧
    (environment trace (.provider .escalation (.openIncident request))).isOk = true

theorem openByPolicy_ok_iff :
    ((Escalator.openByPolicy defaultTeam message run).play environment trace).1.1 = .ok () ↔
      IncidentOpens environment trace defaultTeam message run := by
  rw [Escalator.openByPolicy, Routine.play_bind_ok Routine.play_read, IncidentOpens]
  cases hrequest : Escalator.incidentRequest run
      (Escalator.responsibleTeam defaultTeam run.runState.engineFailure)
      (Escalator.failureDetail message run.runState.engineFailure) run.runState.engineFailure with
  | error error =>
      rw [Routine.play_bind_error (Routine.play_ofExcept _)]
      simp
  | ok request =>
      rw [Routine.play_bind_ok (Routine.play_ofExcept _)]
      have hissued := play_issue environment run trace .escalation (.openIncident request)
      cases hanswer : environment trace (.provider .escalation (.openIncident request)) with
      | error error =>
          rw [hanswer] at hissued
          rw [Routine.play_bind_error hissued]
          simp [hanswer, Except.isOk, Except.toBool]
      | ok opened =>
          rw [hanswer] at hissued
          rw [Routine.play_bind_ok hissued, updateState,
            Routine.play_bind_ok (Routine.play_update _), play_logDocumentationIncident]
          simp [hanswer, Except.isOk, Except.toBool]

/-- The ticket side of an escalation, before what it raised is swallowed. -/
def ticketSide (defaultTeam : String) : PyException → Drive Unit
  | .stepFailure message kind => Escalator.escalateByPolicy defaultTeam message kind
  | error => Escalator.escalateUnclassified defaultTeam error

/-- The release follows the ticket side, however that one ended. -/
theorem escalated_eq (environment : Environment Operations) (error : PyException)
    (run : WorkflowRun) :
    escalated environment defaultTeam error run =
      let side := (ticketSide defaultTeam error run).play environment []
      (Escalator.releaseResource side.1.2).play environment side.2 := by
  have hsides : Escalator.escalate defaultTeam error =
      Routine.attempt (ticketSide defaultTeam error) >>= fun _ => Escalator.releaseResource := by
    cases error <;> rfl
  rw [escalated, hsides, Routine.play_bind_ok (Routine.play_attempt _)]

theorem not_closes_of_ofResourceManager {op : Op} (hop : op.ofResourceManager = true) :
    op.closes ticket = false := by
  cases op with
  | provider issuer call => cases call <;> first | rfl | cases hop
  | _ => rfl

/-- A policy that opens an incident closes the ticket exactly where the incident opens. -/
theorem closes_of_escalateByPolicy (hticket : run.runState.ticket = some ticket) :
    (∃ exchange ∈ ((Escalator.escalateByPolicy defaultTeam message kind run).play environment []).2,
        exchange.op.closes ticket = true) ↔
      (policyFor kind).openIncident = false ∨
        IncidentOpens environment [⟨.log (.escalating (.stepFailure message kind)), ()⟩]
          defaultTeam message run := by
  have hlogged : (log (.escalating (.stepFailure message kind)) run).play environment [] =
      ((.ok (), run), [⟨.log (.escalating (.stepFailure message kind)), ()⟩]) :=
    Routine.play_ask _
  rw [Escalator.escalateByPolicy, Routine.play_bind_ok hlogged]
  by_cases hopen : (policyFor kind).openIncident = true
  · simp only [hopen, if_true, Bool.true_eq_false, false_or]
    rw [← openByPolicy_ok_iff]
    have hconfined : (Escalator.openByPolicy defaultTeam message).Confined
        fun op : Op => !op.closes ticket :=
      confined_openByPolicy _ _ (fun _ _ => rfl) fun _ => rfl
    have hunclosed := view_play_of_confined environment (Op.closes ticket) (hconfined run) (by simp)
      [⟨.log (.escalating (.stepFailure message kind)), ()⟩]
    have hpreserved : (Escalator.openByPolicy defaultTeam message).Preserves
        fun run : WorkflowRun => run.runState.ticket :=
      preserves_openByPolicy _ _ fun _ _ => rfl
    have hkept := hpreserved environment run
      [⟨.log (.escalating (.stepFailure message kind)), ()⟩]
    cases hplayed : (Escalator.openByPolicy defaultTeam message run).play environment
        [⟨.log (.escalating (.stepFailure message kind)), ()⟩] with
    | mk ended later =>
        obtain ⟨outcome, changed⟩ := ended
        rw [hplayed] at hkept hunclosed
        cases outcome with
        | ok opened =>
            rw [Routine.play_bind_ok hplayed]
            have hclosed := closes_of_closeByPolicy environment later kind (hkept.trans hticket)
            exact ⟨fun _ => rfl, fun _ => hclosed⟩
        | error error =>
            -- the exception skips the close along with what it guards
            rw [Routine.play_bind_error hplayed, exists_view, hunclosed]
            simp [view, Op.closes]
  · rw [Bool.not_eq_true] at hopen
    simp only [hopen, Bool.false_eq_true, if_false, true_or, iff_true]
    exact closes_of_closeByPolicy _ _ _ hticket

/-- A classified failure closes its ticket exactly where its policy opens no incident, or the
responsible team's incident opens. -/
theorem ticket_closed_iff_incident_opens (environment : Environment Operations)
    (defaultTeam message : String) (kind : FailureKind) (run : WorkflowRun) (ticket : TicketRef)
    (hticket : run.runState.ticket = some ticket) :
    (∃ exchange ∈ (escalated environment defaultTeam (.stepFailure message kind) run).2,
        exchange.op.closes ticket = true) ↔
      (policyFor kind).openIncident = false ∨
        IncidentOpens environment [⟨.log (.escalating (.stepFailure message kind)), ()⟩]
          defaultTeam message run := by
  rw [escalated_eq, exists_view, view_play_of_confined _ _ (confined_releaseResource _)
    (fun _ => not_closes_of_ofResourceManager), ← exists_view]
  exact closes_of_escalateByPolicy hticket

/-- Providers that are all down. -/
def outage : Environment Operations := fun _ op =>
  match op with
  | .runsGet _ => .error (.other "OperationalError" "connection refused")
  | .runsSave _ => .error (.other "OperationalError" "connection refused")
  | .utcnow => 0
  | .uniform => 0
  | .provider _ _ => .error (.other "ConnectError" "connection refused")
  | .log _ => ()

/-- A run whose engine gave up, with a request that is still open. -/
def brokenRow : WorkflowRun where
  runId := sampleId
  runType := .resource
  status := .failed
  currentStep := some "running_engine"
  workflowIdentifier := "vm.create"
  createdBy := "ada"
  scheduledAt := none
  runState :=
    { workflow := ⟨"vm.create", some "VM", .airflow, "provision_vm", "T1"⟩
      resource := some
        { projectId := "P1", resourceType := "compute", vendorId := "provisional", name := "box" }
      resourceConfigured := true
      ticket := some ⟨"RITM1", "sys1"⟩ }

/-- A refused request is closed even while every provider is down. -/
theorem ticket_closed_iff_incident_opens_outage :
    ∃ exchange ∈ (escalated outage "platform" (.stepFailure "refused" .validation) brokenRow).2,
      exchange.op.closes ⟨"RITM1", "sys1"⟩ = true :=
  (ticket_closed_iff_incident_opens outage "platform" "refused" .validation brokenRow _ rfl).mpr
    (.inl rfl)

/-- A failed task is not: with no incident to name, its ticket stays open. -/
theorem ticket_left_open :
    ¬ ∀ (environment : Environment Operations) (defaultTeam message : String) (kind : FailureKind)
      (run : WorkflowRun) (ticket : TicketRef), run.status = .failed →
      run.runState.ticket = some ticket →
      ∃ exchange ∈ (escalated environment defaultTeam (.stepFailure message kind) run).2,
        exchange.op.closes ticket = true := by
  intro hall
  have hclosed := hall outage "platform" "Workflow failed" .task brokenRow ⟨"RITM1", "sys1"⟩ rfl rfl
  revert hclosed
  decide +kernel

end Close

/-! ## Neither side costs the other its calls -/

/-- The release a run is due: of the record it configured and did not finalize. -/
def dueReleases (run : WorkflowRun) : List Op :=
  match run.runState.resource with
  | none => []
  | some resource =>
      if run.runState.resourceConfigured = false ∨ run.runState.resourceFinalized = true then []
      else if run.runState.operation = .create then
        [.provider .release (.deleteResource resource.projectId resource.resourceType
          resource.vendorId)]
      else
        [.provider .release (.updateResource resource.projectId resource.resourceType
          resource.vendorId (resourceStateFields .ready))]

section Sides

variable {environment other : Environment Operations} {run changed : WorkflowRun}
  {trace : Trace Operations} {defaultTeam : String} {error : PyException}

theorem play_releaseResource :
    ((Escalator.releaseResource run).play environment trace).1.1 = .ok () ∧
      performed Op.ofResourceManager ((Escalator.releaseResource run).play environment trace).2 =
        performed Op.ofResourceManager trace ++ dueReleases run := by
  rw [Escalator.releaseResource, Routine.play_bind_ok Routine.play_read, dueReleases,
    Escalator.resourceInFlight]
  cases run.runState.resource with
  | none => simp
  | some resource =>
      by_cases hflight : run.runState.resourceConfigured = true ∧
          ¬ run.runState.resourceFinalized = true
      · rw [if_pos hflight]
        by_cases hcreate : run.runState.operation = .create
        · simp only [hcreate, if_true]
          rw [Routine.play_bind_ok (Routine.play_attempt _), play_issue]
          simp [performed, view, hflight.1, hflight.2, Op.ofResourceManager,
            Call.ofResourceManager]
        · simp only [hcreate, if_false]
          rw [Routine.play_bind_ok (Routine.play_attempt _), play_issue]
          simp [performed, view, hflight.1, hflight.2, Op.ofResourceManager,
            Call.ofResourceManager]
      · rw [if_neg hflight]
        have hover : run.runState.resourceConfigured = false ∨
            run.runState.resourceFinalized = true := by
          simpa [Classical.or_iff_not_imp_left] using hflight
        simp [hover]

theorem dueReleases_congr (hheld : heldResource changed = heldResource run) :
    dueReleases changed = dueReleases run := by
  have hdue : ∀ run, dueReleases run = match (heldResource run).1 with
      | none => []
      | some resource => if (heldResource run).2 = .create then
          [.provider .release (.deleteResource resource.projectId resource.resourceType
            resource.vendorId)]
        else [.provider .release (.updateResource resource.projectId resource.resourceType
          resource.vendorId (resourceStateFields .ready))] := by
    intro run
    unfold dueReleases heldResource Escalator.resourceInFlight
    cases run.runState.resource <;> cases run.runState.resourceConfigured <;>
      cases run.runState.resourceFinalized <;> rfl
  rw [hdue, hdue, hheld]

theorem confined_ticketSide (defaultTeam : String) (error : PyException) :
    (ticketSide defaultTeam error).Confined Op.ofTicketSide := by
  cases error with
  | stepFailure message kind => exact confined_escalateByPolicy _ _ _
  | _ => exact confined_escalateUnclassified _ _

theorem preserves_ticketSide (defaultTeam : String) (error : PyException) :
    (ticketSide defaultTeam error).Preserves heldResource := by
  cases error with
  | stepFailure message kind => exact preserves_escalateByPolicy _ _ _
  | _ => exact preserves_escalateUnclassified _ _

theorem not_ofTicketSystem_of_ofResourceManager {op : Op} (hop : op.ofResourceManager = true) :
    op.ofTicketSystem = false := by
  cases op with
  | provider issuer call => cases call <;> first | rfl | cases hop
  | _ => rfl

theorem not_ofResourceManager_of_ofTicketSide {op : Op} (hop : op.ofTicketSide = true) :
    op.ofResourceManager = false := by
  cases op with
  | provider issuer call => cases call <;> first | rfl | cases hop
  | _ => rfl

/-- What is seen of the ticket system is seen of its side. -/
theorem view_ofTicketSide (trace : Trace Operations) :
    view Op.ofTicketSystem (view Op.ofTicketSide trace) = view Op.ofTicketSystem trace := by
  rw [view, view, List.filter_filter]
  congr 1
  funext exchange
  cases hop : exchange.op with
  | provider issuer call => simp [Op.ofTicketSystem, Op.ofTicketSide]
  | _ => rfl

/-- The log tells nothing, so that only the ticket system's answers matter to its side. -/
theorem agreeOn_ofTicketSide (hagree : AgreeOn Op.ofTicketSystem environment other) :
    AgreeOn Op.ofTicketSide environment other := by
  intro earlier earlier' op hop hview
  cases op with
  | provider issuer call =>
      apply hagree earlier earlier' (.provider issuer call) hop
      rw [← view_ofTicketSide earlier, hview, view_ofTicketSide]
  | log record => rfl
  | _ => cases hop

/-- Escalating and rejecting never raise. The resource manager's calls are the run's due, whatever
anyone answers, and the ticket system's depend on its own answers alone. -/
theorem escalation_sides_independent (environment : Environment Operations) (defaultTeam : String)
    (error : PyException) (run : WorkflowRun) :
    (escalated environment defaultTeam error run).1.1 = .ok () ∧
      (dismissed environment run).1.1 = .ok () ∧
      performed Op.ofResourceManager (escalated environment defaultTeam error run).2 =
        dueReleases run ∧
      performed Op.ofResourceManager (dismissed environment run).2 = dueReleases run ∧
      performed Op.ofTicketSystem (dismissed environment run).2 = [] ∧
      ∀ other, AgreeOn Op.ofTicketSystem environment other →
        performed Op.ofTicketSystem (escalated environment defaultTeam error run).2 =
          performed Op.ofTicketSystem (escalated other defaultTeam error run).2 := by
  have hquiet := fun environment => view_play_of_confined environment Op.ofResourceManager
    (confined_ticketSide defaultTeam error run)
    (fun _ => not_ofResourceManager_of_ofTicketSide) []
  have hheld := preserves_ticketSide defaultTeam error environment run []
  apply And.intro
  · rw [escalated_eq]
    exact play_releaseResource.1
  apply And.intro
  · exact play_releaseResource.1
  apply And.intro
  · rw [escalated_eq, play_releaseResource.2, dueReleases_congr hheld, performed, hquiet]
    rfl
  apply And.intro
  · rw [dismissed, Escalator.reject, play_releaseResource.2]
    rfl
  have hsilent : ∀ environment (run : WorkflowRun) trace,
      view Op.ofTicketSystem ((Escalator.releaseResource run).play environment trace).2 =
        view Op.ofTicketSystem trace := by
    intro environment run trace
    exact view_play_of_confined _ _ (confined_releaseResource run)
      (fun _ => not_ofTicketSystem_of_ofResourceManager) trace
  apply And.intro
  · rw [dismissed, Escalator.reject, performed, hsilent]
    rfl
  · intro other hagree
    have hsame := play_eq_of_agreeOn (confined_ticketSide defaultTeam error run)
      (agreeOn_ofTicketSide hagree) [] [] rfl
    rw [escalated_eq, escalated_eq, performed, performed, hsilent, hsilent,
      ← view_ofTicketSide, hsame.2, view_ofTicketSide]

end Sides

/-! ## The incidents of an escalation -/

/-- The team that an incident is asked for. -/
def Op.incidentTeam : Op → Option String
  | .provider _ (.openIncident request) => some request.responsibleGroup
  | _ => none

/-- The teams that incidents were asked for, newest first. -/
def incidentTeams (trace : Trace Operations) : List String :=
  trace.filterMap fun exchange => exchange.op.incidentTeam

/-- The failure is one of a task that another team answers for. -/
def OwnedElsewhere (defaultTeam : String) (error : PyException) (run : WorkflowRun) : Prop :=
  ∃ message kind request, error = .stepFailure message kind ∧
    (policyFor kind).openIncident = true ∧
    Escalator.incidentRequest run
      (Escalator.responsibleTeam defaultTeam run.runState.engineFailure)
      (Escalator.failureDetail message run.runState.engineFailure) run.runState.engineFailure =
        .ok request ∧
    Escalator.responsibleTeam defaultTeam run.runState.engineFailure ≠ defaultTeam

section Incidents

variable {environment : Environment Operations} {run : WorkflowRun} {trace : Trace Operations}
  {defaultTeam message : String} {error : PyException} {kind : FailureKind}

theorem eq_openIncident_of_incidentTeam {op : Op} {team : String}
    (hteam : op.incidentTeam = some team) :
    ∃ issuer request, op = .provider issuer (.openIncident request) ∧
      request.responsibleGroup = team := by
  cases op with
  | provider issuer call =>
      cases call with
      | openIncident request => exact ⟨issuer, request, rfl, Option.some.inj hteam⟩
      | _ => cases hteam
  | _ => cases hteam

theorem incidentTeams_cons (exchange : Exchange Operations) (earlier : Trace Operations) :
    incidentTeams (exchange :: earlier) =
      exchange.op.incidentTeam.toList ++ incidentTeams earlier := by
  rw [incidentTeams, List.filterMap_cons]
  cases exchange.op.incidentTeam <;> rfl

theorem incidentTeams_view (trace : Trace Operations) :
    incidentTeams (view (fun op => op.incidentTeam.isSome) trace) = incidentTeams trace := by
  rw [incidentTeams, view, List.filterMap_filter, incidentTeams]
  congr 1
  funext exchange
  cases exchange.op.incidentTeam <;> rfl

/-- A routine that opens no incident asks no team for one. -/
theorem incidentTeams_of_confined {α : Type} {body : Drive α} {part : Op → Bool}
    (hbody : body.Confined part) (hpart : ∀ op, part op = true → op.incidentTeam.isSome = false)
    (run : WorkflowRun) (trace : Trace Operations) :
    incidentTeams ((body run).play environment trace).2 = incidentTeams trace := by
  rw [← incidentTeams_view, view_play_of_confined _ _ (hbody run) hpart, incidentTeams_view]

/-- Whether an incident can be described does not depend on its team. -/
theorem incidentRequest_other {team detail : String} {failure : Option EngineFailure}
    {request : IncidentRequest}
    (hrequest : Escalator.incidentRequest run team detail failure = .ok request) :
    request.responsibleGroup = team ∧
      ∀ other, Escalator.incidentRequest run other detail failure =
        .ok { request with responsibleGroup := other } := by
  unfold Escalator.incidentRequest at *
  cases hfailed : incidentFailedTask run failure with
  | error error => simp [hfailed, Except.map] at hrequest
  | ok failedTask =>
      simp only [hfailed, Except.map, Except.ok.injEq] at hrequest ⊢
      subst hrequest
      exact ⟨rfl, fun _ => rfl⟩

theorem incidentTeams_logDocumentationIncident {group detail : String} (request : IncidentRequest)
    (hrequest : Escalator.incidentRequest run group detail run.runState.engineFailure =
      .ok request) :
    incidentTeams
        ((Escalator.logDocumentationIncident defaultTeam group detail run).play environment
          trace).2 =
      if group = defaultTeam then incidentTeams trace else defaultTeam :: incidentTeams trace := by
  unfold Escalator.logDocumentationIncident
  by_cases hgroup : group = defaultTeam
  · rw [if_pos hgroup, if_pos hgroup]
    rfl
  · rw [if_neg hgroup, if_neg hgroup, Routine.play_bind_ok Routine.play_read,
      Routine.play_bind_ok (Routine.play_attempt _), Routine.play_pure]
    dsimp only
    rw [(incidentRequest_other hrequest).2 defaultTeam,
      Routine.play_bind_ok (Routine.play_ofExcept _)]
    have hissued := play_issue environment run trace .documentation
      (.openIncident { request with responsibleGroup := defaultTeam })
    cases hanswer : environment trace (.provider .documentation
        (.openIncident { request with responsibleGroup := defaultTeam })) with
    | error error =>
        rw [hanswer] at hissued
        rw [Routine.play_bind_error hissued]
        rfl
    | ok doc =>
        rw [hanswer] at hissued
        rw [Routine.play_bind_ok hissued, play_issue]
        rfl

/-- Nobody is asked for an incident that cannot be described. -/
theorem incidentTeams_openByPolicy_error
    (hrequest : Escalator.incidentRequest run
      (Escalator.responsibleTeam defaultTeam run.runState.engineFailure)
      (Escalator.failureDetail message run.runState.engineFailure) run.runState.engineFailure =
        .error error) :
    incidentTeams ((Escalator.openByPolicy defaultTeam message run).play environment trace).2 =
      incidentTeams trace := by
  rw [Escalator.openByPolicy, Routine.play_bind_ok Routine.play_read, hrequest,
    Routine.play_bind_error (Routine.play_ofExcept _)]

/-- The responsible team is, and then the default team, once the first incident stands and
another team answers for it. -/
theorem incidentTeams_openByPolicy {request : IncidentRequest}
    (hrequest : Escalator.incidentRequest run
      (Escalator.responsibleTeam defaultTeam run.runState.engineFailure)
      (Escalator.failureDetail message run.runState.engineFailure) run.runState.engineFailure =
        .ok request) :
    incidentTeams ((Escalator.openByPolicy defaultTeam message run).play environment trace).2 =
      if (environment trace (.provider .escalation (.openIncident request))).isOk = true ∧
          Escalator.responsibleTeam defaultTeam run.runState.engineFailure ≠ defaultTeam then
        defaultTeam :: Escalator.responsibleTeam defaultTeam run.runState.engineFailure ::
          incidentTeams trace
      else Escalator.responsibleTeam defaultTeam run.runState.engineFailure ::
        incidentTeams trace := by
  rw [Escalator.openByPolicy, Routine.play_bind_ok Routine.play_read, hrequest,
    Routine.play_bind_ok (Routine.play_ofExcept _)]
  have hteam := (incidentRequest_other hrequest).1
  have hissued := play_issue environment run trace .escalation (.openIncident request)
  cases hanswer : environment trace (.provider .escalation (.openIncident request)) with
  | error error =>
      rw [hanswer] at hissued
      rw [Routine.play_bind_error hissued, ← hteam]
      rfl
  | ok opened =>
      rw [hanswer] at hissued
      rw [Routine.play_bind_ok hissued, updateState, Routine.play_bind_ok (Routine.play_update _),
        incidentTeams_logDocumentationIncident request]
      · rw [← hteam]
        by_cases hdefault : request.responsibleGroup = defaultTeam
        · simp [hdefault, incidentTeams, Op.incidentTeam]
        · simp [hdefault, incidentTeams, Op.incidentTeam, Except.isOk, Except.toBool]
      · exact hrequest

theorem incidentTeams_escalateByPolicy :
    incidentTeams
      ((Escalator.escalateByPolicy defaultTeam message kind run).play environment []).2 =
      if (policyFor kind).openIncident = true then
        incidentTeams ((Escalator.openByPolicy defaultTeam message run).play environment
          [⟨.log (.escalating (.stepFailure message kind)), ()⟩]).2
      else [] := by
  have hlogged : (log (.escalating (.stepFailure message kind)) run).play environment [] =
      ((.ok (), run), [⟨.log (.escalating (.stepFailure message kind)), ()⟩]) :=
    Routine.play_ask _
  have hconfined : (Escalator.closeByPolicy kind).Confined
      fun op : Op => op.incidentTeam.isNone := confined_closeByPolicy kind fun _ _ => rfl
  have hclose : ∀ (run : WorkflowRun) (trace : Trace Operations),
      incidentTeams ((Escalator.closeByPolicy kind run).play environment trace).2 =
        incidentTeams trace := incidentTeams_of_confined hconfined (by simp)
  rw [Escalator.escalateByPolicy, Routine.play_bind_ok hlogged]
  by_cases hopen : (policyFor kind).openIncident = true
  · simp only [hopen, if_true]
    cases hplayed : (Escalator.openByPolicy defaultTeam message run).play environment
        [⟨.log (.escalating (.stepFailure message kind)), ()⟩] with
    | mk ended later =>
        obtain ⟨outcome, changed⟩ := ended
        cases outcome with
        | ok opened => rw [Routine.play_bind_ok hplayed, hclose]
        | error error => rw [Routine.play_bind_error hplayed]
  · simp only [hopen, Bool.false_eq_true, if_false]
    exact hclose _ _

/-- A failure of no class is the default team's alone. -/
theorem incidentTeams_escalateUnclassified :
    (incidentTeams
      ((Escalator.escalateUnclassified defaultTeam error run).play environment []).2).length ≤
    1 := by
  have hlogged : (log (.escalating error) run).play environment [] =
      ((.ok (), run), [⟨.log (.escalating error), ()⟩]) :=
    Routine.play_ask _
  rw [Escalator.escalateUnclassified, Routine.play_bind_ok Routine.play_read,
    Routine.play_bind_ok hlogged]
  cases Escalator.incidentRequest run defaultTeam
    (error.typeName ++ ": " ++ error.message) none with
  | error error =>
      rw [Routine.play_bind_error (Routine.play_ofExcept _)]
      simp [incidentTeams, Op.incidentTeam]
  | ok request =>
      rw [Routine.play_bind_ok (Routine.play_ofExcept _)]
      have hissued := play_issue environment run [⟨.log (.escalating error), ()⟩] .escalation
        (.openIncident request)
      cases hanswer : environment [⟨.log (.escalating error), ()⟩]
          (.provider .escalation (.openIncident request)) with
      | error error =>
          rw [hanswer] at hissued
          rw [Routine.play_bind_error hissued]
          simp [incidentTeams, Op.incidentTeam]
      | ok opened =>
          rw [hanswer] at hissued
          rw [Routine.play_bind_ok hissued, updateState,
            Routine.play_bind_ok (Routine.play_update _)]
          cases run.runState.ticket with
          | none => simp [incidentTeams, Op.incidentTeam]
          | some ticket =>
              dsimp only
              rw [play_issue]
              simp [incidentTeams, Op.incidentTeam]

theorem incidentTeams_escalated_eq :
    incidentTeams (escalated environment defaultTeam error run).2 =
      incidentTeams ((ticketSide defaultTeam error run).play environment []).2 := by
  rw [escalated_eq]
  apply incidentTeams_of_confined confined_releaseResource
  intro op hop
  cases op with
  | provider issuer call => cases call <;> first | rfl | cases hop
  | _ => rfl

/-- An escalation asks for one incident at most, but where another team answers for the failure. -/
theorem incidentTeams_escalated (environment : Environment Operations) (defaultTeam : String)
    (error : PyException) (run : WorkflowRun) :
    (incidentTeams (escalated environment defaultTeam error run).2).length ≤ 1 ∨
      OwnedElsewhere defaultTeam error run ∧
        incidentTeams (escalated environment defaultTeam error run).2 =
          [defaultTeam, Escalator.responsibleTeam defaultTeam run.runState.engineFailure] := by
  rw [incidentTeams_escalated_eq]
  cases error with
  | stepFailure message kind =>
      rw [ticketSide, incidentTeams_escalateByPolicy]
      by_cases hopen : (policyFor kind).openIncident = true
      · rw [if_pos hopen]
        cases hrequest : Escalator.incidentRequest run
            (Escalator.responsibleTeam defaultTeam run.runState.engineFailure)
            (Escalator.failureDetail message run.runState.engineFailure)
            run.runState.engineFailure with
        | error error =>
            rw [incidentTeams_openByPolicy_error hrequest]
            simp [incidentTeams, Op.incidentTeam]
        | ok request =>
            rw [incidentTeams_openByPolicy hrequest]
            split
            next hboth => exact .inr ⟨⟨message, kind, request, rfl, hopen, hrequest, hboth.2⟩, rfl⟩
            next => simp [incidentTeams, Op.incidentTeam]
      · simp [hopen]
  | _ => exact .inl incidentTeams_escalateUnclassified

/-- There it asks for two, if it is answered. -/
theorem incidentTeams_of_ownedElsewhere (howned : OwnedElsewhere defaultTeam error run)
    (hanswers : ∀ earlier request,
      (environment earlier (.provider .escalation (.openIncident request))).isOk = true) :
    incidentTeams (escalated environment defaultTeam error run).2 =
      [defaultTeam, Escalator.responsibleTeam defaultTeam run.runState.engineFailure] := by
  obtain ⟨message, kind, request, rfl, hopen, hrequest, hteam⟩ := howned
  rw [incidentTeams_escalated_eq, ticketSide, incidentTeams_escalateByPolicy, if_pos hopen,
    incidentTeams_openByPolicy hrequest, if_pos ⟨hanswers _ _, hteam⟩]
  rfl

end Incidents

end CloudioOrchestrator

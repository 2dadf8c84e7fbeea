import CloudioOrchestrator.Narrative

/-! # Plan order

What the providers had answered, and which steps had completed, before a run
triggers its engine, writes the final state of its record, closes its ticket as
successful, or is stored as completed.
-/

namespace CloudioOrchestrator

open Interaction

section Answers

/-- A call made for a run, by any of its drives, was answered so. -/
def Answered (runId : UUID) (issuer : Issuer) (call : Call) (answer : call.Answer)
    (history : History) : Prop :=
  ∃ drive applied, drive.subject = runId ∧ .called drive issuer call answer applied ∈ history

variable (runId : UUID) (history : History)

/-- The ticket is one that was opened for the run. -/
def OwnTicket (ticket : TicketRef) : Prop :=
  ∃ templateId fields requestedBy key, Answered runId (.step .createTicket)
    (.openTicket templateId fields requestedBy key) (.ok ticket) history

/-- The run's own ticket was approved. -/
def Approved : Prop :=
  ∃ ticket, OwnTicket runId history ticket ∧
    Answered runId (.step .awaitApproval) (.getApprovalStatus ticket) (.ok .approved) history

def Eligible : Prop :=
  ∃ request result, Answered runId (.step .validateResource) (.validateResource request)
    (.ok result) history ∧ result.eligible = true

/-- The engine run is one that was triggered for the run. -/
def OwnEngineRun (engine : WorkflowEngineType) (automationId engineRunId : String) : Prop :=
  ∃ params key, Answered runId (.step .runEngine)
    (.triggerWorkflow engine automationId params key) (.ok engineRunId) history

/-- An engine run of the run was reported to have succeeded. -/
def Succeeded : Prop :=
  ∃ engine automationId engineRunId, OwnEngineRun runId history engine automationId engineRunId ∧
    Answered runId (.step .runEngine) (.queryRunStatus engine automationId engineRunId)
      (.ok .success) history

end Answers

section Growing

variable {runId : UUID} {older : History} (event : Event)

theorem Answered.grows {issuer : Issuer} {call : Call} {answer : call.Answer}
    (hanswered : Answered runId issuer call answer older) :
    Answered runId issuer call answer (event :: older) := by
  obtain ⟨drive, applied, hsubject, hcalled⟩ := hanswered
  exact ⟨drive, applied, hsubject, List.mem_cons_of_mem _ hcalled⟩

theorem OwnTicket.grows {ticket : TicketRef} (hown : OwnTicket runId older ticket) :
    OwnTicket runId (event :: older) ticket := by
  obtain ⟨templateId, fields, requestedBy, key, hopened⟩ := hown
  exact ⟨templateId, fields, requestedBy, key, hopened.grows event⟩

theorem OwnEngineRun.grows {engine : WorkflowEngineType} {automationId engineRunId : String}
    (hown : OwnEngineRun runId older engine automationId engineRunId) :
    OwnEngineRun runId (event :: older) engine automationId engineRunId := by
  obtain ⟨params, key, htriggered⟩ := hown
  exact ⟨params, key, htriggered.grows event⟩

/-- What a step of the plan achieves at the providers, where later steps rest on it. -/
def Achieved (step : StepName) (runId : UUID) (history : History) : Prop :=
  match step with
  | .awaitApproval => Approved runId history
  | .validateResource => Eligible runId history
  | .runEngine => Succeeded runId history
  | _ => True

theorem Achieved.grows {step : StepName} (hachieved : Achieved step runId older) :
    Achieved step runId (event :: older) := by
  cases step with
  | awaitApproval =>
      obtain ⟨ticket, hown, hanswered⟩ := hachieved
      exact ⟨ticket, hown.grows event, hanswered.grows event⟩
  | validateResource =>
      obtain ⟨request, result, hanswered, heligible⟩ := hachieved
      exact ⟨request, result, hanswered.grows event, heligible⟩
  | runEngine =>
      obtain ⟨engine, automationId, engineRunId, hown, hanswered⟩ := hachieved
      exact ⟨engine, automationId, engineRunId, hown.grows event, hanswered.grows event⟩
  | _ => trivial

end Growing

/-- The steps of a run that completed, oldest first. -/
def completions (runId : UUID) : History → List StepName
  | [] => []
  | .logged drive (.stepCompleted step) :: older =>
      if drive.subject = runId then completions runId older ++ [step]
      else completions runId older
  | _ :: older => completions runId older

theorem completions_grows {runId : UUID} {steps : List StepName} {older : History} (event : Event)
    (hsteps : steps.Sublist (completions runId older)) :
    steps.Sublist (completions runId (event :: older)) := by
  unfold completions
  split
  next heq => cases heq
  next heq =>
    obtain ⟨rfl, rfl⟩ := List.cons.inj heq
    split
    · exact hsteps.trans (List.sublist_append_left _ _)
    · exact hsteps
  next heq =>
    obtain ⟨rfl, rfl⟩ := List.cons.inj heq
    exact hsteps

/-- What the run in memory names at the providers is its own: the ticket of a
resource run was opened for it, and an engine run was triggered for it. -/
def Owns (run : WorkflowRun) (history : History) : Prop :=
  (run.runType = .resource → ∀ ticket, run.runState.ticket = some ticket →
    OwnTicket run.runId history ticket) ∧
  ∀ engineRunId, run.runState.engineRunId = some engineRunId →
    OwnEngineRun run.runId history run.runState.workflow.engineType
      run.runState.workflow.automationId engineRunId

/-- The steps before one in the plan have completed and achieved what they should. -/
structure Reached (step : StepName) (run : WorkflowRun) (history : History) : Prop where
  planned : step ∈ runPlans run.runType
  owns : Owns run history
  achieved : ∀ earlier ∈ preceding (runPlans run.runType) step, Achieved earlier run.runId history
  completed : (preceding (runPlans run.runType) step).Sublist (completions run.runId history)

theorem Reached.grows {step : StepName} {run : WorkflowRun} {older : History} (event : Event)
    (hreached : Reached step run older) : Reached step run (event :: older) where
  planned := hreached.planned
  owns :=
    ⟨fun htype ticket hticket => (hreached.owns.1 htype ticket hticket).grows event,
      fun engineRunId hid => (hreached.owns.2 engineRunId hid).grows event⟩
  achieved earlier hearlier := (hreached.achieved earlier hearlier).grows event
  completed := completions_grows event hreached.completed

/-- Where the plan, the ticket and the engine run are the same, so is what was reached. -/
theorem Reached.congr {step : StepName} {run changed : WorkflowRun} {history : History}
    (hreached : Reached step run history) (hsame : run.SameOrigin changed)
    (hworkflow : run.runState.workflow = changed.runState.workflow)
    (hticket : changed.runState.ticket = run.runState.ticket)
    (hengine : changed.runState.engineRunId = none ∨
      changed.runState.engineRunId = run.runState.engineRunId) :
    Reached step changed history := by
  obtain ⟨hid, htype, -⟩ := hsame
  refine ⟨htype ▸ hreached.planned, ⟨?_, ?_⟩, ?_, ?_⟩
  · rw [← htype, hticket, ← hid]
    exact hreached.owns.1
  · intro engineRunId hsome
    rw [← hworkflow, ← hid]
    rcases hengine with hnone | hkept
    · rw [hnone] at hsome
      cases hsome
    · exact hreached.owns.2 engineRunId (hkept ▸ hsome)
  · rw [← htype, ← hid]
    exact hreached.achieved
  · rw [← htype, ← hid]
    exact hreached.completed

/-- Before a step: what the steps before it have left. -/
def reaching (step : StepName) : Fact where
  holds := Reached step
  grows event hreached := hreached.grows event

inductive TriggersEngine : Call → Prop
  | intro (engine : WorkflowEngineType) (automationId : String) (params : Json) (key : String) :
      TriggersEngine (.triggerWorkflow engine automationId params key)

inductive ClosesSuccessfully : Call → Prop
  | intro (ticket : TicketRef) (note : String) :
      ClosesSuccessfully (.closeTicket ticket note .successful)

/-- A write that settles what becomes of a resource record, by a step of the plan. -/
inductive FinalizeWrite : Issuer → Call → Prop
  | write (step : StepName) (projectId resourceType vendorId : String) {fields : ResourceFields}
      (hstate : fields.state = .ready ∨ fields.state = .deleted) :
      FinalizeWrite (.step step) (.updateResource projectId resourceType vendorId fields)
  | delete (step : StepName) (projectId resourceType vendorId : String) :
      FinalizeWrite (.step step) (.deleteResource projectId resourceType vendorId)

/-- What each event of a run presupposes, by the order of its plan. -/
def InPlanOrder (event : Event) (older : History) : Prop :=
  match event with
  | .called drive issuer call _ _ =>
      (TriggersEngine call → ∃ origin, .created origin ∈ older ∧ origin.runId = drive.subject ∧
        (origin.runType = .resource →
          Approved drive.subject older ∧ Eligible drive.subject older)) ∧
      (FinalizeWrite issuer call → Succeeded drive.subject older) ∧
      (ClosesSuccessfully call → Succeeded drive.subject older)
  | .saved _ row => row.status = .completed →
      (runPlans row.runType).Sublist (completions row.runId older)
  | _ => True

/-- A run that triggers its engine has passed the steps before it. -/
theorem Reached.trigger {run : WorkflowRun} {history : History}
    (hreached : Reached .runEngine run history) (htype : run.runType = .resource) :
    Approved run.runId history ∧ Eligible run.runId history := by
  have hachieved := hreached.achieved
  rw [htype] at hachieved
  exact ⟨hachieved .awaitApproval (by decide), hachieved .validateResource (by decide)⟩

theorem Reached.finalize {run : WorkflowRun} {history : History}
    (hreached : Reached .finalizeResource run history) : Succeeded run.runId history := by
  have hplanned := hreached.planned
  have hachieved := hreached.achieved
  cases htype : run.runType <;> rw [htype] at hplanned hachieved
  · exact absurd hplanned (by decide)
  · exact hachieved .runEngine (by decide)
  · exact absurd hplanned (by decide)

theorem Reached.close {run : WorkflowRun} {history : History}
    (hreached : Reached .closeTicket run history) : Succeeded run.runId history := by
  have hplanned := hreached.planned
  have hachieved := hreached.achieved
  cases htype : run.runType <;> rw [htype] at hplanned hachieved
  · exact hachieved .runEngine (by decide)
  · exact hachieved .runEngine (by decide)
  · exact absurd hplanned (by decide)

/-- The calls of a step are in the order of the plan. -/
theorem HandlerCall.inPlanOrder {drive : DriveId} {run : WorkflowRun} {step : StepName}
    {call : Call} {older : History} (answer : call.Answer) (applied : Bool)
    (hid : run.runId = drive.subject) (horigin : HasOrigin run older)
    (hreached : Reached step run older) (hcall : HandlerCall run run.runState step call) :
    InPlanOrder (.called drive (.step step) call answer applied) older := by
  simp only [InPlanOrder, ← hid]
  cases hcall with
  | openTicket | getApproval | validate | query | failure | output | createResource | submit =>
      exact ⟨nofun, nofun, nofun⟩
  | markResource hnew hresource hexisting =>
      refine ⟨nofun, ?_, nofun⟩
      intro hwrite
      cases hwrite with
      | write step projectId resourceType vendorId hstate =>
          cases hoperation : run.runState.operation <;>
            simp [hoperation, operationStates, resourceStateFields] at hstate
  | trigger hnone =>
      refine ⟨fun _ => ?_, nofun, nofun⟩
      obtain ⟨origin, hcreated, -, ⟨horiginId, htype, -⟩, -⟩ := horigin
      exact ⟨origin, hcreated, horiginId, fun hresource =>
        hreached.trigger (htype.symm.trans hresource)⟩
  | finalize | markDeleted | delete =>
      exact ⟨nofun, fun _ => hreached.finalize, nofun⟩
  | close =>
      exact ⟨nofun, nofun, fun _ => hreached.close⟩

/-- No escalation and no release is bound to the plan. -/
theorem AsideCall.inPlanOrder {state : RunState} {issuer : Issuer} {call : Call} (drive : DriveId)
    (answer : call.Answer) (applied : Bool) (older : History)
    (hcall : AsideCall state issuer call) :
    InPlanOrder (.called drive issuer call answer applied) older := by
  cases hcall with
  | incident request => exact ⟨nofun, nofun, nofun⟩
  | aftermath hcall =>
      cases hcall with
      | release hcall => cases hcall <;> exact ⟨nofun, nofun, nofun⟩
      | _ => exact ⟨nofun, nofun, nofun⟩

/-- An exchange on record was answered so for the run. -/
theorem Recorded.answered {drive : DriveId} {step : StepName} {trace : Trace Providers}
    {history : History} (hrecorded : Recorded drive step trace history) {call : Call}
    {answer : call.Answer} (hmem : ⟨call, answer⟩ ∈ trace) :
    Answered drive.subject (.step step) call answer history := by
  obtain ⟨applied, hcalled⟩ := hrecorded _ hmem
  exact ⟨drive, applied, rfl, hcalled⟩

section Ended

variable {engines : List WorkflowEngineType} {drive : DriveId} {step : StepName}
  {run : WorkflowRun} {trace : Trace Providers} {outcome : Except PyException Bool}
  {final : RunState} {history : History}

/-- What a handler adds to the run in memory is the run's own. -/
theorem HandlerEnd.owns (hid : run.runId = drive.subject) (howns : Owns run history)
    (hrecorded : Recorded drive step trace history)
    (hend : HandlerEnd engines run run.runState step trace outcome final) :
    Owns { run with runState := final } history := by
  simp only [Owns, hid] at howns ⊢
  cases hend with
  | ticketOpened ticket hticket =>
      refine ⟨fun _ other hother => ?_, howns.2⟩
      obtain rfl := Option.some.inj hother
      exact ⟨_, _, _, _, hrecorded.answered List.mem_cons_self⟩
  | triggered engineRunId hnone =>
      refine ⟨howns.1, fun other hother => ?_⟩
      obtain rfl := Option.some.inj hother
      exact ⟨_, _, hrecorded.answered List.mem_cons_self⟩
  | succeededWith output hsome hresource =>
      unfold captured
      split <;> exact howns
  | engineFailed failure hsome => cases failure <;> exact howns
  | _ => exact howns

/-- A step that completes has achieved what later steps rest on. -/
theorem HandlerEnd.achieved (hid : run.runId = drive.subject) (hreached : Reached step run history)
    (hrecorded : Recorded drive step trace history)
    (hend : HandlerEnd engines run run.runState step trace (.ok true) final) :
    Achieved step run.runId history := by
  have howns := hreached.owns
  simp only [Owns, hid] at howns
  rw [hid]
  cases hend with
  | approved hticket =>
      have htype : run.runType = .resource := by
        have hplanned := hreached.planned
        cases htype : run.runType <;> rw [htype] at hplanned
        · exact absurd hplanned (by decide)
        · exact absurd hplanned (by decide)
      exact ⟨_, howns.1 htype _ hticket, hrecorded.answered List.mem_cons_self⟩
  | eligible hresource heligible =>
      exact ⟨_, _, hrecorded.answered List.mem_cons_self, heligible⟩
  | succeeded hsome hresource =>
      exact ⟨_, _, _, howns.2 _ hsome, hrecorded.answered List.mem_cons_self⟩
  | succeededWith output hsome hresource =>
      exact ⟨_, _, _, howns.2 _ hsome,
        hrecorded.answered (List.mem_cons_of_mem _ List.mem_cons_self)⟩
  | _ => trivial

end Ended

/-- The step was reached, and achieved what it should if it completed. -/
def trying (step : StepName) (outcome : Except PyException Bool) : Fact where
  holds run history := Reached step run history ∧
    (outcome = .ok true → Achieved step run.runId history)
  grows event htried := ⟨htried.1.grows event, fun hdone => (htried.2 hdone).grows event⟩

/-- The step is on record as completed, after the ones before it. -/
def passing (step : StepName) : Fact where
  holds run history := Reached step run history ∧ Achieved step run.runId history ∧
    (preceding (runPlans run.runType) step ++ [step]).Sublist (completions run.runId history)
  grows event hpassed := ⟨hpassed.1.grows event, hpassed.2.1.grows event,
    completions_grows event hpassed.2.2⟩

def planDone : Fact where
  holds run history := (runPlans run.runType).Sublist (completions run.runId history)
  grows event hdone := completions_grows event hdone

theorem reached_born {run : WorkflowRun} {history : History} (hrun : Newborn run) :
    Reached (firstStep run.runType) run history where
  planned := firstStep_mem _
  owns := by
    constructor
    · intro htype ticket hticket
      have hautomation := hrun.ticket.mp (by simp [hticket])
      rw [htype] at hautomation
      cases hautomation
    · intro engineRunId hid
      rw [hrun.markers.1] at hid
      cases hid
  achieved := by
    rw [preceding_firstStep]
    simp
  completed := by
    rw [preceding_firstStep]
    exact List.nil_sublist _

/-- Passing a step reaches the one after it. -/
theorem reached_next {step next : StepName} {rest : List StepName} {run : WorkflowRun}
    {history : History} (hpassed : passing step run history)
    (hnext : following (runPlans run.runType) step = next :: rest) :
    Reached next run history := by
  obtain ⟨hreached, hachieved, hcompleted⟩ := hpassed
  obtain ⟨hplanned, -, hpreceding⟩ :=
    following_eq_cons (runPlans_nodup _) hreached.planned hnext
  refine ⟨hplanned, hreached.owns, ?_, hpreceding ▸ hcompleted⟩
  intro earlier hearlier
  rw [hpreceding] at hearlier
  rcases List.mem_append.mp hearlier with hbefore | hlast
  · exact hreached.achieved earlier hbefore
  · rw [List.mem_singleton] at hlast
    exact hlast ▸ hachieved

/-- Every step is tried only where the steps before it have been passed. -/
def inOrder (engines : List WorkflowEngineType) : Narrative engines where
  before := reaching
  tried := trying
  after := passing
  done := planDone
  event := InPlanOrder
  before_steady := by
    rintro step run changed history hreached ⟨hsame, _, _, _, hstate⟩
    exact hreached.congr hsame (by rw [hstate]) (by rw [hstate]) (.inr (by rw [hstate]))
  done_steady := by
    rintro run changed history hdone ⟨⟨hid, htype, -⟩, -⟩
    simp only [planDone, ← hid, ← htype]
    exact hdone
  born hrun := reached_born hrun
  created _ _ := trivial
  loaded _ _ _ := trivial
  saved _ _ _ hdone := hdone
  logged _ _ _ _ := trivial
  aside drive _ _ _ answer applied older hcall := hcall.inPlanOrder drive answer applied older
  called answer applied hid horigin hreached hcall :=
    hcall.inPlanOrder answer applied hid horigin hreached
  deadline error hreached := ⟨hreached, nofun⟩
  ended {drive} step run trace outcome final history hid hreached hrecorded hend := by
    have howns := hend.owns hid hreached.owns hrecorded
    refine ⟨⟨hreached.planned, howns, hreached.achieved, hreached.completed⟩, ?_⟩
    rintro rfl
    have hachieved := hend.achieved hid hreached hrecorded
    exact hachieved
  poll htried := htried.1
  retry {step} handler error run history hhandler htried _ := by
    -- a reset takes back at most what the engine run was
    have hreset := resetForRetry_eq hhandler
    refine htried.1.congr .refl ?_ ?_ ?_ <;>
      simp only [retriedRun, Executor.retryState, Executor.countAttempt, hreset] <;> split
    · rfl
    · rfl
    · rfl
    · rfl
    · exact .inl rfl
    · exact .inr rfl
  completed {drive} step run older hid _ htried := by
    refine ⟨trivial, ?_, (htried.2 rfl).grows _, ?_⟩
    · exact (htried.1.grows _).congr .refl rfl rfl (.inr rfl)
    -- the completion is noted for this run, after those of the steps before it
    · change (preceding (runPlans run.runType) step ++ [step]).Sublist
        (if drive.subject = run.runId then completions run.runId older ++ [step]
          else completions run.runId older)
      rw [if_pos hid.symm]
      exact htried.1.completed.append_right [step]
  next hpassed _ hnext := reached_next hpassed hnext
  finish {step} run history hpassed hstep hlast := by
    have hsplit := preceding_append_following hstep
    rw [hlast] at hsplit
    have hcompleted := hpassed.2.2
    rw [hsplit] at hcompleted
    exact hcompleted

/-- However drives interleave, a resource run triggers its engine only once its
own ticket was approved and its resource found eligible; the final state of a
record is written, and a ticket closed as successful, only once an engine run of
the run was reported to have succeeded; and a run is stored as completed only
once every step of its plan has completed, in that order. -/
theorem plan_order_safety (engines : List WorkflowEngineType) (retryBase : Time)
    (defaultTeam : String) (clock : Time) (moves : List (Move system)) :
    let world := (reached (.wired engines retryBase defaultTeam) clock moves).world
    (∀ newer drive issuer call answer applied older,
      world.history = newer ++ .called drive issuer call answer applied :: older →
      (TriggersEngine call → ∀ origin, .created origin ∈ world.history →
        origin.runId = drive.subject → origin.runType = .resource →
        Approved drive.subject older ∧ Eligible drive.subject older) ∧
      (FinalizeWrite issuer call → Succeeded drive.subject older) ∧
      (ClosesSuccessfully call → Succeeded drive.subject older)) ∧
    (∀ newer drive row older, world.history = newer ++ .saved drive row :: older →
      row.status = .completed → (runPlans row.runType).Sublist (completions row.runId older)) ∧
    (∀ runId row, Store.get world.rows runId = some row → row.status = .completed →
      (runPlans row.runType).Sublist (completions row.runId world.history)) := by
  intro world
  have hinv : (inOrder engines).account.Inv world := Narrative.reached_inv _ rfl clock moves
  have hkept := hinv.kept
  refine ⟨?_, ?_, fun runId row hrow hdone => (hinv.rows runId row hrow).2.2 hdone⟩
  · intro newer drive issuer call answer applied older hhistory
    rw [hhistory] at hkept
    obtain ⟨htrigger, hfinalize, hclose⟩ := hkept.event
    refine ⟨fun hcall origin hcreated hid hresource => ?_, hfinalize, hclose⟩
    obtain ⟨other, hother, hid', hpassed⟩ := htrigger hcall
    have hmem : .created other ∈ world.history := by
      rw [hhistory]
      exact List.mem_append_right _ (List.mem_cons_of_mem _ hother)
    obtain rfl := hinv.unique origin other hcreated hmem (hid.trans hid'.symm)
    exact hpassed hresource
  · intro newer drive row older hhistory
    rw [hhistory] at hkept
    exact hkept.event

end CloudioOrchestrator

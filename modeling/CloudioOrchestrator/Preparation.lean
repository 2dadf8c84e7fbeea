import CloudioOrchestrator.Attended

/-! # The way to the engine

The steps of a resource run before its engine's step, in a drive that has the
store to itself and providers that answer: the ticket is opened, the resource
configured, the approval waited for, and the request validated.
-/

namespace CloudioOrchestrator

open Interaction Drive

/-- Every provider call is answered, nobody denies the request, and it is eligible. -/
structure Cooperative (answer : (call : Call) → call.Answer) : Prop where
  answers : ∀ call, ∃ result, answer call = .ok result
  undenied : ∀ ticket, answer (.getApprovalStatus ticket) ≠ .ok .rejected
  eligible : ∀ request result, answer (.validateResource request) = .ok result →
    result.eligible = true

/-- The request was approved by the time of the visit. -/
def Approves (answer : (call : Call) → call.Answer) : Prop :=
  ∀ ticket, answer (.getApprovalStatus ticket) = .ok .approved

/-- The request was not decided on by then. -/
def Pends (answer : (call : Call) → call.Answer) : Prop :=
  ∀ ticket, answer (.getApprovalStatus ticket) = .ok .pending

theorem willing_cooperative : Cooperative willing where
  answers call := by cases call <;> exact ⟨_, rfl⟩
  undenied ticket := by simp [willing]
  eligible request result hresult := by
    cases hresult
    rfl

theorem willing_approves : Approves willing :=
  fun _ => rfl

/-- What the steps before the engine's leave on record. -/
def preparatory (drive : DriveId) : Event → Bool
  | .called by' (.step _) (.openTicket ..) _ _ | .called by' (.step _) (.createResource ..) _ _
  | .called by' (.step _) (.updateResource ..) _ _
  | .called by' (.step _) (.getApprovalStatus ..) _ _
  | .called by' (.step _) (.validateResource ..) _ _ => by' = drive
  | .loaded by' _ | .logged by' _ | .saved by' _ => by' = drive
  | _ => false

/-- A run that has not come to its engine's step yet. -/
structure Preparing (origin run : WorkflowRun) : Prop where
  continues : origin.Continues run
  engineRunId : run.runState.engineRunId = none
  stepAttempts : run.runState.stepAttempts = .empty
  engineFailure : run.runState.engineFailure = none
  incidentId : run.runState.incidentId = none
  resource : run.runState.resource.isSome

variable {engines : List WorkflowEngineType} {origin run : WorkflowRun} {drive : DriveId}
  {answer : (call : Call) → call.Answer} {opens closes : Time} {books : Books}

theorem Preparing.congr {changed : WorkflowRun} (hrun : Preparing origin run)
    (hsame : run.SameOrigin changed) (hstate : run.runState.SameRequest changed.runState)
    (hengine : changed.runState.engineRunId = run.runState.engineRunId)
    (hattempts : changed.runState.stepAttempts = run.runState.stepAttempts)
    (hfailure : changed.runState.engineFailure = run.runState.engineFailure)
    (hincident : changed.runState.incidentId = run.runState.incidentId) :
    Preparing origin changed where
  continues := hrun.continues.trans ⟨hsame, hstate⟩
  engineRunId := hengine.trans hrun.engineRunId
  stepAttempts := hattempts.trans hrun.stepAttempts
  engineFailure := hfailure.trans hrun.engineFailure
  incidentId := hincident.trans hrun.incidentId
  resource := hstate.resource_isSome ▸ hrun.resource

theorem pop_empty {α : Type} (step : StepName) : (StepMap.empty : StepMap α).pop step = .empty := by
  funext other
  by_cases hstep : other = step
  · rw [hstep, StepMap.pop_self, StepMap.empty_apply]
  · rw [StepMap.pop_of_ne hstep]

/-- How a step before the engine's ends, when the providers answer. -/
theorem preparation_ends (drive : DriveId) {step : StepName} {trace : Trace Providers}
    {ended : Except PyException Bool} {state final : RunState}
    (hend : HandlerEnd engines run state step trace ended final)
    (hanswers : ∀ exchange ∈ trace, exchange.answer = answer exchange.op)
    (hanswer : Cooperative answer) (hstep : step ∈ preceding (runPlans .resource) .runEngine)
    (hresource : state.resource.isSome) (hticket : step ≠ .createTicket → state.ticket.isSome) :
    (ended = .ok true ∧ (step = .awaitApproval → ¬ Pends answer) ∨
      ended = .ok false ∧ step = .awaitApproval ∧ ¬ Approves answer) ∧
      final.ticket.isSome ∧ final.engineRunId = state.engineRunId ∧
      final.engineFailure = state.engineFailure ∧ final.incidentId = state.incidentId ∧
      final.attemptStartedAt = state.attemptStartedAt ∧
      ∀ event ∈ calledEvents drive step trace, preparatory drive event = true := by
  have hunrefused : ∀ {call : Call} {error : ProviderError}, Except.error error ≠ answer call := by
    intro call error herror
    obtain ⟨result, hresult⟩ := hanswer.answers call
    rw [hresult] at herror
    cases herror
  -- whatever ends otherwise than well is an answer that a cooperative provider does not give
  have hplan : preceding (runPlans .resource) .runEngine =
      [.createTicket, .configureResource, .awaitApproval, .validateResource] := by decide
  rw [hplan] at hstep
  cases hend with
  | ticketKnown hknown => simpa [calledEvents] using hknown
  | ticketOpened ticket hnone => simp [calledEvents, preparatory, openTicketCall]
  | ticketRefused error hnone => exact absurd (hanswers _ List.mem_cons_self) hunrefused
  | configured hdone => simpa [calledEvents] using hticket
  | nothingToConfigure hnew hnone => simp [hnone] at hresource
  | resourceCreated resourceId hnew hsome hcreate =>
      simpa [calledEvents, preparatory, createResourceCall] using hticket
  | createRefused error hnew hsome hcreate =>
      exact absurd (hanswers _ List.mem_cons_self) hunrefused
  | resourceMarked hnew hsome hexisting =>
      simpa [calledEvents, preparatory, patchCall] using hticket
  | markRefused error hnew hsome hexisting =>
      exact absurd (hanswers _ List.mem_cons_self) hunrefused
  | noTicket hnone => simp [hnone] at hticket
  | approved hsome =>
      have hdecided := hanswers _ List.mem_cons_self
      refine ⟨.inl ⟨rfl, fun _ hpends => ?_⟩, by simp [hsome], rfl, rfl, rfl, rfl, ?_⟩
      · rw [hpends] at hdecided
        cases hdecided
      · simp [calledEvents, preparatory]
  | rejected hsome =>
      exact absurd (hanswers _ List.mem_cons_self).symm (hanswer.undenied _)
  | undecided hsome =>
      have hpending := hanswers _ List.mem_cons_self
      refine ⟨.inr ⟨rfl, rfl, fun happroves => ?_⟩, by simp [hsome], rfl, rfl, rfl, rfl, ?_⟩
      · rw [happroves] at hpending
        cases hpending
      · simp [calledEvents, preparatory]
  | approvalUnknown error hsome => exact absurd (hanswers _ List.mem_cons_self) hunrefused
  | nothingToValidate hnone => simp [hnone] at hresource
  | eligible hsome heligible => simpa [calledEvents, preparatory, validateCall] using hticket
  | ineligible message hsome heligible =>
      have hresult := hanswer.eligible _ _ (hanswers _ List.mem_cons_self).symm
      simp [heligible] at hresult
  | validationRaised error hsome => exact absurd (hanswers _ List.mem_cons_self) hunrefused
  | _ => simp at hstep

/-- A turn at a step before the engine's: it completes, or waits for the approval. -/
theorem attended_preparation {executor : Executor} {step : StepName}
    (hwired : executor.handlers = buildHandlers engines) (hanswer : Cooperative answer)
    (hstep : step ∈ preceding (runPlans .resource) .runEngine) (hrun : Preparing origin run)
    (hticket : step ≠ .createTicket → run.runState.ticket.isSome) (hstored : Stored books.1 run)
    (hnaive : ∀ instant, run.runState.attemptStartedAt ≠ some (.naive instant))
    (hbudget : ∀ started handler, Dated opens closes run started →
      executor.handlers step = some handler → closes - started ≤ handler.maxStepDuration)
    (hlater : closes + seconds 30 ≤ datetimeMax)
    {post : Except PyException Bool → WorkflowRun → Books → Prop}
    (hpassed : (step = .awaitApproval → ¬ Pends answer) → ∀ passed newer,
      Preparing origin passed → passed.runState.ticket.isSome →
      passed.runState.attemptStartedAt = none → passed.version = run.version →
      passed.status = run.status → (∀ event ∈ newer, preparatory drive event = true) →
      post (.ok true) passed (books.1, newer ++ books.2))
    (hwaiting : step = .awaitApproval → ¬ Approves answer → ∀ waiting newer started,
      Preparing origin waiting → waiting.runState.ticket.isSome →
      waiting.runState.attemptStartedAt = some (.aware started) → Dated opens closes run started →
      waiting.currentStep = some step.value → waiting.version = run.version →
      waiting.status = run.status → (∀ event ∈ newer, preparatory drive event = true) →
      post (.ok false) (savedRun waiting)
        (Store.put books.1 (savedRun waiting), newer ++ books.2)) :
    (attended answer opens closes).alone.wp drive (executor.turn step) post run books := by
  obtain ⟨handler, hhandler⟩ : ∃ handler, buildHandlers engines step = some handler := by
    cases step <;> exact ⟨_, rfl⟩
  rw [hwired] at hbudget
  refine attended_turn (hwired ▸ hhandler) hnaive
    (fun started hdated => hbudget started handler hdated hhandler) ?_
  intro now started hopens hcloses hdated
  refine attended_handler hhandler fun trace ended final hend hanswers => ?_
  obtain ⟨hended, hfinalTicket, hengine, hfailure, hincident, hattempt, hevents⟩ :=
    preparation_ends drive hend hanswers hanswer hstep hrun.resource hticket
  have hstate : run.runState.SameRequest final := hend.sameRequest
  have hattempts : final.stepAttempts = run.runState.stepAttempts := hend.stepAttempts
  -- a preparation is over, or it is the approval that is not there yet
  rcases hended with ⟨rfl, hdecided⟩ | ⟨rfl, rfl, hunapproved⟩
  · simp only [afterAttempt, Discipline.wp_bind]
    apply attended_log
    simp only [wp_updateState, Discipline.wp_pure]
    refine hpassed hdecided _ (.logged drive (.stepCompleted step) :: calledEvents drive step trace)
      (hrun.congr .refl hstate hengine ?_ hfailure hincident) hfinalTicket rfl rfl rfl ?_
    · simp only [hattempts, hrun.stepAttempts, pop_empty]
    · simpa [preparatory] using hevents
  · cases hhandler
    simp only [afterAttempt, Discipline.wp_bind, Discipline.wp_pure]
    refine attended_schedule hlater fun due _ _ => ?_
    apply attended_stored
    · exact hstored.congr .refl rfl
    refine hwaiting rfl hunapproved _ (.saved drive _ :: calledEvents drive .awaitApproval trace)
      started (hrun.congr .refl hstate hengine hattempts hfailure hincident) hfinalTicket hattempt
      hdated rfl rfl rfl ?_
    simpa [preparatory] using hevents

/-- No step has less than an hour. -/
theorem hour_le_budget {step : StepName} {handler : StepHandler}
    (hhandler : buildHandlers engines step = some handler) :
    seconds 3600 ≤ handler.maxStepDuration := by
  cases step <;> cases hhandler <;> simp [seconds, createTicketStep, configureResourceStep,
    awaitApprovalStep, validateResourceStep, runEngineStep, finalizeResourceStep, closeTicketStep,
    submitLegacyStep]

/-- The steps before the engine's, from any of them on: the drive comes to the
engine's step, or waits for the approval. -/
theorem attended_preparations {executor : Executor}
    (hwired : executor.handlers = buildHandlers engines) (hanswer : Cooperative answer)
    (hvisit : closes - opens ≤ seconds 3600) (hlater : closes + seconds 30 ≤ datetimeMax)
    {post : Except PyException Unit → WorkflowRun → Books → Prop}
    (steps : List StepName) (step : StepName)
    (hsteps : ∀ other ∈ step :: steps, other ∈ preceding (runPlans .resource) .runEngine)
    (hrun : Preparing origin run) (hticket : step ≠ .createTicket → run.runState.ticket.isSome)
    (hstored : Stored books.1 run)
    (hnaive : ∀ instant, run.runState.attemptStartedAt ≠ some (.naive instant))
    (hbudget : ∀ started handler, Dated opens closes run started →
      executor.handlers step = some handler → closes - started ≤ handler.maxStepDuration)
    (harrived : (.awaitApproval ∈ step :: steps → ¬ Pends answer) → ∀ arrived newer,
      Preparing origin arrived → arrived.runState.ticket.isSome →
      arrived.runState.attemptStartedAt = none → arrived.version = run.version →
      arrived.status = run.status → (∀ event ∈ newer, preparatory drive event = true) →
      (attended answer opens closes).alone.wp drive
        (executor.advance (runPlans .resource) [.finalizeResource, .closeTicket] .runEngine) post
        arrived (books.1, newer ++ books.2))
    (hwaiting : ¬ Approves answer → ∀ waiting newer started, Preparing origin waiting →
      waiting.runState.ticket.isSome → waiting.runState.attemptStartedAt = some (.aware started) →
      run.runState.attemptStartedAt = some (.aware started) ∨ opens ≤ started →
      waiting.currentStep = some StepName.awaitApproval.value → waiting.version = run.version →
      waiting.status = run.status → (∀ event ∈ newer, preparatory drive event = true) →
      post (.ok ()) (savedRun waiting)
        (Store.put books.1 (savedRun waiting), newer ++ books.2)) :
    (attended answer opens closes).alone.wp drive
      (executor.advance (runPlans .resource)
        (steps ++ [.runEngine, .finalizeResource, .closeTicket]) step) post run books := by
  have hplan : ∀ {other : StepName}, other ∈ preceding (runPlans .resource) .runEngine →
      other ∈ runPlans .resource := by
    intro other
    cases other <;> decide
  have hsince : ∀ {begun : WorkflowRun} {started : Time}, Dated opens closes begun started →
      begun.runState.attemptStartedAt = some (.aware started) ∨ opens ≤ started := by
    rintro begun started (hstarted | ⟨-, hopens, -⟩)
    · exact .inl hstarted
    · exact .inr hopens
  induction steps generalizing step run books with
  | nil =>
      apply wp_advance_cons (hplan (hsteps step List.mem_cons_self))
      refine attended_preparation hwired hanswer (hsteps step List.mem_cons_self) hrun hticket
        hstored hnaive hbudget hlater ?_ ?_
      · intro hdecided
        exact harrived fun hmem => hdecided (List.mem_singleton.mp hmem).symm
      rintro rfl hunapproved waiting newer started hwaits hwaitingTicket hstarted hdated
        hstep hversion hstatus hnewer
      exact hwaiting hunapproved waiting newer started hwaits hwaitingTicket hstarted
        (hsince hdated) hstep hversion hstatus hnewer
  | cons next rest ih =>
      apply wp_advance_cons (hplan (hsteps step List.mem_cons_self))
      refine attended_preparation hwired hanswer (hsteps step List.mem_cons_self) hrun hticket
        hstored hnaive hbudget hlater ?_ ?_
      · intro hdecided passed newer hpasses hpassedTicket hnone hversion hstatus hnewer
        have hsame : run.SameOrigin passed := hrun.continues.1.symm.trans hpasses.continues.1
        refine ih next (fun other hother => hsteps other (List.mem_cons_of_mem _ hother)) hpasses
          (fun _ => hpassedTicket) (hstored.congr hsame hversion) (by simp [hnone]) ?_ ?_ ?_
        · rintro started handler (hstarted | ⟨-, hopens, -⟩) hhandler
          -- its attempt was begun in this visit, which is shorter than any budget
          · rw [hnone] at hstarted
            cases hstarted
          · rw [hwired] at hhandler
            have hhour := hour_le_budget hhandler
            simp only [Time] at *
            omega
        · intro hlaterDecided arrived later harrives harrivedTicket hbegun hlaterVersion
            hlaterStatus hevents
          rw [← List.append_assoc]
          refine harrived ?_ arrived (later ++ newer) harrives harrivedTicket hbegun
            (hlaterVersion.trans hversion) (hlaterStatus.trans hstatus)
            (List.forall_mem_append.mpr ⟨hevents, hnewer⟩)
          intro hmem
          rcases List.mem_cons.mp hmem with heq | hmem
          · exact hdecided heq.symm
          · exact hlaterDecided hmem
        · intro hunapproved waiting later started hwaits hwaitingTicket hstarted hsome hstep
            hlaterVersion hlaterStatus hevents
          rw [← List.append_assoc]
          refine hwaiting hunapproved waiting (later ++ newer) started hwaits
            hwaitingTicket hstarted
            (.inr ?_) hstep (hlaterVersion.trans hversion) (hlaterStatus.trans hstatus)
            (List.forall_mem_append.mpr ⟨hevents, hnewer⟩)
          rcases hsome with hsome | hopens
          · rw [hnone] at hsome
            cases hsome
          · exact hopens
      · rintro rfl hunapproved waiting newer started hwaits hwaitingTicket hstarted hdated hstep
          hversion hstatus hnewer
        exact hwaiting hunapproved waiting newer started hwaits hwaitingTicket hstarted
          (hsince hdated) hstep hversion hstatus hnewer

end CloudioOrchestrator

import CloudioOrchestrator.Narrative
import CloudioOrchestrator.Preparation

/-! # What runs are equipped with

Whether a step finds in its run what it is built on: its resource, its ticket,
its legacy request, and an engine that is wired. The handlers assert the first
three and look the last one up.
-/

namespace CloudioOrchestrator

open Interaction

/-- The engines that the composition root binds. -/
def boundEngines : List WorkflowEngineType :=
  [.airflow]

/-- The record of a handler's assert that failed, or of an engine looked up in vain. -/
inductive Undrivable : LogRecord → Prop
  | unasserted (step : StepName) (attempt : Int) :
      Undrivable (.stepRaised step attempt .assertionError)
  | unbound (attempt : Int) (engine : WorkflowEngineType) :
      Undrivable (.stepRaised .runEngine attempt (.keyError engine.repr))

/-- The run is at a step of its plan and has the ticket that the step may need. -/
def Equipped (step : StepName) (run : WorkflowRun) : Prop :=
  step ∈ runPlans run.runType ∧
    (run.runState.ticket.isSome ∨ step = .createTicket ∨ run.runType = .legacy)

/-- A step that failed for want of something the run was created without. -/
def Attributable (engines : List WorkflowEngineType) (step : StepName) (run : WorkflowRun)
    (error : PyException) : Prop :=
  (error = .assertionError → run.runType = .legacy ∧ run.runState.legacy = none) ∧
    (∀ message, step = .runEngine → error = .keyError message →
      run.runType ≠ .legacy ∧ run.runState.workflow.engineType ∉ engines)

section Handlers

variable {engines : List WorkflowEngineType} {run : WorkflowRun} {step : StepName}
  {trace : Trace Providers} {outcome : Except PyException Bool} {final : RunState}
  {history : History}

theorem ProviderError.toException_ne (error : ProviderError) :
    error.toException ≠ .assertionError ∧ ∀ message, error.toException ≠ .keyError message := by
  cases error <;> simp [ProviderError.toException]

/-- What a provider raises is no want of the run's. -/
theorem attributable_provider (error : ProviderError) :
    Attributable engines step run error.toException := by
  obtain ⟨hassertion, hkey⟩ := error.toException_ne
  exact ⟨fun heq => absurd heq hassertion, fun message _ heq => absurd heq (hkey message)⟩

theorem attributable_of_ne {error : PyException} (hassertion : error ≠ .assertionError)
    (hkey : ∀ message, error ≠ .keyError message) : Attributable engines step run error :=
  ⟨fun heq => absurd heq hassertion, fun message _ heq => absurd heq (hkey message)⟩

theorem runType_resource (hstep : step ∈ runPlans run.runType)
    (hneeds : step = .configureResource ∨ step = .validateResource) : run.runType = .resource := by
  cases htype : run.runType with
  | resource => rfl
  | automation => rcases hneeds with rfl | rfl <;> simp [htype, runPlans] at hstep
  | legacy => rcases hneeds with rfl | rfl <;> simp [htype, runPlans] at hstep

theorem runType_ne_legacy (hstep : step ∈ runPlans run.runType) (hneeds : step ≠ .submitLegacy) :
    run.runType ≠ .legacy := by
  intro htype
  simp only [htype, runPlans, List.mem_singleton] at hstep
  exact hneeds hstep

theorem Equipped.ticket (hrun : Equipped step run)
    (hneeds : step = .awaitApproval ∨ step = .closeTicket) : run.runState.ticket ≠ none := by
  rcases hrun.2 with hsome | hstep | htype
  · exact Option.isSome_iff_ne_none.mp hsome
  · rcases hneeds with rfl | rfl <;> cases hstep
  · refine absurd htype (runType_ne_legacy hrun.1 ?_)
    rcases hneeds with rfl | rfl <;> simp

/-- An equipped run's step fails for want of nothing but a legacy request or an engine. -/
theorem HandlerEnd.attributable {error : PyException} (horigin : HasOrigin run history)
    (hrun : Equipped step run)
    (hend : HandlerEnd engines run run.runState step trace (.error error) final) :
    Attributable engines step run error := by
  have hresource := fun hneeds => horigin.resource_isSome (runType_resource hrun.1 hneeds)
  cases hend with
  | nothingToConfigure _ hnone => simp [hnone] at hresource
  | nothingToValidate hnone => simp [hnone] at hresource
  | noTicket hnone => exact absurd hnone (hrun.ticket (.inl rfl))
  | nothingToClose _ hnone => exact absurd hnone (hrun.ticket (.inr rfl))
  | nothingToSubmit _ hnone =>
      -- only the legacy plan hands a request over
      refine ⟨fun _ => ⟨?_, hnone⟩, fun message hstep => by cases hstep⟩
      cases htype : run.runType <;> simp [htype, Equipped, runPlans] at hrun ⊢
  | unknownEngine hengine =>
      exact ⟨by simp, fun _ _ _ => ⟨runType_ne_legacy hrun.1 (by simp), hengine⟩⟩
  | rejected _ => apply attributable_of_ne <;> simp
  | ineligible _ _ _ => apply attributable_of_ne <;> simp
  | engineFailed _ _ => apply attributable_of_ne <;> simp [engineStepFailure]
  | _ => exact attributable_provider _

/-- A step leaves the run with its ticket; opening one is what the first step does. -/
theorem HandlerEnd.equipped (hrun : Equipped step run)
    (hend : HandlerEnd engines run run.runState step trace outcome final) :
    Equipped step { run with runState := final } ∧
      (outcome = .ok true → final.ticket.isSome ∨ run.runType = .legacy) := by
  have hticket : run.runState.ticket.isSome → final.ticket.isSome := by
    cases hend with
    | succeededWith output _ _ =>
        unfold captured
        split <;> exact id
    | engineFailed failure _ => cases failure <;> exact id
    | ticketOpened ticket _ => exact fun _ => rfl
    | _ => exact id
  refine ⟨⟨hrun.1, hrun.2.imp_left hticket⟩, fun hdone => ?_⟩
  subst hdone
  rcases hrun.2 with hsome | hstep | htype
  · exact .inl (hticket hsome)
  · subst hstep
    cases hend with
    | ticketKnown hsome => exact .inl hsome
    | ticketOpened ticket _ => exact .inl rfl
  · exact .inr htype

end Handlers

/-- The run was created without what its step failed for want of. -/
def Unequipped (engines : List WorkflowEngineType) (runId : UUID) (record : LogRecord)
    (history : History) : Prop :=
  ∃ origin, .created origin ∈ history ∧ origin.runId = runId ∧ ∀ step attempt error,
    record = .stepRaised step attempt error → Attributable engines step origin error

/-- What is known of a stored run: the step that the next drive starts at is one
that it is equipped for. -/
def Prepared (run : WorkflowRun) : Prop :=
  run.status.terminal = false → ∀ step, Executor.startStep run = .ok step → Equipped step run

theorem Prepared.of_equipped {step : StepName} {run : WorkflowRun} (hrun : Equipped step run)
    (hstep : run.currentStep = some step.value) : Prepared run := by
  intro _ other hother
  rw [startStep_named hstep] at hother
  obtain rfl := Except.ok.inj hother
  exact hrun

theorem Prepared.of_terminal {run : WorkflowRun} (hterminal : run.status.terminal = true) :
    Prepared run := by
  intro hopen
  rw [hterminal] at hopen
  cases hopen

theorem Newborn.prepared {run : WorkflowRun} (hrun : Newborn run) : Prepared run := by
  intro _ step hstep
  rw [startStep_newborn hrun] at hstep
  obtain rfl := Except.ok.inj hstep
  refine ⟨firstStep_mem _, ?_⟩
  cases htype : run.runType with
  | automation => exact .inl (hrun.ticket.mpr htype)
  | resource => exact .inr (.inl rfl)
  | legacy => exact .inr (.inr rfl)

/-- Every failure of a step for want of something is put down to the run's creation. -/
def equipment (engines : List WorkflowEngineType) : Account where
  row := .only Prepared
  event event older := ∀ drive record, event = .logged drive record →
    Unequipped engines drive.subject record older
  born hrun := hrun.prepared
  rescheduled _ hrow := hrow
  created _ _ := by simp
  loaded _ _ _ := by simp

section Outline

variable {engines : List WorkflowEngineType} {drive : DriveId} {executor : Executor}
  {condition : WorkflowRun → Prop} {run changed : WorkflowRun} {world : World}

/-- A condition on the run in memory. -/
abbrev carrying (engines : List WorkflowEngineType) (drive : DriveId)
    (condition : WorkflowRun → Prop) : Assertion (equipment engines).discipline drive :=
  (equipment engines).noting drive (.only condition)

theorem carrying_imp {later : WorkflowRun → Prop}
    (hrun : carrying engines drive condition run world)
    (hsame : run.Continues changed) (himp : condition run → later changed) :
    carrying engines drive later changed world :=
  Account.noting_imp hrun hsame himp

/-- At a step that the run is equipped for. -/
def AtStep (step : StepName) (run : WorkflowRun) : Prop :=
  run.currentStep = some step.value ∧ Equipped step run

theorem carrying_call {issuer : Issuer} {call : Call}
    (hrun : carrying engines drive condition run world) (hinv : (equipment engines).Inv world) :
    Serves (equipment engines).discipline drive (.provider issuer call) world fun _ final =>
      carrying engines drive condition run final := by
  apply Account.noting_call hrun hinv
  intro answer applied
  simp [equipment]

/-- A log record, of a step's failure or of anything else. -/
theorem carrying_log {record : LogRecord} {later : WorkflowRun → Prop}
    (hrun : carrying engines drive condition run world) (hinv : (equipment engines).Inv world)
    (hsame : run.Continues changed) (hlater : condition run → later changed)
    (hraised : ∀ step attempt error, record = .stepRaised step attempt error →
      Attributable engines step run error) :
    Serves (equipment engines).discipline drive (.log record) world fun _ final =>
      carrying engines drive later changed final := by
  refine Account.noting_log hrun hinv hsame ?_ hlater
  rintro _ _ ⟨⟩
  obtain ⟨hid, ⟨origin, hcreated, -, ⟨horiginId, htype, -⟩, hworkflow, -, -, -, hlegacy, -⟩, -⟩ :=
    hrun
  refine ⟨origin, hcreated, horiginId.trans hid, fun step attempt error heq => ?_⟩
  have hattributable := hraised step attempt error heq
  simp only [Attributable, htype, hlegacy, hworkflow] at hattributable ⊢
  exact hattributable

theorem carrying_save (hrun : carrying engines drive condition run world)
    (hinv : (equipment engines).Inv world) (hprepared : condition run → Prepared run)
    {post : (Op.runsSave run).Answer → World → Prop}
    (hpost : ∀ answer final, carrying engines drive condition run final → post answer final) :
    Serves (equipment engines).discipline drive (.runsSave run) world post := by
  refine Account.noting_save hrun hinv (fun _ hfact => ?_) (fun _ => ?_) hpost
  · exact hprepared hfact
  · simp [equipment]

/-- The handler of a step that the run is equipped for. -/
theorem carrying_execute {step : StepName} {handler : StepHandler}
    (hhandler : buildHandlers engines step = some handler)
    (hrun : carrying engines drive (AtStep step) run world) :
    ((equipment engines).discipline.through (S := Providers) (Op.provider (.step step))
        fun _ answer => answer).wp drive (handler.execute run)
      (fun outcome state final => carrying engines drive (fun run => AtStep step run ∧
          (∀ error, outcome = .error error → Attributable engines step run error) ∧
          (outcome = .ok true → run.runState.ticket.isSome ∨ run.runType = .legacy))
        { run with runState := state } final)
      run.runState world := by
  refine Discipline.wp_mono (wp_handler
    (fun _ final => carrying engines drive (AtStep step) run final) hhandler ?_ ?_ hrun) ?_
  · intro _ world current hrun hrely hinv
    exact (carrying engines drive (AtStep step)).stable hrun hrely hinv
  · intro _ call world hrun _ hinv
    exact carrying_call hrun hinv
  · rintro outcome state final ⟨trace, hrun, hend⟩
    refine carrying_imp hrun ⟨.refl, hend.sameRequest⟩ fun hstep => ?_
    obtain ⟨hequipped, hdone⟩ := hend.equipped hstep.2
    refine ⟨⟨hstep.1, hequipped⟩, ?_, hdone⟩
    rintro error rfl
    have hattributable := hend.attributable hrun.2.1 hstep.2
    obtain ⟨hworkflow, -, -, -, hlegacy, -⟩ := hend.sameRequest
    simp only [Attributable, hworkflow, hlegacy] at hattributable ⊢
    exact hattributable

/-- A step fails for want of nothing that the run was not created without. -/
def equippedOutline (engines : List WorkflowEngineType) (drive : DriveId)
    (hwired : executor.handlers = buildHandlers engines) :
    Outline (equipment engines).discipline drive executor where
  fresh := carrying engines drive fun run => run.status.terminal = false ∧ Prepared run
  turning step := carrying engines drive (AtStep step)
  tried step _ outcome := carrying engines drive fun run => AtStep step run ∧
    (∀ error, outcome = .error error → Attributable engines step run error) ∧
    (outcome = .ok true → run.runState.ticket.isSome ∨ run.runType = .legacy)
  raised step _ := carrying engines drive (AtStep step)
  passed step := carrying engines drive fun run => step ∈ runPlans run.runType ∧
    (run.runState.ticket.isSome ∨ run.runType = .legacy)
  denied := carrying engines drive fun run => run.status.terminal = true
  dismissed := carrying engines drive fun run => run.status.terminal = true
  failing _ := carrying engines drive fun run => run.status.terminal = true
  escalating _ := carrying engines drive fun run => run.status.terminal = true
  failed := carrying engines drive fun run => run.status.terminal = true
  released := carrying engines drive fun run => run.status.terminal = true
  pending := carrying engines drive Prepared
  quiet := carrying engines drive fun run => run.status.terminal = true
  troubled _ := carrying engines drive fun _ => True
  ended := carrying engines drive fun _ => True
  wrecked _ := carrying engines drive fun _ => True
  guar_refl world _ := ⟨.refl, trivial⟩
  utcnow := serve_utcnow drive
  uniform := serve_uniform drive
  start hrun hstep := carrying_imp hrun (.refl _) fun hfact => ⟨rfl, hfact.2 hfact.1 _ hstep⟩
  badStart hrun _ := carrying_imp hrun (.refl _) fun _ => trivial
  unhandled hrun _ := carrying_imp hrun (.refl _) fun _ => trivial
  restamp _ _ hrun := carrying_imp hrun (.refl _) id
  naive hrun := carrying_imp hrun (.refl _) fun _ => trivial
  deadline hrun := carrying_imp hrun (.refl _) fun hstep => by
    refine ⟨hstep, ?_, fun hdone => by cases hdone⟩
    -- a deadline is no error that a missing ticket, resource or engine explains
    rintro error ⟨⟩
    apply attributable_of_ne <;> simp
  execute hhandler hrun _ := by
    rw [hwired] at hhandler
    exact carrying_execute hhandler hrun
  reject hrun := carrying_imp hrun (.refl _) fun _ => rfl
  release hrun hinv _ := carrying_call hrun hinv
  unheld hrun _ := hrun
  dismissed_pending hrun := carrying_imp hrun (.refl _) Prepared.of_terminal
  logRaised hrun _ hinv := by
    refine carrying_log hrun hinv (.refl _) And.left ?_
    rintro _ _ _ ⟨⟩
    exact hrun.2.2.2.1 _ rfl
  retry {step} handler error run world due hhandler hrun _ := by
    rw [hwired] at hhandler
    refine carrying_imp hrun ⟨.refl, retryState_sameRequest hhandler⟩ fun hstep => ?_
    refine @Prepared.of_equipped step _ ⟨hstep.2.1, ?_⟩ hstep.1
    have hticket : (retriedRun step handler run).runState.ticket = run.runState.ticket := by
      simp only [retriedRun, Executor.retryState, resetForRetry_eq hhandler]
      split <;> rfl
    rw [hticket]
    exact hstep.2.2
  retryOverflow hhandler hrun _ := by
    rw [hwired] at hhandler
    exact carrying_imp hrun ⟨.refl, retryState_sameRequest hhandler⟩ fun _ => trivial
  giveUp hrun _ := carrying_imp hrun (.refl _) fun _ => rfl
  poll _ hrun := carrying_imp hrun (.refl _) fun hfact => .of_equipped hfact.1.2 hfact.1.1
  pollOverflow hrun := carrying_imp hrun (.refl _) fun _ => trivial
  logCompleted hrun hinv := by
    refine carrying_log hrun hinv (.refl _) (fun hfact => ⟨hfact.1.2.1, hfact.2.2 rfl⟩) ?_
    rintro _ _ _ ⟨⟩
  offPlan hrun _ := carrying_imp hrun (.refl _) fun _ => trivial
  next hrun hstep hnext := carrying_imp hrun (.refl _) fun hfact => by
    obtain ⟨hmem, -⟩ := following_eq_cons (runPlans_nodup _) hstep hnext
    exact ⟨rfl, hmem, hfact.2.imp_right .inr⟩
  finish hrun _ _ := carrying_imp hrun (.refl _) fun _ => .of_terminal rfl
  logEscalating hrun hinv := carrying_log hrun hinv (.refl _) id (by simp)
  openIncident request hrun hinv :=
    (carrying_call hrun hinv).opened fun _ _ hfinal => carrying_imp hfinal (.refl _) id
  escalating_failed hrun := hrun
  aftermath hrun hinv _ := carrying_call hrun hinv
  ticketClosed hrun := carrying_imp hrun (.refl _) id
  releaseFailed hrun hinv _ := carrying_call hrun hinv
  unheldFailed hrun _ := hrun
  released_pending hrun := carrying_imp hrun (.refl _) Prepared.of_terminal
  released_quiet hrun := hrun
  save hrun hinv := by
    refine carrying_save hrun hinv id fun answer final hsaved => ?_
    split <;> exact carrying_imp hsaved (.refl _) fun _ => trivial
  saveQuietly hrun hinv := by
    refine carrying_save hrun hinv Prepared.of_terminal fun answer final hsaved => ?_
    split <;> exact carrying_imp hsaved (.refl _) fun _ => trivial
  unpersisted hrun hfailed hinv :=
    carrying_log hrun hinv (.refl _) (fun _ => by rw [hfailed]; rfl) (by simp)
  unnamed hrun _ _ _ := carrying_imp hrun (.refl _) fun _ => trivial
  crashed {error} run step world hrun _ _ hinv := by
    refine carrying_log hrun hinv ⟨.refl, ?_⟩ (fun _ => rfl) (by simp)
    cases step <;> exact .refl _

end Outline

/-- However drives interleave, a step that fails for want of something is put
down to how its run was created. -/
theorem unequipped_of_logged {engines : List WorkflowEngineType} {executor : Executor}
    (hwired : executor.handlers = buildHandlers engines) (clock : Time)
    (moves : List (Move system)) {origin : WorkflowRun} {drive : DriveId} {step : StepName}
    {attempt : Int} {error : PyException}
    (hcreated : .created origin ∈ (reached executor clock moves).world.history)
    (hid : origin.runId = drive.subject)
    (hlogged : .logged drive (.stepRaised step attempt error) ∈
      (reached executor clock moves).world.history) : Attributable engines step origin error := by
  have hinv : (equipment engines).Inv (reached executor clock moves).world := by
    refine Account.reached_inv (fun drive world => ?_) clock moves
    exact Account.noting_load (equippedOutline engines drive hwired) fun hopen hrow =>
      Account.noting_imp hrow (.refl _) fun hprepared => ⟨hopen, hprepared⟩
  obtain ⟨newer, older, hhistory⟩ := List.append_of_mem hlogged
  have hkept := hinv.kept
  rw [hhistory] at hkept
  obtain ⟨found, hfound, hfoundId, hattributable⟩ := hkept.event drive _ rfl
  have hmem : .created found ∈ (reached executor clock moves).world.history := by
    rw [hhistory]
    exact List.mem_append_right _ (List.mem_cons_of_mem _ hfound)
  obtain rfl := hinv.unique found origin hmem hcreated (hfoundId.trans hid.symm)
  exact hattributable step attempt error rfl

/-- No drive of a run that is created so fails for want of something. -/
def AlwaysDrivable (executor : Executor) (create : Time → UUID → WorkflowRun) : Prop :=
  ∀ clock moves now (drive : DriveId) record,
    .created (create now drive.subject) ∈ (reached executor clock moves).world.history →
    .logged drive record ∈ (reached executor clock moves).world.history → ¬ Undrivable record

theorem alwaysDrivable_of_attributable {executor : Executor}
    {create : Time → UUID → WorkflowRun} {engines : List WorkflowEngineType}
    (hwired : executor.handlers = buildHandlers engines)
    (hid : ∀ now runId, (create now runId).runId = runId)
    (hassertion : ∀ now runId step,
      ¬ Attributable engines step (create now runId) .assertionError)
    (hkey : ∀ now runId message,
      ¬ Attributable engines .runEngine (create now runId) (.keyError message)) :
    AlwaysDrivable executor create := by
  intro clock moves now drive record hcreated hlogged hundrivable
  cases hundrivable with
  | unasserted step attempt =>
      apply hassertion now drive.subject step
      exact unequipped_of_logged hwired clock moves hcreated (hid _ _) hlogged
  | unbound attempt engine =>
      apply hkey now drive.subject engine.repr
      exact unequipped_of_logged hwired clock moves hcreated (hid _ _) hlogged

section Violations

variable {workflow : Workflow} {request : TriggerRequest} {executor : Executor}
  {engines : List WorkflowEngineType}

/-- A turn whose handler raises at once puts the error on record. -/
theorem attended_raises {answer : (call : Call) → call.Answer} {opens closes : Time}
    {drive : DriveId} (run : WorkflowRun) (books : Books) {step : StepName}
    {handler : StepHandler} (error : PyException) (hhandler : executor.handlers step = some handler)
    (hnone : run.runState.attemptStartedAt = none)
    (hbudget : closes - opens ≤ handler.maxStepDuration)
    (hraises : ∀ now started, handler.execute (stampedRun step now started run)
      (stampedRun step now started run).runState =
        .ret (.error error, (stampedRun step now started run).runState))
    (herror : ∀ message, error ≠ .runRejected message) :
    (attended answer opens closes).alone.wp drive (executor.turn step) (fun _ _ final =>
      .logged drive (.stepRaised step (run.runState.attempts step) error) ∈ final.2) run books := by
  apply attended_turn hhandler (by simp [hnone])
  · rintro started (hstarted | ⟨-, hopens, -⟩)
    · rw [hnone] at hstarted
      cases hstarted
    · exact Int.le_trans (Int.sub_le_sub_left hopens closes) hbudget
  intro now started _ _ _
  have hended : onProviders step (handler.execute (stampedRun step now started run))
      (stampedRun step now started run) = .ret (.error error, stampedRun step now started run) := by
    rw [onProviders, hraises]
    rfl
  rw [Discipline.wp_of_ret hended]
  have hafter : afterAttempt executor step handler (run.runState.attempts step) (.error error) = do
      Drive.log (.stepRaised step (run.runState.attempts step) error)
      executor.onStepError step handler error
      return false := by
    cases error with
    | runRejected message => exact absurd rfl (herror message)
    | _ => rfl
  rw [hafter, Discipline.wp_bind]
  apply attended_log
  exact attended_keeps _ List.mem_cons_self

/-- An accepted request is driven in the store that its run was inserted into. -/
theorem not_alwaysDrivable {record : LogRecord}
    (haccepted : checkTrigger workflow.runType request = .ok ()) (hundrivable : Undrivable record)
    (hdriven : ∀ books, Stored books.1 (triggered 0 sampleId workflow request) →
      (attended willing 0 0).alone.wp ⟨sampleId, 0⟩ executor.drive
        (fun _ _ final => .logged ⟨sampleId, 0⟩ record ∈ final.2)
        (triggered 0 sampleId workflow request) books) :
    ¬ AlwaysDrivable executor fun now runId => triggered now runId workflow request := by
  intro hdrivable
  have hget : Store.get [triggered 0 sampleId workflow request] sampleId =
      some (triggered 0 sampleId workflow request) := by
    simp [Store.get, triggered]
  have hinserted : World.outside (.trigger sampleId (some workflow) request) { clock := 0 } =
      { rows := [triggered 0 sampleId workflow request]
        history := [.created (triggered 0 sampleId workflow request)] } := by
    simp only [World.outside, trigger, haccepted]
    rfl
  have hdelivered : (attended willing 0 0).alone.Safe ⟨sampleId, 0⟩
      (fun _ final => .logged ⟨sampleId, 0⟩ record ∈ final.2) (executor.handle sampleId)
      (World.outside (.trigger sampleId (some workflow) request) { clock := 0 }).books := by
    rw [hinserted]
    refine attended_delivery hget rfl ?_
    rw [Discipline.wp, driveOrCrash_eq, Discipline.safe_bind]
    refine Discipline.Safe.mono (hdriven _ ⟨_, hget, rfl, .refl⟩) ?_
    rintro ⟨ended, run⟩ final hfinal
    exact attended_keeps _ hfinal
  obtain ⟨moves, final, ended, hlogged, hrun⟩ := attended_reached
    (fun _ => ⟨0, ⟨seconds 1, jitter_within⟩, Int.le_refl 0, Int.le_refl 0⟩) [] sampleId
    (World.outside (.trigger sampleId (some workflow) request) { clock := 0 }) hdelivered
  have hreached : (reached executor 0 (.outside (.trigger sampleId (some workflow) request) ::
      .start sampleId :: moves)).world = final := by
    rw [reached, Pool.run_cons]
    exact congrArg Pool.world hrun
  -- one run of the system, by a trigger and one drive, logs what it may not
  refine hdrivable 0
    (.outside (.trigger sampleId (some workflow) request) :: .start sampleId :: moves)
    0 ⟨sampleId, 0⟩ record ?_ (hreached ▸ hlogged) hundrivable
  have hgrows := run_grows executor (.start sampleId :: moves)
    ⟨World.outside (.trigger sampleId (some workflow) request) { clock := 0 }, []⟩
  apply hgrows.mem
  rw [hinserted]
  exact List.mem_cons_self

/-- A legacy registration is accepted with no legacy request to hand over. -/
theorem asserts_legacy (hwired : executor.handlers = buildHandlers engines)
    (htype : workflow.runType = .legacy)
    (haccepted : checkTrigger workflow.runType request = .ok ()) :
    ¬ AlwaysDrivable executor fun now runId => triggered now runId workflow request := by
  refine not_alwaysDrivable haccepted (.unasserted .submitLegacy 0) fun books hstored => ?_
  apply wp_drive_of_start (startStep_triggered _ _ _ _)
  rw [htype]
  apply attended_advance_keeps
  have hhandler : executor.handlers .submitLegacy = some submitLegacyStep := by
    rw [hwired]
    rfl
  refine attended_raises { triggered 0 sampleId workflow request with
    status := .running, currentStep := some StepName.submitLegacy.value } books .assertionError
    hhandler rfl ?_ (fun _ _ => rfl) (by simp)
  decide

/-- An engine that is not bound is looked up in vain. -/
theorem attended_looks_up {answer : (call : Call) → call.Answer} {drive : DriveId}
    {run : WorkflowRun} {books : Books} {opens closes : Time} {attempt : Int}
    {engine : WorkflowEngineType} (hwired : executor.handlers = buildHandlers engines)
    (hengine : engine ∉ engines) (hvisit : closes - opens ≤ seconds 3600)
    (hvalue : run.runState.workflow.engineType = engine)
    (hattempt : run.runState.attempts .runEngine = attempt)
    (hnone : run.runState.attemptStartedAt = none) :
    (attended answer opens closes).alone.wp drive (executor.turn .runEngine) (fun _ _ final =>
      .logged drive (.stepRaised .runEngine attempt (.keyError engine.repr)) ∈ final.2)
      run books := by
  subst hvalue hattempt
  have hhandler : executor.handlers .runEngine = some (runEngineStep engines) := by
    rw [hwired]
    rfl
  refine attended_raises run books _ hhandler hnone hvisit (fun now started => ?_) (by simp)
  have hunbound : (stampedRun .runEngine now started run).runState.workflow.engineType ∉ engines :=
    hengine
  change runEngineExecute engines _ _ = _
  rw [runEngineExecute, Routine.read_bind, if_pos hunbound]
  rfl

/-- So is one that names an engine which is not bound. -/
theorem looks_up_in_vain (hwired : executor.handlers = buildHandlers engines)
    (htype : workflow.runType ≠ .legacy) (hengine : workflow.engineType ∉ engines)
    (haccepted : checkTrigger workflow.runType request = .ok ()) :
    ¬ AlwaysDrivable executor fun now runId => triggered now runId workflow request := by
  refine not_alwaysDrivable haccepted (.unbound 0 workflow.engineType) fun books hstored => ?_
  apply wp_drive_of_start (startStep_triggered _ _ _ _)
  cases hvalue : workflow.runType with
  | legacy => exact absurd hvalue htype
  | automation =>
      -- an automation run starts with its engine
      apply attended_advance_keeps
      apply attended_looks_up hwired hengine
      · decide
      · rfl
      · rfl
      · rfl
  | resource =>
      obtain ⟨hresource, -⟩ := checkTrigger_ok haccepted
      have hpreparing : Preparing (triggered 0 sampleId workflow request)
          { triggered 0 sampleId workflow request with
            status := .running, currentStep := some StepName.createTicket.value } := by
        refine ⟨⟨.refl, .refl _⟩, rfl, rfl, rfl, rfl, ?_⟩
        simpa [triggered, hvalue] using hresource hvalue
      have hplan : runPlans (triggered 0 sampleId workflow request).runType = runPlans .resource :=
        congrArg runPlans hvalue
      rw [hplan]
      refine attended_preparations hwired willing_cooperative ?_ ?_
        [.configureResource, .awaitApproval, .validateResource] .createTicket (by decide) hpreparing
        (by simp) (hstored.congr .refl rfl) (by simp [triggered]) ?_ ?_ ?_
      · decide
      · decide
      · rintro started handler (hstarted | ⟨-, hopens, -⟩) hhandler
        · cases hstarted
        · rw [hwired] at hhandler
          have hhour := hour_le_budget hhandler
          simp only [Time, seconds] at *
          omega
      · intro _ arrived newer harrived _ hnone _ _ _
        apply attended_advance_keeps
        apply attended_looks_up hwired hengine
        · decide
        · rw [← harrived.continues.2.1]
          rfl
        · rw [RunState.attempts, harrived.stepAttempts]
          rfl
        · exact hnone
      · exact fun hunapproved => absurd willing_approves hunapproved

end Violations

/-- An accepted request makes a drivable run exactly where its registration is not of
a legacy run and names an engine that is bound; a legacy request always does. -/
theorem accepted_drivable_iff (retryBase : Time) (defaultTeam : String) (workflow : Workflow)
    (request : TriggerRequest) (haccepted : checkTrigger workflow.runType request = .ok ()) :
    (AlwaysDrivable (.wired boundEngines retryBase defaultTeam)
        (fun now runId => triggered now runId workflow request) ↔
      workflow.runType ≠ .legacy ∧ workflow.engineType ∈ boundEngines) ∧
    ∀ legacy : LegacyRunRequest, AlwaysDrivable (.wired boundEngines retryBase defaultTeam)
      fun now runId => triggerLegacy now runId legacy := by
  refine ⟨⟨fun hdrivable => ⟨?_, ?_⟩, ?_⟩, fun legacy => ?_⟩
  · intro htype
    exact asserts_legacy rfl htype haccepted hdrivable
  · by_contra hengine
    by_cases htype : workflow.runType = .legacy
    · exact asserts_legacy rfl htype haccepted hdrivable
    · exact looks_up_in_vain rfl htype hengine haccepted hdrivable
  · rintro ⟨htype, hengine⟩
    refine alwaysDrivable_of_attributable rfl (fun _ _ => rfl) ?_ ?_
    · intro now runId step hattributable
      exact htype (hattributable.1 rfl).1
    · intro now runId message hattributable
      exact (hattributable.2 message rfl rfl).2 hengine
  · refine alwaysDrivable_of_attributable rfl (fun _ _ => rfl) ?_ ?_
    · intro now runId step hattributable
      cases (hattributable.1 rfl).2
    · intro now runId message hattributable
      exact (hattributable.2 message rfl rfl).1 rfl

section Examples

/-- A registration of legacy runs, which the schema lets through. -/
def legacyWorkflow : Workflow :=
  { resourceWorkflow with runType := .legacy }

/-- A resource registration with the bound engine. -/
theorem accepted_drivable_iff_resource :
    (AlwaysDrivable (.wired boundEngines (seconds 10) "cloud")
        (fun now runId => triggered now runId resourceWorkflow resourceSample) ↔
      resourceWorkflow.runType ≠ .legacy ∧ resourceWorkflow.engineType ∈ boundEngines) ∧
    AlwaysDrivable (.wired boundEngines (seconds 10) "cloud")
      fun now runId => triggerLegacy now runId legacySample :=
  have hsample := accepted_drivable_iff (seconds 10) "cloud" resourceWorkflow resourceSample rfl
  ⟨hsample.1, hsample.2 legacySample⟩

/-- A run of a legacy registration fails its handler's assert. -/
theorem accepted_undrivable :
    checkTrigger legacyWorkflow.runType resourceSample = .ok () ∧
      ¬ AlwaysDrivable (.wired boundEngines (seconds 10) "cloud")
        fun now runId => triggered now runId legacyWorkflow resourceSample :=
  ⟨rfl, asserts_legacy rfl rfl rfl⟩

end Examples

end CloudioOrchestrator

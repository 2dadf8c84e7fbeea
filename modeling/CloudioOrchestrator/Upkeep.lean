import CloudioOrchestrator.Narrative

/-! # Upkeep

A fact about the progress of a run that holds at every point of its drives, also
where they fail it, reject it or crash. It depends only on the progress that the
handlers make, so that the driver and the escalator leave it alone.
-/

namespace CloudioOrchestrator

open Interaction

/-- The states agree on the request, and on what the handlers have made of it
but for the engine run. -/
def RunState.SameProgress (first second : RunState) : Prop :=
  first.workflow = second.workflow ∧ first.ticketParams = second.ticketParams ∧
    first.workflowParams = second.workflowParams ∧ first.operation = second.operation ∧
    first.legacy = second.legacy ∧ first.resource = second.resource ∧
    first.ticket = second.ticket ∧ first.resourceConfigured = second.resourceConfigured ∧
    first.resourceFinalized = second.resourceFinalized

@[simp] protected theorem RunState.SameProgress.refl (state : RunState) :
    state.SameProgress state := by
  simp [SameProgress]

theorem RunState.SameProgress.sameRequest {first second : RunState}
    (hsame : first.SameProgress second) : first.SameRequest second := by
  obtain ⟨hworkflow, hticket, hparams, hoperation, hlegacy, hresource, -⟩ := hsame
  exact ⟨hworkflow, hticket, hparams, hoperation, hlegacy, by rw [hresource]⟩

/-- A retry starts from the progress as it was. -/
theorem retryState_sameProgress {engines : List WorkflowEngineType} {step : StepName}
    {handler : StepHandler} (hhandler : buildHandlers engines step = some handler)
    (state : RunState) :
    state.SameProgress (Executor.retryState handler (Executor.countAttempt step state)) := by
  simp only [Executor.retryState, resetForRetry_eq hhandler]
  split <;> simp [RunState.SameProgress, Executor.countAttempt, runEngineReset]

structure Upkeep (engines : List WorkflowEngineType) where
  /-- What holds of a run, in memory and stored. -/
  fact : Fact
  event : Event → History → Prop

  steady : ∀ {run changed history}, fact run history → run.SameOrigin changed →
    run.runState.SameProgress changed.runState → fact changed history
  born : ∀ {run older}, Newborn run → fact run (.created run :: older)
  created : ∀ run older, event (.created run) older
  loaded : ∀ drive run older, event (.loaded drive run) older
  saved : ∀ drive run older, event (.saved drive run) older
  logged : ∀ drive record older, event (.logged drive record) older
  aside : ∀ {drive : DriveId} {run issuer call older} answer applied, run.runId = drive.subject →
    HasOrigin run older → fact run older → AsideCall run.runState issuer call →
    event (.called drive issuer call answer applied) older
  called : ∀ {drive : DriveId} {step run call older} answer applied, run.runId = drive.subject →
    HasOrigin run older → fact run older → HandlerCall run run.runState step call →
    event (.called drive (.step step) call answer applied) older
  ended : ∀ {drive : DriveId} {step run trace outcome final history}, run.runId = drive.subject →
    fact run history → Recorded drive step trace history →
    HandlerEnd engines run run.runState step trace outcome final →
    fact { run with runState := final } history

namespace Upkeep

variable {engines : List WorkflowEngineType} (U : Upkeep engines)

def account : Account where
  row := U.fact
  event := U.event
  born := U.born
  rescheduled _ hrow := U.steady hrow .refl (.refl _)
  created := U.created
  loaded := U.loaded

/-- The fact holds of the run in memory. -/
abbrev kept (drive : DriveId) : Assertion U.account.discipline drive :=
  U.account.noting drive U.fact

section Outline

variable {U} {drive : DriveId} {executor : Executor} {run changed : WorkflowRun} {world : World}

theorem kept_imp (hrun : U.kept drive run world) (hsame : run.SameOrigin changed)
    (hprogress : run.runState.SameProgress changed.runState) : U.kept drive changed world :=
  Account.noting_imp hrun ⟨hsame, hprogress.sameRequest⟩ fun hfact =>
    U.steady hfact hsame hprogress

theorem kept_log {record : LogRecord} (hrun : U.kept drive run world)
    (hinv : U.account.Inv world) (hsame : run.SameOrigin changed)
    (hprogress : run.runState.SameProgress changed.runState) :
    Serves U.account.discipline drive (.log record) world fun _ final =>
      U.kept drive changed final :=
  Account.noting_log hrun hinv ⟨hsame, hprogress.sameRequest⟩ (U.logged drive record _) fun hfact =>
    U.fact.grows _ (U.steady hfact hsame hprogress)

theorem kept_aside {issuer : Issuer} {call : Call} (hrun : U.kept drive run world)
    (hinv : U.account.Inv world) (hcall : AsideCall run.runState issuer call) :
    Serves U.account.discipline drive (.provider issuer call) world fun _ final =>
      U.kept drive run final :=
  Account.noting_call hrun hinv fun answer applied =>
    U.aside answer applied hrun.1 hrun.2.1 hrun.2.2 hcall

theorem kept_save (hrun : U.kept drive run world) (hinv : U.account.Inv world)
    {post : (Op.runsSave run).Answer → World → Prop}
    (hpost : ∀ answer final, U.kept drive run final → post answer final) :
    Serves U.account.discipline drive (.runsSave run) world post := by
  refine Account.noting_save hrun hinv (fun event hfact => ?_) (fun hfact => ?_) hpost
  · exact U.fact.grows event (U.steady hfact .refl (.refl _))
  · exact U.saved drive _ _

/-- A handler keeps the fact through its calls and wherever it ends. -/
theorem kept_execute {step : StepName} {handler : StepHandler}
    (hhandler : buildHandlers engines step = some handler) (hrun : U.kept drive run world) :
    (U.account.discipline.through (S := Providers) (Op.provider (.step step))
        fun _ answer => answer).wp drive (handler.execute run)
      (fun _ state final => U.kept drive { run with runState := state } final)
      run.runState world := by
  refine Discipline.wp_mono (wp_handler
    (fun trace final => U.kept drive run final ∧ Recorded drive step trace final.history)
    hhandler ?_ ?_ ⟨hrun, by simp [Recorded]⟩) ?_
  · rintro trace world current ⟨hrun, hrecorded⟩ hrely hinv
    exact ⟨(U.kept drive).stable hrun hrely hinv, hrecorded.grows hrely.1⟩
  · rintro trace call world ⟨hrun, hrecorded⟩ hcall hinv
    refine serves_call fun answer applied _ => ?_
    obtain ⟨hkept, hguar, hnoted⟩ := Account.noting_record hrun hinv
      (.called drive (.step step) call answer applied) rfl
      (U.called answer applied hrun.1 hrun.2.1 hrun.2.2 hcall)
    exact ⟨hkept, hguar, hnoted, hrecorded.cons applied⟩
  · rintro outcome state final ⟨trace, ⟨hrun, hrecorded⟩, hend⟩
    exact Account.noting_imp hrun ⟨.refl, hend.sameRequest⟩ fun hfact =>
      U.ended hrun.1 hfact hrecorded hend

/-- The fact at every point of a drive. -/
def outline (U : Upkeep engines) (drive : DriveId)
    (hwired : executor.handlers = buildHandlers engines) :
    Outline U.account.discipline drive executor where
  fresh := U.kept drive
  turning _ := U.kept drive
  tried _ _ _ := U.kept drive
  raised _ _ := U.kept drive
  passed _ := U.kept drive
  denied := U.kept drive
  dismissed := U.kept drive
  failing _ := U.kept drive
  escalating _ := U.kept drive
  failed := U.kept drive
  released := U.kept drive
  pending := U.kept drive
  quiet := U.kept drive
  troubled _ := U.kept drive
  ended := U.kept drive
  wrecked _ := U.kept drive
  guar_refl world _ := ⟨.refl, trivial⟩
  utcnow := serve_utcnow drive
  uniform := serve_uniform drive
  start hrun _ := kept_imp hrun .refl (.refl _)
  badStart hrun _ := hrun
  unhandled hrun _ := hrun
  restamp _ _ hrun := kept_imp hrun .refl (.refl _)
  naive hrun := hrun
  deadline hrun := hrun
  execute hhandler hrun _ := by
    rw [hwired] at hhandler
    exact kept_execute hhandler hrun
  reject hrun := kept_imp hrun .refl (.refl _)
  release hrun hinv hcall := kept_aside hrun hinv (.aftermath (.release hcall))
  unheld hrun _ := hrun
  dismissed_pending hrun := hrun
  logRaised hrun _ hinv := kept_log hrun hinv .refl (.refl _)
  retry due hhandler hrun _ := by
    rw [hwired] at hhandler
    exact kept_imp hrun .refl (retryState_sameProgress hhandler _)
  retryOverflow hhandler hrun _ := by
    rw [hwired] at hhandler
    exact kept_imp hrun .refl (retryState_sameProgress hhandler _)
  giveUp hrun _ := kept_imp hrun .refl (.refl _)
  poll due hrun := kept_imp hrun .refl (.refl _)
  pollOverflow hrun := hrun
  logCompleted hrun hinv := kept_log hrun hinv .refl (.refl _)
  offPlan hrun _ := hrun
  next hrun _ _ := kept_imp hrun .refl (.refl _)
  finish hrun _ _ := kept_imp hrun .refl (.refl _)
  logEscalating hrun hinv := kept_log hrun hinv .refl (.refl _)
  openIncident request hrun hinv := (kept_aside hrun hinv (.incident request)).opened
    fun _ _ hfinal => kept_imp hfinal .refl (.refl _)
  escalating_failed hrun := hrun
  aftermath hrun hinv hcall := kept_aside hrun hinv (.aftermath hcall)
  ticketClosed hrun := kept_imp hrun .refl (.refl _)
  releaseFailed hrun hinv hcall := kept_aside hrun hinv (.aftermath (.release hcall))
  unheldFailed hrun _ := hrun
  released_pending hrun := hrun
  released_quiet hrun := hrun
  save hrun hinv := by
    refine kept_save hrun hinv fun answer final hkept => ?_
    split
    · exact kept_imp hkept .refl (.refl _)
    · exact hkept
    · exact hkept
  saveQuietly hrun hinv := by
    refine kept_save hrun hinv fun answer final hkept => ?_
    split
    · exact kept_imp hkept .refl (.refl _)
    · exact hkept
  unpersisted hrun _ hinv := kept_log hrun hinv .refl (.refl _)
  unnamed hrun _ _ _ := hrun
  crashed {error} run step world hrun _ _ hinv := by
    refine kept_log hrun hinv .refl ?_
    cases step <;> exact .refl _

end Outline

/-- Upkeep is kept by every interleaving of drives. -/
theorem reached_inv {executor : Executor} (hwired : executor.handlers = buildHandlers engines)
    (clock : Time) (moves : List (Move system)) :
    U.account.Inv (reached executor clock moves).world := by
  refine Account.reached_inv (fun drive world => ?_) clock moves
  exact Account.noting_load (outline U drive hwired) fun _ hrow =>
    Account.noting_imp hrow (.refl _) id

end Upkeep

end CloudioOrchestrator

import CloudioOrchestrator.Outline

/-! # Walking the driver

One rule for each function of the escalator and the driver: from what the
outline says at its start, what it says at its end.
-/

namespace CloudioOrchestrator

open Interaction Drive

variable {V : Service Operations UUID} {D : Discipline V} {client : Client UUID}
variable {run : WorkflowRun} {world : V.World}

/-- An operation performed where an assertion holds, of the run in memory or of
the run it came from. -/
theorem wp_perform_of (P : Assertion D client) {op : Op} {origin : WorkflowRun}
    {post : Except PyException op.Answer → WorkflowRun → V.World → Prop} (horigin : P origin world)
    (hserve : ∀ current, D.inv current → P origin current →
      Serves D client op current fun answer final => post (.ok answer) run final) :
    D.wp client (perform op) post run world := by
  intro current hrely hinv choice
  exact hserve current hinv (P.stable horigin hrely hinv) choice

theorem wp_issue_of (P : Assertion D client) {issuer : Issuer} {call : Call}
    {post : Except PyException call.Result → WorkflowRun → V.World → Prop} (hrun : P run world)
    (hserve : ∀ current, D.inv current → P run current →
      Serves D client (.provider issuer call) current fun answer final =>
        post (answer.mapError ProviderError.toException) run final) :
    D.wp client (issue issuer call) post run world := by
  simp only [issue, Discipline.wp_bind, Discipline.wp_ofExcept]
  exact wp_perform_of P hrun hserve

theorem wp_updateState {change : RunState → RunState}
    {post : Except PyException Unit → WorkflowRun → V.World → Prop} :
    D.wp client (updateState change) post run world ↔
      post (.ok ()) { run with runState := change run.runState } world := Iff.rfl

/-- Running a handler is running it in the part of the service it reaches. -/
theorem wp_onProviders {α : Type} {step : StepName} {body : Handling α}
    {post : Except PyException α → WorkflowRun → V.World → Prop} :
    D.wp client (onProviders step body) post run world ↔
      (D.through (S := Providers) (Op.provider (.step step)) fun _ answer => answer).wp client body
        (fun ended state final => post ended { run with runState := state } final)
        run.runState world := by
  change D.Safe client _ ((Prog.relabel _ _ _).bind _) world ↔ _
  rw [Discipline.safe_bind, Discipline.safe_relabel]
  rfl

/-- Whatever a handler does, it keeps what any call of its step keeps. -/
theorem wp_handling (P : Assertion D client) {α : Type} {step : StepName} {body : Handling α}
    {state : RunState} {origin : WorkflowRun} (horigin : P origin world)
    (hcall : ∀ call current, D.inv current → P origin current →
      Serves D client (.provider (.step step) call) current fun _ final => P origin final) :
    (D.through (S := Providers) (Op.provider (.step step)) fun _ answer => answer).wp client body
      (fun _ _ final => P origin final) state world := by
  refine Discipline.Safe.of_serves (S := Providers)
    (D := D.through (Op.provider (.step step)) fun _ answer => answer)
    (P := fun final => P origin final) (body state) ?_ ?_ horigin
  · exact fun hholds hrely hinv => P.stable hholds hrely hinv
  · exact fun call current choice hinv hholds => hcall call current hinv hholds choice

/-- Releasing the resource leads where each of its calls leads, or where having
nothing to release does. -/
theorem wp_releaseResource (P Q : Assertion D client) (hrun : P run world)
    (hunheld : Escalator.resourceInFlight run.runState = none → Q run world)
    (hrelease : ∀ current call, D.inv current → P run current → ReleaseCall run.runState call →
      Serves D client (.provider .release call) current fun _ final => Q run final) :
    D.wp client Escalator.releaseResource
      (fun ended object final => ended = .ok () ∧ object = run ∧ Q run final) run world := by
  simp only [Escalator.releaseResource, Discipline.wp_bind, Discipline.wp_read]
  split
  next hnone => exact ⟨rfl, rfl, hunheld hnone⟩
  next resource hresource =>
    simp only [Discipline.wp_bind, Discipline.wp_attempt, Discipline.wp_pure]
    split
    next hcreate =>
      refine wp_issue_of P hrun fun current hinv hcurrent choice => ?_
      obtain ⟨hkept, hguar, hfinal⟩ :=
        hrelease current _ hinv hcurrent (.delete hresource hcreate) choice
      exact ⟨hkept, hguar, trivial, rfl, hfinal⟩
    next hexisting =>
      refine wp_issue_of P hrun fun current hinv hcurrent choice => ?_
      obtain ⟨hkept, hguar, hfinal⟩ :=
        hrelease current _ hinv hcurrent (.ready hresource hexisting) choice
      exact ⟨hkept, hguar, trivial, rfl, hfinal⟩

/-- A delivery is safe if loading a run keeps the discipline, and driving it is
safe from where a run that is not terminal is loaded. -/
theorem safe_handle {executor : Executor} {runId : UUID} {fresh : WorkflowRun → V.World → Prop}
    {post : Except PyException Unit → WorkflowRun → V.World → Prop}
    (hdrive : ∀ {run world}, fresh run world →
      D.wp client executor.driveOrCrash post run world)
    (hload : ∀ current, D.rely client world current → D.inv current →
      Serves D client (.runsGet runId) current fun answer final =>
        ∀ run, answer = .ok (some run) → run.status.terminal = false → fresh run final) :
    D.Safe client (fun _ _ => True) (executor.handle runId) world := by
  intro current hrely hinv choice
  obtain ⟨hkept, hguar, hfresh⟩ := hload current hrely hinv choice
  refine ⟨hkept, hguar, ?_⟩
  simp only
  split
  next => trivial
  next => trivial
  next run hanswer =>
    split
    next => trivial
    next hopen =>
      rw [Discipline.safe_bind]
      exact (hdrive (hfresh run hanswer (by simpa using hopen))).mono fun _ _ _ => trivial

namespace Ending

variable {executor : Executor} (E : Ending D client)

section Escalation

/-- A call of an escalation's aftermath, whatever it answers. -/
theorem wp_aftermath {issuer : Issuer} {call : Call} (hrun : E.failed run world)
    (hcall : AftermathCall run.runState issuer call) :
    D.wp client (issue issuer call) (fun _ object final => object = run ∧ E.failed run final)
      run world := by
  refine wp_issue_of E.failed hrun fun current hinv hcurrent choice => ?_
  obtain ⟨hkept, hguar, hfinal⟩ := E.aftermath hcurrent hinv hcall choice
  exact ⟨hkept, hguar, rfl, hfinal⟩

theorem wp_logDocumentationIncident (defaultTeam group detail : String)
    (hrun : E.failed run world) :
    D.wp client (Escalator.logDocumentationIncident defaultTeam group detail)
      (fun ended object final => ended = .ok () ∧ object = run ∧ E.failed run final) run world := by
  simp only [Escalator.logDocumentationIncident]
  split
  next => exact ⟨rfl, rfl, hrun⟩
  next =>
    simp only [Discipline.wp_bind, Discipline.wp_pure, Discipline.wp_read,
      Discipline.wp_attempt, Discipline.wp_ofExcept]
    split
    next =>
      refine Discipline.wp_mono (E.wp_aftermath hrun (.documentation _)) ?_
      rintro (error | doc) object final ⟨rfl, hfinal⟩
      · exact ⟨trivial, rfl, hfinal⟩
      · refine Discipline.wp_mono (E.wp_aftermath hfinal (.documented doc)) ?_
        rintro (error | _) object final ⟨rfl, hfinal⟩ <;> exact ⟨trivial, rfl, hfinal⟩
    next => exact ⟨trivial, trivial, hrun⟩

/-- Raising the incident, when it could be described. -/
theorem wp_openIncident {error : PyException} {request : IncidentRequest}
    {post : Except PyException TicketRef → WorkflowRun → V.World → Prop}
    (hrun : E.escalating error run world)
    (hopened : ∀ opened final, E.failed { run with
      runState := { run.runState with incidentId := some opened.ticketId } } final →
      post (.ok opened) run final)
    (hraised : ∀ raised final, E.failed run final → post (.error raised) run final) :
    D.wp client (issue .escalation (.openIncident request)) post run world := by
  refine wp_issue_of (E.escalating error) hrun fun current hinv hcurrent choice => ?_
  obtain ⟨hkept, hguar, hfinal⟩ := E.openIncident request hcurrent hinv choice
  refine ⟨hkept, hguar, ?_⟩
  split at hfinal
  next opened hanswer =>
    rw [hanswer]
    exact hopened _ _ hfinal
  next error hanswer =>
    rw [hanswer]
    exact hraised _ _ hfinal

theorem wp_logEscalating {error : PyException}
    {post : Except PyException Unit → WorkflowRun → V.World → Prop}
    (hrun : E.failing error run world)
    (hpost : ∀ final, E.escalating error run final → post (.ok ()) run final) :
    D.wp client (log (.escalating error)) post run world := by
  refine wp_perform_of (E.failing error) hrun fun current hinv hcurrent choice => ?_
  obtain ⟨hkept, hguar, hfinal⟩ := E.logEscalating hcurrent hinv choice
  exact ⟨hkept, hguar, hpost _ hfinal⟩

theorem wp_openByPolicy {defaultTeam message : String} {error : PyException}
    (hrun : E.escalating error run world) :
    D.wp client (Escalator.openByPolicy defaultTeam message)
      (fun _ object final => E.failed object final) run world := by
  simp only [Escalator.openByPolicy, Discipline.wp_bind, Discipline.wp_read,
    Discipline.wp_ofExcept]
  split
  next =>
    refine E.wp_openIncident hrun ?_ fun raised final hfinal => hfinal
    intro opened final hfinal
    simp only [wp_updateState]
    refine Discipline.wp_mono (E.wp_logDocumentationIncident _ _ _ hfinal) ?_
    rintro _ object final ⟨-, rfl, hfinal⟩
    exact hfinal
  next => exact E.escalating_failed hrun

theorem wp_closeByPolicy {kind : FailureKind} (hrun : E.failed run world) :
    D.wp client (Escalator.closeByPolicy kind) (fun _ object final => E.failed object final)
      run world := by
  simp only [Escalator.closeByPolicy, Discipline.wp_bind, Discipline.wp_read]
  split
  next => exact hrun
  next ticket hticket =>
    simp only [Discipline.wp_bind]
    refine Discipline.wp_mono (E.wp_aftermath hrun (.close _ hticket)) ?_
    rintro (error | _) object final ⟨rfl, hfinal⟩
    · exact hfinal
    · exact E.ticketClosed hfinal

theorem wp_escalateByPolicy {defaultTeam message : String} {kind : FailureKind}
    (hrun : E.failing (.stepFailure message kind) run world) :
    D.wp client (Escalator.escalateByPolicy defaultTeam message kind)
      (fun _ object final => E.failed object final) run world := by
  simp only [Escalator.escalateByPolicy, Discipline.wp_bind]
  refine E.wp_logEscalating hrun fun final hfinal => ?_
  simp only
  split
  next =>
    simp only [Discipline.wp_bind]
    refine Discipline.wp_mono (E.wp_openByPolicy hfinal) ?_
    rintro (error | _) object final hfinal
    · exact hfinal
    · exact E.wp_closeByPolicy hfinal
  next => exact E.wp_closeByPolicy (E.escalating_failed hfinal)

theorem wp_escalateUnclassified {defaultTeam : String} {error : PyException}
    (hrun : E.failing error run world) :
    D.wp client (Escalator.escalateUnclassified defaultTeam error)
      (fun _ object final => E.failed object final) run world := by
  simp only [Escalator.escalateUnclassified, Discipline.wp_bind, Discipline.wp_read]
  refine E.wp_logEscalating hrun fun final hfinal => ?_
  simp only [Discipline.wp_ofExcept]
  split
  next =>
    refine E.wp_openIncident hfinal ?_ fun raised final hfinal => hfinal
    intro opened final hfinal
    simp only [wp_updateState]
    split
    next => exact hfinal
    next ticket hticket =>
      refine Discipline.wp_mono (E.wp_aftermath hfinal (.annotate _ hticket)) ?_
      rintro _ object final ⟨rfl, hfinal⟩
      exact hfinal
  next => exact E.escalating_failed hfinal

/-- Escalating never raises. -/
theorem wp_escalate {defaultTeam : String} {error : PyException}
    (hrun : E.failing error run world) :
    D.wp client (Escalator.escalate defaultTeam error)
      (fun ended object final => ended = .ok () ∧ E.released object final) run world := by
  have hrelease : ∀ {object : WorkflowRun} {final : V.World}, E.failed object final →
      D.wp client Escalator.releaseResource
        (fun ended object final => ended = .ok () ∧ E.released object final) object final := by
    intro object final hfailed
    refine Discipline.wp_mono (wp_releaseResource E.failed E.released hfailed
      (E.unheldFailed hfailed) fun current call hinv hcurrent hcall =>
        E.releaseFailed hcurrent hinv hcall) ?_
    rintro ended object final ⟨hended, rfl, hfinal⟩
    exact ⟨hended, hfinal⟩
  simp only [Escalator.escalate, Discipline.wp_bind, Discipline.wp_attempt]
  cases error with
  | stepFailure message kind =>
      exact Discipline.wp_mono (E.wp_escalateByPolicy hrun) fun _ _ _ => hrelease
  | _ => exact Discipline.wp_mono (E.wp_escalateUnclassified hrun) fun _ _ _ => hrelease

end Escalation

section Driver

/-- How the driving code ends: with the drive over, or in trouble. -/
def settled : Except PyException Unit → WorkflowRun → V.World → Prop
  | .ok () => E.ended
  | .error error => E.troubled error

theorem wp_save (hrun : E.pending run world) :
    D.wp client Executor.save E.settled run world := by
  simp only [Executor.save, Discipline.wp_bind, Discipline.wp_read]
  refine wp_perform_of E.pending hrun fun current hinv hcurrent choice => ?_
  obtain ⟨hkept, hguar, hfinal⟩ := E.save hcurrent hinv choice
  refine ⟨hkept, hguar, ?_⟩
  simp only
  split
  next version hanswer => rw [hanswer] at hfinal; exact hfinal
  next message hanswer => rw [hanswer] at hfinal; exact hfinal
  next error hstale hanswer =>
    rw [hanswer] at hfinal
    split at hfinal
    next hok => cases hok
    next message herror => exact absurd (Except.error.inj herror) (hstale message)
    next herror => exact Except.error.inj herror ▸ hfinal

theorem wp_saveQuietly (hrun : E.quiet run world) :
    D.wp client Executor.saveQuietly
      (fun ended object final => ended = .ok () ∧ E.wrecked (.ok ()) object final) run world := by
  simp only [Executor.saveQuietly, Executor.save, Discipline.wp_bind, Discipline.wp_attempt,
    Discipline.wp_read]
  refine wp_perform_of E.quiet hrun fun current hinv hcurrent choice => ?_
  obtain ⟨hkept, hguar, hfinal⟩ := E.saveQuietly hcurrent hinv choice
  refine ⟨hkept, hguar, ?_⟩
  simp only
  split
  next version hanswer => rw [hanswer] at hfinal; exact ⟨rfl, hfinal⟩
  next message hanswer => rw [hanswer] at hfinal; exact ⟨rfl, hfinal⟩
  next error hstale hanswer => rw [hanswer] at hfinal; exact ⟨rfl, hfinal⟩

theorem wp_rejectRun {step : StepName} {message : String}
    (hrun : E.denied (rejectedRun step message run) world) :
    D.wp client (Executor.rejectRun step message) E.settled run world := by
  simp only [Executor.rejectRun, Escalator.reject, Discipline.wp_bind, wp_updateState,
    Discipline.wp_update]
  refine Discipline.wp_mono (wp_releaseResource E.denied E.dismissed hrun (E.unheld hrun)
    fun current call hinv hcurrent hcall => E.release hcurrent hinv hcall) ?_
  rintro _ object final ⟨rfl, rfl, hfinal⟩
  exact E.wp_save (E.dismissed_pending hfinal)

theorem wp_failStep {step : StepName} {error : PyException}
    (hrun : E.failing error (failedRun step error run) world) :
    D.wp client (executor.failStep step error) E.settled
      { run with runState := Executor.countAttempt step run.runState } world := by
  simp only [Executor.failStep, Discipline.wp_bind, wp_updateState, Discipline.wp_update]
  refine Discipline.wp_mono (E.wp_escalate hrun) ?_
  rintro _ object final ⟨rfl, hfinal⟩
  exact E.wp_save (E.released_pending hfinal)

theorem wp_crash {error : PyException} (hrun : E.troubled error run world) :
    D.wp client (executor.crash error) (fun ended => E.wrecked ended) run world := by
  have hescalate : ∀ {object : WorkflowRun} {final : V.World}, E.failing error object final →
      D.wp client (do
        Escalator.escalate executor.defaultTeam error
        Executor.saveQuietly) (fun ended => E.wrecked ended) object final := by
    intro object final hfailing
    simp only [Discipline.wp_bind]
    refine Discipline.wp_mono (E.wp_escalate hfailing) ?_
    rintro _ object final ⟨rfl, hreleased⟩
    refine Discipline.wp_mono (E.wp_saveQuietly (E.released_quiet hreleased)) ?_
    rintro _ object final ⟨rfl, hended⟩
    exact hended
  simp only [Executor.crash, Discipline.wp_bind, Discipline.wp_read]
  -- a run that is FAILED already was escalated, and only its save went wrong
  split
  next hfailed =>
    simp only [Discipline.wp_bind]
    refine wp_perform_of _ hrun fun current hinv hcurrent choice => ?_
    obtain ⟨hkept, hguar, hquiet⟩ := E.unpersisted hcurrent hfailed hinv choice
    refine ⟨hkept, hguar, Discipline.wp_mono (E.wp_saveQuietly hquiet) ?_⟩
    rintro _ object final ⟨rfl, hended⟩
    exact hended
  next hopen =>
    have hcrashed : ∀ step, namedStep run.currentStep = some step →
        D.wp client (do
          log (.crashed error)
          Escalator.escalate executor.defaultTeam error
          Executor.saveQuietly) (fun ended => E.wrecked ended)
              (crashedRun step error run) world := by
      intro step hstep
      rw [Discipline.wp_bind]
      refine wp_perform_of _ hrun fun current hinv hcurrent choice => ?_
      obtain ⟨hkept, hguar, hfailing⟩ := E.crashed hcurrent hopen hstep hinv choice
      exact ⟨hkept, hguar, hescalate hfailing⟩
    split
    next hnone => exact hcrashed none (by simp [namedStep, hnone])
    next text htext =>
      cases hname : StepName.ofValue text with
      | some step =>
          have hnamed : stepNamed text = .ok step := by simp [stepNamed, hname]
          rw [hnamed]
          exact hcrashed (some step) (by simp [namedStep, htext, hname])
      | none =>
          have hunnamed : stepNamed text =
              .error (.valueError ("'" ++ text ++ "' is not a valid StepName")) := by
            simp [stepNamed, hname]
          rw [hunnamed]
          exact E.unnamed hrun hopen htext hunnamed

/-- A delivery ends with the drive over, or with the crash path over. -/
def handled (ended : Except PyException Unit) (run : WorkflowRun) (world : V.World) : Prop :=
  ended = .ok () ∧ E.ended run world ∨ E.wrecked ended run world

end Driver

end Ending

namespace Outline

variable {executor : Executor} (O : Outline D client executor)

include O in
/-- Reading the clock where an assertion holds. -/
theorem wp_utcnow (P : Assertion D client)
    {post : Except PyException Time → WorkflowRun → V.World → Prop} {origin : WorkflowRun}
    (horigin : P origin world)
    (hpost : ∀ now final, D.inv final → P origin final → post (.ok now) run final) :
    D.wp client (perform .utcnow) post run world := by
  refine wp_perform_of P horigin fun current hinv hcurrent choice => ?_
  rw [O.utcnow]
  exact ⟨hinv, O.guar_refl current hinv, hpost _ _ hinv hcurrent⟩

include O in
theorem wp_uniform (P : Assertion D client)
    {post : Except PyException Time → WorkflowRun → V.World → Prop} {origin : WorkflowRun}
    (horigin : P origin world)
    (hpost : ∀ jitter final, D.inv final → P origin final → post (.ok jitter) run final) :
    D.wp client (perform .uniform) post run world := by
  refine wp_perform_of P horigin fun current hinv hcurrent choice => ?_
  rw [O.uniform]
  exact ⟨hinv, O.guar_refl current hinv, hpost _ _ hinv hcurrent⟩

theorem wp_schedule (P : Assertion D client) {delay : Time} {origin : WorkflowRun}
    (horigin : P origin world)
    (hdue : ∀ due final, P origin final → O.pending { run with scheduledAt := some due } final)
    (hoverflow : ∀ overflow final, P origin final → O.troubled overflow run final) :
    D.wp client (Executor.schedule delay) O.settled run world := by
  simp only [Executor.schedule, Discipline.wp_bind, Discipline.wp_ofExcept,
    Discipline.wp_update]
  refine O.wp_utcnow P horigin fun now final hinv hfinal => ?_
  simp only
  split
  next due hlater => exact O.wp_save (hdue due final hfinal)
  next overflow hlater => exact hoverflow overflow final hfinal

@[simp] theorem countAttempt_attempts (step : StepName) (state : RunState) :
    (Executor.countAttempt step state).attempts step = state.attempts step + 1 := by
  simp [Executor.countAttempt, RunState.attempts]

theorem wp_onStepError {step : StepName} {handler : StepHandler} {error : PyException}
    (hhandler : executor.handlers step = some handler) (hrun : O.raised step error run world) :
    D.wp client (executor.onStepError step handler error) O.settled run world := by
  simp only [Executor.onStepError, Discipline.wp_bind, wp_updateState, Discipline.wp_read,
    countAttempt_attempts]
  split
  next hretry =>
    simp only [Discipline.wp_bind, wp_updateState]
    refine O.wp_uniform _ hrun fun jitter final hinv hfinal => ?_
    exact O.wp_schedule _ hfinal
      (fun due final hraised => O.retry due hhandler hraised hretry)
      fun overflow final hraised => O.retryOverflow hhandler hraised hretry
  next hretry => exact O.wp_failStep (O.giveUp hrun hretry)

/-- A step's error, put on record and dealt with. -/
theorem wp_stepRaised {step : StepName} {handler : StepHandler} {attempt : Int}
    {error : PyException} (hhandler : executor.handlers step = some handler)
    (hrun : O.tried step attempt (.error error) run world)
    (herror : ∀ message, error ≠ .runRejected message) :
    D.wp client (do
      log (.stepRaised step attempt error)
      executor.onStepError step handler error) O.settled run world := by
  simp only [Discipline.wp_bind]
  refine wp_perform_of _ hrun fun current hinv hcurrent choice => ?_
  obtain ⟨hkept, hguar, hraised⟩ := O.logRaised hcurrent herror hinv choice
  exact ⟨hkept, hguar, O.wp_onStepError hhandler hraised⟩

/-- Stamping leaves the run at its step, and leaves what the plan depends on. -/
theorem wp_stamp {step : StepName} (hrun : O.turning step run world) :
    D.wp client (Executor.stamp step) (fun ended object final =>
      (∃ started, ended = .ok started) ∧ object.runType = run.runType ∧
        O.turning step object final) run world := by
  simp only [Executor.stamp, Discipline.wp_bind, wp_updateState, Discipline.wp_read]
  refine O.wp_utcnow _ hrun fun now final hinv hfinal => ?_
  have hstamped := O.restamp (run.runState.stepStartedAt.setDefault step (.aware now))
    run.runState.attemptStartedAt hfinal
  simp only
  split
  next started hstarted => exact ⟨⟨started, rfl⟩, rfl, hstamped⟩
  next =>
    simp only [Discipline.wp_bind, wp_updateState]
    refine O.wp_utcnow _ hstamped fun later final hinv hfinal => ?_
    exact ⟨⟨_, rfl⟩, rfl, O.restamp _ (some (.aware later)) hfinal⟩

theorem wp_attemptStep {step : StepName} {handler : StepHandler} {started : Time}
    (hhandler : executor.handlers step = some handler) (hrun : O.turning step run world) :
    D.wp client (Executor.attemptStep step handler (.aware started)) (fun ended object final =>
      object.runType = run.runType ∧
        O.tried step (run.runState.attempts step) ended object final) run world := by
  simp only [Executor.attemptStep, Discipline.wp_bind, Discipline.wp_ofExcept, elapsed]
  refine O.wp_utcnow _ hrun fun now final hinv hfinal => ?_
  simp only
  split
  next =>
    simp only [Discipline.wp_bind, Discipline.wp_raise]
    exact ⟨trivial, O.deadline hfinal⟩
  next =>
    simp only [Discipline.wp_bind, Discipline.wp_read, wp_onProviders]
    exact Discipline.wp_mono (O.execute hhandler hfinal hinv) fun ended state final htried =>
      ⟨trivial, htried⟩

/-- How one turn ends: the step is passed, the drive is over, or it is in trouble. -/
def turned (step : StepName) : Except PyException Bool → WorkflowRun → V.World → Prop
  | .ok true => O.passed step
  | .ok false => O.ended
  | .error error => O.troubled error

/-- What ends the drive within a turn ends the turn. -/
theorem wp_lastly {step : StepName} {runType : RunType} {body : Drive Unit}
    (hbody : D.wp client body O.settled run world) :
    D.wp client (do body; return false) (fun ended object final =>
      O.turned step ended object final ∧ (ended = .ok true → object.runType = runType))
      run world := by
  simp only [Discipline.wp_bind, Discipline.wp_pure]
  refine Discipline.wp_mono hbody ?_
  rintro (error | _) object final hfinal
  · exact ⟨hfinal, by simp⟩
  · exact ⟨hfinal, by simp⟩

theorem wp_turn {step : StepName}
    (hrun : O.turning step { run with currentStep := some step.value } world) :
    D.wp client (executor.turn step) (fun ended object final =>
      O.turned step ended object final ∧ (ended = .ok true → object.runType = run.runType))
      run world := by
  simp only [Executor.turn, Discipline.wp_bind, Discipline.wp_update]
  split
  next hmissing => exact ⟨O.unhandled hrun hmissing, by simp⟩
  next handler hhandler =>
    simp only [Discipline.wp_bind]
    refine Discipline.wp_mono (O.wp_stamp hrun) ?_
    rintro _ object final ⟨⟨started, rfl⟩, htype, hturning⟩
    simp only [Discipline.wp_read, Discipline.wp_ofExcept, Discipline.wp_attempt]
    refine O.wp_utcnow _ hturning fun now final hinv hfinal => ?_
    cases started with
    | naive started => exact ⟨O.naive hfinal, by simp⟩
    | aware started =>
        refine Discipline.wp_mono (O.wp_attemptStep hhandler hfinal) ?_
        -- what `_attempt` came to: done, not done yet, or one of the two kinds of error
        rintro ended object final ⟨htype', htried⟩
        rw [← htype, ← htype']
        cases ended with
        | ok done =>
            cases done with
            | true =>
                simp only [Discipline.wp_bind, wp_updateState, Discipline.wp_pure]
                refine wp_perform_of _ htried fun current hinv hcurrent choice => ?_
                obtain ⟨hkept, hguar, hpassed⟩ := O.logCompleted hcurrent hinv choice
                exact ⟨hkept, hguar, hpassed, fun _ => rfl⟩
            | false =>
                exact O.wp_lastly (O.wp_schedule _ htried (fun due final => O.poll due)
                  fun overflow final => O.pollOverflow)
        | error error =>
            cases error with
            | runRejected message => exact O.wp_lastly (O.wp_rejectRun (O.reject htried))
            | _ => exact O.wp_lastly (O.wp_stepRaised hhandler htried (by simp))

/-- One turn and what follows it, for a step on the plan and for one off it. -/
theorem wp_proceed {step : StepName} {andThen : Drive Unit}
    (hrun : O.turning step { run with currentStep := some step.value } world)
    (hthen : ∀ object final, O.passed step object final → object.runType = run.runType →
      step ∈ runPlans run.runType → D.wp client andThen O.settled object final) :
    D.wp client (executor.proceed (runPlans run.runType) step andThen) O.settled run world := by
  simp only [Executor.proceed, Discipline.wp_bind]
  refine Discipline.wp_mono (O.wp_turn hrun) ?_
  rintro (error | _ | _) object final ⟨hturned, htype⟩
  · exact hturned
  · exact hturned
  · simp only [if_true]
    split
    next hoff => exact O.offPlan hturned (htype rfl ▸ hoff)
    next hon => exact hthen object final hturned (htype rfl) (by simpa using hon)

/-- The loop, by induction on what the plan still has after the step. -/
theorem wp_advance (run : WorkflowRun) {step : StepName} {rest : List StepName}
    (hrest : following (runPlans run.runType) step = rest)
    (hrun : O.turning step { run with currentStep := some step.value } world) :
    D.wp client (executor.advance (runPlans run.runType) rest step) O.settled run world := by
  induction rest generalizing step run world with
  | nil =>
      refine O.wp_proceed hrun fun object final hpassed htype hstep => ?_
      rw [← htype] at hrest hstep
      exact O.wp_save (O.finish hpassed hstep hrest)
  | cons next rest ih =>
      refine O.wp_proceed hrun fun object final hpassed htype hstep => ?_
      rw [← htype] at hrest hstep ⊢
      obtain ⟨-, hfollowing, -⟩ := following_eq_cons (runPlans_nodup _) hstep hrest
      exact ih object hfollowing (O.next hpassed hstep hrest)

theorem wp_drive (hrun : O.fresh run world) :
    D.wp client executor.drive O.settled run world := by
  simp only [Executor.drive, Discipline.wp_bind, Discipline.wp_read, Discipline.wp_ofExcept,
    Discipline.wp_update]
  split
  next step hstart =>
    have hstarted := O.start hrun hstart
    exact O.wp_advance { run with status := .running, currentStep := some step.value } rfl hstarted
  next error hstart => exact O.badStart hrun hstart

theorem wp_driveOrCrash (hrun : O.fresh run world) :
    D.wp client executor.driveOrCrash O.handled run world := by
  simp only [Executor.driveOrCrash, Discipline.wp_bind, Discipline.wp_attempt]
  refine Discipline.wp_mono (O.wp_drive hrun) ?_
  rintro (error | _) object final hsettled
  · exact Discipline.wp_mono (O.wp_crash hsettled) fun _ _ _ hwrecked => .inr hwrecked
  · exact .inl ⟨rfl, hsettled⟩

/-- A delivery is handled safely if loading a run keeps the discipline and a
run that is not terminal is fresh. -/
theorem handle_safe {runId : UUID}
    (hload : ∀ current, D.rely client world current → D.inv current →
      Serves D client (.runsGet runId) current fun answer final =>
        ∀ run, answer = .ok (some run) → run.status.terminal = false → O.fresh run final) :
    D.Safe client (fun _ _ => True) (executor.handle runId) world :=
  safe_handle (fun hrun => O.wp_driveOrCrash hrun) hload

end Outline

end CloudioOrchestrator

import CloudioOrchestrator.Keys
import CloudioOrchestrator.PlanOrder
import CloudioOrchestrator.Vigil
import Mathlib.Data.List.TakeWhile

/-! # Engine runs

A retry of RUN_ENGINE forgets the engine run of the attempt before it, and asks
for another under a new key, whatever the error was. No two engine runs of a
request are live as long as the step is retried only where the attempt's engine
run, if there is one, was reported failed; for the engine's own reports of a
failure, that is always so.
-/

namespace CloudioOrchestrator

open Interaction Vigil

/-- The event asks the engine for a run. -/
def asksEngine (runId : UUID) : Event → Bool
  | .called drive _ (.triggerWorkflow ..) _ _ => drive.subject = runId
  | _ => false

/-- The engine accepted a run under the key, whether or not it got to say so. -/
def Accepted (runId : UUID) (key : String) (history : History) : Prop :=
  ∃ (drive : DriveId) (issuer : Issuer) (engine : WorkflowEngineType) (automationId : String)
    (params : Json) (answer : _), drive.subject = runId ∧
    .called drive issuer (.triggerWorkflow engine automationId params key) answer true ∈ history

/-- The engine answered the trigger of a key with the id. -/
def Named (runId : UUID) (engine : WorkflowEngineType) (automationId key engineRunId : String)
    (history : History) : Prop :=
  ∃ params, Answered runId (.step .runEngine) (.triggerWorkflow engine automationId params key)
    (.ok engineRunId) history

/-- The engine run of a key was asked after, under the id the engine gave it, and
reported to have failed. -/
def ReportedFailed (runId : UUID) (key : String) (history : History) : Prop :=
  ∃ newer drive engine automationId engineRunId applied older,
    history = newer ++ .called drive (.step .runEngine)
      (.queryRunStatus engine automationId engineRunId) (.ok .failed) applied :: older ∧
    drive.subject = runId ∧ Named runId engine automationId key engineRunId older

/-- Whenever the engine is asked for a run of the request, every engine run it had
accepted under another key had been reported failed. -/
def OneLive (runId : UUID) (history : History) : Prop :=
  Throughout (fun event older => ∀ drive issuer engine automationId params key answer applied,
    event = .called drive issuer (.triggerWorkflow engine automationId params key) answer applied →
    drive.subject = runId → ∀ other, other ≠ key → Accepted runId other older →
    ReportedFailed runId other older) history

/-- RUN_ENGINE is retried, for an error that is not the engine's own report of a
failure, only where the attempt's engine run, if there is one, had been reported failed. -/
def Patient (runId : UUID) (history : History) : Prop :=
  Throughout (fun event older => ∀ drive attempt error origin,
    event = .logged drive (.stepRaised .runEngine attempt error) → drive.subject = runId →
    .created origin ∈ older → origin.runId = runId →
      mayRetry error (attempt + 1) origin.maxRetries →
    (∀ message kind, error ≠ .stepFailure message kind) →
    Accepted runId (attemptKey origin attempt) older →
    ReportedFailed runId (attemptKey origin attempt) older) history

section History

variable {runId : UUID} {key : String} {event : Event} {older : History}

theorem asksEngine_subject (hevent : asksEngine runId event) : event.subject = runId := by
  unfold asksEngine at hevent
  split at hevent
  next drive _ _ _ _ _ _ _ =>
    change drive.subject = runId
    simpa using hevent
  next => cases hevent

theorem ReportedFailed.cons (event : Event) (hfailed : ReportedFailed runId key older) :
    ReportedFailed runId key (event :: older) := by
  obtain ⟨newer, drive, engine, automationId, engineRunId, applied, oldest, rfl, hfailed⟩ := hfailed
  exact ⟨event :: newer, drive, engine, automationId, engineRunId, applied, oldest, rfl, hfailed⟩

theorem Named.cons {engine : WorkflowEngineType} {automationId engineRunId : String} (event : Event)
    (hnamed : Named runId engine automationId key engineRunId older) :
    Named runId engine automationId key engineRunId (event :: older) := by
  obtain ⟨params, hanswered⟩ := hnamed
  exact ⟨params, hanswered.grows event⟩

/-- Only a trigger is accepted. -/
theorem Accepted.of_cons (haccepted : Accepted runId key (event :: older))
    (hevent : asksEngine runId event = false) : Accepted runId key older := by
  obtain ⟨drive, issuer, engine, automationId, params, answer, hsubject, hcalled⟩ := haccepted
  rcases List.mem_cons.mp hcalled with rfl | hold
  · simp [asksEngine, hsubject] at hevent
  · exact ⟨drive, issuer, engine, automationId, params, answer, hsubject, hold⟩

/-- What is accepted is what was triggered, or was accepted before. -/
theorem Accepted.of_trigger {drive : DriveId} {issuer : Issuer} {engine : WorkflowEngineType}
    {automationId other : String} {params : Json}
    {answer : (Call.triggerWorkflow engine automationId params other).Answer} {applied : Bool}
    (haccepted : Accepted runId key (.called drive issuer
      (.triggerWorkflow engine automationId params other) answer applied :: older)) :
    key = other ∨ Accepted runId key older := by
  obtain ⟨drive, issuer, engine, automationId, params, answer, hsubject, hcalled⟩ := haccepted
  rcases List.mem_cons.mp hcalled with heq | hold
  · cases heq
    exact .inl rfl
  · exact .inr ⟨drive, issuer, engine, automationId, params, answer, hsubject, hold⟩

theorem OneLive.cons (hlive : OneLive runId older) (hevent : asksEngine runId event = false) :
    OneLive runId (event :: older) := by
  refine ⟨?_, hlive⟩
  rintro drive issuer engine automationId params key answer applied rfl hsubject
  simp [asksEngine, hsubject] at hevent

/-- No handler but the engine's own asks the engine for a run. -/
theorem HandlerCall.asksEngine {run : WorkflowRun} {state : RunState} {step : StepName}
    {call : Call}
    {drive : DriveId} {answer : call.Answer} {applied : Bool} (hstep : step ≠ .runEngine)
    (hcall : HandlerCall run state step call) :
    asksEngine runId (.called drive (.step step) call answer applied) = false := by
  cases hcall <;> first | rfl | exact absurd rfl hstep

theorem AsideCall.asksEngine {state : RunState} {issuer : Issuer} {call : Call}
    {drive : DriveId} {answer : call.Answer} {applied : Bool}
    (hcall : AsideCall state issuer call) :
    CloudioOrchestrator.asksEngine runId (.called drive issuer call answer applied) = false := by
  cases hcall with
  | incident request => rfl
  | aftermath hcall =>
      cases hcall with
      | release hcall => cases hcall <;> rfl
      | _ => rfl

end History

/-- The key of the run's present attempt. -/
abbrev presentKey (run : WorkflowRun) : String :=
  attemptKey run (run.runState.attempts .runEngine)

/-- The engine runs accepted for a run are those of its attempts so far, the
earlier of which were reported failed; the id it holds is that of the present one. -/
structure Tracked (run : WorkflowRun) (history : History) : Prop where
  accepted : ∀ key, Accepted run.runId key history →
    ∃ attempt ≤ run.runState.attempts .runEngine, key = attemptKey run attempt ∧
      (attempt < run.runState.attempts .runEngine → ReportedFailed run.runId key history)
  named : ∀ engineRunId, run.runState.engineRunId = some engineRunId →
    Named run.runId run.runState.workflow.engineType run.runState.workflow.automationId
      (presentKey run) engineRunId history

section Tracked

variable {run : WorkflowRun} {older : History} {event : Event}

theorem Tracked.cons (htracked : Tracked run older) (hevent : asksEngine run.runId event = false) :
    Tracked run (event :: older) where
  accepted key haccepted := by
    obtain ⟨attempt, hle, hkey, hfailed⟩ := htracked.accepted key (haccepted.of_cons hevent)
    exact ⟨attempt, hle, hkey, fun hlt => (hfailed hlt).cons event⟩
  named engineRunId hid := (htracked.named engineRunId hid).cons event

/-- Triggering the engine under the key of the run's present attempt. -/
theorem Tracked.trigger {drive : DriveId} {issuer : Issuer} {engine : WorkflowEngineType}
    {automationId : String} {params : Json} {key : String}
    {answer : (Call.triggerWorkflow engine automationId params key).Answer} {applied : Bool}
    (htracked : Tracked run older) (hkey : key = presentKey run) :
    Tracked run (.called drive issuer (.triggerWorkflow engine automationId params key) answer
      applied :: older) where
  accepted other haccepted := by
    rcases haccepted.of_trigger with rfl | hold
    · exact ⟨_, Int.le_refl _, hkey, fun hlt => absurd hlt (Int.lt_irrefl _)⟩
    · obtain ⟨attempt, hle, hother, hfailed⟩ := htracked.accepted other hold
      exact ⟨attempt, hle, hother, fun hlt => (hfailed hlt).cons _⟩
  named engineRunId hid := (htracked.named engineRunId hid).cons _

/-- What was accepted under other keys than that of the present attempt has failed. -/
theorem Tracked.failed {other : String} (htracked : Tracked run older)
    (hother : other ≠ presentKey run) (haccepted : Accepted run.runId other older) :
    ReportedFailed run.runId other older := by
  obtain ⟨attempt, hle, rfl, hfailed⟩ := htracked.accepted other haccepted
  apply hfailed
  rcases Int.lt_or_eq_of_le hle with hlt | rfl
  · exact hlt
  · exact absurd rfl hother

theorem Tracked.congr {changed : WorkflowRun} (htracked : Tracked run older)
    (hsame : run.Continues changed)
    (hattempts : changed.runState.attempts .runEngine = run.runState.attempts .runEngine)
    (hnamed : ∀ engineRunId, changed.runState.engineRunId = some engineRunId →
      run.runState.engineRunId = some engineRunId ∨
      Named run.runId run.runState.workflow.engineType run.runState.workflow.automationId
        (presentKey run) engineRunId older) : Tracked changed older := by
  obtain ⟨⟨hid, -⟩, hworkflow, -⟩ := hsame
  have hkey : ∀ attempt, attemptKey changed attempt = attemptKey run attempt := by
    simp [attemptKey, hid]
  refine ⟨fun key haccepted => ?_, fun engineRunId hsome => ?_⟩
  · rw [hattempts, ← hid]
    rw [← hid] at haccepted
    simp only [hkey]
    exact htracked.accepted key haccepted
  · rw [presentKey, hattempts, hkey, ← hid, ← hworkflow]
    rcases hnamed engineRunId hsome with hkept | hnew
    · exact htracked.named engineRunId hkept
    · exact hnew

/-- Retrying the step, where the engine run of the attempt had been reported failed. -/
theorem Tracked.retry {changed : WorkflowRun} (htracked : Tracked run older)
    (hid : changed.runId = run.runId)
    (hattempts : changed.runState.attempts .runEngine = run.runState.attempts .runEngine + 1)
    (hreset : changed.runState.engineRunId = none)
    (hfailed : Accepted run.runId (presentKey run) older →
      ReportedFailed run.runId (presentKey run) older) : Tracked changed older := by
  have hkey : ∀ attempt, attemptKey changed attempt = attemptKey run attempt := by
    simp [attemptKey, hid]
  refine ⟨fun key haccepted => ?_, fun engineRunId hsome => ?_⟩
  · rw [hid] at haccepted ⊢
    obtain ⟨attempt, hle, rfl, hearlier⟩ := htracked.accepted key haccepted
    refine ⟨attempt, by omega, (hkey attempt).symm, fun _ => ?_⟩
    rcases Int.lt_or_eq_of_le hle with hlt | rfl
    · exact hearlier hlt
    · exact hfailed haccepted
  · rw [hreset] at hsome
    cases hsome

end Tracked

/-- RUN_ENGINE is not behind the step. -/
def Ahead (step : StepName) (run : WorkflowRun) : Prop :=
  .runEngine ∉ preceding (runPlans run.runType) step

theorem ahead_runEngine (run : WorkflowRun) : Ahead .runEngine run := by
  intro hmem
  simpa using List.mem_takeWhile_imp hmem

/-- What is ahead of a step, and is not that step, is ahead of the one before it. -/
theorem Ahead.of_next {step next : StepName} {rest : List StepName} {run : WorkflowRun}
    (hahead : Ahead next run) (hstep : step ∈ runPlans run.runType)
    (hnext : following (runPlans run.runType) step = next :: rest) :
    Ahead step run ∧ step ≠ .runEngine := by
  obtain ⟨-, -, hpreceding⟩ := following_eq_cons (runPlans_nodup _) hstep hnext
  unfold Ahead at *
  rw [hpreceding] at hahead
  simpa [eq_comm] using hahead

/-- A drive of the run may yet come to RUN_ENGINE. -/
def Facing (run : WorkflowRun) : Prop :=
  run.status.terminal = false ∧ ∃ step, Executor.startStep run = .ok step ∧ Ahead step run

theorem oneLive_of_silent {runId : UUID} {history : History}
    (hsilent : ∀ event ∈ history, event.subject ≠ runId) : OneLive runId history := by
  induction history with
  | nil => trivial
  | cons event older ih =>
      refine (ih fun other hother => hsilent other (List.mem_cons_of_mem _ hother)).cons ?_
      by_contra hasks
      exact hsilent event List.mem_cons_self (asksEngine_subject (by simpa using hasks))

theorem tracked_of_silent {run : WorkflowRun} {history : History}
    (hsilent : ∀ event ∈ history, event.subject ≠ run.runId)
    (hnone : run.runState.engineRunId = none) : Tracked run history where
  accepted key haccepted := by
    obtain ⟨drive, issuer, engine, automationId, params, answer, hsubject, hcalled⟩ := haccepted
    exact absurd hsubject (hsilent _ hcalled)
  named engineRunId hsome := by
    rw [hnone] at hsome
    cases hsome

/-- The vigil over the engine runs of a request. -/
def engineRuns : Vigil where
  matters := asksEngine
  subject := asksEngine_subject
  row run history := Patient run.runId history →
    OneLive run.runId history ∧ (Facing run → Tracked run history)
  born {run older} hrun hnew _ := by
    have hlive : OneLive run.runId (.created run :: older) := (oneLive_of_silent hnew).cons rfl
    exact ⟨hlive, fun _ => (tracked_of_silent hnew hrun.markers.1).cons rfl⟩
  rescheduled _ hrow hpatient := by
    obtain ⟨hlive, htracked⟩ := hrow hpatient
    refine ⟨hlive, fun hfacing => ?_⟩
    exact (htracked hfacing).congr (.refl _) rfl fun _ hkept => .inl hkept
  lasting event hevent _ hrow hpatient := by
    obtain ⟨hlive, htracked⟩ := hrow hpatient.2
    exact ⟨hlive.cons hevent, fun hfacing => (htracked hfacing).cons hevent⟩

/-- The stored row counts the attempts at the engine as the run in memory does. -/
def Level (run row : WorkflowRun) : Prop :=
  row.runState.attempts .runEngine = run.runState.attempts .runEngine

/-- At a step, and where a condition is met: the engine runs of the run are
tracked, in memory as in its row, and something more is known. -/
def during (step : StepName) (condition : WorkflowRun → Prop)
    (fact : WorkflowRun → History → Prop)
    (hfact : ∀ {run older} event, asksEngine run.runId event = false → fact run older →
      fact run (event :: older)) : engineRuns.Watch where
  holds run row history := run.currentStep = some step.value ∧
    (Patient run.runId history → condition run →
      Tracked run history ∧ Level run row ∧ fact run history)
  lasting event hevent hrun := by
    refine ⟨hrun.1, fun hpatient hcondition => ?_⟩
    obtain ⟨htracked, hlevel, hknown⟩ := hrun.2 hpatient.2 hcondition
    exact ⟨htracked.cons hevent, hlevel, hfact event hevent hknown⟩
  rescheduled _ hrun := hrun

/-- Just loaded. -/
def loading : engineRuns.Watch where
  holds run row history := run.status.terminal = false ∧
    (Patient run.runId history → Facing run → Tracked run history ∧ Level run row)
  lasting event hevent hrun := by
    refine ⟨hrun.1, fun hpatient hfacing => ?_⟩
    obtain ⟨htracked, hlevel⟩ := hrun.2 hpatient.2 hfacing
    exact ⟨htracked.cons hevent, hlevel⟩
  rescheduled _ hrun := hrun

/-- Fit to be stored. -/
def storable : engineRuns.Watch where
  holds run _ history := Patient run.runId history → Facing run → Tracked run history
  lasting _ hevent hrun hpatient hfacing := (hrun hpatient.2 hfacing).cons hevent
  rescheduled _ hrun := hrun

abbrev turning (step : StepName) : engineRuns.Watch :=
  during step (Ahead step) (fun _ _ => True) fun _ _ _ => trivial

/-- What the engine's answers within one attempt amount to. -/
def Exchanged (trace : Trace Providers) (run : WorkflowRun) (history : History) : Prop :=
  ∀ engine automationId engineRunId,
    (⟨.queryRunStatus engine automationId engineRunId, .ok .failed⟩ ∈ trace →
      ReportedFailed run.runId (presentKey run) history) ∧
    ∀ params key, ⟨.triggerWorkflow engine automationId params key, .ok engineRunId⟩ ∈ trace →
      Named run.runId engine automationId key engineRunId history

theorem Exchanged.grows {trace : Trace Providers} {run : WorkflowRun} {older : History}
    (event : Event) (hold : Exchanged trace run older) : Exchanged trace run (event :: older) := by
  intro engine automationId engineRunId
  obtain ⟨hfailed, hnamed⟩ := hold engine automationId engineRunId
  exact ⟨fun hmem => (hfailed hmem).cons event, fun params key hmem =>
    (hnamed params key hmem).cons event⟩

/-- One more exchange of a step. -/
theorem Exchanged.cons {trace : Trace Providers} {drive : DriveId} {step : StepName}
    {run : WorkflowRun} {call : Call} {answer : call.Answer} {applied : Bool} {older : History}
    (hold : Exchanged trace run older) (hid : run.runId = drive.subject)
    (htracked : Tracked run older)
    (hcall : HandlerCall run run.runState step call) :
    Exchanged (⟨call, answer⟩ :: trace) run
        (.called drive (.step step) call answer applied :: older) := by
  intro engine automationId engineRunId
  obtain ⟨hfailed, hnamed⟩ := hold.grows (.called drive (.step step) call answer applied) engine
    automationId engineRunId
  refine ⟨fun hmem => ?_, fun params key hmem => ?_⟩
  · rcases List.mem_cons.mp hmem with heq | hmem
    · cases hcall with
      | query hsome => 
          cases heq
          exact ⟨[], drive, _, _, _, applied, older, rfl, hid.symm, htracked.named _ hsome⟩
      | _ => cases heq
    · exact hfailed hmem
  · rcases List.mem_cons.mp hmem with heq | hmem
    · cases hcall with
      | trigger hnone => 
          cases heq
          exact ⟨_, drive, applied, hid.symm, List.mem_cons_self⟩
      | _ => cases heq
    · exact hnamed params key hmem

/-- The step ended so on an attempt. -/
structure Tried (step : StepName) (attempt : Int) (outcome : Except PyException Bool)
    (run : WorkflowRun) (history : History) : Prop where
  attempt_eq : attempt = run.runState.attempts step
  /-- The engine's own report of a failure. -/
  reported : step = .runEngine → ∀ message kind, outcome = .error (.stepFailure message kind) →
    ReportedFailed run.runId (presentKey run) history

/-- The engine run of the attempt was reported failed, if the step may be retried. -/
def Excused (step : StepName) (error : PyException) (run : WorkflowRun)
    (history : History) : Prop :=
  step = .runEngine → mayRetry error (run.runState.attempts .runEngine + 1) run.maxRetries →
    Accepted run.runId (presentKey run) history → ReportedFailed run.runId (presentKey run) history

abbrev exchanging (step : StepName) (trace : Trace Providers) : engineRuns.Watch :=
  during step (Ahead step) (Exchanged trace) fun event _ hold => hold.grows event

abbrev tried (step : StepName) (attempt : Int) (outcome : Except PyException Bool) :
    engineRuns.Watch :=
  during step (Ahead step) (Tried step attempt outcome) fun event _ htried =>
    ⟨htried.attempt_eq, fun hstep message kind heq =>
      (htried.reported hstep message kind heq).cons event⟩

abbrev raised (step : StepName) (error : PyException) : engineRuns.Watch :=
  during step (Ahead step) (Excused step error) fun event hevent hexcused hstep hretry haccepted =>
    (hexcused hstep hretry (haccepted.of_cons hevent)).cons event

abbrev passed (step : StepName) : engineRuns.Watch :=
  during step (fun run => Ahead step run ∧ step ≠ .runEngine) (fun _ _ => True) fun _ _ _ => trivial

abbrev ended (status : RunStatus) : engineRuns.Watch :=
  .only fun run => run.status = status

section Outline

variable {engines : List WorkflowEngineType} {drive : DriveId} {executor : Executor}
  {step : StepName} {run changed : WorkflowRun} {world : World}

/-- A run in the middle of a step may be stored as it is. -/
theorem Tracked.stored {row : WorkflowRun} {history : History}
    (hstep : changed.currentStep = some step.value)
    (htracked : Patient changed.runId history → Ahead step changed → Tracked changed history) :
    storable.holds changed row history := by
  rintro hpatient ⟨-, other, hother, hahead⟩
  rw [startStep_named hstep] at hother
  obtain rfl := Except.ok.inj hother
  exact htracked hpatient hahead

/-- So may a run that is over. -/
theorem storable_terminal {row : WorkflowRun} {history : History}
    (hterminal : run.status.terminal = true) : storable.holds run row history := by
  rintro - ⟨hopen, -⟩
  rw [hterminal] at hopen
  cases hopen

/-- A call of a handler leaves the run in memory tracked. -/
theorem HandlerCall.tracked {call : Call} {answer : call.Answer} {applied : Bool} {older : History}
    (hcall : HandlerCall run run.runState step call) (htracked : Tracked run older) :
    Tracked run (.called drive (.step step) call answer applied :: older) := by
  cases hcall with
  | trigger hnone => exact htracked.trigger rfl
  | _ => exact htracked.cons rfl

/-- It keeps the vigil over the stored row, which counts the same attempts. -/
theorem HandlerCall.vigil {row : WorkflowRun} {call : Call} {answer : call.Answer} {applied : Bool}
    {older : History} (hcall : HandlerCall run run.runState step call) (hid : row.runId = run.runId)
    (hwatch : Patient run.runId older → Ahead step run → Tracked run older ∧ Level run row)
    (hrow : engineRuns.row row older) :
    engineRuns.row row (.called drive (.step step) call answer applied :: older) := by
  cases hcall with
  | trigger hnone =>
      intro hpatient
      obtain ⟨hlive, hrow⟩ := hrow hpatient.2
      obtain ⟨htracked, hlevel⟩ := hwatch (hid ▸ hpatient.2) (ahead_runEngine run)
      refine ⟨⟨?_, hlive⟩, fun hfacing => (hrow hfacing).trigger ?_⟩
      · intro _ _ _ _ _ _ _ _ heq _ other hother haccepted
        cases heq
        rw [hid] at haccepted ⊢
        exact htracked.failed hother haccepted
      · simp [presentKey, attemptKey, engineRunKey, hid, show _ = _ from hlevel]
  | _ => exact engineRuns.lasting _ rfl (by simp) hrow

/-- A call of a step's handler, and what it adds to the exchanges. -/
theorem exchanging_call {trace : Trace Providers} {call : Call}
    (hrun : watching drive (exchanging step trace) run world) (hinv : engineRuns.journal.Inv world)
    (hcall : HandlerCall run run.runState step call) :
    Serves engineRuns.journal.discipline drive (.provider (.step step) call) world
      fun answer final => watching drive (exchanging step (⟨call, answer⟩ :: trace)) run final := by
  refine serves_call fun answer applied _ => ?_
  refine Journal.noting_record hrun hinv (.called drive (.step step) call answer applied) rfl
    (fun row hid hwatch hrow => ?_) fun row hwatch => ⟨hwatch.1, fun hpatient hahead => ?_⟩
  · refine hcall.vigil hid (fun hpatient hahead => ?_) hrow
    obtain ⟨htracked, hlevel, -⟩ := hwatch.2 hpatient hahead
    exact ⟨htracked, hlevel⟩
  · obtain ⟨htracked, hlevel, hexchanged⟩ := hwatch.2 hpatient.2 hahead
    exact ⟨hcall.tracked htracked, hlevel, hexchanged.cons hrun.1 htracked hcall⟩

/-- What a handler leaves is tracked, and the failure it reports was the engine's. -/
theorem HandlerEnd.tracked {trace : Trace Providers} {outcome : Except PyException Bool}
    {final : RunState} {history : History} (htracked : Tracked run history)
    (hexchanged : Exchanged trace run history)
    (hend : HandlerEnd engines run run.runState step trace outcome final) :
    Tracked { run with runState := final } history := by
  refine htracked.congr ⟨.refl, hend.sameRequest⟩ ?_ ?_
  · simp [RunState.attempts, hend.stepAttempts]
  · intro engineRunId hsome
    cases hend with
    | triggered triggeredId hnone =>
        obtain rfl := Option.some.inj hsome
        exact .inr ((hexchanged _ _ _).2 _ _ List.mem_cons_self)
    | succeededWith output hid hresource =>
        left
        unfold captured at hsome
        split at hsome <;> exact hsome
    | engineFailed failure hid => cases failure <;> exact .inl hsome
    | written =>
        left
        unfold finalized at hsome
        exact hsome
    | _ => exact .inl hsome

theorem HandlerEnd.tried {trace : Trace Providers} {outcome : Except PyException Bool}
    {final : RunState} {history : History} (hexchanged : Exchanged trace run history)
    (hend : HandlerEnd engines run run.runState step trace outcome final) :
    Tried step (run.runState.attempts step) outcome { run with runState := final } history := by
  have hattempts : ∀ other, final.attempts other = run.runState.attempts other := by
    simp [RunState.attempts, hend.stepAttempts]
  refine ⟨(hattempts step).symm, ?_⟩
  intro hstep message kind houtcome
  have hkey : presentKey { run with runState := final } = presentKey run := by
    simp [attemptKey, hattempts]
  rw [hkey]
  cases hend with
  | engineFailed failure hid =>
      exact (hexchanged _ _ _).1 (List.mem_cons_of_mem _ List.mem_cons_self)
  | triggerRaised error | queryRaised error => cases error <;> cases houtcome
  | unknownEngine | triggered | inProgress | succeeded | succeededWith => cases houtcome
  | _ => cases hstep

/-- The executor's record of the error: where it may be retried, the engine run
of the attempt was reported failed, by the engine itself or by patience. -/
theorem raised_log {attempt : Int} {error : PyException}
    (hrun : watching drive (CloudioOrchestrator.tried step attempt (.error error)) run world)
    (hinv : engineRuns.journal.Inv world) :
    Serves engineRuns.journal.discipline drive (.log (.stepRaised step attempt error)) world
      fun _ final => watching drive (raised step error) run final := by
  obtain ⟨origin, hcreated, -, ⟨hid, -, -, -, hretries⟩, -⟩ := hrun.2.1
  apply serves_log
  refine Journal.noting_record hrun hinv (.logged drive (.stepRaised step attempt error)) rfl
    (fun row hrowId _ hrow => ?_) fun row hwatch => ⟨hwatch.1, fun hpatient hahead => ?_⟩
  · exact engineRuns.lasting _ rfl (by simp) hrow
  · obtain ⟨htracked, hlevel, htried⟩ := hwatch.2 hpatient.2 hahead
    refine ⟨htracked.cons rfl, hlevel, ?_⟩
    rintro rfl hretry haccepted
    have hbefore := haccepted.of_cons rfl
    apply ReportedFailed.cons
    by_cases hreport : ∃ message kind, error = .stepFailure message kind
    · obtain ⟨message, kind, rfl⟩ := hreport
      exact htried.reported rfl message kind rfl
    · have hkey : attemptKey origin attempt = presentKey run := by
        simp [attemptKey, hid, htried.attempt_eq]
      rw [← hkey] at hbefore ⊢
      refine hpatient.1 drive attempt error origin rfl hrun.1.symm hcreated hid ?_ ?_ hbefore
      · rwa [htried.attempt_eq, hretries]
      · exact fun message kind heq => hreport ⟨message, kind, heq⟩

/-- The run as it is stored for its retry. -/
theorem Tracked.retried {handler : StepHandler} {error : PyException} {history : History}
    (hhandler : buildHandlers engines step = some handler) (htracked : Tracked run history)
    (hexcused : Excused step error run history)
    (hretry : mayRetry error (run.runState.attempts step + 1) run.maxRetries) :
    Tracked (retriedRun step handler run) history := by
  have hattempts := @retried_attempts engines step handler run hhandler
  by_cases hstep : step = .runEngine
  · subst hstep
    refine htracked.retry rfl (by simpa using hattempts) ?_ (hexcused rfl hretry)
    simp [retriedRun, Executor.retryState, resetForRetry_eq hhandler, runEngineReset]
  · refine htracked.congr ⟨.refl, retryState_sameRequest hhandler⟩
      (by simpa [hstep] using hattempts) ?_
    intro engineRunId hsome
    left
    simpa [retriedRun, Executor.retryState, resetForRetry_eq hhandler, hstep,
      Executor.countAttempt] using hsome

/-- Any call aside of the steps. -/
theorem aside_call {watch : engineRuns.Watch} {issuer : Issuer} {call : Call}
    (hrun : watching drive watch run world) (hinv : engineRuns.journal.Inv world)
    (hcall : AsideCall run.runState issuer call) :
    Serves engineRuns.journal.discipline drive (.provider issuer call) world fun _ final =>
      watching drive watch run final := by
  apply watching_call hrun hinv
  intro answer applied
  exact hcall.asksEngine

theorem storable_save (hrun : watching drive storable run world)
    (hinv : engineRuns.journal.Inv world) {post : (Op.runsSave run).Answer → World → Prop}
    (hpost : ∀ answer final, watching drive storable run final → post answer final) :
    Serves engineRuns.journal.discipline drive (.runsSave run) world post := by
  refine watching_save hrun hinv (fun row older hid hwatch hrow => ⟨?_, ?_⟩)
    (fun answer => hpost answer world hrun) hpost
  · intro hpatient
    obtain ⟨hlive, -⟩ := hrow (hid ▸ hpatient.2)
    rw [hid] at hlive
    refine ⟨hlive.cons rfl, fun hfacing => Tracked.cons ?_ rfl⟩
    exact (hwatch hpatient.2 hfacing).congr ⟨.refl, .refl _⟩ rfl fun _ hkept => .inl hkept
  · exact storable.lasting _ rfl hwatch

/-- Until RUN_ENGINE is behind, the drive keeps track of the engine runs. -/
def engineOutline (engines : List WorkflowEngineType) (drive : DriveId)
    (hwired : executor.handlers = buildHandlers engines) :
    Outline engineRuns.journal.discipline drive executor where
  fresh := watching drive loading
  turning step := watching drive (turning step)
  tried step attempt outcome := watching drive (tried step attempt outcome)
  raised step error := watching drive (raised step error)
  passed step := watching drive (passed step)
  denied := watching drive (ended .rejected)
  dismissed := watching drive (ended .rejected)
  failing _ := watching drive (ended .failed)
  escalating _ := watching drive (ended .failed)
  failed := watching drive (ended .failed)
  released := watching drive (ended .failed)
  pending := watching drive storable
  quiet := watching drive (ended .failed)
  troubled _ := watching drive (.only fun _ => True)
  ended := watching drive (.only fun _ => True)
  wrecked _ := watching drive (.only fun _ => True)
  guar_refl world _ := ⟨.refl, fun _ _ => rfl⟩
  utcnow := serve_utcnow drive
  uniform := serve_uniform drive
  start {run world step} hrun hstep := by
    refine watching_imp hrun (.refl _) fun hloaded => ⟨rfl, fun hpatient hahead => ?_⟩
    obtain ⟨htracked, hlevel⟩ := hloaded.2 hpatient ⟨hloaded.1, step, hstep, hahead⟩
    refine ⟨?_, hlevel, trivial⟩
    exact htracked.congr (.refl _) rfl fun _ hkept => .inl hkept
  badStart hrun _ := watching_imp hrun (.refl _) fun _ => trivial
  unhandled hrun _ := watching_imp hrun (.refl _) fun _ => trivial
  restamp _ _ hrun := by
    refine watching_imp hrun (.refl _) fun hturning => ⟨hturning.1, fun hpatient hahead => ?_⟩
    obtain ⟨htracked, hlevel, -⟩ := hturning.2 hpatient hahead
    exact ⟨htracked.congr (.refl _) rfl fun _ hkept => .inl hkept, hlevel, trivial⟩
  naive hrun := watching_imp hrun (.refl _) fun _ => trivial
  deadline hrun := by
    refine watching_imp hrun (.refl _) fun hturning => ⟨hturning.1, fun hpatient hahead => ?_⟩
    obtain ⟨htracked, hlevel, -⟩ := hturning.2 hpatient hahead
    exact ⟨htracked, hlevel, rfl, by simp⟩
  execute {step} handler run world hhandler hrun _ := by
    rw [hwired] at hhandler
    refine Discipline.wp_mono (wp_handler
      (fun trace final => watching drive (exchanging step trace) run final) hhandler ?_ ?_ ?_) ?_
    · intro trace world current hrun hrely hinv
      exact (watching drive (exchanging step trace)).stable hrun hrely hinv
    · intro trace call world hrun hcall hinv
      exact exchanging_call hrun hinv hcall
    · refine watching_imp hrun (.refl _) fun hturning => ⟨hturning.1, fun hpatient hahead => ?_⟩
      obtain ⟨htracked, hlevel, -⟩ := hturning.2 hpatient hahead
      exact ⟨htracked, hlevel, by simp [Exchanged]⟩
    · rintro outcome state final ⟨trace, hrun, hend⟩
      refine watching_imp hrun ⟨.refl, hend.sameRequest⟩ fun hwatch =>
        ⟨hwatch.1, fun hpatient hahead => ?_⟩
      obtain ⟨htracked, hlevel, hexchanged⟩ := hwatch.2 hpatient hahead
      refine ⟨hend.tracked htracked hexchanged, ?_, hend.tried hexchanged⟩
      simpa [Level, RunState.attempts, hend.stepAttempts] using hlevel
  reject hrun := watching_imp hrun (.refl _) fun _ => rfl
  release hrun hinv hcall := aside_call hrun hinv (.aftermath (.release hcall))
  unheld hrun _ := hrun
  dismissed_pending hrun := watching_imp hrun (.refl _) fun hrejected =>
    storable_terminal (by rw [hrejected]; rfl)
  logRaised hrun _ hinv := raised_log hrun hinv
  retry due hhandler hrun hretry := by
    rw [hwired] at hhandler
    refine watching_imp hrun ⟨.refl, retryState_sameRequest hhandler⟩ fun hraised => ?_
    refine Tracked.stored hraised.1 fun hpatient hahead => ?_
    -- what the error says of the engine's runs is what lets the attempt be given up
    obtain ⟨htracked, -, hexcused⟩ := hraised.2 hpatient hahead
    have hretried := htracked.retried hhandler hexcused hretry
    exact hretried.congr (.refl _) rfl fun _ hkept => .inl hkept
  retryOverflow hhandler hrun _ := by
    rw [hwired] at hhandler
    exact watching_imp hrun ⟨.refl, retryState_sameRequest hhandler⟩ fun _ => trivial
  giveUp hrun _ := watching_imp hrun (.refl _) fun _ => rfl
  poll due hrun := by
    refine watching_imp hrun (.refl _) fun htried => ?_
    refine Tracked.stored htried.1 fun hpatient hahead => ?_
    obtain ⟨htracked, -, -⟩ := htried.2 hpatient hahead
    exact htracked.congr (.refl _) rfl fun _ hkept => .inl hkept
  pollOverflow hrun := watching_imp hrun (.refl _) fun _ => trivial
  logCompleted {step attempt run world} hrun hinv := by
    refine watching_log hrun hinv (.refl _) rfl fun htried =>
      ⟨htried.1, fun hpatient ⟨hahead, hstep⟩ => ?_⟩
    obtain ⟨htracked, hlevel, -⟩ := htried.2 hpatient hahead
    have hattempts : (steppedRun step run).runState.attempts .runEngine =
        run.runState.attempts .runEngine := by
      rw [stepped_attempts, if_neg hstep]
    refine ⟨htracked.congr (.refl _) hattempts fun _ hkept => .inl hkept, ?_, trivial⟩
    unfold Level at *
    rw [hattempts]
    exact hlevel
  offPlan hrun _ := watching_imp hrun (.refl _) fun _ => trivial
  next hrun hstep hnext := by
    refine watching_imp hrun (.refl _) fun hpassed => ⟨rfl, fun hpatient hahead => ?_⟩
    obtain ⟨htracked, hlevel, -⟩ := hpassed.2 hpatient (hahead.of_next hstep hnext)
    exact ⟨htracked.congr (.refl _) rfl fun _ hkept => .inl hkept, hlevel, trivial⟩
  finish hrun _ _ := watching_imp hrun (.refl _) fun _ => storable_terminal rfl
  logEscalating hrun hinv := watching_log hrun hinv (.refl _) rfl id
  openIncident request hrun hinv := (aside_call hrun hinv (.incident request)).opened
    fun _ _ hfinal => watching_imp hfinal (.refl _) id
  escalating_failed hrun := hrun
  aftermath hrun hinv hcall := aside_call hrun hinv (.aftermath hcall)
  ticketClosed hrun := watching_imp hrun (.refl _) id
  releaseFailed hrun hinv hcall := aside_call hrun hinv (.aftermath (.release hcall))
  unheldFailed hrun _ := hrun
  released_pending hrun := watching_imp hrun (.refl _) fun hfailed =>
    storable_terminal (by rw [hfailed]; rfl)
  released_quiet hrun := hrun
  save hrun hinv := by
    refine storable_save hrun hinv fun answer final hsaved => ?_
    split <;> exact watching_imp hsaved (.refl _) fun _ => trivial
  saveQuietly hrun hinv := by
    refine storable_save (watching_imp hrun (.refl _) fun hfailed =>
      storable_terminal (by rw [hfailed]; rfl)) hinv fun answer final hsaved => ?_
    split <;> exact watching_imp hsaved (.refl _) fun _ => trivial
  unpersisted hrun hfailed hinv := watching_log hrun hinv (.refl _) rfl fun _ => hfailed
  unnamed hrun _ _ _ := watching_imp hrun (.refl _) fun _ => trivial
  crashed {error} run step world hrun _ _ hinv := by
    refine watching_log hrun hinv ⟨.refl, ?_⟩ rfl fun _ => rfl
    cases step <;> exact .refl _

end Outline

/-- Wherever drives that succeed one another reach: whenever the engine was asked
for a run of a request, every engine run it had accepted under another key had
been reported failed, as long as RUN_ENGINE was retried with patience. -/
theorem one_live_where_patient (engines : List WorkflowEngineType) (retryBase : Time)
    (defaultTeam : String) (clock : Time) (moves : List (Move system)) (runId : UUID)
    (hpatient : Patient runId
      (succeeded (.wired engines retryBase defaultTeam) clock moves).world.history) :
    OneLive runId (succeeded (.wired engines retryBase defaultTeam) clock moves).world.history := by
  have hinv : engineRuns.journal.Inv
      (succeeded (.wired engines retryBase defaultTeam) clock moves).world := by
    refine Journal.succeeded_inv (fun drive world => ?_) clock moves
    refine watching_load (engineOutline engines drive rfl) rfl (fun _ _ => rfl)
      (fun _ hopen hrow => ⟨hopen, fun hpatient hfacing => ?_⟩) world
    exact ⟨((hrow hpatient.2).2 hfacing).cons rfl, rfl⟩
  cases hrow : Store.get
      (succeeded (.wired engines retryBase defaultTeam) clock moves).world.rows runId with
  | some row =>
      have hfact := hinv.rows runId row hrow
      rw [← Store.runId_of_get hrow] at hpatient ⊢
      exact (hfact hpatient).1
  | none => exact oneLive_of_silent (hinv.silent runId hrow)

section Examples

/-- The event is no error of RUN_ENGINE, or the engine's own report of a failure. -/
def reportsOnly : Event → Bool
  | .logged _ (.stepRaised .runEngine _ (.stepFailure ..)) => true
  | .logged _ (.stepRaised .runEngine ..) => false
  | _ => true

/-- Where only the engine's own reports of a failure are retried, patience takes nothing. -/
theorem patient_of_reportsOnly {runId : UUID} {history : History}
    (hreports : history.all reportsOnly) : Patient runId history := by
  induction history with
  | nil => trivial
  | cons event older ih =>
      rw [List.all_cons, Bool.and_eq_true] at hreports
      refine ⟨?_, ih hreports.2⟩
      rintro drive attempt error origin rfl - - - - hreport -
      unfold reportsOnly at hreports
      split at hreports
      next heq =>
        cases heq
        exact absurd rfl (hreport _ _)
      next => cases hreports.1
      next hnot => exact absurd rfl (hnot drive attempt error)

/-- A request to run a workflow on an engine. -/
def automationRequest : Outside :=
  .trigger sampleId (some automationWorkflow) automationSample

/-- The engine reports its runs as failed. -/
def engineFailing : Choice where
  answer call := match call with
    | .queryRunStatus .. => .ok .failed
    | call => willing call

/-- The engine accepts what it is asked for, and the answer gets lost. -/
def engineTimeout : Choice where
  answer call := match call with
    | .triggerWorkflow .. => .error (.other "ReadTimeout" "")
    | call => willing call
  applied := true

/-- A drive whose trigger is accepted and raises, and the next one, up to its trigger. -/
def impatient : List (Move system) :=
  .outside automationRequest ::
  .start sampleId :: List.replicate 10 (.advance 0 engineTimeout) ++
  .start sampleId :: List.replicate 6 (.advance 1 engineTimeout)

/-- The event asks after an engine run. -/
def asksAfter : Event → Bool
  | .called _ _ (.queryRunStatus ..) _ _ => true
  | _ => false

/-- The engine is asked for another run, though nobody asked after the first. -/
theorem second_engine_run :
    ¬ OneLive sampleId (succeeded sampleExecutor 0 impatient).world.history := by
  intro hlive
  have hsplit : (succeeded sampleExecutor 0 impatient).world.history = [] ++
      .called ⟨sampleId, 1⟩ (.step .runEngine)
        (.triggerWorkflow .airflow "vm_patch" "{}" (sampleId.str ++ ":running_engine:1"))
        (.error (.other "ReadTimeout" "")) true ::
      (succeeded sampleExecutor 0 impatient).world.history.tail := rfl
  rw [hsplit] at hlive
  have hfailed := hlive.event _ _ _ _ _ _ _ _ rfl rfl (sampleId.str ++ ":running_engine:0")
    (by decide +kernel) ⟨⟨sampleId, 0⟩, .step .runEngine, .airflow, "vm_patch", "{}",
      .error (.other "ReadTimeout" ""), rfl, List.mem_of_getElem? (i := 3) rfl⟩
  obtain ⟨newer, drive, engine, automationId, engineRunId, applied, older, hhistory, -⟩ := hfailed
  have hasked : (succeeded sampleExecutor 0 impatient).world.history.tail.any asksAfter := by
    rw [hhistory]
    simp [asksAfter]
  exact absurd hasked (by decide +kernel)
-- the statement below is not to be unfolded over the history it names
attribute [irreducible] OneLive Patient

/-- A drive that triggers the engine, one that finds the engine run failed, and
one that triggers the engine again. -/
def retrying : List (Move system) :=
  .outside automationRequest ::
  .start sampleId :: List.replicate 8 (.advance 0 engineFailing) ++
  .start sampleId :: List.replicate 10 (.advance 1 engineFailing) ++
  .start sampleId :: List.replicate 6 (.advance 2 engineFailing)

theorem one_live_where_patient_retrying :
    OneLive sampleId
      (succeeded (.wired [.airflow] (seconds 10) "cloud") 0 retrying).world.history :=
  one_live_where_patient [.airflow] (seconds 10) "cloud" 0 retrying sampleId
    (patient_of_reportsOnly (by decide +kernel))

end Examples

end CloudioOrchestrator

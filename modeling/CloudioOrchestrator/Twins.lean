import CloudioOrchestrator.Outline
import CloudioOrchestrator.Interaction.Relating

/-! # Two drives side by side

Two drives of runs that are alike but for the parameters of the ticket do the
same, step by step, as long as they are answered alike. The same walk serves for
what a drive never does: one of a run that has its ticket opens none, and one of
a run that has no engine run asks for no report.
-/

namespace CloudioOrchestrator

open Interaction Drive Routine

/-- What two executions differ in; `settled` is a drive of a run that has its
ticket, beside itself. -/
inductive Aspect
  | ticketParams
  | engineReports
  | settled
deriving DecidableEq

/-- What an engine reports of a run of its. -/
def Call.isReport : Call → Bool
  | .queryRunStatus .. | .getFailure .. | .getOutput .. => true
  | _ => false

def Call.opensTicket : Call → Bool
  | .openTicket .. => true
  | _ => false

def Aspect.permits : Aspect → Call → Bool
  | .ticketParams, _ => true
  | .engineReports, call => !call.isReport
  | .settled, call => !call.opensTicket

theorem Aspect.permits_of {call : Call} (hreport : call.isReport = false)
    (hticket : call.opensTicket = false) (aspect : Aspect) : aspect.permits call = true := by
  cases aspect with
  | ticketParams => rfl
  | engineReports => rw [permits, hreport, Bool.not_false]
  | settled => rw [permits, hticket, Bool.not_false]

theorem Aspect.permits_report {aspect : Aspect} (haspect : aspect ≠ .engineReports) {call : Call}
    (hticket : call.opensTicket = false) : aspect.permits call = true := by
  cases aspect with
  | ticketParams => rfl
  | engineReports => exact absurd rfl haspect
  | settled => rw [permits, hticket, Bool.not_false]

/-- Parameters that an aspect takes for the same. -/
def Aspect.Same (aspect : Aspect) (params other : Json) : Prop :=
  aspect = .ticketParams ∨ other = params

/-- The states are one but for the ticket's parameters. -/
inductive RunState.Alike (aspect : Aspect) (state : RunState) : RunState → Prop
  | intro (params : Json) (hparams : aspect.Same state.ticketParams params) :
      RunState.Alike aspect state { state with ticketParams := params }

/-- The runs are one but for the ticket's parameters and the schedule. -/
inductive WorkflowRun.Alike (aspect : Aspect) (run : WorkflowRun) : WorkflowRun → Prop
  | intro (scheduledAt : Option Time) (params : Json)
      (hparams : aspect.Same run.runState.ticketParams params) :
      WorkflowRun.Alike aspect run { run with
        scheduledAt := scheduledAt, runState := { run.runState with ticketParams := params } }

protected theorem WorkflowRun.Alike.refl (aspect : Aspect) (run : WorkflowRun) :
    run.Alike aspect run :=
  .intro run.scheduledAt run.runState.ticketParams (.inr rfl)

/-! ## Runs that have their ticket in time -/

/-- A run is past opening its ticket only with a ticket. -/
def Ready (step : StepName) (state : RunState) : Prop :=
  step = .createTicket ∨ step = .submitLegacy ∨ state.ticket.isSome

structure Ticketing (run : WorkflowRun) : Prop where
  automation : run.runType = .automation → run.runState.ticket.isSome
  engine : run.runState.engineRunId.isSome → run.runState.ticket.isSome
  start : ∀ step, Executor.startStep run = .ok step → Ready step run.runState

/-- What a change of a run leaves as it is. -/
structure Spares (run changed : WorkflowRun) : Prop where
  runId : changed.runId = run.runId
  runType : changed.runType = run.runType
  version : changed.version = run.version
  currentStep : changed.currentStep = run.currentStep
  ticket : changed.runState.ticket = run.runState.ticket
  engine : changed.runState.engineRunId.isSome → run.runState.engineRunId.isSome

theorem Ticketing.spared {run changed : WorkflowRun} (hrun : Ticketing run)
    (hspares : Spares run changed) : Ticketing changed where
  automation htype := by
    rw [hspares.ticket]
    exact hrun.automation (hspares.runType ▸ htype)
  engine hengine := by
    rw [hspares.ticket]
    exact hrun.engine (hspares.engine hengine)
  start step hstep := by
    rw [Ready, hspares.ticket]
    apply hrun.start step
    rwa [Executor.startStep, hspares.currentStep, hspares.runType] at hstep

/-- A change that has nothing to do with the ticket. -/
structure Incidental (change : RunState → RunState) : Prop where
  ticket : ∀ state, (change state).ticket = state.ticket
  engine : ∀ state, (change state).engineRunId.isSome → state.engineRunId.isSome
  params : ∀ state params, change { state with ticketParams := params } =
    { change state with ticketParams := params }
  kept : ∀ state, (change state).ticketParams = state.ticketParams

theorem incidental_incidentId (incidentId : Option String) :
    Incidental fun state => { state with incidentId := incidentId } :=
  ⟨fun _ => rfl, fun _ => id, fun _ _ => rfl, fun _ => rfl⟩

theorem incidental_ticketClosed : Incidental fun state => { state with ticketClosed := true } :=
  ⟨fun _ => rfl, fun _ => id, fun _ _ => rfl, fun _ => rfl⟩

theorem incidental_errors (step : StepName) (message : String) :
    Incidental fun state => { state with errors := state.errors.set step message } :=
  ⟨fun _ => rfl, fun _ => id, fun _ _ => rfl, fun _ => rfl⟩

theorem incidental_countAttempt (step : StepName) : Incidental (Executor.countAttempt step) :=
  ⟨fun _ => rfl, fun _ => id, fun _ _ => rfl, fun _ => rfl⟩

theorem incidental_retryState {handler : StepHandler} (hreset : Incidental handler.resetForRetry) :
    Incidental (Executor.retryState handler) where
  ticket := hreset.ticket
  engine := hreset.engine
  params state params := by
    rw [Executor.retryState, hreset.params state params, Executor.retryState]
  kept := hreset.kept

/-! ## The pairing -/

/-- What the two drives loaded, the first of the two rows. -/
structure Basis (aspect : Aspect) (base : WorkflowRun) : Prop where
  unreported : aspect = .engineReports → base.runState.engineRunId = none
  settled : aspect = .settled → base.runState.ticket.isSome

/-- Two runs in memory, of drives that loaded rows alike. -/
structure Twins (aspect : Aspect) (base run twin : WorkflowRun) : Prop where
  alike : run.Alike aspect twin
  runId : run.runId = base.runId
  runType : run.runType = base.runType
  version : run.version = base.version
  ticket : base.runState.ticket.isSome → run.runState.ticket.isSome
  ticketing : Ticketing run

inductive CallFits (aspect : Aspect) : Call → Call → Prop
  | same (call : Call) (hpermits : aspect.permits call = true) : CallFits aspect call call
  | openTicket (templateId : String) (fields other : Json) (requestedBy key : String)
      (hpermits : aspect ≠ .settled) (hfields : aspect.Same fields other) :
      CallFits aspect (.openTicket templateId fields requestedBy key)
        (.openTicket templateId other requestedBy key)

inductive Fits (aspect : Aspect) (base : WorkflowRun) : Op → Op → Prop
  | utcnow : Fits aspect base .utcnow .utcnow
  | uniform : Fits aspect base .uniform .uniform
  | log (record : LogRecord) : Fits aspect base (.log record) (.log record)
  | call (issuer : Issuer) {call other : Call} (hcall : CallFits aspect call other) :
      Fits aspect base (.provider issuer call) (.provider issuer other)
  | save {run twin : WorkflowRun} (htwins : Twins aspect base run twin) :
      Fits aspect base (.runsSave run) (.runsSave twin)

/-- The answers are one; two saves may also both have lost, whatever is said about it. -/
def Corresponds : (op other : Op) → op.Answer → other.Answer → Prop
  | .runsSave _, .runsSave _, answer, reply => answer = reply ∨
      ∃ message other, answer = .error (.staleRun message) ∧ reply = .error (.staleRun other)
  | _, _, answer, reply => HEq answer reply

def Based (aspect : Aspect) (common : Option WorkflowRun) : Prop :=
  ∃ base, common = some base ∧ Basis aspect base

/-- What drives have in common is the row they loaded, until a save of theirs is
accepted; then they are at their end. -/
def pairing (aspect : Aspect) : Pairing Operations (Option WorkflowRun) where
  fits common op other := ∃ base, common = some base ∧ Basis aspect base ∧ Fits aspect base op other
  answers := Corresponds
  after
    | _, .runsSave _, .ok _ => none
    | common, _, _ => common

def calling (aspect : Aspect) : Pairing Providers (Option WorkflowRun) where
  fits common call other := Based aspect common ∧ CallFits aspect call other
  answers _ _ answer reply := HEq answer reply
  after common _ _ := common

/-- Two runs in memory side by side. -/
def Tied (aspect : Aspect) (common : Option WorkflowRun) (run twin : WorkflowRun) : Prop :=
  ∃ base, common = some base ∧ Basis aspect base ∧ Twins aspect base run twin

variable {aspect : Aspect} {common : Option WorkflowRun} {run twin : WorkflowRun}

theorem Tied.based (htied : Tied aspect common run twin) : Based aspect common := by
  obtain ⟨base, hcommon, hbasis, -⟩ := htied
  exact ⟨base, hcommon, hbasis⟩

theorem Tied.alike (htied : Tied aspect common run twin) : run.Alike aspect twin := by
  obtain ⟨base, -, -, htwins⟩ := htied
  exact htwins.alike

/-- A change of both that spares the first. -/
theorem Tied.spared {changed other : WorkflowRun} (htied : Tied aspect common run twin)
    (halike : changed.Alike aspect other) (hspares : Spares run changed) :
    Tied aspect common changed other := by
  obtain ⟨base, hcommon, hbasis, htwins⟩ := htied
  refine ⟨base, hcommon, hbasis, halike, ?_, ?_, ?_, ?_, htwins.ticketing.spared hspares⟩
  · rw [hspares.runId, htwins.runId]
  · rw [hspares.runType, htwins.runType]
  · rw [hspares.version, htwins.version]
  · rw [hspares.ticket]
    exact htwins.ticket

/-- Parts of two drives that keep a relation and end in the same values. -/
abbrev Parallel {α : Type} (aspect : Aspect)
    (same : Option WorkflowRun → WorkflowRun → WorkflowRun → Prop) (body twin : Drive α) : Prop :=
  Matched (pairing aspect) same Eq body twin

section Operations

variable {same : Option WorkflowRun → WorkflowRun → WorkflowRun → Prop}

/-- An operation other than a save is answered alike. -/
theorem perform_parallel {op : Op}
    (hsame : ∀ {common run twin}, same common run twin → Based aspect common)
    (hfits : ∀ base, Fits aspect base op op) (hop : ∀ run, op ≠ .runsSave run) :
    Parallel aspect same (perform op) (perform op) := by
  intro common run twin hrun
  obtain ⟨base, hcommon, hbasis⟩ := hsame hrun
  apply Both.ask (P := pairing aspect) ⟨base, hcommon, hbasis, hfits base⟩
  intro answer reply hanswers
  cases op with
  | runsSave run => exact absurd rfl (hop run)
  | runsGet runId => exact ⟨rfl, hrun, eq_of_heq hanswers ▸ .ok rfl⟩
  | utcnow => exact ⟨rfl, hrun, eq_of_heq hanswers ▸ .ok rfl⟩
  | uniform => exact ⟨rfl, hrun, eq_of_heq hanswers ▸ .ok rfl⟩
  | provider issuer call => exact ⟨rfl, hrun, eq_of_heq hanswers ▸ .ok rfl⟩
  | log record => exact ⟨rfl, hrun, eq_of_heq hanswers ▸ .ok rfl⟩

theorem log_parallel (hsame : ∀ {common run twin}, same common run twin → Based aspect common)
    (record : LogRecord) : Parallel aspect same (log record) (log record) :=
  perform_parallel hsame (fun _ => .log record) (by simp)

theorem issue_parallel (hsame : ∀ {common run twin}, same common run twin → Based aspect common)
    (issuer : Issuer) {call : Call} (hcall : aspect.permits call = true) :
    Parallel aspect same (issue issuer call) (issue issuer call) := by
  apply Matched.bind (perform_parallel hsame (fun _ => .call issuer (.same call hcall)) (by simp))
  rintro answer _ rfl
  exact .ofExcept (.of_eq _)

end Operations

theorem read_alike (aspect : Aspect) : Matched (ε := PyException) (pairing aspect) (Tied aspect)
    (fun run twin : WorkflowRun => run.Alike aspect twin) read read :=
  .read fun htied => Tied.alike htied

/-! ## Escalation -/

section Escalation

variable (aspect)

theorem permits_openIncident (request : IncidentRequest) :
    aspect.permits (.openIncident request) = true :=
  Aspect.permits_of rfl rfl aspect

/-- A part whose failure is let pass. -/
theorem parallel_attempt {α β : Type} {body twin : Drive α}
    {next rest : Except PyException α → Drive β} (hbody : Parallel aspect (Tied aspect) body twin)
    (hnext : ∀ ended reply, Parallel aspect (Tied aspect) (next ended) (rest reply)) :
    Parallel aspect (Tied aspect) (do next (← Routine.attempt body))
      (do rest (← Routine.attempt twin)) :=
  Matched.bind hbody.attempt fun _ => hnext _ _

theorem logDocumentationIncident_parallel (defaultTeam group detail : String) :
    Parallel aspect (Tied aspect) (Escalator.logDocumentationIncident defaultTeam group detail)
      (Escalator.logDocumentationIncident defaultTeam group detail) := by
  unfold Escalator.logDocumentationIncident
  split
  · exact .pure rfl
  · apply Matched.bind (read_alike aspect)
    rintro run _ ⟨scheduledAt, params, -⟩
    apply parallel_attempt aspect _ fun _ _ => .pure rfl
    apply Matched.bind (.ofExcept (.of_eq _))
    rintro incident _ rfl
    apply Matched.bind (issue_parallel Tied.based .documentation (permits_openIncident aspect _))
    rintro doc _ rfl
    exact issue_parallel Tied.based .documentation (Aspect.permits_of rfl rfl aspect)

theorem openByPolicy_parallel (defaultTeam message : String) :
    Parallel aspect (Tied aspect) (Escalator.openByPolicy defaultTeam message)
      (Escalator.openByPolicy defaultTeam message) := by
  apply Matched.bind (read_alike aspect)
  rintro run _ ⟨scheduledAt, params, -⟩
  apply Matched.bind (.ofExcept (.of_eq _))
  rintro incident _ rfl
  apply Matched.bind (issue_parallel Tied.based .escalation (permits_openIncident aspect _))
  rintro opened _ rfl
  apply Matched.bind (.update _)
  · rintro _ _ _
    exact logDocumentationIncident_parallel aspect defaultTeam _ _
  · intro common run twin htied
    apply htied.spared
    · obtain ⟨scheduledAt, params, hparams⟩ := htied.alike
      exact .intro scheduledAt params hparams
    · exact ⟨rfl, rfl, rfl, rfl, rfl, id⟩

theorem updateState_parallel {change : RunState → RunState} (hchange : Incidental change) :
    Parallel aspect (Tied aspect) (updateState change) (updateState change) := by
  apply Matched.update
  intro common run twin htied
  apply htied.spared
  · obtain ⟨scheduledAt, params, hsame⟩ := htied.alike
    dsimp only
    rw [hchange.params run.runState params]
    apply WorkflowRun.Alike.intro
    exact hchange.kept run.runState ▸ hsame
  · exact ⟨rfl, rfl, rfl, rfl, hchange.ticket _, hchange.engine _⟩

theorem closeByPolicy_parallel (kind : FailureKind) :
    Parallel aspect (Tied aspect) (Escalator.closeByPolicy kind)
        (Escalator.closeByPolicy kind) := by
  apply Matched.bind (read_alike aspect)
  rintro run _ ⟨scheduledAt, params, -⟩
  dsimp only
  cases run.runState.ticket with
  | none => exact .pure rfl
  | some ticket =>
      apply Matched.bind (issue_parallel Tied.based .escalation (Aspect.permits_of rfl rfl aspect))
      rintro _ _ rfl
      exact updateState_parallel aspect incidental_ticketClosed

theorem escalateByPolicy_parallel (defaultTeam message : String) (kind : FailureKind) :
    Parallel aspect (Tied aspect) (Escalator.escalateByPolicy defaultTeam message kind)
      (Escalator.escalateByPolicy defaultTeam message kind) := by
  apply Matched.bind (log_parallel Tied.based _)
  rintro _ _ rfl
  split
  · apply Matched.bind (openByPolicy_parallel aspect _ _)
    rintro _ _ rfl
    exact closeByPolicy_parallel aspect kind
  · exact closeByPolicy_parallel aspect kind

theorem escalateUnclassified_parallel (defaultTeam : String) (error : PyException) :
    Parallel aspect (Tied aspect) (Escalator.escalateUnclassified defaultTeam error)
      (Escalator.escalateUnclassified defaultTeam error) := by
  apply Matched.bind (read_alike aspect)
  rintro run _ ⟨scheduledAt, params, -⟩
  apply Matched.bind (log_parallel Tied.based _)
  rintro _ _ rfl
  apply Matched.bind (.ofExcept (.of_eq _))
  rintro incident _ rfl
  apply Matched.bind (issue_parallel Tied.based .escalation (permits_openIncident aspect _))
  rintro opened _ rfl
  apply Matched.bind (updateState_parallel aspect (incidental_incidentId (some opened.ticketId)))
  rintro _ _ rfl
  dsimp only
  cases run.runState.ticket with
  | none => exact .pure rfl
  | some ticket => exact issue_parallel Tied.based .escalation (Aspect.permits_of rfl rfl aspect)

theorem releaseResource_parallel :
    Parallel aspect (Tied aspect) Escalator.releaseResource Escalator.releaseResource := by
  apply Matched.bind (read_alike aspect)
  rintro run _ ⟨scheduledAt, params, -⟩
  have hflight : Escalator.resourceInFlight { run.runState with ticketParams := params } =
      Escalator.resourceInFlight run.runState := rfl
  dsimp only
  rw [hflight]
  cases Escalator.resourceInFlight run.runState with
  | none => exact .pure rfl
  | some resource =>
      apply parallel_attempt aspect _ fun _ _ => .pure rfl
      split
      · exact issue_parallel Tied.based .release (Aspect.permits_of rfl rfl aspect)
      · exact issue_parallel Tied.based .release (Aspect.permits_of rfl rfl aspect)

theorem escalate_parallel (defaultTeam : String) (error : PyException) :
    Parallel aspect (Tied aspect) (Escalator.escalate defaultTeam error)
      (Escalator.escalate defaultTeam error) := by
  apply parallel_attempt aspect _ fun _ _ => releaseResource_parallel aspect
  split
  · exact escalateByPolicy_parallel aspect _ _ _
  · exact escalateUnclassified_parallel aspect _ _

end Escalation

/-! ## Saving -/

section Saving

/-- The drives end in one value, or raise one error and may go on. -/
def Finished {α : Type} (aspect : Aspect) (common : Option WorkflowRun)
    (ended reply : Except PyException α) (run twin : WorkflowRun) : Prop :=
  Alike Eq ended reply ∧ ∀ error, ended = .error error → Tied aspect common run twin

theorem Finished.ok {α : Type} (value : α) :
    Finished aspect common (.ok value) (.ok value) run twin :=
  ⟨.ok rfl, fun _ heq => by cases heq⟩

theorem Finished.error {α : Type} (error : PyException) (htied : Tied aspect common run twin) :
    Finished (α := α) aspect common (.error error) (.error error) run twin :=
  ⟨.error error, fun _ _ => htied⟩

/-- Two drives that end here. -/
abbrev Finishes {α : Type} (aspect : Aspect)
    (same : Option WorkflowRun → WorkflowRun → WorkflowRun → Prop) (body twin : Drive α) : Prop :=
  ∀ common object other, same common object other →
    Both (pairing aspect) body twin (Finished aspect) object other common

theorem finishes_bind {α β : Type} {same : Option WorkflowRun → WorkflowRun → WorkflowRun → Prop}
    {related : α → α → Prop} {body twin : Drive α} {next rest : α → Drive β}
    (hbody : Matched (pairing aspect) same related body twin)
    (hsame : ∀ {common run twin}, same common run twin → Tied aspect common run twin)
    (hnext : ∀ value reply, related value reply → Finishes aspect same (next value) (rest reply)) :
    Finishes aspect same (body >>= next) (twin >>= rest) := by
  intro common run twin hrun
  apply hbody.bind_both hrun
  · intro value reply run twin hrelated hrun
    exact hnext value reply hrelated common run twin hrun
  · intro error run twin hrun
    exact .error error (hsame hrun)

theorem save_finishes (aspect : Aspect) :
    Finishes aspect (Tied aspect) Executor.save Executor.save := by
  intro common run twin htied
  apply Both.bind
  apply Both.read
  apply Both.bind
  obtain ⟨base, hcommon, hbasis, htwins⟩ := htied
  apply Both.ask (P := pairing aspect) ⟨base, hcommon, hbasis, .save htwins⟩
  rintro answer reply (rfl | ⟨message, other, rfl, rfl⟩)
  · cases answer with
    | ok version => exact .ok ()
    | error error =>
        have htied : Tied aspect common run twin := ⟨base, hcommon, hbasis, htwins⟩
        cases error with
        | staleRun message => exact .ok ()
        | _ => exact .error _ htied
  · exact .ok ()

theorem schedule_finishes (delay : Time) :
    Finishes aspect (Tied aspect) (Executor.schedule delay) (Executor.schedule delay) := by
  apply finishes_bind (perform_parallel Tied.based (fun _ => .utcnow) (by simp)) id
  rintro now _ rfl
  apply finishes_bind (.ofExcept (.of_eq _)) id
  rintro due _ rfl
  apply finishes_bind (.update _) id
  · rintro _ _ -
    exact save_finishes aspect
  · intro common run twin htied
    apply htied.spared
    · obtain ⟨scheduledAt, params, hparams⟩ := htied.alike
      exact .intro (some due) params hparams
    · exact ⟨rfl, rfl, rfl, rfl, rfl, id⟩

theorem finishes_updateState {α : Type} {change : RunState → RunState} (hchange : Incidental change)
    {next rest : Drive α} (hnext : Finishes aspect (Tied aspect) next rest) :
    Finishes aspect (Tied aspect) (do updateState change; next) (do updateState change; rest) := by
  apply finishes_bind (updateState_parallel aspect hchange) id
  rintro _ _ -
  exact hnext

/-- Ending the run, whatever as. -/
theorem finishes_status {α : Type} (status : RunStatus) {next rest : Drive α}
    (hnext : Finishes aspect (Tied aspect) next rest) :
    Finishes aspect (Tied aspect)
      (do Routine.update fun run => { run with status := status, scheduledAt := none }; next)
      (do Routine.update fun run => { run with status := status, scheduledAt := none }; rest) := by
  apply finishes_bind (.update _) id
  · rintro _ _ -
    exact hnext
  · intro common run twin htied
    apply htied.spared
    · obtain ⟨scheduledAt, params, hparams⟩ := htied.alike
      exact .intro none params hparams
    · exact ⟨rfl, rfl, rfl, rfl, rfl, id⟩

theorem rejectRun_finishes (step : StepName) (message : String) :
    Finishes aspect (Tied aspect) (Executor.rejectRun step message)
      (Executor.rejectRun step message) := by
  apply finishes_updateState (incidental_errors step message)
  apply finishes_status
  apply finishes_bind (releaseResource_parallel aspect) id
  rintro _ _ -
  exact save_finishes aspect

variable (executor : Executor)

theorem failStep_finishes (step : StepName) (error : PyException) :
    Finishes aspect (Tied aspect) (executor.failStep step error)
        (executor.failStep step error) := by
  apply finishes_updateState (incidental_errors step _)
  apply finishes_status
  apply finishes_bind (escalate_parallel aspect _ error) id
  rintro _ _ -
  exact save_finishes aspect

theorem onStepError_finishes (step : StepName) {handler : StepHandler}
    (hreset : Incidental handler.resetForRetry) (error : PyException) :
    Finishes aspect (Tied aspect) (executor.onStepError step handler error)
      (executor.onStepError step handler error) := by
  apply finishes_updateState (incidental_countAttempt step)
  apply finishes_bind (read_alike aspect) id
  rintro run _ ⟨scheduledAt, params, -⟩
  dsimp only [RunState.attempts]
  split
  · apply finishes_updateState (incidental_retryState hreset)
    apply finishes_bind (perform_parallel Tied.based (fun _ => .uniform) (by simp)) id
    rintro jitter _ rfl
    exact schedule_finishes _
  · exact failStep_finishes executor step error

end Saving

/-! ## The handlers -/

section Handlers

/-- How the handlers of a step end side by side. -/
structure Executed (aspect : Aspect) (step : StepName) (before : RunState)
    (ended reply : Except PyException Bool) (state twin : RunState) : Prop where
  alike : state.Alike aspect twin
  same : Routine.Alike Eq ended reply
  ticket : before.ticket.isSome → state.ticket.isSome
  engine : state.engineRunId.isSome → state.ticket.isSome
  ready : ended = .ok true → step = .submitLegacy ∨ state.ticket.isSome
  unreported : ended = .ok true → aspect = .engineReports → state.engineRunId = none

/-- What a handler may rely on. -/
structure Executable (aspect : Aspect) (step : StepName) (state : RunState) : Prop where
  ready : Ready step state
  engine : state.engineRunId.isSome → state.ticket.isSome
  unreported : aspect = .engineReports → state.engineRunId = none
  settled : aspect = .settled → state.ticket.isSome

/-- The handler of a step does the same for runs that are alike. -/
def Executes (aspect : Aspect) (step : StepName) (execute : WorkflowRun → Handling Bool) : Prop :=
  ∀ run twin common, run.Alike aspect twin → Based aspect common →
    Executable aspect step run.runState →
    Both (calling aspect) (execute run) (execute twin)
      (fun after ended reply state other => after = common ∧
        Executed aspect step run.runState ended reply state other) run.runState twin.runState common

/-- The states are alike, and the first has the ticket and the engine run it had before. -/
def Unmoved (aspect : Aspect) (before : RunState) (common : Option WorkflowRun)
    (state twin : RunState) : Prop :=
  Based aspect common ∧ state.Alike aspect twin ∧ state.ticket = before.ticket ∧
    state.engineRunId = before.engineRunId

abbrev Concurs {α : Type} (aspect : Aspect) (before : RunState) (body twin : Handling α) : Prop :=
  Matched (calling aspect) (Unmoved aspect before) Eq body twin

theorem Matched.executed {step : StepName} {body twinned : Handling Bool}
    (hbody : Concurs aspect run.runState body twinned) (hstep : step ≠ .createTicket)
    (halike : run.Alike aspect twin) (hbased : Based aspect common)
    (hrun : Executable aspect step run.runState) :
    Both (calling aspect) body twinned (fun after ended reply state other => after = common ∧
      Executed aspect step run.runState ended reply state other) run.runState twin.runState
          common := by
  have hstate : run.runState.Alike aspect twin.runState := by
    obtain ⟨scheduledAt, params, hparams⟩ := halike
    exact .intro params hparams
  apply Both.mono (hbody common _ _ ⟨hbased, hstate, rfl, rfl⟩)
  rintro after ended reply state other ⟨rfl, ⟨-, halike, hticket, hengine⟩, hsame⟩
  refine ⟨rfl, halike, hsame, ?_, ?_, ?_, ?_⟩
  · rw [hticket]
    exact id
  · rw [hticket, hengine]
    exact hrun.engine
  · intro _
    rw [hticket]
    exact hrun.ready.resolve_left hstep
  · intro _ haspect
    rw [hengine]
    exact hrun.unreported haspect

theorem Executes.of_concurs {step : StepName} (hstep : step ≠ .createTicket)
    {execute : WorkflowRun → Handling Bool} (hexecute : ∀ before run twin, run.Alike aspect twin →
      Concurs aspect before (execute run) (execute twin)) : Executes aspect step execute := by
  intro run twin common halike hbased hrun
  exact Matched.executed (hexecute run.runState run twin halike) hstep halike hbased hrun

theorem request_concurs {before : RunState} {call : Call} (hcall : aspect.permits call = true) :
    Concurs aspect before (request call) (request call) := by
  have hask : Concurs aspect before (Routine.ask (S := Providers) call)
      (Routine.ask (S := Providers) call) := by
    intro common state twin hstate
    apply Both.ask (P := calling aspect) ⟨hstate.1, .same call hcall⟩
    intro answer reply hanswers
    exact ⟨rfl, hstate, eq_of_heq hanswers ▸ .ok rfl⟩
  apply Matched.bind hask
  rintro answer _ rfl
  exact .ofExcept (.of_eq _)

theorem readState_alike (aspect : Aspect) (before : RunState) :
    Matched (ε := PyException) (calling aspect) (Unmoved aspect before)
      (fun state twin : RunState => state.Alike aspect twin) read read :=
  .read fun hstate => hstate.2.1

/-- A change that touches neither the ticket nor the engine run. -/
structure Detached (change : RunState → RunState) : Prop where
  ticket : ∀ state, (change state).ticket = state.ticket
  engine : ∀ state, (change state).engineRunId = state.engineRunId
  params : ∀ state params, change { state with ticketParams := params } =
    { change state with ticketParams := params }
  kept : ∀ state, (change state).ticketParams = state.ticketParams

theorem update_concurs {before : RunState} {change : RunState → RunState}
    (hchange : Detached change) :
    Concurs aspect before (Routine.update change) (Routine.update change) := by
  apply Matched.update
  rintro common state _ ⟨hbased, ⟨params, hsame⟩, hticket, hengine⟩
  refine ⟨hbased, ?_, (hchange.ticket state).trans hticket, (hchange.engine state).trans hengine⟩
  rw [hchange.params state params]
  apply RunState.Alike.intro
  exact hchange.kept state ▸ hsame

theorem concurs_update {α : Type} {before : RunState} {change : RunState → RunState}
    {next rest : Handling α} (hchange : Detached change) (hnext : Concurs aspect before next rest) :
    Concurs aspect before (do Routine.update change; next) (do Routine.update change; rest) := by
  apply Matched.bind (update_concurs hchange)
  rintro _ _ -
  exact hnext

theorem concurs_request {α : Type} {before : RunState} {call : Call}
    {next rest : call.Result → Handling α} (hreport : call.isReport = false)
    (hticket : call.opensTicket = false)
    (hnext : ∀ result, Concurs aspect before (next result) (rest result)) :
    Concurs aspect before (do next (← request call)) (do rest (← request call)) := by
  apply Matched.bind (request_concurs (Aspect.permits_of hreport hticket aspect))
  rintro result _ rfl
  exact hnext result

theorem configureResource_executes :
    Executes aspect .configureResource configureResourceExecute := by
  apply Executes.of_concurs (by decide)
  rintro before run _ ⟨scheduledAt, params, -⟩
  apply Matched.bind (readState_alike aspect before)
  rintro state _ ⟨params, -⟩
  dsimp only
  split
  · exact .pure rfl
  · cases state.resource with
    | none => exact .raise _
    | some resource =>
        dsimp only
        split
        · apply concurs_update
          · exact ⟨fun _ => rfl, fun _ => rfl, fun _ _ => rfl, fun _ => rfl⟩
          · apply concurs_request rfl rfl
            intro resourceId
            cases resourceId with
            | none =>
                apply concurs_update
                · exact ⟨fun _ => rfl, fun _ => rfl, fun _ _ => rfl, fun _ => rfl⟩
                · exact .pure rfl
            | some assigned =>
                dsimp only
                split
                · apply concurs_update
                  · exact ⟨fun _ => rfl, fun _ => rfl, fun _ _ => rfl, fun _ => rfl⟩
                  · apply concurs_update
                    · exact ⟨fun _ => rfl, fun _ => rfl, fun _ _ => rfl, fun _ => rfl⟩
                    · exact .pure rfl
                · apply concurs_update
                  · exact ⟨fun _ => rfl, fun _ => rfl, fun _ _ => rfl, fun _ => rfl⟩
                  · exact .pure rfl
        · apply concurs_request rfl rfl
          intro _
          apply concurs_update
          · exact ⟨fun _ => rfl, fun _ => rfl, fun _ _ => rfl, fun _ => rfl⟩
          · exact .pure rfl

theorem awaitApproval_executes : Executes aspect .awaitApproval awaitApprovalExecute := by
  apply Executes.of_concurs (by decide)
  rintro before run _ ⟨scheduledAt, params, -⟩
  apply Matched.bind (readState_alike aspect before)
  rintro state _ ⟨params, -⟩
  dsimp only
  cases state.ticket with
  | none => exact .raise _
  | some ticket =>
      apply concurs_request rfl rfl
      intro status
      cases status with
      | approved => exact .pure rfl
      | rejected => exact .raise _
      | pending => exact .pure rfl

theorem validateResource_executes : Executes aspect .validateResource validateResourceExecute := by
  apply Executes.of_concurs (by decide)
  rintro before run _ ⟨scheduledAt, params, -⟩
  apply Matched.bind (readState_alike aspect before)
  rintro state _ ⟨params, -⟩
  dsimp only
  cases state.resource with
  | none => exact .raise _
  | some resource =>
      apply concurs_request rfl rfl
      intro result
      split
      · exact .pure rfl
      · exact .raise _

theorem finalizeDelete_concurs {before : RunState} (resource : ResourceSpec) :
    Concurs aspect before (finalizeDelete resource) (finalizeDelete resource) := by
  have hdelete : ∀ _ : Unit, Concurs aspect before
      (request (.deleteResource resource.projectId resource.resourceType resource.vendorId))
      (request (.deleteResource resource.projectId resource.resourceType resource.vendorId)) :=
    fun _ => request_concurs (Aspect.permits_of rfl rfl aspect)
  apply Matched.bind (request_concurs (Aspect.permits_of rfl rfl aspect)).attempt
  rintro marked _ hmarked
  cases hmarked with
  | ok hunit => exact hdelete ()
  | error error =>
      cases error with
      | resourceNotFound message => exact hdelete ()
      | _ => exact .raise_bind _

theorem finalizeResource_executes : Executes aspect .finalizeResource finalizeResourceExecute := by
  apply Executes.of_concurs (by decide)
  rintro before run _ ⟨scheduledAt, own, -⟩
  have hdone : Concurs aspect before
      (do Routine.update fun state => { state with resourceFinalized := true }; return true)
      (do Routine.update fun state => { state with resourceFinalized := true }; return true) := by
    apply concurs_update
    · exact ⟨fun _ => rfl, fun _ => rfl, fun _ _ => rfl, fun _ => rfl⟩
    · exact .pure rfl
  apply Matched.bind (readState_alike aspect before)
  rintro state _ ⟨params, -⟩
  -- what finalize writes depends on nothing in which the twins differ
  have hfields : ∀ found resource, finalizeFields
      { run with
        scheduledAt := scheduledAt, runState := { run.runState with ticketParams := own } }
      { state with ticketParams := params, resource := found } resource =
        finalizeFields run state resource :=
    fun _ _ => rfl
  dsimp only
  cases state.resource with
  | none => exact .pure rfl
  | some resource =>
      dsimp only
      split
      · exact .pure rfl
      · split
        · apply Matched.bind (finalizeDelete_concurs resource)
          rintro _ _ -
          exact hdone
        · apply concurs_request rfl rfl
          intro _
          simp only [hfields]
          cases (finalizeFields run state resource).vendorId with
          | none => exact hdone
          | some vendorId =>
              apply concurs_update
              · exact ⟨fun _ => rfl, fun _ => rfl, fun _ _ => rfl, fun _ => rfl⟩
              · exact hdone

theorem submitLegacy_executes : Executes aspect .submitLegacy submitLegacyExecute := by
  apply Executes.of_concurs (by decide)
  rintro before run _ ⟨scheduledAt, params, -⟩
  apply Matched.bind (readState_alike aspect before)
  rintro state _ ⟨params, -⟩
  dsimp only
  split
  · exact .pure rfl
  · cases state.legacy with
    | none => exact .raise _
    | some legacy =>
        apply concurs_request rfl rfl
        intro reference
        apply concurs_update
        · exact ⟨fun _ => rfl, fun _ => rfl, fun _ _ => rfl, fun _ => rfl⟩
        · exact .pure rfl

theorem closeTicket_executes : Executes aspect .closeTicket closeTicketExecute := by
  apply Executes.of_concurs (by decide)
  rintro before run _ ⟨scheduledAt, params, -⟩
  apply Matched.bind (readState_alike aspect before)
  rintro state _ ⟨params, -⟩
  dsimp only
  split
  · exact .pure rfl
  · cases state.ticket with
    | none => exact .raise _
    | some ticket =>
        apply concurs_request rfl rfl
        intro _
        apply concurs_update
        · exact ⟨fun _ => rfl, fun _ => rfl, fun _ _ => rfl, fun _ => rfl⟩
        · exact .pure rfl

theorem request_both {call : Call} (hcall : aspect.permits call = true)
    (hbased : Based aspect common) (state twin : RunState) :
    Both (calling aspect) (request call) (request call)
      (fun after ended reply final last => after = common ∧ final = state ∧ last = twin ∧
        Alike Eq ended reply) state twin common := by
  apply Both.bind
  apply Both.ask (P := calling aspect) ⟨hbased, .same call hcall⟩
  intro answer reply hanswers
  obtain rfl := eq_of_heq hanswers
  exact .ofExcept ⟨rfl, rfl, rfl, .of_eq _⟩

/-- Tickets are opened alike, whatever their parameters where these are taken for the same. -/
theorem openTicket_both {templateId requestedBy key : String} {fields other : Json}
    (haspect : aspect ≠ .settled) (hfields : aspect.Same fields other)
    (hbased : Based aspect common)
    (state twin : RunState) :
    Both (calling aspect) (request (.openTicket templateId fields requestedBy key))
      (request (.openTicket templateId other requestedBy key))
      (fun after ended reply final last => after = common ∧ final = state ∧ last = twin ∧
        Alike Eq ended reply) state twin common := by
  apply Both.bind
  apply Both.ask (P := calling aspect)
    ⟨hbased, .openTicket templateId fields other requestedBy key haspect hfields⟩
  intro answer reply hanswers
  obtain rfl : answer = reply := eq_of_heq hanswers
  exact .ofExcept ⟨rfl, rfl, rfl, .of_eq _⟩

theorem createTicket_executes : Executes aspect .createTicket createTicketExecute := by
  rintro run _ common ⟨scheduledAt, params, hparams⟩ hbased hrun
  apply Both.bind
  apply Both.read
  dsimp only
  split
  next hticket =>
    exact ⟨rfl, .intro params hparams, .ok rfl, id, hrun.engine, fun _ => .inr hticket,
      fun _ => hrun.unreported⟩
  next hticket =>
    have haspect : aspect ≠ .settled := fun heq => hticket (hrun.settled heq)
    apply Both.bind
    apply Both.mono (openTicket_both haspect hparams hbased _ _)
    rintro _ ended reply state twin ⟨rfl, rfl, rfl, halike⟩
    cases halike with
    | error error =>
        exact ⟨rfl, .intro params hparams, .error error, id, hrun.engine,
          nofun, nofun⟩
    | ok hsame =>
        subst hsame
        apply Both.bind
        apply Both.update
        exact ⟨rfl, .intro params hparams, .ok rfl, fun _ => rfl, fun _ => rfl, fun _ => .inr rfl,
          fun _ => hrun.unreported⟩

theorem captureFinalVendorId_concurs (haspect : aspect ≠ .engineReports) {before : RunState} :
    Concurs aspect before captureFinalVendorId captureFinalVendorId := by
  apply Matched.bind (readState_alike aspect before)
  rintro state _ ⟨params, -⟩
  dsimp only
  split
  next resource engineRunId hresource hengine =>
    apply Matched.bind (request_concurs (Aspect.permits_report haspect rfl)).attempt
    rintro output _ houtput
    cases houtput with
    | error error => exact .pure rfl
    | ok hsame =>
        subst hsame
        split
        · apply update_concurs
          exact ⟨fun _ => rfl, fun _ => rfl, fun _ _ => rfl, fun _ => rfl⟩
        · exact .pure rfl
        · exact .pure rfl
  next => exact .pure rfl

/-- A state beside another, with the engine run it had before. -/
theorem readState_engine (aspect : Aspect) (before : RunState) :
    Matched (ε := PyException) (calling aspect) (Unmoved aspect before)
      (fun state twin : RunState => state.Alike aspect twin ∧
        state.engineRunId = before.engineRunId) read read :=
  .read fun hstate => ⟨hstate.2.1, hstate.2.2.2⟩

theorem engineFailed_concurs {before : RunState} (message : String) :
    Concurs (α := Bool) aspect before
      (do
        let state ← Routine.read
        Routine.raise
          (.stepFailure message ((state.engineFailure.map EngineFailure.kind).getD .task)))
      (do
        let state ← Routine.read
        Routine.raise
          (.stepFailure message ((state.engineFailure.map EngineFailure.kind).getD .task))) := by
  apply Matched.bind (readState_alike aspect before)
  rintro state _ ⟨params, -⟩
  exact .raise _

/-- Polling an engine run, where reports are the same. -/
theorem runEngine_concurs (haspect : aspect ≠ .engineReports) (engines : List WorkflowEngineType)
    (run twin : WorkflowRun) {before : RunState} {engineRunId : String}
    (hengine : before.engineRunId = some engineRunId) :
    Concurs aspect before (runEngineExecute engines run) (runEngineExecute engines twin) := by
  apply Matched.bind (readState_engine aspect before)
  rintro state _ ⟨⟨params, -⟩, hstate⟩
  rw [hengine] at hstate
  dsimp only
  split
  · exact .raise_bind _
  · simp only [hstate]
    apply Matched.bind (request_concurs (Aspect.permits_report haspect rfl))
    rintro status _ rfl
    cases status with
    | success =>
        apply Matched.bind (captureFinalVendorId_concurs haspect)
        rintro _ _ -
        exact .pure rfl
    | inProgress => exact .pure rfl
    | failed =>
        apply Matched.bind (request_concurs (Aspect.permits_report haspect rfl)).attempt
        rintro failure _ hfailure
        cases hfailure with
        | error error => exact engineFailed_concurs _
        | ok hsame =>
            subst hsame
            apply concurs_update
            · exact ⟨fun _ => rfl, fun _ => rfl, fun _ _ => rfl, fun _ => rfl⟩
            · exact engineFailed_concurs _

theorem runEngine_executes (engines : List WorkflowEngineType) :
    Executes aspect .runEngine (runEngineExecute engines) := by
  intro run twin common halike hbased hrun
  cases hengine : run.runState.engineRunId with
  | some engineRunId =>
      have haspect : aspect ≠ .engineReports := by
        intro heq
        rw [hrun.unreported heq] at hengine
        cases hengine
      exact Matched.executed (runEngine_concurs haspect engines run twin hengine) (by decide) halike
        hbased hrun
  | none =>
      -- the engine run is triggered, and asked about in a later drive only
      have hticket : run.runState.ticket.isSome :=
        (hrun.ready.resolve_left (by decide)).resolve_left (by decide)
      obtain ⟨scheduledAt, params, hparams⟩ := halike
      have hstates : run.runState.Alike aspect { run.runState with ticketParams := params } :=
        .intro params hparams
      apply Both.bind
      apply Both.read
      dsimp only
      split
      · exact ⟨rfl, .intro params hparams, .error _, id, hrun.engine, nofun, nofun⟩
      · simp only [hengine] at hstates ⊢
        apply Both.bind
        apply Both.mono (request_both (Aspect.permits_of rfl rfl aspect) hbased _ _)
        rintro _ ended reply state twin ⟨rfl, rfl, rfl, halike⟩
        cases halike with
        | error error => exact ⟨rfl, hstates, .error error, id, hrun.engine, nofun, nofun⟩
        | ok hsame =>
            subst hsame
            apply Both.bind
            apply Both.update
            exact ⟨rfl, .intro params hparams, .ok rfl, id, fun _ => hticket, nofun, nofun⟩

theorem buildHandlers_executes (aspect : Aspect) (engines : List WorkflowEngineType)
    {step : StepName} {handler : StepHandler}
    (hhandler : buildHandlers engines step = some handler) :
    Executes aspect step handler.execute ∧ Incidental handler.resetForRetry := by
  have hid : Incidental id := ⟨fun _ => rfl, fun _ => id, fun _ _ => rfl, fun _ => rfl⟩
  cases step with
  | createTicket => exact Option.some.inj hhandler ▸ ⟨createTicket_executes, hid⟩
  | configureResource => exact Option.some.inj hhandler ▸ ⟨configureResource_executes, hid⟩
  | awaitApproval => exact Option.some.inj hhandler ▸ ⟨awaitApproval_executes, hid⟩
  | validateResource => exact Option.some.inj hhandler ▸ ⟨validateResource_executes, hid⟩
  | runEngine =>
      refine Option.some.inj hhandler ▸
        ⟨runEngine_executes engines, fun _ => rfl, ?_, fun _ _ => rfl, fun _ => rfl⟩
      exact fun _ => nofun
  | finalizeResource => exact Option.some.inj hhandler ▸ ⟨finalizeResource_executes, hid⟩
  | closeTicket => exact Option.some.inj hhandler ▸ ⟨closeTicket_executes, hid⟩
  | submitLegacy => exact Option.some.inj hhandler ▸ ⟨submitLegacy_executes, hid⟩

end Handlers

/-! ## The loop -/

section Loop

/-- The drives are in the loop, at a step. -/
def Turning (aspect : Aspect) (step : StepName) (common : Option WorkflowRun)
    (run twin : WorkflowRun) : Prop :=
  Tied aspect common run twin ∧ Ready step run.runState ∧
    (aspect = .engineReports → run.runState.engineRunId = none)

theorem Turning.tied {step : StepName} (hrun : Turning aspect step common run twin) :
    Tied aspect common run twin :=
  hrun.1

theorem Turning.based {step : StepName} (hrun : Turning aspect step common run twin) :
    Based aspect common :=
  hrun.1.based

theorem updateState_turning {step : StepName} {change : RunState → RunState}
    (hchange : Incidental change) :
    Parallel aspect (Turning aspect step) (updateState change) (updateState change) := by
  apply Matched.update
  intro common run twin ⟨htied, hready, hcalm⟩
  refine ⟨?_, ?_, ?_⟩
  · exact (updateState_parallel aspect hchange common run twin htied).2.1
  · dsimp only [Ready]
    rw [hchange.ticket]
    exact hready
  · intro haspect
    dsimp only
    cases hengine : (change run.runState).engineRunId with
    | none => rfl
    | some engineRunId =>
        have hbefore := hchange.engine run.runState (by rw [hengine]; rfl)
        rw [hcalm haspect] at hbefore
        cases hbefore

theorem read_turning (step : StepName) : Matched (ε := PyException) (pairing aspect)
    (Turning aspect step) (fun run twin : WorkflowRun => run.Alike aspect twin) read read :=
  .read fun hrun => hrun.1.alike

theorem incidental_stamps (startedAt : RunState → StepMap Datetime)
    (attemptStartedAt : RunState → Option Datetime)
    (hstarted : ∀ state params, startedAt { state with ticketParams := params } = startedAt state)
    (hattempt : ∀ state params,
      attemptStartedAt { state with ticketParams := params } = attemptStartedAt state) :
    Incidental fun state => { state with
      stepStartedAt := startedAt state, attemptStartedAt := attemptStartedAt state } where
  ticket _ := rfl
  engine _ := id
  params state params := by simp only [hstarted, hattempt]
  kept _ := rfl

theorem stamp_turning (step : StepName) :
    Parallel aspect (Turning aspect step) (Executor.stamp step) (Executor.stamp step) := by
  apply Matched.bind (perform_parallel Turning.based (fun _ => .utcnow) (by simp))
  rintro now _ rfl
  apply Matched.bind (updateState_turning (incidental_stamps
    (fun state => state.stepStartedAt.setDefault step (.aware now)) RunState.attemptStartedAt
    (fun _ _ => rfl) fun _ _ => rfl))
  rintro _ _ -
  apply Matched.bind (read_turning step)
  rintro run _ ⟨scheduledAt, params, -⟩
  dsimp only
  cases run.runState.attemptStartedAt with
  | some started => exact .pure rfl
  | none =>
      apply Matched.bind (perform_parallel Turning.based (fun _ => .utcnow) (by simp))
      rintro now _ rfl
      apply Matched.bind (updateState_turning (incidental_stamps RunState.stepStartedAt
        (fun _ => some (.aware now)) (fun _ _ => rfl) fun _ _ => rfl))
      rintro _ _ -
      exact .pure rfl

/-- How an attempt at a step ends side by side. -/
structure Attempted (aspect : Aspect) (step : StepName) (common : Option WorkflowRun)
    (ended reply : Except PyException Bool) (run twin : WorkflowRun) : Prop where
  same : Routine.Alike Eq ended reply
  tied : Tied aspect common run twin
  ready : ended = .ok true → step = .submitLegacy ∨ run.runState.ticket.isSome
  unreported : ended = .ok true → aspect = .engineReports → run.runState.engineRunId = none

theorem Attempted.raised {step : StepName} (error : PyException)
    (htied : Tied aspect common run twin) :
    Attempted aspect step common (.error error) (.error error) run twin :=
  ⟨.error error, htied, nofun, nofun⟩

/-- What a handler did to the states, in the runs. -/
theorem Executed.attempted {step : StepName} {ended reply : Except PyException Bool}
    {state other : RunState} (htied : Tied aspect common run twin)
    (hexecuted : Executed aspect step run.runState ended reply state other) :
    Attempted aspect step common ended reply { run with runState := state }
      { twin with runState := other } := by
  refine ⟨hexecuted.same, ?_, hexecuted.ready, hexecuted.unreported⟩
  obtain ⟨base, hcommon, hbasis, htwins⟩ := htied
  refine ⟨base, hcommon, hbasis, ?_, htwins.runId, htwins.runType, htwins.version,
    fun hticket => hexecuted.ticket (htwins.ticket hticket), ?_⟩
  · obtain ⟨scheduledAt, -, -⟩ := htwins.alike
    obtain ⟨params, hparams⟩ := hexecuted.alike
    exact .intro scheduledAt params hparams
  · refine ⟨fun htype => hexecuted.ticket (htwins.ticketing.automation htype), hexecuted.engine, ?_⟩
    intro other hother
    rcases htwins.ticketing.start other hother with hstep | hstep | hticket
    · exact .inl hstep
    · exact .inr (.inl hstep)
    · exact .inr (.inr (hexecuted.ticket hticket))

theorem onProviders_both {step : StepName} {execute : WorkflowRun → Handling Bool}
    (hexecute : Executes aspect step execute) (hrun : Turning aspect step common run twin) :
    Both (pairing aspect) (onProviders step (execute run)) (onProviders step (execute twin))
      (Attempted aspect step) run twin common := by
  obtain ⟨htied, hready, hcalm⟩ := hrun
  have hexecutable : Executable aspect step run.runState := by
    obtain ⟨base, -, hbasis, htwins⟩ := htied
    exact ⟨hready, htwins.ticketing.engine, hcalm,
      fun haspect => htwins.ticket (hbasis.settled haspect)⟩
  apply Prog.Paired.bind
  apply Prog.Paired.mono (Prog.Paired.relabel (Q := pairing aspect) ?_ ?_ ?_
    (hexecute run twin common htied.alike htied.based hexecutable))
  · rintro after ⟨ended, state⟩ ⟨reply, other⟩ ⟨rfl, hexecuted⟩
    exact hexecuted.attempted htied
  · rintro common call other ⟨⟨base, hcommon, hbasis⟩, hcall⟩
    exact ⟨base, hcommon, hbasis, .call _ hcall⟩
  · intro common call other answer reply _ hanswers
    exact hanswers
  · intro common call answer
    rfl

theorem Turning.bind {α β : Type} {step : StepName} {body other : Drive α} {next rest : α → Drive β}
    {post : Option WorkflowRun → Except PyException β → Except PyException β → WorkflowRun →
      WorkflowRun → Prop}
    (hrun : Turning aspect step common run twin)
    (hbody : Parallel aspect (Turning aspect step) body other)
    (hnext : ∀ value run twin, Turning aspect step common run twin →
      Both (pairing aspect) (next value) (rest value) post run twin common)
    (herror : ∀ error run twin, Tied aspect common run twin →
      post common (.error error) (.error error) run twin) :
    Both (pairing aspect) (body >>= next) (other >>= rest) post run twin common := by
  apply Matched.bind_both hbody hrun
  · rintro value _ run twin rfl hrun
    exact hnext value run twin hrun
  · intro error run twin hrun
    exact herror error run twin hrun.tied

theorem attemptStep_both {step : StepName} {handler : StepHandler}
    (hexecute : Executes aspect step handler.execute) (started : Datetime)
    (hrun : Turning aspect step common run twin) :
    Both (pairing aspect) (Executor.attemptStep step handler started)
      (Executor.attemptStep step handler started) (Attempted aspect step) run twin common := by
  apply hrun.bind (perform_parallel Turning.based (fun _ => .utcnow) (by simp))
  · intro now run twin hrun
    apply hrun.bind (.ofExcept (.of_eq _))
    · intro spent run twin hrun
      dsimp only
      split
      · exact Attempted.raised _ hrun.tied
      · exact onProviders_both hexecute hrun
    · exact fun error _ _ => .raised error
  · exact fun error _ _ => .raised error

/-- How a turn ends side by side. -/
structure Turned (aspect : Aspect) (step : StepName) (common : Option WorkflowRun)
    (ended reply : Except PyException Bool) (run twin : WorkflowRun) : Prop where
  finished : Finished aspect common ended reply run twin
  passed : ended = .ok true → Tied aspect common run twin ∧
    (step = .submitLegacy ∨ run.runState.ticket.isSome) ∧
    (aspect = .engineReports → run.runState.engineRunId = none)

theorem Turned.error {step : StepName} (error : PyException) (htied : Tied aspect common run twin) :
    Turned aspect step common (.error error) (.error error) run twin :=
  ⟨.error error htied, nofun⟩

/-- What ends a turn that does not go on. -/
theorem turned_of_finishes {step : StepName} {body other : Drive Unit}
    (hbody : Finishes aspect (Tied aspect) body other) (htied : Tied aspect common run twin) :
    Both (pairing aspect) (do body; return false) (do other; return false) (Turned aspect step)
      run twin common := by
  apply Both.bind
  apply Both.mono (hbody common run twin htied)
  rintro after ended reply run twin ⟨halike, htied⟩
  cases halike with
  | ok hunit => exact ⟨.ok false, nofun⟩
  | error error => exact .error error (htied error rfl)

/-- The drives have completed a step. -/
def Passed (aspect : Aspect) (step : StepName) (common : Option WorkflowRun)
    (run twin : WorkflowRun) : Prop :=
  Turning aspect step common run twin ∧ (step = .submitLegacy ∨ run.runState.ticket.isSome)

theorem Passed.based {step : StepName} (hrun : Passed aspect step common run twin) :
    Based aspect common :=
  hrun.1.based

theorem updateState_passed {step : StepName} {change : RunState → RunState}
    (hchange : Incidental change) :
    Parallel aspect (Passed aspect step) (updateState change) (updateState change) := by
  apply Matched.update
  intro common run twin ⟨hrun, hticket⟩
  refine ⟨(updateState_turning hchange common run twin hrun).2.1, ?_⟩
  dsimp only
  rw [hchange.ticket]
  exact hticket

theorem Attempted.passed {step : StepName} (hrun : Attempted aspect step common (.ok true)
    (.ok true) run twin) : Passed aspect step common run twin :=
  ⟨⟨hrun.tied, .inr (hrun.ready rfl), hrun.unreported rfl⟩, hrun.ready rfl⟩

/-- What is done once a step has completed. -/
theorem turned_of_passed {step : StepName} (hrun : Passed aspect step common run twin) :
    Both (pairing aspect)
      (do
        log (.stepCompleted step)
        updateState fun state =>
          { state with stepAttempts := state.stepAttempts.pop step, attemptStartedAt := none }
        return true)
      (do
        log (.stepCompleted step)
        updateState fun state =>
          { state with stepAttempts := state.stepAttempts.pop step, attemptStartedAt := none }
        return true) (Turned aspect step) run twin common := by
  have hchange : Incidental fun state : RunState =>
      { state with stepAttempts := state.stepAttempts.pop step, attemptStartedAt := none } :=
    ⟨fun _ => rfl, fun _ => id, fun _ _ => rfl, fun _ => rfl⟩
  have hlog : Parallel aspect (Passed aspect step) (log (.stepCompleted step))
      (log (.stepCompleted step)) := log_parallel Passed.based _
  apply Matched.bind_both hlog hrun
  · rintro _ _ run twin - hrun
    apply Matched.bind_both (updateState_passed hchange) hrun
    · rintro _ _ run twin - ⟨⟨htied, -, hcalm⟩, hticket⟩
      exact ⟨.ok true, fun _ => ⟨htied, hticket, hcalm⟩⟩
    · intro error run twin hrun
      exact .error error hrun.1.tied
  · intro error run twin hrun
    exact .error error hrun.1.tied

variable (executor : Executor)

/-- The handlers do the same for runs that are alike. -/
def Wired (aspect : Aspect) : Prop :=
  ∀ step handler, executor.handlers step = some handler →
    Executes aspect step handler.execute ∧ Incidental handler.resetForRetry

/-- A run at a step, in memory. -/
theorem Turning.atStep {step : StepName} (hrun : Turning aspect step common run twin) :
    Turning aspect step common { run with currentStep := some step.value }
      { twin with currentStep := some step.value } := by
  obtain ⟨⟨base, hcommon, hbasis, htwins⟩, hready, hcalm⟩ := hrun
  refine ⟨⟨base, hcommon, hbasis, ?_, htwins.runId, htwins.runType, htwins.version, htwins.ticket,
    htwins.ticketing.automation, htwins.ticketing.engine, ?_⟩, hready, hcalm⟩
  · obtain ⟨scheduledAt, params, hparams⟩ := htwins.alike
    exact .intro scheduledAt params hparams
  · intro other hother
    rw [startStep_named rfl] at hother
    exact Except.ok.inj hother ▸ hready

/-- What is done once a step has raised. -/
theorem turned_of_raised (step : StepName) {handler : StepHandler}
    (hreset : Incidental handler.resetForRetry) (attempt : Int) (error : PyException)
    (htied : Tied aspect common run twin) :
    Both (pairing aspect)
      (do
        log (.stepRaised step attempt error)
        executor.onStepError step handler error
        return false)
      (do
        log (.stepRaised step attempt error)
        executor.onStepError step handler error
        return false) (Turned aspect step) run twin common := by
  have hlog : Parallel aspect (Tied aspect) (log (.stepRaised step attempt error))
      (log (.stepRaised step attempt error)) := log_parallel Tied.based _
  apply Matched.bind_both hlog htied
  · rintro _ _ run twin - htied
    exact turned_of_finishes (onStepError_finishes executor step hreset error) htied
  · exact fun error _ _ => .error error

theorem turn_both (hwired : Wired executor aspect) {step : StepName}
    (hrun : Turning aspect step common run twin) :
    Both (pairing aspect) (executor.turn step) (executor.turn step) (Turned aspect step) run twin
      common := by
  apply Both.bind
  apply Both.update
  have hrun := hrun.atStep
  dsimp only
  cases hhandler : executor.handlers step with
  | none => exact .error _ hrun.tied
  | some handler =>
      obtain ⟨hexecute, hreset⟩ := hwired step handler hhandler
      apply hrun.bind (stamp_turning step) _ fun error _ _ => .error error
      intro started run twin hrun
      apply Both.bind
      apply Both.read
      have hattempts : twin.runState.attempts step = run.runState.attempts step := by
        obtain ⟨scheduledAt, params, -⟩ := hrun.tied.alike
        rfl
      dsimp only
      rw [hattempts]
      generalize run.runState.attempts step = attempt
      apply hrun.bind (perform_parallel Turning.based (fun _ => .utcnow) (by simp)) _
        fun error _ _ => .error error
      intro now run twin hrun
      apply hrun.bind (.ofExcept (.of_eq _)) _ fun error _ _ => .error error
      intro spent run twin hrun
      apply Both.bind
      apply Both.attempt
      apply Both.mono (attemptStep_both hexecute started hrun)
      intro common ended reply run twin hattempted
      have htied := hattempted.tied
      cases hattempted.same with
      | ok hpassed =>
          subst hpassed
          rename_i passed
          cases passed with
          | false => exact turned_of_finishes (schedule_finishes _) htied
          | true => exact turned_of_passed hattempted.passed
      | error error =>
          -- a rejection ends the run; any other error goes through the retry loop
          have hraised := turned_of_raised executor step hreset attempt error htied
          cases error with
          | runRejected message => exact turned_of_finishes (rejectRun_finishes step message) htied
          | _ => exact hraised

/-- A turn, and what follows where the step completes. -/
theorem proceed_finishes (hwired : Wired executor aspect) (plan : List StepName) {step : StepName}
    {andThen : Drive Unit}
    (hthen : step ∈ plan → Finishes aspect (Passed aspect step) andThen andThen) :
    Finishes aspect (Turning aspect step) (executor.proceed plan step andThen)
      (executor.proceed plan step andThen) := by
  intro common run twin hrun
  apply Both.bind
  apply Both.mono (turn_both executor hwired hrun)
  intro common ended reply run twin hturned
  cases hturned.finished.1 with
  | error error => exact .error error (hturned.finished.2 error rfl)
  | ok hpassed =>
      subst hpassed
      rename_i passed
      cases passed with
      | false => exact .ok ()
      | true =>
          obtain ⟨htied, hticket, hcalm⟩ := hturned.passed rfl
          simp only [if_true]
          by_cases hstep : step ∈ plan
          · simp only [hstep, not_true_eq_false, if_false]
            exact hthen hstep common run twin ⟨⟨htied, .inr hticket, hcalm⟩, hticket⟩
          · simp only [hstep, not_false_eq_true, if_true]
            exact .error _ htied

theorem Ticketing.completed {status : RunStatus} {scheduledAt : Option Time}
    (hrun : Ticketing run) :
    Ticketing { run with status := status, currentStep := none, scheduledAt := scheduledAt } where
  automation := hrun.automation
  engine := hrun.engine
  start step hstep := by
    obtain rfl := Except.ok.inj hstep
    cases htype : run.runType with
    | resource => exact .inl rfl
    | legacy => exact .inr (.inl rfl)
    | automation => exact .inr (.inr (hrun.automation htype))

theorem complete_finishes : Finishes aspect (Tied aspect) Executor.complete Executor.complete := by
  rintro common run twin ⟨base, hcommon, hbasis, htwins⟩
  apply Both.bind
  apply Both.update
  refine save_finishes aspect common _ _ ⟨base, hcommon, hbasis, ?_, htwins.runId, htwins.runType,
    htwins.version, htwins.ticket, htwins.ticketing.completed⟩
  obtain ⟨scheduledAt, params, hparams⟩ := htwins.alike
  exact .intro none params hparams

theorem following_submitLegacy (runType : RunType) :
    following (runPlans runType) .submitLegacy = [] := by
  cases runType <;> decide

/-- The loop, by induction on what the plan still has. -/
theorem advance_finishes (hwired : Wired executor aspect) (runType : RunType)
    (rest : List StepName) (step : StepName) (hrest : following (runPlans runType) step = rest) :
    Finishes aspect (Turning aspect step) (executor.advance (runPlans runType) rest step)
      (executor.advance (runPlans runType) rest step) := by
  induction rest generalizing step with
  | nil =>
      apply proceed_finishes executor hwired
      intro _ common run twin hrun
      exact complete_finishes common run twin hrun.1.tied
  | cons next rest ih =>
      apply proceed_finishes executor hwired
      intro hstep
      obtain ⟨-, hnext, -⟩ := following_eq_cons (runPlans_nodup runType) hstep hrest
      rintro common run twin ⟨⟨htied, -, hcalm⟩, hticket⟩
      have hticketed : run.runState.ticket.isSome := by
        apply hticket.resolve_left
        rintro rfl
        rw [following_submitLegacy] at hrest
        cases hrest
      exact ih next hnext common run twin ⟨htied, .inr (.inr hticketed), hcalm⟩

/-- Just loaded. -/
structure Loaded (aspect : Aspect) (common : Option WorkflowRun) (run twin : WorkflowRun) :
    Prop where
  tied : Tied aspect common run twin
  unreported : aspect = .engineReports → run.runState.engineRunId = none

theorem drive_finishes (hwired : Wired executor aspect) :
    Finishes aspect (Loaded aspect) executor.drive executor.drive := by
  rintro common run twin ⟨htied, hcalm⟩
  apply Both.bind
  apply Both.read
  obtain ⟨base, hcommon, hbasis, htwins⟩ := htied
  have hstart : Executor.startStep twin = Executor.startStep run := by
    obtain ⟨scheduledAt, params, -⟩ := htwins.alike
    rfl
  have htype : twin.runType = run.runType := by
    obtain ⟨scheduledAt, params, -⟩ := htwins.alike
    rfl
  simp only [hstart, htype]
  apply Both.bind
  apply Both.ofExcept
  cases hstep : Executor.startStep run with
  | error error => exact .error error ⟨base, hcommon, hbasis, htwins⟩
  | ok step =>
      apply Both.bind
      apply Both.update
      have hready := htwins.ticketing.start step hstep
      have htied : Tied aspect common run twin := ⟨base, hcommon, hbasis, htwins⟩
      have hrunning : Tied aspect common { run with status := .running }
          { twin with status := .running } := by
        apply htied.spared
        · obtain ⟨scheduledAt, params, hparams⟩ := htwins.alike
          exact .intro scheduledAt params hparams
        · exact ⟨rfl, rfl, rfl, rfl, rfl, id⟩
      have hturning : Turning aspect step common { run with status := .running }
          { twin with status := .running } := ⟨hrunning, hready, hcalm⟩
      exact advance_finishes executor hwired run.runType _ step rfl common _ _ hturning.atStep

theorem saveQuietly_finishes :
    Finishes aspect (Tied aspect) Executor.saveQuietly Executor.saveQuietly := by
  intro common run twin htied
  apply Both.bind
  apply Both.attempt
  apply Both.mono (save_finishes aspect common run twin htied)
  intro common ended reply run twin _
  exact .ok ()

theorem crash_finishes (error : PyException) :
    Finishes aspect (Tied aspect) (executor.crash error) (executor.crash error) := by
  have hrest : Finishes aspect (Tied aspect)
      (do
        Routine.update fun run : WorkflowRun => { run with status := .failed, scheduledAt := none }
        log (.crashed error)
        Escalator.escalate executor.defaultTeam error
        Executor.saveQuietly)
      (do
        Routine.update fun run : WorkflowRun => { run with status := .failed, scheduledAt := none }
        log (.crashed error)
        Escalator.escalate executor.defaultTeam error
        Executor.saveQuietly) := by
    apply finishes_status
    apply finishes_bind (log_parallel Tied.based _) id
    rintro _ _ -
    apply finishes_bind (escalate_parallel aspect _ error) id
    rintro _ _ -
    exact saveQuietly_finishes
  apply finishes_bind (read_alike aspect) id
  rintro run _ ⟨scheduledAt, params, -⟩
  dsimp only
  split
  · apply finishes_bind (log_parallel Tied.based _) id
    rintro _ _ -
    exact saveQuietly_finishes
  · cases run.currentStep with
    | none => exact hrest
    | some text =>
        dsimp only
        apply finishes_bind (.ofExcept (.of_eq _)) id
        rintro step _ rfl
        exact finishes_updateState (incidental_errors step error.message) hrest

theorem driveOrCrash_both (hwired : Wired executor aspect) (hrun : Loaded aspect common run twin) :
    Both (pairing aspect) executor.driveOrCrash executor.driveOrCrash
      (fun _ _ _ _ _ => True) run twin common := by
  apply Both.bind
  apply Both.attempt
  apply Both.mono (drive_finishes executor hwired common run twin hrun)
  rintro common ended reply run twin ⟨halike, htied⟩
  cases halike with
  | ok hunit => trivial
  | error error =>
      apply Both.mono (crash_finishes executor error common run twin (htied error rfl))
      intros
      trivial

end Loop

end CloudioOrchestrator

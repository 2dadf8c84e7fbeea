import CloudioOrchestrator.Account

/-! # Narratives

What is known before and after each step of a plan, and how each way through a
step leads from one to the other. A narrative is told of every drive, so it
gives an account that interleaved drives keep.
-/

namespace CloudioOrchestrator

open Interaction

/-- The runs differ at most in how the driving of them stands. -/
def WorkflowRun.SameWork (first second : WorkflowRun) : Prop :=
  first.SameOrigin second ∧ ∃ stepStartedAt attemptStartedAt errors, second.runState =
    { first.runState with
      stepStartedAt := stepStartedAt, attemptStartedAt := attemptStartedAt, errors := errors }

namespace Fact

/-- The fact does not depend on how the driving of a run stands. -/
def Steady (fact : Fact) : Prop :=
  ∀ {run changed history}, fact run history → run.SameWork changed → fact changed history

/-- A fact together with a condition on the run itself. -/
def also (fact : Fact) (condition : WorkflowRun → Prop) : Fact where
  holds run history := condition run ∧ fact run history
  grows event hfact := ⟨hfact.1, fact.grows event hfact.2⟩

/-- A condition on the run itself. -/
def only (condition : WorkflowRun → Prop) : Fact where
  holds run _ := condition run
  grows _ hcondition := hcondition

end Fact

/-- The exchanges are on record as a drive's, for a step. -/
def Recorded (drive : DriveId) (step : StepName) (trace : Trace Providers) (history : History) :
    Prop :=
  ∀ exchange ∈ trace, ∃ applied,
    .called drive (.step step) exchange.op exchange.answer applied ∈ history

theorem Recorded.grows {drive : DriveId} {step : StepName} {trace : Trace Providers}
    {since : Event → Prop} {world final : World}
    (hrecorded : Recorded drive step trace world.history)
    (hgrows : world.Grows since final) : Recorded drive step trace final.history := by
  intro exchange hexchange
  obtain ⟨applied, hcalled⟩ := hrecorded exchange hexchange
  exact ⟨applied, hgrows.mem hcalled⟩

theorem Recorded.cons {drive : DriveId} {step : StepName} {trace : Trace Providers}
    {older : History} {call : Call} {answer : call.Answer} (applied : Bool)
    (hrecorded : Recorded drive step trace older) :
    Recorded drive step (⟨call, answer⟩ :: trace)
      (.called drive (.step step) call answer applied :: older) := by
  intro exchange hexchange
  rcases List.mem_cons.mp hexchange with rfl | hold
  · exact ⟨applied, List.mem_cons_self⟩
  · obtain ⟨applied, hcalled⟩ := hrecorded exchange hold
    exact ⟨applied, List.mem_cons_of_mem _ hcalled⟩

/-- The calls that no step makes. -/
inductive AsideCall (state : RunState) : Issuer → Call → Prop
  | incident (request : IncidentRequest) : AsideCall state .escalation (.openIncident request)
  | aftermath {issuer : Issuer} {call : Call} (hcall : AftermathCall state issuer call) :
      AsideCall state issuer call

structure Narrative (engines : List WorkflowEngineType) where
  /-- Before a step is tried. -/
  before : StepName → Fact
  /-- Once it has been tried and ended so. -/
  tried : StepName → Except PyException Bool → Fact
  /-- Once it has completed. -/
  after : StepName → Fact
  /-- Once the last step has completed. -/
  done : Fact
  event : Event → History → Prop

  before_steady : ∀ step, (before step).Steady
  done_steady : done.Steady
  born : ∀ {run older}, Newborn run → before (firstStep run.runType) run (.created run :: older)
  created : ∀ run older, event (.created run) older
  loaded : ∀ drive run older, event (.loaded drive run) older
  saved : ∀ drive {run older}, (run.status = .completed → done run older) →
    event (.saved drive run) older
  logged : ∀ drive {record} older, (∀ step, record ≠ .stepCompleted step) →
    event (.logged drive record) older
  aside : ∀ drive {state issuer call} answer applied older, AsideCall state issuer call →
    event (.called drive issuer call answer applied) older
  called : ∀ {drive : DriveId} {step run call older} answer applied, run.runId = drive.subject →
    HasOrigin run older → before step run older → HandlerCall run run.runState step call →
    event (.called drive (.step step) call answer applied) older
  deadline : ∀ {step run history} error, before step run history →
    tried step (.error error) run history
  ended : ∀ {drive : DriveId} {step run trace outcome final history}, run.runId = drive.subject →
    before step run history → Recorded drive step trace history →
    HandlerEnd engines run run.runState step trace outcome final →
    tried step outcome { run with runState := final } history
  poll : ∀ {step run history}, tried step (.ok false) run history → before step run history
  retry : ∀ {step handler error run history}, buildHandlers engines step = some handler →
    tried step (.error error) run history →
    mayRetry error (run.runState.attempts step + 1) run.maxRetries →
    before step (retriedRun step handler run) history
  completed : ∀ {drive : DriveId} {step run older}, run.runId = drive.subject →
    HasOrigin run older → tried step (.ok true) run older →
    event (.logged drive (.stepCompleted step)) older ∧
      after step (steppedRun step run) (.logged drive (.stepCompleted step) :: older)
  next : ∀ {step next rest run history}, after step run history → step ∈ runPlans run.runType →
    following (runPlans run.runType) step = next :: rest → before next run history
  finish : ∀ {step run history}, after step run history → step ∈ runPlans run.runType →
    following (runPlans run.runType) step = [] → done run history

theorem startStep_newborn {run : WorkflowRun} (hrun : Newborn run) :
    Executor.startStep run = .ok (firstStep run.runType) := by
  simp [Executor.startStep, hrun.currentStep]

namespace Narrative

variable {engines : List WorkflowEngineType} (N : Narrative engines)

/-- What a narrative knows of a stored row: the facts before the step that the
next drive starts at, and what completion presupposes. -/
def stored : Fact where
  holds run history :=
    (run.status.terminal = false → ∀ step, Executor.startStep run = .ok step →
      N.before step run history) ∧
    (run.status = .completed → N.done run history)
  grows event hrow :=
    ⟨fun hopen step hstep => (N.before step).grows event (hrow.1 hopen step hstep),
      fun hdone => N.done.grows event (hrow.2 hdone)⟩

def account : Account where
  row := N.stored
  event := N.event
  born {run older} hrun := by
    refine ⟨fun _ step hstep => ?_, fun hdone => ?_⟩
    · rw [startStep_newborn hrun] at hstep
      obtain rfl := Except.ok.inj hstep
      exact N.born hrun
    · rw [hrun.status] at hdone
      cases hdone
  rescheduled time hrow :=
    ⟨fun hopen step hstep => N.before_steady step (hrow.1 hopen step hstep) ⟨.refl, _, _, _, rfl⟩,
      fun hdone => N.done_steady (hrow.2 hdone) ⟨.refl, _, _, _, rfl⟩⟩
  created := N.created
  loaded := N.loaded

/-- In the middle of a step. -/
def InStep (step : StepName) (run : WorkflowRun) : Prop :=
  run.status = .running ∧ run.currentStep = some step.value

/-- A run in the middle of a step may be stored as it is. -/
theorem stored_inStep {step : StepName} {run : WorkflowRun} {history : History}
    (hstep : InStep step run) (hbefore : N.before step run history) : N.stored run history := by
  refine ⟨fun _ other hother => ?_, fun hdone => ?_⟩
  · rw [startStep_named hstep.2] at hother
    obtain rfl := Except.ok.inj hother
    exact hbefore
  · rw [hstep.1] at hdone
    cases hdone

/-- So may a run that ended badly. -/
theorem stored_bad {run : WorkflowRun} (history : History)
    (hbad : run.status = .failed ∨ run.status = .rejected) : N.stored run history := by
  rcases hbad with hbad | hbad <;> simp [stored, hbad, RunStatus.terminal]

theorem stored_version {run : WorkflowRun} {history : History} (version : Int)
    (hrun : N.stored run history) : N.stored { run with version := version } history :=
  ⟨fun hopen step hstep => N.before_steady step (hrun.1 hopen step hstep) ⟨.refl, _, _, _, rfl⟩,
    fun hdone => N.done_steady (hrun.2 hdone) ⟨.refl, _, _, _, rfl⟩⟩

section Outline

variable (drive : DriveId) (executor : Executor)

def Over : Assertion N.account.discipline drive where
  holds _ _ := True
  stable _ _ _ := trivial

/-- The run is at a step, of which a fact is known. -/
abbrev during (step : StepName) (fact : Fact) : Assertion N.account.discipline drive :=
  N.account.noting drive (fact.also (InStep step))

abbrev bad (status : RunStatus) : Assertion N.account.discipline drive :=
  N.account.noting drive (.only fun run => run.status = status)

variable {N drive} {run : WorkflowRun} {world : World}

/-- A call aside of the steps leaves what is known as it is. -/
theorem aside_call {fact : Fact} {issuer : Issuer} {call : Call}
    (hrun : N.account.noting drive fact run world) (hinv : N.account.Inv world)
    (hcall : AsideCall run.runState issuer call) :
    Serves N.account.discipline drive (.provider issuer call) world fun _ final =>
      N.account.noting drive fact run final :=
  Account.noting_call hrun hinv fun answer applied => N.aside drive answer applied _ hcall

/-- So does a log record about anything but a completed step. -/
theorem aside_log {fact later : Fact} {changed : WorkflowRun} {record : LogRecord}
    (hrun : N.account.noting drive fact run world) (hinv : N.account.Inv world)
    (hrecord : ∀ step, record ≠ .stepCompleted step) (hsame : run.Continues changed)
    (hlater : ∀ {history}, fact run history → later changed history) :
    Serves N.account.discipline drive (.log record) world fun _ final =>
      N.account.noting drive later changed final :=
  Account.noting_log hrun hinv hsame (N.logged drive _ hrecord) fun hfact =>
    hlater (fact.grows _ hfact)

/-- A run that may be stored is saved, or the save is refused. -/
theorem stored_save {fact : Fact} (hrun : N.account.noting drive fact run world)
    (hinv : N.account.Inv world) (hstored : ∀ {history}, fact run history → N.stored run history)
    {post : (Op.runsSave run).Answer → World → Prop}
    (hpost : ∀ answer final, N.account.noting drive fact run final → post answer final) :
    Serves N.account.discipline drive (.runsSave run) world post := by
  refine Account.noting_save hrun hinv (fun event hfact => ?_) (fun hfact => ?_) hpost
  · exact N.stored.grows event (N.stored_version _ (hstored hfact))
  · exact N.saved drive (N.stored_version _ (hstored hfact)).2

/-- The handler of a step, told by its calls and by how it ends. -/
theorem during_execute {step : StepName} {handler : StepHandler}
    (hhandler : buildHandlers engines step = some handler)
    (hrun : during N drive step (N.before step) run world) :
    (N.account.discipline.through (S := Providers) (Op.provider (.step step))
        fun _ answer => answer).wp drive (handler.execute run)
      (fun outcome state final =>
        during N drive step (N.tried step outcome) { run with runState := state } final)
      run.runState world := by
  refine Discipline.wp_mono (wp_handler
    (fun trace final => during N drive step (N.before step) run final ∧
      Recorded drive step trace final.history)
    hhandler ?_ ?_ ⟨hrun, by simp [Recorded]⟩) ?_
  · rintro trace world current ⟨hrun, hrecorded⟩ hrely hinv
    exact ⟨(during N drive step (N.before step)).stable hrun hrely hinv, hrecorded.grows hrely.1⟩
  · rintro trace call world ⟨hrun, hrecorded⟩ hcall hinv
    refine serves_call fun answer applied _ => ?_
    obtain ⟨hkept, hguar, hnoted⟩ := Account.noting_record hrun hinv
      (.called drive (.step step) call answer applied) rfl
      (N.called answer applied hrun.1 hrun.2.1 hrun.2.2.2 hcall)
    exact ⟨hkept, hguar, hnoted, hrecorded.cons applied⟩
  · rintro outcome state final ⟨trace, ⟨hrun, hrecorded⟩, hend⟩
    refine Account.noting_imp hrun ⟨.refl, hend.sameRequest⟩ fun hfact => ⟨hfact.1, ?_⟩
    exact N.ended hrun.1 hfact.2 hrecorded hend

/-- What a drive knows at each of its points. -/
def outline (N : Narrative engines) (drive : DriveId)
    (hwired : executor.handlers = buildHandlers engines) :
    Outline N.account.discipline drive executor where
  fresh := N.account.noting drive (N.stored.also fun run => run.status.terminal = false)
  turning step := during N drive step (N.before step)
  tried step _ outcome := during N drive step (N.tried step outcome)
  raised step error := during N drive step (N.tried step (.error error))
  passed step := N.account.noting drive ((N.after step).also fun run => run.status = .running)
  denied := bad N drive .rejected
  dismissed := bad N drive .rejected
  failing _ := bad N drive .failed
  escalating _ := bad N drive .failed
  failed := bad N drive .failed
  released := bad N drive .failed
  pending := N.account.noting drive N.stored
  quiet := bad N drive .failed
  troubled _ := N.account.noting drive (.only fun _ => True)
  ended := Over N drive
  wrecked _ := Over N drive
  guar_refl world _ := ⟨.refl, trivial⟩
  utcnow := serve_utcnow drive
  uniform := serve_uniform drive
  start hrun hstep := by
    refine Account.noting_imp hrun (.refl _) fun hfact => ⟨⟨rfl, rfl⟩, ?_⟩
    exact N.before_steady _ (hfact.2.1 hfact.1 _ hstep) ⟨.refl, _, _, _, rfl⟩
  badStart hrun _ := Account.noting_imp hrun (.refl _) fun _ => trivial
  unhandled hrun _ := Account.noting_imp hrun (.refl _) fun _ => trivial
  restamp _ _ hrun := Account.noting_imp hrun (.refl _) fun hfact =>
    ⟨hfact.1, N.before_steady _ hfact.2 ⟨.refl, _, _, _, rfl⟩⟩
  naive hrun := Account.noting_imp hrun (.refl _) fun _ => trivial
  deadline hrun := Account.noting_imp hrun (.refl _) fun hfact =>
    ⟨hfact.1, N.deadline _ hfact.2⟩
  execute hhandler hrun _ := by
    rw [hwired] at hhandler
    exact during_execute hhandler hrun
  reject hrun := Account.noting_imp hrun (.refl _) fun _ => rfl
  release hrun hinv hcall := aside_call hrun hinv (.aftermath (.release hcall))
  unheld hrun _ := hrun
  dismissed_pending hrun := Account.noting_imp hrun (.refl _) fun hbad =>
    N.stored_bad _ (.inr hbad)
  logRaised hrun _ hinv := aside_log hrun hinv (by simp) (.refl _) id
  retry {step} handler error run world due hhandler hrun hretry := by
    rw [hwired] at hhandler
    refine Account.noting_imp hrun ⟨.refl, retryState_sameRequest hhandler⟩ fun hfact =>
      N.stored_inStep hfact.1 ?_
    exact N.before_steady _ (N.retry hhandler hfact.2 hretry) ⟨.refl, _, _, _, rfl⟩
  retryOverflow {step} handler error overflow run world hhandler hrun _ := by
    rw [hwired] at hhandler
    exact Account.noting_imp hrun ⟨.refl, retryState_sameRequest hhandler⟩ fun _ => trivial
  giveUp hrun _ := Account.noting_imp hrun (.refl _) fun _ => rfl
  poll {step} attempt run world due hrun := Account.noting_imp hrun (.refl _) fun hfact =>
    @stored_inStep _ N step _ _ hfact.1 (N.before_steady _ (N.poll hfact.2) ⟨.refl, _, _, _, rfl⟩)
  pollOverflow hrun := Account.noting_imp hrun (.refl _) fun _ => trivial
  logCompleted hrun hinv := by
    obtain ⟨hevent, -⟩ := N.completed hrun.1 hrun.2.1 hrun.2.2.2
    refine Account.noting_log hrun hinv (.refl _) hevent fun hfact => ⟨hfact.1.1, ?_⟩
    exact (N.completed hrun.1 hrun.2.1 hfact.2).2
  offPlan hrun _ := Account.noting_imp hrun (.refl _) fun _ => trivial
  next hrun hstep hnext := Account.noting_imp hrun (.refl _) fun hfact =>
    ⟨⟨hfact.1, rfl⟩, N.before_steady _ (N.next hfact.2 hstep hnext) ⟨.refl, _, _, _, rfl⟩⟩
  finish hrun hstep hlast := Account.noting_imp hrun (.refl _) fun hfact =>
    ⟨fun hopen => Bool.noConfusion hopen, fun _ =>
      N.done_steady (N.finish hfact.2 hstep hlast) ⟨.refl, _, _, _, rfl⟩⟩
  logEscalating hrun hinv := aside_log hrun hinv (by simp) (.refl _) id
  openIncident request hrun hinv := (aside_call hrun hinv (.incident request)).opened
    fun _ _ hfinal => Account.noting_imp hfinal (.refl _) id
  escalating_failed hrun := hrun
  aftermath hrun hinv hcall := aside_call hrun hinv (.aftermath hcall)
  ticketClosed hrun := Account.noting_imp hrun (.refl _) id
  releaseFailed hrun hinv hcall := aside_call hrun hinv (.aftermath (.release hcall))
  unheldFailed hrun _ := hrun
  released_pending hrun := Account.noting_imp hrun (.refl _) fun hbad => N.stored_bad _ (.inl hbad)
  released_quiet hrun := hrun
  save hrun hinv := by
    refine stored_save hrun hinv id fun answer final hnoted => ?_
    split
    · trivial
    · trivial
    · exact Account.noting_imp hnoted (.refl _) fun _ => trivial
  saveQuietly hrun hinv := by
    refine stored_save hrun hinv (fun hbad => N.stored_bad _ (.inl hbad)) fun answer final _ => ?_
    split <;> trivial
  unpersisted hrun hfailed hinv := aside_log hrun hinv (by simp) (.refl _) fun _ => hfailed
  unnamed _ _ _ _ := trivial
  crashed {error} run step world hrun _ _ hinv := by
    refine aside_log hrun hinv (by simp) ⟨.refl, ?_⟩ fun _ => rfl
    cases step <;> exact .refl _

end Outline

/-- What a narrative says holds of every interleaving of drives. -/
theorem reached_inv {executor : Executor} (hwired : executor.handlers = buildHandlers engines)
    (clock : Time) (moves : List (Move system)) :
    N.account.Inv (reached executor clock moves).world := by
  refine Account.reached_inv (fun drive world => ?_) clock moves
  exact Account.noting_load (outline executor N drive hwired) fun hopen hrow =>
    Account.noting_imp hrow (.refl _) fun hfact => ⟨hopen, hfact⟩

end Narrative

end CloudioOrchestrator

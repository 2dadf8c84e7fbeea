import CloudioOrchestrator.PlanOrder
import CloudioOrchestrator.Upkeep
import CloudioOrchestrator.Verdicts

/-! # Releases

A run that ends badly is to let go of the record it was put on. Its drive decides
by what it was told: by the marker of the row it loaded, or by the answer to its own
call. The resource manager may have marked the record all the same.
-/

namespace CloudioOrchestrator

open Interaction

/-- The event tells its drive that the record was put in flight. -/
def Acknowledges (drive : DriveId) : Event → Prop
  | .loaded other row => other = drive ∧ row.runState.resourceConfigured = true
  | .called other (.step .configureResource) _ answer _ => other = drive ∧ answer.isOk = true
  | _ => False

/-- The drive was told that the record was put in flight. -/
def Acknowledged (drive : DriveId) (history : History) : Prop :=
  ∃ event ∈ history, Acknowledges drive event

/-- The event is a release of the drive's. -/
def Event.releases (drive : DriveId) : Event → Prop
  | .called other .release _ _ _ => other = drive
  | _ => False

/-- A write that puts the run's record in flight. -/
inductive InFlightWrite : Issuer → Call → Prop
  | create (projectId resourceType : String) (body : ResourceBody) (key : String) :
      InFlightWrite (.step .configureResource) (.createResource projectId resourceType body key)
  | mark (projectId resourceType vendorId : String) {fields : ResourceFields}
      (hstate : fields.state = .updating ∨ fields.state = .deleting) :
      InFlightWrite (.step .configureResource)
        (.updateResource projectId resourceType vendorId fields)

/-- The resource manager applied a write of that kind for the run. -/
def AppliedFor (kind : Issuer → Call → Prop) (runId : UUID) (history : History) : Prop :=
  ∃ drive issuer call answer, drive.subject = runId ∧
    .called drive issuer call answer true ∈ history ∧ kind issuer call

/-- The release of a record: a create's is deleted, any other is ready again. -/
def releaseCall (state : RunState) (resource : ResourceSpec) : Call :=
  if state.operation = .create then deleteCall resource
  else patchCall resource (resourceStateFields .ready)

/-- The drive issued the release of the run's record. -/
def Released (drive : DriveId) (run : WorkflowRun) (history : History) : Prop :=
  ∃ resource answer applied, run.runState.resource = some resource ∧
    .called drive .release (releaseCall run.runState resource) answer applied ∈ history

/-- A drive that ends a resource run badly before the record was finalized issues its
release exactly where it was told that the record is in flight. -/
def ReleasesAsTold (event : Event) (older : History) : Prop :=
  ∀ drive row, event = .saved drive row → row.runType = .resource → row.Denied →
    ¬ AppliedFor FinalizeWrite drive.subject older →
    (Released drive row older ↔ Acknowledged drive older)

section Growing

variable {drive : DriveId} {runId : UUID} {kind : Issuer → Call → Prop} {older : History}

theorem AppliedFor.grows (event : Event) (happlied : AppliedFor kind runId older) :
    AppliedFor kind runId (event :: older) := by
  obtain ⟨drive, issuer, call, answer, hid, hcalled, hkind⟩ := happlied
  exact ⟨drive, issuer, call, answer, hid, List.mem_cons_of_mem _ hcalled, hkind⟩

theorem acknowledged_cons (event : Event) :
    Acknowledged drive (event :: older) ↔ Acknowledges drive event ∨ Acknowledged drive older := by
  simp [Acknowledged]

theorem Acknowledges.actor {event : Event} (htells : Acknowledges drive event) :
    event.actor = some drive := by
  cases event with
  | loaded other row => exact congrArg some htells.1
  | called other issuer call answer applied =>
      cases issuer with
      | step step => cases step <;> first | exact congrArg some htells.1 | cases htells
      | _ => cases htells
  | _ => cases htells

theorem Event.actor_of_releases {event : Event} (hreleases : event.releases drive) :
    event.actor = some drive := by
  cases event with
  | called other issuer call answer applied =>
      cases issuer with
      | release => exact congrArg some hreleases
      | _ => cases hreleases
  | _ => cases hreleases

/-- What others do tells the drive nothing. -/
theorem acknowledged_append {newer : History}
    (hothers : ∀ event ∈ newer, event.actor ≠ some drive) :
    Acknowledged drive (newer ++ older) ↔ Acknowledged drive older := by
  induction newer with
  | nil => rfl
  | cons event newer ih =>
      have hnone : ¬ Acknowledges drive event := fun htells =>
        hothers event List.mem_cons_self htells.actor
      rw [List.cons_append, acknowledged_cons, ih fun other hother =>
        hothers other (List.mem_cons_of_mem _ hother)]
      simp [hnone]

theorem releaseCall_of_inFlight {state : RunState} {call : Call} (hcall : ReleaseCall state call) :
    ∃ resource, Escalator.resourceInFlight state = some resource ∧
      call = releaseCall state resource := by
  cases hcall with
  | delete hflight hcreate => exact ⟨_, hflight, (if_pos hcreate).symm⟩
  | ready hflight hexisting => exact ⟨_, hflight, (if_neg hexisting).symm⟩

end Growing

/-- What is known of the finalization of a stored run's record. -/
def releasing : Account where
  row :=
    { holds := fun run history => run.runState.resourceFinalized = true →
        AppliedFor FinalizeWrite run.runId history
      grows := fun event hrun hdone => (hrun hdone).grows event }
  event := ReleasesAsTold
  born {run older} hrun hdone := by
    rw [hrun.markers.2.2.1] at hdone
    cases hdone
  rescheduled _ hrow := hrow
  created _ _ _ _ heq := by cases heq
  loaded _ _ _ _ _ heq := by cases heq

/-- A drive's account of its run, and whether it was told that the record is in flight. -/
structure Tallied (drive : DriveId) (told : Prop) (run : WorkflowRun)
    (history : History) : Prop where
  subject : run.runId = drive.subject
  origin : HasOrigin run history
  acknowledged : Acknowledged drive history ↔ told
  finalized : run.runState.resourceFinalized = true → AppliedFor FinalizeWrite run.runId history
  released : (∃ event ∈ history, event.releases drive) → told

section Tallied

variable {drive : DriveId} {told : Prop} {run changed : WorkflowRun} {history newer older : History}

theorem Tallied.congr {later : Prop} (hrun : Tallied drive told run history)
    (hsame : run.Continues changed) (htold : told ↔ later)
    (hfinalized : changed.runState.resourceFinalized = run.runState.resourceFinalized) :
    Tallied drive later changed history where
  subject := hsame.1.runId.symm.trans hrun.subject
  origin := by
    obtain ⟨origin, hcreated, hnewborn, horigin⟩ := hrun.origin
    exact ⟨origin, hcreated, hnewborn, horigin.trans hsame⟩
  acknowledged := hrun.acknowledged.trans htold
  finalized := by
    rw [hfinalized, ← hsame.1.runId]
    exact hrun.finalized
  released hreleased := htold.mp (hrun.released hreleased)

/-- An event of the drive's own that tells it nothing. -/
theorem Tallied.record (hrun : Tallied drive told run older) (event : Event)
    (htells : ¬ Acknowledges drive event) (hreleases : event.releases drive → told) :
    Tallied drive told run (event :: older) where
  subject := hrun.subject
  origin := hrun.origin.cons event
  acknowledged := by
    rw [acknowledged_cons, ← hrun.acknowledged]
    simp [htells]
  finalized hdone := (hrun.finalized hdone).grows event
  released := by
    rintro ⟨found, hfound, hreleased⟩
    rcases List.mem_cons.mp hfound with rfl | hold
    · exact hreleases hreleased
    · exact hrun.released ⟨found, hold, hreleased⟩

/-- What others do leaves the account as it is. -/
theorem Tallied.others (hrun : Tallied drive told run older)
    (hothers : ∀ event ∈ newer, event.actor ≠ some drive) :
    Tallied drive told run (newer ++ older) where
  subject := hrun.subject
  origin := by
    obtain ⟨origin, hcreated, horigin⟩ := hrun.origin
    exact ⟨origin, List.mem_append_right _ hcreated, horigin⟩
  acknowledged := (acknowledged_append hothers).trans hrun.acknowledged
  finalized hdone := by
    obtain ⟨other, issuer, call, answer, hid, hcalled, hkind⟩ := hrun.finalized hdone
    exact ⟨other, issuer, call, answer, hid, List.mem_append_right _ hcalled, hkind⟩
  released := by
    rintro ⟨event, hevent, hreleases⟩
    rcases List.mem_append.mp hevent with hnew | hold
    · exact absurd (Event.actor_of_releases hreleases) (hothers event hnew)
    · exact hrun.released ⟨event, hold, hreleases⟩

end Tallied

section Handlers

variable {engines : List WorkflowEngineType} {drive : DriveId} {step : StepName}
  {run : WorkflowRun} {state final : RunState} {trace : Trace Providers}
  {outcome : Except PyException Bool} {history older : History} {call : Call}

theorem finalizeFields_state (resource : ResourceSpec) :
    (finalizeFields run state resource).state = .ready := by
  unfold finalizeFields
  split <;> rfl

/-- A handler marks the run as configured where its call was answered. -/
theorem HandlerEnd.configured_iff (hend : HandlerEnd engines run state step trace outcome final) :
    final.resourceConfigured = true ↔ state.resourceConfigured = true ∨
      step = .configureResource ∧ ∃ exchange ∈ trace, exchange.answer.isOk = true := by
  cases hend with
  | succeededWith output hid hresource =>
      unfold captured
      split <;> simp
  | engineFailed failure hid => cases failure <;> simp [explained]
  | _ => simp_all [finalized, Except.isOk, Except.toBool]

/-- A handler marks the run as finalized where its write was answered. -/
theorem HandlerEnd.finalized_of (hend : HandlerEnd engines run state step trace outcome final)
    (hdone : final.resourceFinalized = true) : state.resourceFinalized = true ∨
      ∃ exchange ∈ trace, exchange.answer.isOk = true ∧
        FinalizeWrite (.step step) exchange.op := by
  cases hend with
  | succeededWith output hid hresource =>
      unfold captured at hdone
      split at hdone <;> exact .inl hdone
  | engineFailed failure hid => cases failure <;> exact .inl hdone
  | written hresource hnew hkept =>
      exact .inr ⟨_, List.mem_cons_self, rfl, .write _ _ _ _ (.inl (finalizeFields_state _))⟩
  | deleted marked hresource hnew hdelete hmarked =>
      exact .inr ⟨_, List.mem_cons_self, rfl, .delete _ _ _ _⟩
  | _ => exact .inl hdone

/-- The drive knows so from the run, or from the calls of the step it is in. -/
def Told (step : StepName) (run : WorkflowRun) (trace : Trace Providers) : Prop :=
  run.runState.resourceConfigured = true ∨
    step = .configureResource ∧ ∃ exchange ∈ trace, exchange.answer.isOk = true

/-- The account of a run in the middle of a handler, which has made some calls. -/
structure Telling (drive : DriveId) (step : StepName) (run : WorkflowRun) (trace : Trace Providers)
    (history : History) : Prop where
  tallied : Tallied drive (Told step run trace) run history
  applied : ∀ exchange ∈ trace, exchange.answer.isOk = true →
    .called drive (.step step) exchange.op exchange.answer true ∈ history

theorem Tallied.telling
    (hrun : Tallied drive (run.runState.resourceConfigured = true) run history) :
    Telling drive step run [] history where
  tallied := hrun.congr (.refl run) (by simp [Told]) rfl
  applied := by simp

/-- A call of the step's own. -/
theorem Telling.called (hrun : Telling drive step run trace older) (answer : call.Answer)
    (applied : Bool) (happlied : answer.isOk = true → applied = true) :
    Telling drive step run (⟨call, answer⟩ :: trace)
      (.called drive (.step step) call answer applied :: older) where
  tallied :=
    { subject := hrun.tallied.subject
      origin := hrun.tallied.origin.cons _
      acknowledged := by
        have htells : Acknowledges drive (.called drive (.step step) call answer applied) ↔
            step = .configureResource ∧ answer.isOk = true := by
          cases step <;> simp [Acknowledges]
        rw [acknowledged_cons, hrun.tallied.acknowledged, htells]
        simp only [Told, List.exists_mem_cons_iff]
        tauto
      finalized := fun hdone => (hrun.tallied.finalized hdone).grows _
      released := by
        rintro ⟨event, hevent, hreleases⟩
        rcases List.mem_cons.mp hevent with rfl | hold
        · cases hreleases
        · rcases hrun.tallied.released ⟨event, hold, hreleases⟩ with hmarked | ⟨hstep, hanswered⟩
          · exact .inl hmarked
          · exact .inr ⟨hstep, (List.exists_mem_cons_iff _ _ _).mpr (.inr hanswered)⟩ }
  applied exchange hexchange hok := by
    rcases List.mem_cons.mp hexchange with rfl | hold
    · obtain rfl := happlied hok
      exact List.mem_cons_self
    · exact List.mem_cons_of_mem _ (hrun.applied exchange hold hok)

/-- Where the handler ends, the account is one of the run as it leaves it. -/
theorem Telling.ended (hrun : Telling drive step run trace history)
    (hend : HandlerEnd engines run run.runState step trace outcome final) :
    Tallied drive (final.resourceConfigured = true) { run with runState := final } history where
  subject := hrun.tallied.subject
  origin := by
    obtain ⟨origin, hcreated, hnewborn, horigin⟩ := hrun.tallied.origin
    exact ⟨origin, hcreated, hnewborn, horigin.trans ⟨.refl, hend.sameRequest⟩⟩
  acknowledged := hrun.tallied.acknowledged.trans hend.configured_iff.symm
  finalized hdone := by
    rcases hend.finalized_of hdone with hbefore | ⟨exchange, hexchange, hok, hwrite⟩
    · exact hrun.tallied.finalized hbefore
    · exact ⟨drive, _, _, _, hrun.tallied.subject.symm, hrun.applied exchange hexchange hok, hwrite⟩
  released hreleased := hend.configured_iff.mpr (hrun.tallied.released hreleased)

end Handlers

section Outline

variable {drive : DriveId} {run changed : WorkflowRun} {world : World}

/-- The release of the record in flight, if there is one, was issued. -/
def LetGo (drive : DriveId) (run : WorkflowRun) (history : History) : Prop :=
  ∀ resource, Escalator.resourceInFlight run.runState = some resource →
    ∃ answer applied,
      .called drive .release (releaseCall run.runState resource) answer applied ∈ history

/-- A run that ended badly has let go of its record. -/
def lettingGo (drive : DriveId) : Fact where
  holds run history := run.Denied → LetGo drive run history
  grows event hrun hdenied resource hresource := by
    obtain ⟨answer, applied, hcalled⟩ := hrun hdenied resource hresource
    exact ⟨answer, applied, List.mem_cons_of_mem _ hcalled⟩

def standing (status : RunStatus) : Fact :=
  .only fun run => run.status = status

/-- The account of the run in memory, and a fact. -/
def tallying (drive : DriveId) (fact : Fact) : Assertion releasing.discipline drive where
  holds run world :=
    Tallied drive (run.runState.resourceConfigured = true) run world.history ∧
      fact run world.history
  stable := by
    rintro run world current ⟨htallied, hfact⟩ ⟨⟨newer, hhistory, hothers⟩, -⟩ -
    rw [hhistory]
    exact ⟨htallied.others hothers, fact.append newer hfact⟩

variable {fact later : Fact}

theorem tallying_imp (hrun : tallying drive fact run world) (hsame : run.Continues changed)
    (hconfigured : changed.runState.resourceConfigured = run.runState.resourceConfigured)
    (hfinalized : changed.runState.resourceFinalized = run.runState.resourceFinalized)
    (himp : fact run world.history → later changed world.history) :
    tallying drive later changed world :=
  ⟨hrun.1.congr hsame (by rw [hconfigured]) hfinalized, himp hrun.2⟩

/-- An event of the drive's own, of which it is not told that the record is in flight. -/
theorem tallying_record (hrun : tallying drive fact run world) (hinv : releasing.Inv world)
    (event : Event) (hactor : event.actor = some drive) (hsaved : ∀ row, event ≠ .saved drive row)
    (htells : ¬ Acknowledges drive event)
    (hreleases : event.releases drive → run.runState.resourceConfigured = true) :
    releasing.discipline.inv (world.record event) ∧
      releasing.discipline.guar drive world (world.record event) ∧
      tallying drive fact run (world.record event) := by
  refine ⟨hinv.record ?_ ?_, ⟨World.grows_record hactor, trivial⟩,
    hrun.1.record event htells hreleases, fact.grows event hrun.2⟩
  · rintro origin rfl
    cases hactor
  · rintro other row rfl
    obtain rfl := Option.some.inj hactor
    exact absurd rfl (hsaved row)

theorem tallying_log {record : LogRecord} (hrun : tallying drive fact run world)
    (hinv : releasing.Inv world) (hsame : run.Continues changed)
    (hconfigured : changed.runState.resourceConfigured = run.runState.resourceConfigured)
    (hfinalized : changed.runState.resourceFinalized = run.runState.resourceFinalized)
    (himp : ∀ {history}, fact run history → later changed history) :
    Serves releasing.discipline drive (.log record) world fun _ final =>
      tallying drive later changed final := by
  obtain ⟨hkept, hguar, hnoted⟩ := tallying_record hrun hinv (.logged drive record) rfl (by simp)
    (by simp [Acknowledges]) (by simp [Event.releases])
  exact serves_log ⟨hkept, hguar, tallying_imp hnoted hsame hconfigured hfinalized himp⟩

/-- A call of an escalation, which is no release. -/
theorem tallying_aside {issuer : Issuer} {call : Call} (hrun : tallying drive fact run world)
    (hinv : releasing.Inv world) (hstep : ∀ step, issuer ≠ .step step)
    (hreleases : issuer = .release → run.runState.resourceConfigured = true) :
    Serves releasing.discipline drive (.provider issuer call) world fun _ final =>
      tallying drive fact run final := by
  refine serves_call fun answer applied _ => ?_
  apply tallying_record hrun hinv _ rfl (by simp)
  · cases issuer with
    | step step => exact absurd rfl (hstep step)
    | _ => simp [Acknowledges]
  · intro hreleased
    cases issuer with
    | release => exact hreleases rfl
    | _ => cases hreleased

theorem AftermathCall.aside {state : RunState} {issuer : Issuer} {call : Call}
    (hcall : AftermathCall state issuer call) : (∀ step, issuer ≠ .step step) ∧
      (issuer = .release → state.resourceConfigured = true) := by
  cases hcall with
  | release hcall =>
      obtain ⟨resource, hflight, -⟩ := releaseCall_of_inFlight hcall
      exact ⟨by simp, fun _ => (resourceInFlight_eq_some hflight).2.1⟩
  | _ => simp

/-- Trying the release is all that is asked of a run that ended badly. -/
theorem tallying_release {call : Call} (hrun : tallying drive fact run world)
    (hinv : releasing.Inv world) (hcall : ReleaseCall run.runState call) :
    Serves releasing.discipline drive (.provider .release call) world fun _ final =>
      tallying drive (lettingGo drive) run final := by
  obtain ⟨resource, hflight, rfl⟩ := releaseCall_of_inFlight hcall
  refine serves_call fun answer applied _ => ?_
  obtain ⟨hkept, hguar, htallied, -⟩ := tallying_record hrun hinv
    (.called drive .release (releaseCall run.runState resource) answer applied) rfl (by simp)
    (by simp [Acknowledges]) fun _ => (resourceInFlight_eq_some hflight).2.1
  refine ⟨hkept, hguar, htallied, fun _ other hother => ?_⟩
  obtain rfl := Option.some.inj (hflight.symm.trans hother)
  exact ⟨answer, applied, List.mem_cons_self⟩

theorem tallying_unheld (hrun : tallying drive fact run world)
    (hnone : Escalator.resourceInFlight run.runState = none) :
    tallying drive (lettingGo drive) run world := by
  refine ⟨hrun.1, fun _ resource hflight => ?_⟩
  rw [hnone] at hflight
  cases hflight

/-- A drive that has let go of the record, if it ended the run badly, releases as told. -/
theorem Tallied.releasesAsTold {row : WorkflowRun} {history : History}
    (hrun : Tallied drive (run.runState.resourceConfigured = true) run history)
    (hgone : lettingGo drive run history) (hrow : row = { run with version := run.version + 1 }) :
    ReleasesAsTold (.saved drive row) history := by
  intro other saved heq htype hdenied hunwritten
  obtain ⟨rfl, rfl⟩ := Event.saved.inj heq
  subst hrow
  rw [hrun.acknowledged]
  constructor
  · rintro ⟨resource, answer, applied, -, hreleased⟩
    exact hrun.released ⟨_, hreleased, rfl⟩
  · intro hconfigured
    have hnew : run.runState.resourceFinalized = false := by
      by_contra hdone
      apply hunwritten
      rw [← hrun.subject]
      exact hrun.finalized (by simpa using hdone)
    obtain ⟨resource, hresource⟩ := Option.isSome_iff_exists.mp (hrun.origin.resource_isSome htype)
    have hflight : Escalator.resourceInFlight run.runState = some resource := by
      simp [Escalator.resourceInFlight, hconfigured, hnew, hresource]
    obtain ⟨answer, applied, hcalled⟩ := hgone hdenied resource hflight
    exact ⟨resource, answer, applied, hresource, hcalled⟩

theorem tallying_save (hrun : tallying drive (lettingGo drive) run world)
    (hinv : releasing.Inv world) {post : (Op.runsSave run).Answer → World → Prop}
    (hpost : ∀ answer final, tallying drive (lettingGo drive) run final → post answer final) :
    Serves releasing.discipline drive (.runsSave run) world post := by
  refine serves_save (fun error => ⟨hinv, ⟨.refl, trivial⟩, hpost _ _ hrun⟩) fun row hsave => ?_
  obtain ⟨htallied, hgone⟩ := hrun
  have hrow := hinv.saved_row htallied.origin hsave
  have hnoted : tallying drive (lettingGo drive) run (world.commit drive row) :=
    ⟨htallied.record _ (by simp [Acknowledges]) (by simp [Event.releases]),
      (lettingGo drive).grows _ hgone⟩
  refine ⟨hinv.commit htallied.origin hsave ?_ (htallied.releasesAsTold hgone hrow),
    ⟨⟨[.saved drive row], rfl, by simp [Event.actor]⟩, trivial⟩, hpost _ _ hnoted,
    fun _ _ => hpost _ _ hnoted⟩
  rw [hrow]
  intro hdone
  exact (htallied.finalized hdone).grows _

/-- Nothing is asked yet of a run that did not end badly. -/
theorem lettingGo_of_running {history : History} (hrunning : run.status = .running) :
    lettingGo drive run history := by
  rintro (hfailed | hrejected)
  · cases hrunning.symm.trans hfailed
  · cases hrunning.symm.trans hrejected

theorem lettingGo_of_open {history : History} (hopen : run.status.terminal = false) :
    lettingGo drive run history := by
  rintro (hfailed | hrejected)
  · rw [hfailed] at hopen
    cases hopen
  · rw [hrejected] at hopen
    cases hopen

/-- A retry leaves what the handlers have made of the run. -/
theorem tallying_retried {engines : List WorkflowEngineType} {step : StepName}
    {handler : StepHandler} (hhandler : buildHandlers engines step = some handler)
    (hrun : tallying drive (standing .running) run world) (scheduledAt : Option Time) :
    tallying drive (lettingGo drive)
      { retriedRun step handler run with scheduledAt := scheduledAt } world := by
  have hsame := retryState_sameProgress hhandler run.runState
  have hrequest := hsame.sameRequest
  obtain ⟨-, -, -, -, -, -, -, hconfigured, hfinalized⟩ := hsame
  refine tallying_imp hrun ⟨.refl, hrequest⟩ hconfigured.symm hfinalized.symm fun _ => ?_
  exact lettingGo_of_running hrun.2

/-- A handler leaves an account of the run as it leaves it. -/
theorem tallying_execute {engines : List WorkflowEngineType} {step : StepName}
    {handler : StepHandler} (hhandler : buildHandlers engines step = some handler)
    (hrun : tallying drive (standing .running) run world) :
    (releasing.discipline.through (S := Providers) (Op.provider (.step step))
        fun _ answer => answer).wp drive (handler.execute run)
      (fun _ state final => tallying drive (standing .running) { run with runState := state } final)
      run.runState world := by
  refine Discipline.wp_mono (wp_handler
    (fun trace (final : World) => Telling drive step run trace final.history) hhandler ?_ ?_
    hrun.1.telling) ?_
  · rintro trace world current ⟨htallied, happlied⟩ ⟨⟨newer, hhistory, hothers⟩, -⟩ -
    rw [hhistory]
    exact ⟨htallied.others hothers, fun exchange hexchange hok =>
      List.mem_append_right _ (happlied exchange hexchange hok)⟩
  · intro trace call world htelling hcall hinv
    refine serves_call fun answer applied happlied => ?_
    refine ⟨hinv.record (by simp) ?_, ⟨World.grows_record rfl, trivial⟩,
      htelling.called answer applied happlied⟩
    intro other row heq
    cases heq
  · rintro outcome state final ⟨trace, htelling, hend⟩
    exact ⟨htelling.ended hend, hrun.2⟩

/-- Until a drive sets its run failed or rejected the run is running; and before
the run is saved as such, its record has been let go. -/
def releasingOutline (engines : List WorkflowEngineType) (retryBase : Time) (defaultTeam : String)
    (drive : DriveId) :
    Outline releasing.discipline drive (.wired engines retryBase defaultTeam) where
  fresh := tallying drive (.only fun run => run.status.terminal = false)
  turning _ := tallying drive (standing .running)
  tried _ _ _ := tallying drive (standing .running)
  raised _ _ := tallying drive (standing .running)
  passed _ := tallying drive (standing .running)
  denied := tallying drive (standing .rejected)
  dismissed := tallying drive (lettingGo drive)
  failing _ := tallying drive (standing .failed)
  escalating _ := tallying drive (standing .failed)
  failed := tallying drive (standing .failed)
  released := tallying drive (lettingGo drive)
  pending := tallying drive (lettingGo drive)
  quiet := tallying drive (lettingGo drive)
  troubled _ := tallying drive (lettingGo drive)
  ended := tallying drive (.only fun _ => True)
  wrecked _ := tallying drive (.only fun _ => True)
  guar_refl world _ := ⟨.refl, trivial⟩
  utcnow := serve_utcnow drive
  uniform := serve_uniform drive
  start hrun _ := tallying_imp hrun (.refl _) rfl rfl fun _ => rfl
  badStart hrun _ := tallying_imp hrun (.refl _) rfl rfl fun _ => lettingGo_of_open hrun.2
  unhandled hrun _ := tallying_imp hrun (.refl _) rfl rfl fun _ => lettingGo_of_running hrun.2
  restamp _ _ hrun := tallying_imp hrun (.refl _) rfl rfl id
  naive hrun := tallying_imp hrun (.refl _) rfl rfl fun _ => lettingGo_of_running hrun.2
  deadline hrun := hrun
  execute hhandler hrun _ := tallying_execute hhandler hrun
  reject hrun := tallying_imp hrun (.refl _) rfl rfl fun _ => rfl
  release hrun hinv hcall := tallying_release hrun hinv hcall
  unheld hrun hnone := tallying_unheld hrun hnone
  dismissed_pending hrun := hrun
  logRaised hrun _ hinv := tallying_log hrun hinv (.refl _) rfl rfl id
  retry due hhandler hrun _ := tallying_retried hhandler hrun (some due)
  retryOverflow {step handler error overflow run world} hhandler hrun _ :=
    tallying_retried hhandler hrun run.scheduledAt
  giveUp hrun _ := tallying_imp hrun (.refl _) rfl rfl fun _ => rfl
  poll due hrun := tallying_imp hrun (.refl _) rfl rfl fun _ => lettingGo_of_running hrun.2
  pollOverflow hrun := tallying_imp hrun (.refl _) rfl rfl fun _ => lettingGo_of_running hrun.2
  logCompleted hrun hinv := tallying_log hrun hinv (.refl _) rfl rfl id
  offPlan hrun _ := tallying_imp hrun (.refl _) rfl rfl fun _ => lettingGo_of_running hrun.2
  next hrun _ _ := tallying_imp hrun (.refl _) rfl rfl id
  finish hrun _ _ := by
    refine tallying_imp hrun (.refl _) rfl rfl ?_
    -- a completed run releases nothing
    rintro _ (hfailed | hrejected)
    · cases hfailed
    · cases hrejected
  logEscalating hrun hinv := tallying_log hrun hinv (.refl _) rfl rfl id
  openIncident request hrun hinv := by
    have hserved := @tallying_aside _ _ _ _ .escalation (.openIncident request) hrun hinv (by simp)
      (by simp)
    exact hserved.opened fun _ _ hfinal => tallying_imp hfinal (.refl _) rfl rfl id
  escalating_failed hrun := hrun
  aftermath hrun hinv hcall := tallying_aside hrun hinv hcall.aside.1 hcall.aside.2
  ticketClosed hrun := tallying_imp hrun (.refl _) rfl rfl id
  releaseFailed hrun hinv hcall := tallying_release hrun hinv hcall
  unheldFailed hrun hnone := tallying_unheld hrun hnone
  released_pending hrun := hrun
  released_quiet hrun := hrun
  save hrun hinv := by
    refine tallying_save hrun hinv fun answer final hsaved => ?_
    split
    · exact tallying_imp hsaved (.refl _) rfl rfl fun _ => trivial
    · exact tallying_imp hsaved (.refl _) rfl rfl fun _ => trivial
    · exact hsaved
  saveQuietly hrun hinv := by
    refine tallying_save hrun hinv fun answer final hsaved => ?_
    split <;> exact tallying_imp hsaved (.refl _) rfl rfl fun _ => trivial
  unpersisted hrun _ hinv := tallying_log hrun hinv (.refl _) rfl rfl id
  unnamed hrun _ _ _ := tallying_imp hrun (.refl _) rfl rfl fun _ => trivial
  crashed {error} run step world hrun _ _ hinv := by
    refine tallying_log hrun hinv ⟨.refl, ?_⟩ ?_ ?_ fun _ => rfl <;>
      cases step <;> first | rfl | exact .refl _

end Outline

section Runs

/-- A drive that has just loaded its run knows from the row alone. -/
theorem tallying_loaded {drive : DriveId} {row : WorkflowRun} {world : World}
    (hinv : releasing.Inv world) (habsent : Absent drive world)
    (hget : Store.get world.rows drive.subject = some row) :
    Tallied drive (row.runState.resourceConfigured = true) row
      (.loaded drive row :: world.history) := by
  obtain ⟨horigin, hfact⟩ := hinv.rows _ _ hget
  have hnone : ¬ Acknowledged drive world.history := by
    rintro ⟨event, hevent, htells⟩
    exact habsent event hevent htells.actor
  refine ⟨Store.runId_of_get hget, horigin.cons _, ?_, fun hdone => (hfact hdone).grows _, ?_⟩
  · rw [acknowledged_cons]
    simp [Acknowledges, hnone]
  · rintro ⟨event, hevent, hreleases⟩
    rcases List.mem_cons.mp hevent with rfl | hold
    · cases hreleases
    · exact absurd (Event.actor_of_releases hreleases) (habsent event hold)

theorem reached_releasing (engines : List WorkflowEngineType) (retryBase : Time)
    (defaultTeam : String) (clock : Time) (moves : List (Move system)) :
    releasing.Inv (reached (.wired engines retryBase defaultTeam) clock moves).world := by
  have hcompatible : releasing.discipline.Compatible
      (Executor.handle (.wired engines retryBase defaultTeam)) Absent := by
    refine interleaving_compatible (fun event world hinv => ⟨hinv.outside event, trivial⟩) ?_
    intro drive world _ habsent
    refine (releasingOutline engines retryBase defaultTeam drive).handle_safe
      fun current hrely hinv => ?_
    have habsent := habsent.of_rely hrely
    refine serves_get (fun answer hmissed => ?_) fun row hget => ?_
    · exact ⟨hinv, ⟨.refl, trivial⟩, fun run hanswer => absurd hanswer (hmissed run)⟩
    · refine ⟨hinv.record ?_ (releasing.loaded drive row _), ⟨World.grows_record rfl, trivial⟩, ?_⟩
      · intro origin heq
        cases heq
      intro run hanswer hopen
      obtain rfl : row = run := by simpa using hanswer
      exact ⟨tallying_loaded hinv habsent hget, hopen⟩
  exact (reached_sound hcompatible clock (.initial clock) moves).inv

/-- The drive that ends a resource run badly, before its record was finalized, issues the
release of a record that was put in flight exactly where it was told so: by the row that
it loaded, or by an answer to its own call. -/
theorem released_iff_acknowledged (engines : List WorkflowEngineType) (retryBase : Time)
    (defaultTeam : String) (clock : Time) (moves : List (Move system)) (drive : DriveId)
    (row : WorkflowRun) (newer older : History)
    (hhistory : (reached (.wired engines retryBase defaultTeam) clock moves).world.history =
      newer ++ .saved drive row :: older)
    (htype : row.runType = .resource) (hdenied : row.Denied)
    (hunfinalized : ¬ AppliedFor FinalizeWrite drive.subject older) :
    (AppliedFor InFlightWrite drive.subject older → Released drive row older) ↔
      (AppliedFor InFlightWrite drive.subject older → Acknowledged drive older) := by
  have hkept := (reached_releasing engines retryBase defaultTeam clock moves).kept
  rw [hhistory] at hkept
  have htold := hkept.event drive row rfl htype hdenied hunfinalized
  rw [htold]

end Runs

section Examples

/-- The answer to a write is lost on its way back. -/
def answerLost (call : Call) : call.Answer :=
  match call with
  | .updateResource .. => .error (.other "ReadTimeout" "timed out")
  | call => willing call

/-- A request to delete a record, and a drive of its run to which every call takes effect. -/
def unheard (answer : (call : Call) → call.Answer) : List (Move system) :=
  .outside (.trigger sampleId (some resourceWorkflow) deletionSample) ::
  .start sampleId :: List.replicate 20 (.advance 0 { answer := answer, applied := true })

def finalizes : Event → Bool
  | .called _ (.step _) (.updateResource _ _ _ fields) _ true =>
      fields.state = .ready || fields.state = .deleted
  | .called _ (.step _) (.deleteResource ..) _ true => true
  | _ => false

theorem not_appliedFor_finalizeWrite {runId : UUID} {history : History}
    (hnone : history.any finalizes = false) : ¬ AppliedFor FinalizeWrite runId history := by
  rintro ⟨drive, issuer, call, answer, -, hcalled, hwrite⟩
  have hfinalizes := List.any_eq_false.mp hnone _ hcalled
  cases hwrite with
  | write step projectId resourceType vendorId hstate =>
      rcases hstate with hstate | hstate <;> simp [finalizes, hstate] at hfinalizes
  | delete step projectId resourceType vendorId => simp [finalizes] at hfinalizes

def releasesAny : Event → Bool
  | .called _ .release _ _ _ => true
  | _ => false

theorem not_released {drive : DriveId} {run : WorkflowRun} {history : History}
    (hnone : history.any releasesAny = false) : ¬ Released drive run history := by
  rintro ⟨resource, answer, applied, -, hcalled⟩
  have hreleases := List.any_eq_false.mp hnone _ hcalled
  simp [releasesAny] at hreleases

/-- The ticket of the request is denied. -/
def approvalDenied (call : Call) : call.Answer :=
  match call with
  | .getApprovalStatus _ => .ok .rejected
  | call => willing call

def inFlightWrite (runId : UUID) : Event → Bool
  | .called drive (.step .configureResource) (.createResource ..) _ true => drive.subject = runId
  | .called drive (.step .configureResource) (.updateResource _ _ _ fields) _ true =>
      drive.subject = runId && (fields.state = .updating || fields.state = .deleting)
  | _ => false

theorem appliedFor_inFlightWrite {runId : UUID} {history : History}
    (hwrite : history.any (inFlightWrite runId) = true) :
    AppliedFor InFlightWrite runId history := by
  obtain ⟨event, hevent, hwrite⟩ := List.any_eq_true.mp hwrite
  unfold inFlightWrite at hwrite
  split at hwrite
  · exact ⟨_, _, _, _, of_decide_eq_true hwrite, hevent, .create _ _ _ _⟩
  · simp only [Bool.and_eq_true, Bool.or_eq_true, decide_eq_true_eq] at hwrite
    exact ⟨_, _, _, _, hwrite.1, hevent, .mark _ _ _ hwrite.2⟩
  · cases hwrite

instance (drive : DriveId) : DecidablePred (Acknowledges drive) := fun event => by
  unfold Acknowledges
  split <;> infer_instance

instance (drive : DriveId) (history : History) : Decidable (Acknowledged drive history) :=
  inferInstanceAs (Decidable (∃ event ∈ history, Acknowledges drive event))

/-- The last event is the drive's, and saves a resource run so. -/
def endsAs (drive : DriveId) (status : RunStatus) : History → Bool
  | .saved other row :: _ => other = drive && row.runType = .resource && row.status = status
  | _ => false

theorem saved_of_endsAs {drive : DriveId} {status : RunStatus} {history : History}
    (hends : endsAs drive status history = true) :
    ∃ row, history = .saved drive row :: history.tail ∧ row.runType = .resource ∧
      row.status = status := by
  unfold endsAs at hends
  split at hends
  · simp only [Bool.and_eq_true, decide_eq_true_eq] at hends
    obtain ⟨⟨rfl, htype⟩, hstatus⟩ := hends
    exact ⟨_, rfl, htype, hstatus⟩
  · cases hends

/-- The mark was answered and the ticket denied: the record is let go. -/
theorem released_iff_acknowledged_denied :
    let history := (reached sampleExecutor 0 (unheard approvalDenied)).world.history
    ∃ row older, history = .saved ⟨sampleId, 0⟩ row :: older ∧ row.status = .rejected ∧
      Released ⟨sampleId, 0⟩ row older := by
  intro history
  obtain ⟨row, hhistory, htype, hstatus⟩ :=
    saved_of_endsAs (by decide +kernel : endsAs ⟨sampleId, 0⟩ .rejected history = true)
  exact ⟨row, history.tail, hhistory, hstatus,
    (released_iff_acknowledged [.airflow] (seconds 10) "cloud" 0 (unheard approvalDenied)
      ⟨sampleId, 0⟩ row [] history.tail hhistory htype (.inr hstatus)
      (not_appliedFor_finalizeWrite (by decide +kernel))).mpr (fun _ => by decide +kernel)
      (appliedFor_inFlightWrite (by decide +kernel))⟩

/-- The answer to the mark is lost: the run fails and its record is left in flight. -/
theorem in_flight_unreleased :
    let history := (reached sampleExecutor 0 (unheard answerLost)).world.history
    ∃ row older, history = .saved ⟨sampleId, 0⟩ row :: older ∧ row.runType = .resource ∧
      row.Denied ∧ AppliedFor InFlightWrite sampleId older ∧
      ¬ AppliedFor FinalizeWrite sampleId older ∧ ¬ Released ⟨sampleId, 0⟩ row older := by
  intro history
  obtain ⟨row, hhistory, htype, hstatus⟩ :=
    saved_of_endsAs (by decide +kernel : endsAs ⟨sampleId, 0⟩ .failed history = true)
  exact ⟨row, history.tail, hhistory, htype, .inl hstatus,
    appliedFor_inFlightWrite (by decide +kernel), not_appliedFor_finalizeWrite (by decide +kernel),
    not_released (by decide +kernel)⟩

end Examples

end CloudioOrchestrator

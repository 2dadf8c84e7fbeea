import CloudioOrchestrator.Ledger
import CloudioOrchestrator.Journal
import CloudioOrchestrator.Ownership
import CloudioOrchestrator.Releases

/-! # Who works on a record

A record that was last written READY is one that no run is working on. Triggering
takes no notice of the runs there are, so several may have configured one record;
what they write to it then depends on how their drives interleave.
-/

namespace CloudioOrchestrator

open Interaction

/-- What the orchestrator addresses a record by: its project, type and vendor id. -/
abbrev RecordKey := String × String × String

def ResourceSpec.key (resource : ResourceSpec) : RecordKey :=
  (resource.projectId, resource.resourceType, resource.vendorId)

/-- The record that a write leaves, under the vendor id it has from then on, and its state. -/
def Call.leaves : Call → Option (RecordKey × ResourceState)
  | .createResource projectId resourceType body _ =>
      some ((projectId, resourceType, body.vendorId), body.state)
  | .updateResource projectId resourceType vendorId fields =>
      some ((projectId, resourceType, fields.vendorId.getD vendorId), fields.state)
  | _ => none

/-- The state last written to the record, unless it was deleted or moved to another key since. -/
def written (key : RecordKey) : History → Option ResourceState
  | [] => none
  | .called _ _ call _ true :: older =>
      match call.leaves with
      | some (left, state) =>
          if left = key then some state
          else if call.address = some key then none
          else written key older
      | none => if call.address = some key then none else written key older
  | _ :: older => written key older

/-- A run that is not over has configured the record, and not yet finalized it. -/
structure WorkflowRun.AtWork (run : WorkflowRun) (key : RecordKey) (history : History) : Prop where
  unended : run.status.terminal = false
  configured : run.runState.resourceConfigured = true
  record : run.runState.resource.map ResourceSpec.key = some key
  unfinalized : ¬ AppliedFor FinalizeWrite run.runId history

/-- No run is at work on a record that was last written READY. -/
def ReadyMeansIdle (world : World) : Prop :=
  ∀ key runId row, written key world.history = some .ready →
    Store.get world.rows runId = some row → ¬ row.AtWork key world.history

/-- The drive was answered that it has configured the record. -/
def Configured (drive : DriveId) (key : RecordKey) (history : History) : Prop :=
  ∃ call answer applied state,
    .called drive (.step .configureResource) call answer applied ∈ history ∧
    answer.isOk = true ∧ call.leaves = some (key, state)

/-- So has a drive in memory that may still save it: what it loaded was not written since. -/
structure DriveAtWork (drive : DriveId) (key : RecordKey) (history : History) : Prop where
  current : ∃ base, .loaded drive base ∈ history ∧ ∀ saver row, .saved saver row ∈ history →
    row.runId = drive.subject → row.version ≤ base.version
  configured : Configured drive key history
  unfinalized : ¬ AppliedFor FinalizeWrite drive.subject history

/-- A write of the run to the record took effect. -/
def WroteTo (runId : UUID) (key : RecordKey) (history : History) : Prop :=
  ∃ drive issuer call answer state, drive.subject = runId ∧
    .called drive issuer call answer true ∈ history ∧ call.leaves = some (key, state)

/-- The run is over, or a finalize write of it took effect. -/
def Done (runId : UUID) (history : History) : Prop :=
  (∃ row, lastWrite runId history = some row ∧ row.status.terminal = true) ∨
    AppliedFor FinalizeWrite runId history

/-- Runs take turns at a record, and a release comes before the marker is stored. -/
structure InTurn (event : Event) (older : History) : Prop where
  /-- A run comes to a record, and one that is done makes it READY, when the other runs that
  have written to it are done. -/
  turns : ∀ drive issuer call answer key state, event = .called drive issuer call answer true →
    call.leaves = some (key, state) →
    ¬ WroteTo drive.subject key older ∨ state = .ready ∧ Done drive.subject older →
    ∀ other, other ≠ drive.subject → WroteTo other key older → Done other older
  /-- The marker of a run that makes its record READY by a release is not stored, and no
  other drive of the run may come to store it. -/
  releases : ∀ drive call answer key, event = .called drive .release call answer true →
    call.leaves = some (key, .ready) → ¬ Done drive.subject older →
    (∀ row, lastWrite drive.subject older = some row → row.runState.resourceConfigured = false) ∧
      ∀ other, other ≠ drive → other.subject = drive.subject → ¬ DriveAtWork other key older

/-- So it is with every event of the history. -/
def TakesTurns (history : History) : Prop :=
  Throughout InTurn history

section Growing

variable {drive : DriveId} {key : RecordKey} {older newer : History}

theorem Configured.append (hconfigured : Configured drive key older) (newer : History) :
    Configured drive key (newer ++ older) := by
  obtain ⟨call, answer, applied, state, hcalled, hanswered⟩ := hconfigured
  exact ⟨call, answer, applied, state, List.mem_append_right _ hcalled, hanswered⟩

theorem AppliedFor.append {kind : Issuer → Call → Prop} {runId : UUID}
    (happlied : AppliedFor kind runId older) (newer : History) :
    AppliedFor kind runId (newer ++ older) := by
  induction newer with
  | nil => exact happlied
  | cons event newer ih => exact ih.grows event

/-- What is known of the record that the drive's run has configured. -/
def Grounded (drive : DriveId) (key : RecordKey) (history : History) : Prop :=
  (∃ base, .loaded drive base ∈ history ∧ base.runState.resourceConfigured = true ∧
    base.runState.resource.map ResourceSpec.key = some key) ∨
  Configured drive key history ∨ AppliedFor FinalizeWrite drive.subject history

theorem Grounded.append (hgrounded : Grounded drive key older) (newer : History) :
    Grounded drive key (newer ++ older) := by
  rcases hgrounded with ⟨base, hloaded, hbase⟩ | hconfigured | hfinalized
  · exact .inl ⟨base, List.mem_append_right _ hloaded, hbase⟩
  · exact .inr (.inl (hconfigured.append newer))
  · exact .inr (.inr (hfinalized.append newer))

end Growing

/-- What the calls and saves of drives presuppose, and what they say of the record. -/
def Founded (event : Event) (older : History) : Prop :=
  match event with
  | .called drive issuer call answer applied =>
      (answer.isOk = true → applied = true) ∧ (∃ base, .loaded drive base ∈ older) ∧
      ∀ key, call.leaves = some (key, .ready) →
        issuer = .release ∨ issuer ≠ .step .configureResource ∧ FinalizeWrite issuer call
  | .saved drive row =>
      ((∃ event ∈ older, event.releases drive) → row.Denied) ∧
      (row.runState.resourceConfigured = true → ∀ key,
        row.runState.resource.map ResourceSpec.key = some key → Grounded drive key older)
  | _ => True

/-- The account in which drives call and save as that says. -/
def occupying : Account where
  row := .only fun _ => True
  event := Founded
  born _ := trivial
  rescheduled _ _ := trivial
  created _ _ := trivial
  loaded _ _ _ := trivial

/-- What a drive knows of its run and the record from its own events. -/
structure Tending (drive : DriveId) (run : WorkflowRun) (history : History) : Prop where
  subject : run.runId = drive.subject
  origin : HasOrigin run history
  loaded : ∃ base, .loaded drive base ∈ history
  released : (∃ event ∈ history, event.releases drive) → run.Denied
  grounded : run.runState.resourceConfigured = true → ∀ key,
    run.runState.resource.map ResourceSpec.key = some key → Grounded drive key history

section Tending

variable {drive : DriveId} {run changed : WorkflowRun} {older newer history : History}

theorem Tending.congr (hrun : Tending drive run history) (hsame : run.Continues changed)
    (hdenied : run.Denied → changed.Denied)
    (hconfigured : changed.runState.resourceConfigured = run.runState.resourceConfigured)
    (hresource : changed.runState.resource = run.runState.resource) :
    Tending drive changed history where
  subject := hsame.1.runId.symm.trans hrun.subject
  origin := by
    obtain ⟨origin, hcreated, hnewborn, horigin⟩ := hrun.origin
    exact ⟨origin, hcreated, hnewborn, horigin.trans hsame⟩
  loaded := hrun.loaded
  released hreleased := hdenied (hrun.released hreleased)
  grounded := by
    rw [hconfigured, hresource]
    exact hrun.grounded

/-- What happens leaves what the drive knows, unless the drive releases a run that is not denied. -/
theorem Tending.append (hrun : Tending drive run older) (newer : History)
    (hreleases : ∀ event ∈ newer, event.releases drive → run.Denied) :
    Tending drive run (newer ++ older) where
  subject := hrun.subject
  origin := by
    obtain ⟨origin, hcreated, horigin⟩ := hrun.origin
    exact ⟨origin, List.mem_append_right _ hcreated, horigin⟩
  loaded := by
    obtain ⟨base, hloaded⟩ := hrun.loaded
    exact ⟨base, List.mem_append_right _ hloaded⟩
  released := by
    intro hreleased
    obtain ⟨event, hevent, hreleased⟩ := hreleased
    rcases List.mem_append.mp hevent with hnew | hold
    · exact hreleases event hnew hreleased
    · exact hrun.released ⟨event, hold, hreleased⟩
  grounded hconfigured key hkey := (hrun.grounded hconfigured key hkey).append newer

theorem Tending.others (hrun : Tending drive run older)
    (hothers : ∀ event ∈ newer, event.actor ≠ some drive) : Tending drive run (newer ++ older) := by
  apply hrun.append newer
  intro event hevent hreleases
  exact absurd (Event.actor_of_releases hreleases) (hothers event hevent)

/-- What a drive saves is as it should be. -/
theorem Tending.founded (hrun : Tending drive run older) (version : Int) :
    Founded (.saved drive { run with version := version }) older :=
  ⟨hrun.released, hrun.grounded⟩

end Tending

section Handlers

variable {engines : List WorkflowEngineType} {drive : DriveId} {step : StepName}
  {run : WorkflowRun} {state final : RunState} {trace : Trace Providers}
  {outcome : Except PyException Bool} {older history : History} {call : Call} {issuer : Issuer}

theorem operationStates_ne_ready (operation : ResourceOperation) :
    operationStates operation ≠ .ready := by
  cases operation <;> decide

theorem resourceStateFields_state (state : ResourceState) :
    (resourceStateFields state).state = state := by
  cases state <;> rfl

/-- A step writes READY only to finalize. -/
theorem HandlerCall.finalizes (hcall : HandlerCall run state step call) {key : RecordKey}
    (hready : call.leaves = some (key, .ready)) :
    step ≠ .configureResource ∧ FinalizeWrite (.step step) call := by
  cases hcall with
  | createResource hnew hresource hcreate =>
      injection hready with hready
      injection hready with _ hstate
      rw [resourceStateFields_state] at hstate
      exact absurd hstate (operationStates_ne_ready _)
  | markResource hnew hresource hexisting =>
      injection hready with hready
      injection hready with _ hstate
      rw [resourceStateFields_state] at hstate
      exact absurd hstate (operationStates_ne_ready _)
  | finalize hresource hnew hkept =>
      exact ⟨by decide, .write _ _ _ _ (.inl (finalizeFields_state _))⟩
  | markDeleted hresource hnew hdelete =>
      exact ⟨by decide, .write _ _ _ _ (.inr rfl)⟩
  | _ => cases hready

/-- Beside the steps, only a release writes to records. -/
theorem AsideCall.release_of_leaves (hcall : AsideCall state issuer call)
    {left : RecordKey × ResourceState} (hleaves : call.leaves = some left) : issuer = .release := by
  cases hcall with
  | incident request => cases hleaves
  | aftermath hcall =>
      cases hcall with
      | release hcall => rfl
      | _ => cases hleaves

/-- A run is configured for the record that it was configured for before, for the one that
the step was answered about, or its record was finalized. -/
theorem HandlerEnd.grounds (hend : HandlerEnd engines run state step trace outcome final)
    (hconfigured : final.resourceConfigured = true) {key : RecordKey}
    (hkey : final.resource.map ResourceSpec.key = some key) :
    (state.resourceConfigured = true ∧ state.resource.map ResourceSpec.key = some key) ∨
    ∃ exchange ∈ trace, exchange.answer.isOk = true ∧
      ((step = .configureResource ∧ ∃ state, exchange.op.leaves = some (key, state)) ∨
        FinalizeWrite (.step step) exchange.op) := by
  cases hend with
  | resourceCreated resourceId hnew hresource hcreate =>
      apply Or.inr
      refine ⟨_, List.mem_cons_self, rfl,
        .inl ⟨rfl, (resourceStateFields (operationStates state.operation)).state, ?_⟩⟩
      rw [← Option.some.inj hkey]
      simp only [Call.leaves, createResourceCall, ResourceSpec.key]
      cases resourceId with
      | none => rfl
      | some resourceId =>
          simp only [assigned]
          split <;> rfl
  | createRefused error hnew hresource hcreate =>
      rw [hnew] at hconfigured
      cases hconfigured
  | resourceMarked hnew hresource hexisting =>
      apply Or.inr
      refine ⟨_, List.mem_cons_self, rfl,
        .inl ⟨rfl, (resourceStateFields (operationStates state.operation)).state, ?_⟩⟩
      rw [hresource] at hkey
      rw [← Option.some.inj hkey]
      rfl
  | succeededWith output hid hresource =>
      have hsame : (captured state output).resourceConfigured = state.resourceConfigured ∧
          (captured state output).resource = state.resource := by
        unfold captured
        split <;> exact ⟨rfl, rfl⟩
      rw [hsame.1] at hconfigured
      rw [hsame.2] at hkey
      exact .inl ⟨hconfigured, hkey⟩
  | engineFailed failure hid =>
      cases failure with
      | ok failure => exact .inl ⟨hconfigured, hkey⟩
      | error error => exact .inl ⟨hconfigured, hkey⟩
  | written hresource hnew hkept =>
      apply Or.inr
      exact ⟨_, List.mem_cons_self, rfl, .inr (.write _ _ _ _ (.inl (finalizeFields_state _)))⟩
  | deleted marked hresource hnew hdelete hmarked =>
      apply Or.inr
      exact ⟨_, List.mem_cons_self, rfl, .inr (.delete _ _ _ _)⟩
  | _ => exact .inl ⟨hconfigured, hkey⟩

/-- The answered exchanges are on record as the drive's, and applied. -/
def Heard (drive : DriveId) (step : StepName) (trace : Trace Providers) (history : History) :
    Prop :=
  ∀ exchange ∈ trace, exchange.answer.isOk = true →
    .called drive (.step step) exchange.op exchange.answer true ∈ history

theorem Heard.append {newer : History} (htrace : Heard drive step trace older) :
    Heard drive step trace (newer ++ older) := by
  intro exchange hexchange hok
  exact List.mem_append_right _ (htrace exchange hexchange hok)

theorem Heard.cons {answer : call.Answer} {applied : Bool}
    (htrace : Heard drive step trace older) (happlied : answer.isOk = true → applied = true) :
    Heard drive step (⟨call, answer⟩ :: trace)
      (.called drive (.step step) call answer applied :: older) := by
  intro exchange hexchange hok
  rcases List.mem_cons.mp hexchange with rfl | hold
  · rw [happlied hok]
    exact List.mem_cons_self
  · exact List.mem_cons_of_mem _ (htrace exchange hold hok)

/-- A handler leaves its drive knowing what it has configured. -/
theorem Tending.ended (hrun : Tending drive run history) (htrace : Heard drive step trace history)
    (hend : HandlerEnd engines run run.runState step trace outcome final) :
    Tending drive { run with runState := final } history where
  subject := hrun.subject
  origin := by
    obtain ⟨origin, hcreated, hnewborn, horigin⟩ := hrun.origin
    exact ⟨origin, hcreated, hnewborn, horigin.trans ⟨.refl, hend.sameRequest⟩⟩
  loaded := hrun.loaded
  released := hrun.released
  grounded := by
    intro hconfigured key hkey
    rcases hend.grounds hconfigured hkey with ⟨hbefore, hkept⟩ |
      ⟨exchange, hexchange, hok, ⟨rfl, state, hleaves⟩ | hfinalizes⟩
    · exact hrun.grounded hbefore key hkept
    · exact .inr (.inl ⟨_, _, _, state, htrace exchange hexchange hok, hok, hleaves⟩)
    · exact .inr (.inr ⟨drive, _, _, _, rfl, htrace exchange hexchange hok, hfinalizes⟩)

end Handlers

section Outline

variable {drive : DriveId} {condition later : WorkflowRun → Prop} {run changed : WorkflowRun}
  {world : World}

/-- What the drive knows, of a run that meets a condition. -/
def tending (drive : DriveId) (condition : WorkflowRun → Prop) :
    Assertion occupying.discipline drive where
  holds run world := Tending drive run world.history ∧ condition run
  stable := by
    rintro run world current ⟨hrun, hcondition⟩ ⟨⟨newer, hhistory, hothers⟩, -⟩ -
    rw [hhistory]
    exact ⟨hrun.others hothers, hcondition⟩

theorem tending_imp (hrun : tending drive condition run world) (hsame : run.Continues changed)
    (hdenied : run.Denied → changed.Denied)
    (hconfigured : changed.runState.resourceConfigured = run.runState.resourceConfigured)
    (hresource : changed.runState.resource = run.runState.resource)
    (himp : condition run → later changed) : tending drive later changed world :=
  ⟨hrun.1.congr hsame hdenied hconfigured hresource, himp hrun.2⟩

/-- The changes that a drive makes to how its driving stands. -/
theorem tending_same (hrun : tending drive condition run world) (hsame : run.Continues changed)
    (hstatus : changed.status = run.status)
    (hconfigured : changed.runState.resourceConfigured = run.runState.resourceConfigured)
    (hresource : changed.runState.resource = run.runState.resource)
    (himp : condition run → later changed) : tending drive later changed world := by
  apply tending_imp hrun hsame _ hconfigured hresource himp
  intro hdenied
  unfold WorkflowRun.Denied
  rwa [hstatus]

/-- An event of the drive's own that is neither a save nor a release of a run not denied. -/
theorem tending_record (hrun : tending drive condition run world) (hinv : occupying.Inv world)
    (event : Event) (hactor : event.actor = some drive) (hfounded : Founded event world.history)
    (hreleases : event.releases drive → run.Denied) :
    occupying.discipline.inv (world.record event) ∧
      occupying.discipline.guar drive world (world.record event) ∧
      tending drive condition run (world.record event) := by
  refine ⟨hinv.record ?_ hfounded, ⟨World.grows_record hactor, trivial⟩, ?_, hrun.2⟩
  · rintro origin rfl
    cases hactor
  · apply hrun.1.append [event]
    simpa using hreleases

theorem tending_log {record : LogRecord} (hrun : tending drive condition run world)
    (hinv : occupying.Inv world) (himp : ∀ {final}, tending drive condition run final →
      tending drive later changed final) :
    Serves occupying.discipline drive (.log record) world fun _ final =>
      tending drive later changed final := by
  obtain ⟨hkept, hguar, hnoted⟩ := tending_record hrun hinv (.logged drive record) rfl trivial
    (fun hreleases => False.elim hreleases)
  exact serves_log ⟨hkept, hguar, himp hnoted⟩

/-- A call beside the steps, of a run that is denied. -/
theorem tending_aside {issuer : Issuer} {call : Call} (hrun : tending drive condition run world)
    (hinv : occupying.Inv world) (hcall : AsideCall run.runState issuer call)
    (hdenied : condition run → run.Denied) :
    Serves occupying.discipline drive (.provider issuer call) world fun _ final =>
      tending drive condition run final := by
  refine serves_call fun answer applied happlied => ?_
  apply tending_record hrun hinv _ rfl
  · refine ⟨happlied, hrun.1.loaded, ?_⟩
    intro key hready
    exact .inl (hcall.release_of_leaves hready)
  · intro _
    exact hdenied hrun.2

theorem tending_save (hrun : tending drive condition run world) (hinv : occupying.Inv world)
    {post : (Op.runsSave run).Answer → World → Prop}
    (hpost : ∀ answer final, tending drive condition run final → post answer final) :
    Serves occupying.discipline drive (.runsSave run) world post := by
  refine serves_save (fun error => ⟨hinv, ⟨.refl, trivial⟩, hpost _ _ hrun⟩) fun row hsave => ?_
  have hrow := hinv.saved_row hrun.1.origin hsave
  have hnoted : tending drive condition run (world.commit drive row) := by
    refine ⟨?_, hrun.2⟩
    apply hrun.1.append [.saved drive row]
    simp [Event.releases]
  refine ⟨hinv.commit hrun.1.origin hsave trivial ?_,
    ⟨⟨[.saved drive row], rfl, by simp [Event.actor]⟩, trivial⟩, hpost _ _ hnoted,
    fun _ _ => hpost _ _ hnoted⟩
  rw [hrow]
  exact hrun.1.founded _

/-- A handler of a run that is not denied. -/
theorem tending_execute {engines : List WorkflowEngineType} {step : StepName}
    {handler : StepHandler} (hhandler : buildHandlers engines step = some handler)
    (hcondition : ∀ state, condition run → condition { run with runState := state })
    (hrun : tending drive condition run world) :
    (occupying.discipline.through (S := Providers) (Op.provider (.step step))
        fun _ answer => answer).wp drive (handler.execute run)
      (fun _ state final => tending drive condition { run with runState := state } final)
      run.runState world := by
  refine Discipline.wp_mono (wp_handler
    (fun trace (final : World) => tending drive condition run final ∧
      Heard drive step trace final.history) hhandler ?_ ?_ ⟨hrun, by simp [Heard]⟩) ?_
  · rintro trace world current ⟨hrun, htrace⟩ hrely hinv
    refine ⟨(tending drive condition).stable hrun hrely hinv, ?_⟩
    obtain ⟨⟨newer, hhistory, -⟩, -⟩ := hrely
    rw [hhistory]
    exact htrace.append
  · rintro trace call world ⟨hrun, htrace⟩ hcall hinv
    refine serves_call fun answer applied happlied => ?_
    have hfounded : Founded (.called drive (.step step) call answer applied) world.history := by
      refine ⟨happlied, hrun.1.loaded, ?_⟩
      intro key hready
      obtain ⟨hstep, hfinalizes⟩ := hcall.finalizes hready
      refine .inr ⟨?_, hfinalizes⟩
      intro heq
      exact hstep (Issuer.step.inj heq)
    obtain ⟨hkept, hguar, hnoted⟩ := tending_record hrun hinv
      (.called drive (.step step) call answer applied) rfl hfounded
        (fun hreleases => False.elim hreleases)
    exact ⟨hkept, hguar, hnoted, htrace.cons happlied⟩
  · rintro outcome state final ⟨trace, ⟨hrun, htrace⟩, hend⟩
    exact ⟨hrun.1.ended htrace hend, hcondition state hrun.2⟩

/-- A retry leaves what the handlers have made of the run. -/
theorem tending_retried {engines : List WorkflowEngineType} {step : StepName}
    {handler : StepHandler} (hhandler : buildHandlers engines step = some handler)
    (hrun : tending drive condition run world) (scheduledAt : Option Time) :
    tending drive (fun _ => True)
      { retriedRun step handler run with scheduledAt := scheduledAt } world := by
  have hsame := retryState_sameProgress hhandler run.runState
  have hrequest := hsame.sameRequest
  obtain ⟨-, -, -, -, -, hresource, -, hconfigured, -⟩ := hsame
  exact tending_same hrun ⟨.refl, hrequest⟩ rfl hconfigured.symm hresource.symm fun _ => trivial

/-- A run is denied before its record is released, and stays so. -/
def occupyingOutline (engines : List WorkflowEngineType) (retryBase : Time) (defaultTeam : String)
    (drive : DriveId) :
    Outline occupying.discipline drive (.wired engines retryBase defaultTeam) where
  fresh := tending drive fun run => ¬ run.Denied
  turning _ := tending drive fun run => ¬ run.Denied
  tried _ _ _ := tending drive fun run => ¬ run.Denied
  raised _ _ := tending drive fun run => ¬ run.Denied
  passed _ := tending drive fun run => ¬ run.Denied
  denied := tending drive WorkflowRun.Denied
  dismissed := tending drive fun _ => True
  failing _ := tending drive WorkflowRun.Denied
  escalating _ := tending drive WorkflowRun.Denied
  failed := tending drive WorkflowRun.Denied
  released := tending drive WorkflowRun.Denied
  pending := tending drive fun _ => True
  quiet := tending drive fun _ => True
  troubled _ := tending drive fun _ => True
  ended := tending drive fun _ => True
  wrecked _ := tending drive fun _ => True
  guar_refl world _ := ⟨.refl, trivial⟩
  utcnow := serve_utcnow drive
  uniform := serve_uniform drive
  start hrun _ := tending_imp hrun (.refl _) (fun hdenied => absurd hdenied hrun.2) rfl rfl
    fun _ hdenied => by rcases hdenied with hdenied | hdenied <;> cases hdenied
  badStart hrun _ := tending_same hrun (.refl _) rfl rfl rfl fun _ => trivial
  unhandled hrun _ := tending_same hrun (.refl _) rfl rfl rfl fun _ => trivial
  restamp _ _ hrun := tending_same hrun (.refl _) rfl rfl rfl id
  naive hrun := tending_same hrun (.refl _) rfl rfl rfl fun _ => trivial
  deadline hrun := hrun
  execute hhandler hrun _ := tending_execute hhandler (fun _ => id) hrun
  reject hrun := tending_imp hrun (.refl _) (fun _ => .inr rfl) rfl rfl fun _ => .inr rfl
  release hrun hinv hcall := by
    intro choice
    obtain ⟨hkept, hguar, hfinal⟩ :=
      tending_aside hrun hinv (.aftermath (.release hcall)) id choice
    exact ⟨hkept, hguar, tending_same hfinal (.refl _) rfl rfl rfl fun _ => trivial⟩
  unheld hrun _ := tending_same hrun (.refl _) rfl rfl rfl fun _ => trivial
  dismissed_pending hrun := hrun
  logRaised hrun _ hinv := tending_log hrun hinv id
  retry due hhandler hrun _ := tending_retried hhandler hrun (some due)
  retryOverflow {step handler error overflow run world} hhandler hrun _ :=
    tending_retried hhandler hrun run.scheduledAt
  giveUp hrun _ := tending_imp hrun (.refl _) (fun _ => .inl rfl) rfl rfl fun _ => .inl rfl
  poll due hrun := tending_same hrun (.refl _) rfl rfl rfl fun _ => trivial
  pollOverflow hrun := tending_same hrun (.refl _) rfl rfl rfl fun _ => trivial
  logCompleted hrun hinv := tending_log hrun hinv fun hfinal =>
    tending_same hfinal (.refl _) rfl rfl rfl id
  offPlan hrun _ := tending_same hrun (.refl _) rfl rfl rfl fun _ => trivial
  next hrun _ _ := tending_same hrun (.refl _) rfl rfl rfl id
  finish hrun _ _ := tending_imp hrun (.refl _) (fun hdenied => absurd hdenied hrun.2) rfl rfl
    fun _ => trivial
  logEscalating hrun hinv := tending_log hrun hinv id
  openIncident request hrun hinv := (tending_aside hrun hinv (.incident request) id).opened
    fun _ _ hfinal => tending_same hfinal (.refl _) rfl rfl rfl id
  escalating_failed hrun := hrun
  aftermath hrun hinv hcall := tending_aside hrun hinv (.aftermath hcall) id
  ticketClosed hrun := tending_same hrun (.refl _) rfl rfl rfl id
  releaseFailed hrun hinv hcall := tending_aside hrun hinv (.aftermath (.release hcall)) id
  unheldFailed hrun _ := hrun
  released_pending hrun := tending_same hrun (.refl _) rfl rfl rfl fun _ => trivial
  released_quiet hrun := tending_same hrun (.refl _) rfl rfl rfl fun _ => trivial
  save hrun hinv := by
    refine tending_save hrun hinv fun answer final hsaved => ?_
    split
    · exact tending_same hsaved (.refl _) rfl rfl rfl id
    · exact hsaved
    · exact hsaved
  saveQuietly hrun hinv := by
    refine tending_save hrun hinv fun answer final hsaved => ?_
    split
    · exact tending_same hsaved (.refl _) rfl rfl rfl id
    · exact hsaved
  unpersisted hrun _ hinv := tending_log hrun hinv id
  unnamed hrun _ _ _ := hrun
  crashed {error} run step world hrun _ _ hinv := by
    apply tending_log hrun hinv
    intro final hfinal
    cases step <;> exact tending_imp hfinal (.refl _) (fun _ => .inl rfl) rfl rfl fun _ => .inl rfl

end Outline

section Runs

variable {key : RecordKey} {history older newer : History} {event : Event} {runId : UUID}
  {row : WorkflowRun}

/-- What a drive knows of its run as it loads it. -/
theorem Tending.load {drive : DriveId} {world : World} (hinv : occupying.Inv world)
    (habsent : Absent drive world) (hget : Store.get world.rows drive.subject = some row) :
    Tending drive row (.loaded drive row :: world.history) where
  subject := Store.runId_of_get hget
  origin := (hinv.rows _ _ hget).1.cons _
  loaded := ⟨row, List.mem_cons_self⟩
  released := by
    intro hreleased
    obtain ⟨event, hevent, hreleased⟩ := hreleased
    rcases List.mem_cons.mp hevent with rfl | hold
    · cases hreleased
    · exact absurd (Event.actor_of_releases hreleased) (habsent event hold)
  grounded hconfigured key hkey := .inl ⟨row, List.mem_cons_self, hconfigured, hkey⟩

theorem reached_occupying (engines : List WorkflowEngineType) (retryBase : Time)
    (defaultTeam : String) (clock : Time) (moves : List (Move system)) :
    occupying.Inv (reached (.wired engines retryBase defaultTeam) clock moves).world := by
  have hcompatible : occupying.discipline.Compatible
      (Executor.handle (.wired engines retryBase defaultTeam)) Absent := by
    refine interleaving_compatible (fun event world hinv => ⟨hinv.outside event, trivial⟩) ?_
    intro drive world _ habsent
    refine (occupyingOutline engines retryBase defaultTeam drive).handle_safe
      fun current hrely hinv => ?_
    have habsent := habsent.of_rely hrely
    refine serves_get (fun answer hmissed => ?_) fun row hget => ?_
    · exact ⟨hinv, ⟨.refl, trivial⟩, fun run hanswer => absurd hanswer (hmissed run)⟩
    · refine ⟨hinv.record ?_ trivial, ⟨World.grows_record rfl, trivial⟩, ?_⟩
      · intro origin heq
        cases heq
      · intro run hanswer hopen
        obtain rfl : row = run := by simpa using hanswer
        refine ⟨.load hinv habsent hget, ?_⟩
        intro hdenied
        rcases hdenied with hdenied | hdenied
        · rw [hdenied] at hopen
          cases hopen
        · rw [hdenied] at hopen
          cases hopen
  exact (reached_sound hcompatible clock (.initial clock) moves).inv

theorem lastWrite_ne_none {saver : DriveId} {saved : WorkflowRun}
    (hsaved : .saved saver saved ∈ history) : lastWrite saved.runId history ≠ none := by
  induction history with
  | nil => cases hsaved
  | cons event older ih =>
      rcases List.mem_cons.mp hsaved with rfl | hold
      · simp [lastWrite]
      · cases event with
        | created run =>
            unfold lastWrite
            split
            · exact Option.some_ne_none _
            · exact ih hold
        | saved drive row =>
            unfold lastWrite
            split
            · exact Option.some_ne_none _
            · exact ih hold
        | loaded | called | logged => exact ih hold

/-- No save of a run has a later version than its last write. -/
theorem Chained.version_le (hchained : Chained history) {saver : DriveId} {saved : WorkflowRun}
    (hsaved : .saved saver saved ∈ history) (hlast : lastWrite saved.runId history = some row) :
    saved.version ≤ row.version := by
  induction history generalizing row with
  | nil => cases hsaved
  | cons event older ih =>
      obtain ⟨hlinks, hchained⟩ := hchained
      rcases List.mem_cons.mp hsaved with rfl | hold
      · obtain rfl : saved = row := by simpa [lastWrite] using hlast
        exact Int.le_refl _
      · obtain ⟨previous, hprevious⟩ := Option.ne_none_iff_exists'.mp (lastWrite_ne_none hold)
        have hle := ih hchained hold hprevious
        rcases hlinks.lastWrite_cases hprevious with
          hsame | ⟨_, _, later, _, hlater, _, _, hversion, _⟩
        · obtain rfl := Option.some.inj (hsame.symm.trans hlast)
          exact hle
        · obtain rfl := Option.some.inj (hlater.symm.trans hlast)
          omega

/-- No write to the record is among the events. -/
def NoWriteTo (key : RecordKey) (events : History) : Prop :=
  ∀ drive issuer call answer state, .called drive issuer call answer true ∈ events →
    call.leaves ≠ some (key, state)

theorem NoWriteTo.tail (hnone : NoWriteTo key (event :: older)) : NoWriteTo key older :=
  fun drive issuer call answer state hmem =>
    hnone drive issuer call answer state (List.mem_cons_of_mem _ hmem)

/-- A record that was last written READY: the write that did so, and none to it since. -/
theorem exists_of_written (hwritten : written key history = some .ready) :
    ∃ newer writer issuer call answer older,
      history = newer ++ .called writer issuer call answer true :: older ∧
      call.leaves = some (key, .ready) ∧ NoWriteTo key newer := by
  induction history with
  | nil => cases hwritten
  | cons event older ih =>
      -- an event that leaves the record as it is goes before the write that is known
      have hpast : written key older = some .ready → (∀ drive issuer call answer state,
          event = .called drive issuer call answer true → call.leaves ≠ some (key, state)) →
          ∃ newer writer issuer call answer oldest,
            event :: older = newer ++ .called writer issuer call answer true :: oldest ∧
            call.leaves = some (key, .ready) ∧ NoWriteTo key newer := by
        intro hwritten hleaves
        obtain ⟨newer, writer, issuer, call, answer, oldest, hhistory, hready, hnone⟩ := ih hwritten
        refine ⟨event :: newer, writer, issuer, call, answer, oldest, by rw [hhistory]; rfl,
          hready, ?_⟩
        intro drive issuer call answer state hmem
        rcases List.mem_cons.mp hmem with heq | hold
        · exact hleaves drive issuer call answer state heq.symm
        · exact hnone drive issuer call answer state hold
      cases event with
      | called writer issuer call answer applied =>
          cases applied with
          | false => exact hpast hwritten (by simp)
          | true =>
              unfold written at hwritten
              split at hwritten
              next left state hleaves =>
                split at hwritten
                next hkey =>
                  obtain rfl := Option.some.inj hwritten
                  exact ⟨[], writer, issuer, call, answer, older,
                    rfl, by rw [hleaves, hkey], by simp [NoWriteTo]⟩
                next hkey =>
                  split at hwritten
                  · cases hwritten
                  · apply hpast hwritten
                    intro drive issuer call answer state heq
                    cases heq
                    rw [hleaves]
                    intro heq
                    cases heq
                    exact hkey rfl
              next hleaves =>
                split at hwritten
                · cases hwritten
                · apply hpast hwritten
                  intro drive issuer call answer state heq
                  cases heq
                  simp [hleaves]
      | created | loaded | logged | saved => exact hpast hwritten (by simp)

theorem WorkflowRun.AtWork.before {event : Event} (hwork : row.AtWork key (event :: older)) :
    row.AtWork key older :=
  ⟨hwork.unended, hwork.configured, hwork.record,
    fun hfinalized => hwork.unfinalized (hfinalized.grows event)⟩

theorem WorkflowRun.AtWork.congr {other : WorkflowRun} (hwork : row.AtWork key history)
    (hsame : row.unscheduled = other.unscheduled) : other.AtWork key history := by
  obtain ⟨hid, -, hstatus, -, -, hstate⟩ := WorkflowRun.unscheduled_eq hsame
  refine ⟨?_, ?_, ?_, ?_⟩
  · rw [← hstatus]
    exact hwork.unended
  · rw [← hstate]
    exact hwork.configured
  · rw [← hstate]
    exact hwork.record
  · rw [← hid]
    exact hwork.unfinalized

/-- A run that is done stays so. -/
theorem Done.grows (hdone : Done runId older) (hchained : Chained (event :: older)) :
    Done runId (event :: older) := by
  rcases hdone with ⟨row, hlast, hterminal⟩ | hfinalized
  · rcases hchained.1.lastWrite_cases hlast with hsame | ⟨_, _, _, _, _, _, _, _, hopen⟩
    · exact .inl ⟨row, hsame, hterminal⟩
    · rw [hterminal] at hopen
      cases hopen
  · exact .inr (hfinalized.grows event)

theorem Done.append (hdone : Done runId older) (hchained : Chained (newer ++ older)) :
    Done runId (newer ++ older) := by
  induction newer with
  | nil => exact hdone
  | cons event newer ih => exact (ih hchained.2).grows hchained

theorem WorkflowRun.AtWork.not_done (hwork : row.AtWork key history)
    (hlast : lastWrite runId history = some row) : ¬ Done runId history := by
  rintro (⟨last, hlast', hterminal⟩ | hfinalized)
  · obtain rfl := Option.some.inj (hlast.symm.trans hlast')
    rw [hwork.unended] at hterminal
    cases hterminal
  · apply hwork.unfinalized
    rw [lastWrite_runId hlast]
    exact hfinalized

/-- Of two runs that have written to a record, one was done when the other came. -/
theorem done_of_wroteTo {one other : UUID} (hturns : TakesTurns history)
    (hchained : Chained history) (hne : one ≠ other) (hone : WroteTo one key history)
    (hother : WroteTo other key history) : Done one history ∨ Done other history := by
  induction history with
  | nil =>
      obtain ⟨_, _, _, _, _, _, hcalled, _⟩ := hone
      cases hcalled
  | cons event older ih =>
      -- whoever had not written before does so now, when the other is done
      have hfirst : ∀ {runId rival}, rival ≠ runId → WroteTo runId key (event :: older) →
          ¬ WroteTo runId key older → WroteTo rival key older → Done rival older := by
        intro runId rival hne hwrote hnone hrival
        obtain ⟨drive, issuer, call, answer, state, rfl, hcalled, hleaves⟩ := hwrote
        rcases List.mem_cons.mp hcalled with rfl | hold
        · exact hturns.1.turns _ _ _ _ _ _ rfl hleaves (.inl hnone) rival hne hrival
        · exact absurd ⟨drive, issuer, call, answer, state, rfl, hold, hleaves⟩ hnone
      by_cases hone' : WroteTo one key older
      · by_cases hother' : WroteTo other key older
        · exact (ih hturns.2 hchained.2 hone' hother').imp (·.grows hchained) (·.grows hchained)
        · exact .inl ((hfirst hne hother hother' hone').grows hchained)
      · by_cases hother' : WroteTo other key older
        · exact .inr ((hfirst hne.symm hone hone' hother').grows hchained)
        · -- the two do not come by one write
          obtain ⟨drive, _, _, _, state, rfl, hcalled, hleaves⟩ := hone
          obtain ⟨rival, _, _, _, state', rfl, hcalled', hleaves'⟩ := hother
          rcases List.mem_cons.mp hcalled with rfl | hold
          · rcases List.mem_cons.mp hcalled' with heq | hold'
            · cases heq
              exact absurd rfl hne
            · exact absurd ⟨rival, _, _, _, state', rfl, hold', hleaves'⟩ hother'
          · exact absurd ⟨drive, _, _, _, state, rfl, hold, hleaves⟩ hone'

/-- What holds of every history that is reached. -/
structure Accounted (history : History) : Prop where
  founded : Throughout Founded history
  chained : Chained history
  loadedOnce : ∀ drive first second, .loaded drive first ∈ history →
    .loaded drive second ∈ history → first = second
  newborn : ∀ origin, .created origin ∈ history → Newborn origin

theorem Accounted.tail (haccounted : Accounted (event :: older)) : Accounted older where
  founded := haccounted.founded.2
  chained := haccounted.chained.2
  loadedOnce drive first second hfirst hsecond :=
    haccounted.loadedOnce drive first second (List.mem_cons_of_mem _ hfirst)
      (List.mem_cons_of_mem _ hsecond)
  newborn origin hcreated := haccounted.newborn origin (List.mem_cons_of_mem _ hcreated)

theorem Accounted.suffix (haccounted : Accounted (newer ++ older)) : Accounted older := by
  induction newer with
  | nil => exact haccounted
  | cons event newer ih => exact ih haccounted.tail

/-- A run is created without the marker. -/
theorem Accounted.unmarked {origin : WorkflowRun}
    (haccounted : Accounted (.created origin :: older)) :
    origin.runState.resourceConfigured = false :=
  (haccounted.newborn origin List.mem_cons_self).markers.2.1

/-- A saved row that is configured for a record: so was the row that its drive loaded, the
drive was answered so itself, or the run was finalized. -/
theorem Accounted.saved {drive : DriveId} (haccounted : Accounted (.saved drive row :: older))
    (hconfigured : row.runState.resourceConfigured = true)
    (hkey : row.runState.resource.map ResourceSpec.key = some key) :
    (∃ previous, lastWrite row.runId older = some previous ∧ previous.status.terminal = false ∧
      previous.runState.resourceConfigured = true ∧
      previous.runState.resource.map ResourceSpec.key = some key) ∨
    Configured drive key older ∨ AppliedFor FinalizeWrite row.runId older := by
  obtain ⟨base, previous, hbase, hprevious, hsame, hid, -, hopen⟩ := haccounted.chained.1
  rw [hid]
  rcases haccounted.founded.1.2 hconfigured key hkey with
    ⟨found, hfound, hmarked, hrecord⟩ | hanswered | hfinalized
  · obtain rfl := haccounted.tail.loadedOnce drive found base hfound hbase
    have hstate := WorkflowRun.runState_unscheduled hsame
    rw [hstate] at hmarked hrecord
    exact .inl ⟨previous, hprevious, hopen, hmarked, hrecord⟩
  · exact .inr (.inl hanswered)
  · exact .inr (.inr hfinalized)

/-- A row that is configured for a record: a drive of the run was answered so, or the run
was finalized. -/
theorem Accounted.configured (haccounted : Accounted history)
    (hlast : lastWrite runId history = some row)
    (hconfigured : row.runState.resourceConfigured = true)
    (hkey : row.runState.resource.map ResourceSpec.key = some key) :
    (∃ drive : DriveId, drive.subject = runId ∧ Configured drive key history) ∨
      AppliedFor FinalizeWrite runId history := by
  induction history generalizing row with
  | nil => cases hlast
  | cons event older ih =>
      have hpast : ∀ {row}, lastWrite runId older = some row →
          row.runState.resourceConfigured = true →
          row.runState.resource.map ResourceSpec.key = some key →
          (∃ drive : DriveId, drive.subject = runId ∧ Configured drive key (event :: older)) ∨
            AppliedFor FinalizeWrite runId (event :: older) := by
        intro row hlast hconfigured hkey
        rcases ih haccounted.tail hlast hconfigured hkey with
          ⟨drive, hid, hanswered⟩ | hfinalized
        · exact .inl ⟨drive, hid, hanswered.append [event]⟩
        · exact .inr (hfinalized.grows event)
      rcases lastWrite_cases hlast with ⟨rfl | ⟨drive, rfl⟩, rfl⟩ | hold
      · rw [haccounted.unmarked] at hconfigured
        cases hconfigured
      · rcases haccounted.saved hconfigured hkey with
          ⟨previous, hprevious, -, hmarked, hrecord⟩ | hanswered | hfinalized
        · exact hpast hprevious hmarked hrecord
        · obtain ⟨-, -, -, -, -, hsubject, -⟩ := haccounted.chained.1
          exact .inl ⟨drive, hsubject.symm, hanswered.append [_]⟩
        · exact .inr (hfinalized.grows _)
      · exact hpast hold hconfigured hkey

/-- A drive that configured a record did so before the write that made it READY, unless the
record was written to since. -/
theorem Configured.before {drive writer : DriveId} {issuer : Issuer} {call : Call}
    {answer : call.Answer}
    (hfounded : Throughout Founded (newer ++ .called writer issuer call answer true :: older))
    (hready : call.leaves = some (key, .ready)) (hnone : NoWriteTo key newer)
    (hconfigured : Configured drive key
      (newer ++ .called writer issuer call answer true :: older)) :
    Configured drive key older := by
  obtain ⟨other, told, applied, state, hcalled, hok, hleaves⟩ := hconfigured
  have happlied : applied = true := by
    obtain ⟨later, earlier, hsplit⟩ := List.append_of_mem hcalled
    rw [hsplit] at hfounded
    exact hfounded.event.1 hok
  subst happlied
  obtain ⟨-, -, hissuer⟩ := hfounded.event
  rcases List.mem_append.mp hcalled with hnew | hold
  · exact absurd hleaves (hnone _ _ _ _ _ hnew)
  · rcases List.mem_cons.mp hold with heq | hold
    · cases heq
      rcases hissuer key hready with hrelease | ⟨hstep, -⟩
      · cases hrelease
      · exact absurd rfl hstep
    · exact ⟨other, told, true, state, hold, hok, hleaves⟩

theorem Configured.wroteTo {drive : DriveId} (hfounded : Throughout Founded history)
    (hconfigured : Configured drive key history) : WroteTo drive.subject key history := by
  obtain ⟨call, answer, applied, state, hcalled, hok, hleaves⟩ := hconfigured
  obtain ⟨later, earlier, rfl⟩ := List.append_of_mem hcalled
  obtain rfl := hfounded.event.1 hok
  exact ⟨drive, _, call, answer, state, rfl, hcalled, hleaves⟩

/-- A drive whose save is accepted was able to save all along. -/
theorem DriveAtWork.of_saved {saver : DriveId}
    (haccounted : Accounted (.saved saver row :: (newer ++ older)))
    (hconfigured : Configured saver key older)
    (hunfinalized : ¬ AppliedFor FinalizeWrite saver.subject older) :
    DriveAtWork saver key older where
  current := by
    obtain ⟨base, previous, hbase, hprevious, hsame, -, -, -⟩ := haccounted.chained.1
    have hversion := WorkflowRun.version_unscheduled hsame
    obtain ⟨call, answer, applied, state, hcalled, -⟩ := hconfigured
    have hfounded := haccounted.tail.suffix.founded
    obtain ⟨later, earlier, rfl⟩ := List.append_of_mem hcalled
    obtain ⟨-, ⟨found, hfound⟩, -⟩ := hfounded.event
    have hloaded := List.mem_append_right later (List.mem_cons_of_mem
      (.called saver (.step .configureResource) call answer applied) hfound)
    obtain rfl := haccounted.tail.loadedOnce saver found base
      (List.mem_append_right _ hloaded) hbase
    refine ⟨found, hloaded, ?_⟩
    intro other row hsaved hid
    rw [← hid] at hprevious
    rw [hversion]
    exact haccounted.tail.chained.version_le (List.mem_append_right _ hsaved) hprevious
  configured := hconfigured
  unfinalized := hunfinalized

/-- A run that released its record before its marker was stored is not at work on it. -/
theorem idle_of_released {drive : DriveId} {call : Call} {answer : call.Answer}
    (haccounted : Accounted (newer ++ .called drive .release call answer true :: older))
    (hready : call.leaves = some (key, .ready)) (hnone : NoWriteTo key newer)
    (hunmarked : ∀ row, lastWrite drive.subject older = some row →
      row.runState.resourceConfigured = false)
    (hothers : ∀ other, other ≠ drive → other.subject = drive.subject →
      ¬ DriveAtWork other key older)
    (hlast : lastWrite drive.subject (newer ++ .called drive .release call answer true :: older) =
      some row) :
    ¬ row.AtWork key (newer ++ .called drive .release call answer true :: older) := by
  intro hwork
  induction newer generalizing row with
  | nil =>
      have hconfigured := hunmarked row hlast
      rw [hwork.configured] at hconfigured
      cases hconfigured
  | cons event newer ih =>
      rw [List.cons_append] at haccounted hlast hwork
      have hpast : ∀ {row : WorkflowRun}, lastWrite drive.subject
          (newer ++ .called drive .release call answer true :: older) = some row →
          ¬ row.AtWork key (newer ++ .called drive .release call answer true :: older) :=
        ih haccounted.tail hnone.tail
      rcases lastWrite_cases hlast with ⟨rfl | ⟨saver, rfl⟩, hid⟩ | hold
      · have hconfigured := haccounted.unmarked
        rw [hwork.configured] at hconfigured
        cases hconfigured
      · obtain ⟨-, -, -, -, -, hsubject, -⟩ := haccounted.chained.1
        rcases haccounted.saved hwork.configured hwork.record with
          ⟨previous, hprevious, hopen, hmarked, hrecord⟩ | hanswered | hfinalized
        · rw [hid] at hprevious
          refine hpast hprevious ⟨hopen, hmarked, hrecord, ?_⟩
          rw [lastWrite_runId hprevious, ← hid]
          exact hwork.before.unfinalized
        · by_cases hsaver : saver = drive
          · -- whoever releases is denied, and saves nothing else
            subst hsaver
            have hdenied := haccounted.founded.1.1
              ⟨_, List.mem_append_right _ List.mem_cons_self, rfl⟩
            have hunended := hwork.unended
            rcases hdenied with hdenied | hdenied <;> rw [hdenied] at hunended <;> cases hunended
          · -- the marker was on its way before the release
            apply hothers saver hsaver (hsubject.symm.trans hid)
            have hbefore := hanswered.before haccounted.tail.founded hready hnone.tail
            have hsplit : newer ++ .called drive .release call answer true :: older =
                (newer ++ [.called drive .release call answer true]) ++ older := by simp
            have hunfinalized := hwork.before.unfinalized
            rw [hsplit] at haccounted hunfinalized
            apply DriveAtWork.of_saved haccounted hbefore
            rw [← hsubject]
            exact fun hfinalized => hunfinalized (hfinalized.append _)
        · exact hwork.before.unfinalized hfinalized
      · exact hpast hold hwork.before

/-- Where runs take turns, none is at work on a record that was last written READY. -/
theorem idle_of_takesTurns (haccounted : Accounted history) (hturns : TakesTurns history)
    (hwritten : written key history = some .ready) (hlast : lastWrite runId history = some row) :
    ¬ row.AtWork key history := by
  intro hwork
  obtain ⟨newer, writer, issuer, call, answer, older, rfl, hready, hnone⟩ :=
    exists_of_written hwritten
  have hundone : ¬ Done runId older := by
    intro hdone
    exact hwork.not_done hlast ((hdone.grows haccounted.chained.suffix).append haccounted.chained)
  rcases haccounted.configured hlast hwork.configured hwork.record with
    ⟨drive, rfl, hanswered⟩ | hfinalized
  · have hsuffix := haccounted.suffix
    have hturn := hturns.event
    have hwrote := (hanswered.before haccounted.founded hready hnone).wroteTo hsuffix.tail.founded
    by_cases hid : writer.subject = drive.subject
    · obtain ⟨-, -, hissuer⟩ := haccounted.founded.event
      rcases hissuer key hready with rfl | ⟨-, hfinalizes⟩
      · rw [← hid] at hlast hundone
        obtain ⟨hunmarked, hothers⟩ := hturn.releases _ _ _ _ rfl hready hundone
        exact idle_of_released haccounted hready hnone hunmarked hothers hlast hwork
      · apply hwork.unfinalized
        rw [lastWrite_runId hlast]
        exact ⟨writer, issuer, call, answer, hid, List.mem_append_right _ List.mem_cons_self,
          hfinalizes⟩
    · -- the writer was there before the run, or came after it
      have hcame : ¬ WroteTo writer.subject key older ∨
          ResourceState.ready = .ready ∧ Done writer.subject older := by
        by_cases hbefore : WroteTo writer.subject key older
        · have hdone := done_of_wroteTo hturns.suffix.2 hsuffix.tail.chained hid hbefore hwrote
          exact .inr ⟨rfl, hdone.resolve_right hundone⟩
        · exact .inl hbefore
      apply hundone
      exact hturn.turns _ _ _ _ _ _ rfl hready hcame _ (Ne.symm hid) hwrote
  · apply hwork.unfinalized
    rw [lastWrite_runId hlast]
    exact hfinalized

end Runs

section Examples

/-- A request to update the record that the sample deletion is about. -/
def updateSample : TriggerRequest :=
  { deletionSample with operation := .update }

def updatedKey : RecordKey :=
  ("p", "vm", "vm-7")

/-- Nobody has decided on the ticket yet. -/
def approvalOutstanding (call : Call) : call.Answer :=
  match call with
  | .getApprovalStatus _ => .ok .pending
  | call => willing call

/-- A request to update a record, and two drives of its run: one until the engine is
triggered, and one that finds the engine run to have succeeded. -/
def updating : List (Move system) :=
  .outside (.trigger sampleId (some resourceWorkflow) updateSample) ::
  .start sampleId :: List.replicate 40 (.advance 0 { answer := willing }) ++
  .start sampleId :: List.replicate 40 (.advance 1 { answer := willing })

/-- A write that leaves no record READY unless it finalizes one. -/
def readiesFinally : Event → Bool
  | .called _ (.step _) (.updateResource ..) _ true => true
  | .called _ _ call _ true => call.leaves.all fun left => left.2 ≠ .ready
  | _ => true

theorem finalizeWrite_of_readiesFinally {drive : DriveId} {issuer : Issuer} {call : Call}
    {answer : call.Answer} {key : RecordKey}
    (hfinally : readiesFinally (.called drive issuer call answer true) = true)
    (hready : call.leaves = some (key, .ready)) : FinalizeWrite issuer call := by
  unfold readiesFinally at hfinally
  split at hfinally
  next heq =>
    cases heq
    injection hready with hready
    injection hready with _ hstate
    exact .write _ _ _ _ (.inl hstate)
  next heq =>
    cases heq
    simp [hready] at hfinally
  next hcalled => exact absurd rfl (hcalled _ _ _ _)

/-- The history is of one run, which releases nothing. -/
def soleAndFinal (runId : UUID) (history : History) : Bool :=
  history.all fun event => event.subject = runId && readiesFinally event

/-- A run that is the only one and releases nothing has its turns to itself. -/
theorem takesTurns_of_sole {executor : Executor} {clock : Time} {moves : List (Move system)}
    (runId : UUID)
    (hsole : soleAndFinal runId (reached executor clock moves).world.history = true) :
    TakesTurns (reached executor clock moves).world.history := by
  have hevents := List.all_eq_true.mp hsole
  simp only [Bool.and_eq_true, decide_eq_true_eq] at hevents
  apply Throughout.of_split
  intro newer event older hhistory
  rw [hhistory] at hevents
  constructor
  · intro drive issuer call answer key state hcalled hleaves _ other hother hwrote
    subst hcalled
    obtain ⟨rival, _, _, _, _, rfl, hold, -⟩ := hwrote
    obtain ⟨hdrive, -⟩ := hevents _ (List.mem_append_right newer List.mem_cons_self)
    obtain ⟨hrival, -⟩ := hevents _ (List.mem_append_right newer (List.mem_cons_of_mem _ hold))
    exact absurd (Eq.trans hrival hdrive.symm) hother
  · intro drive call answer key hcalled hready
    subst hcalled
    obtain ⟨-, hfinally⟩ := hevents _ (List.mem_append_right newer List.mem_cons_self)
    cases finalizeWrite_of_readiesFinally hfinally hready

-- the statement below is not to be unfolded over the history it names
attribute [irreducible] TakesTurns ReadyMeansIdle

/-- Two requests to update a record. The second one's run waits for its approval while the
first one's is driven to its end. -/
def contending : List (Move system) :=
  .outside (.trigger rivalId (some resourceWorkflow) updateSample) ::
  .start rivalId :: List.replicate 20 (.advance 0 { answer := approvalOutstanding }) ++
  .outside (.trigger sampleId (some resourceWorkflow) updateSample) ::
  .start sampleId :: List.replicate 40 (.advance 1 { answer := willing }) ++
  .start sampleId :: List.replicate 40 (.advance 2 { answer := willing })

def finalizesFor (runId : UUID) : Event → Bool
  | .called drive (.step _) (.updateResource _ _ _ fields) _ true =>
      drive.subject = runId && (fields.state = .ready || fields.state = .deleted)
  | .called drive (.step _) (.deleteResource ..) _ true => drive.subject = runId
  | _ => false

/-- The run as it is stored is at work on the record. -/
def storedAtWork (runId : UUID) (key : RecordKey) (world : World) : Bool :=
  (Store.get world.rows runId).any fun row =>
    !row.status.terminal && row.runState.resourceConfigured &&
      row.runState.resource.map ResourceSpec.key = some key &&
      !world.history.any (finalizesFor row.runId)

theorem exists_atWork {runId : UUID} {key : RecordKey} {world : World}
    (hwork : storedAtWork runId key world = true) :
    ∃ row, Store.get world.rows runId = some row ∧ row.AtWork key world.history := by
  obtain ⟨row, hrow, hwork⟩ := (Option.any_eq_true _ _).mp hwork
  simp only [Bool.and_eq_true, Bool.not_eq_true', decide_eq_true_eq] at hwork
  obtain ⟨⟨⟨hunended, hconfigured⟩, hrecord⟩, hnone⟩ := hwork
  refine ⟨row, hrow, hunended, hconfigured, hrecord, ?_⟩
  intro hfinalized
  obtain ⟨drive, issuer, call, answer, hid, hcalled, hwrite⟩ := hfinalized
  have hfinalizes := List.any_eq_false.mp hnone _ hcalled
  cases hwrite with
  | write step projectId resourceType vendorId hstate =>
      rcases hstate with hstate | hstate <;> simp [finalizesFor, hid, hstate] at hfinalizes
  | delete step projectId resourceType vendorId => simp [finalizesFor, hid] at hfinalizes

end Examples

end CloudioOrchestrator

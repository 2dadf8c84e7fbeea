import CloudioOrchestrator.Vigil
import CloudioOrchestrator.Upkeep

/-! # Finality of the finalize write

The release goes by the run's own marker, which follows a finalize write only
once the step that made the write has completed, and outlives the drive only
once it was saved. Where the marker keeps up with the provider, nothing that was
finalized is released.
-/

namespace CloudioOrchestrator

open Interaction

section Events

/-- FINALIZE_RESOURCE wrote to the record of the run, and the write took effect. -/
def finalizeWrite (runId : UUID) : Event → Bool
  | .called drive (.step .finalizeResource) (.updateResource ..) _ true => drive.subject = runId
  | _ => false

/-- A finalize write of the run was accepted. -/
def Finalized (runId : UUID) (history : History) : Prop :=
  history.any (finalizeWrite runId) = true

instance (runId : UUID) (history : History) : Decidable (Finalized runId history) :=
  inferInstanceAs (Decidable (_ = true))

/-- The calls that write to a resource record. -/
def Call.writesRecord : Call → Bool
  | .createResource .. | .updateResource .. | .deleteResource .. => true
  | _ => false

/-- The escalator writes to a record on behalf of the run. -/
def escalatorWrite (runId : UUID) : Event → Bool
  | .called _ (.step _) _ _ _ => false
  | .called drive _ call _ _ => call.writesRecord && drive.subject = runId
  | _ => false

/-- The run's marker falls behind a finalize write: the step raises, or a drive
takes the run up without the marker. -/
def marksLate (runId : UUID) : Event → Bool
  | .logged drive (.stepRaised .finalizeResource _ _) => drive.subject = runId
  | .loaded drive row =>
      drive.subject = runId && !row.status.terminal && !row.runState.resourceFinalized
  | _ => false

/-- The run's marker never fell behind a finalize write that was accepted. -/
def Prompt (runId : UUID) (history : History) : Prop :=
  Throughout (fun event older => Finalized runId older → marksLate runId event = false) history

instance (runId : UUID) (history : History) : Decidable (Prompt runId history) :=
  inferInstanceAs (Decidable (Throughout _ _))

/-- The escalator wrote to no record of the run that had been finalized. -/
def Respected (runId : UUID) (history : History) : Prop :=
  Throughout (fun event older => Finalized runId older → escalatorWrite runId event = false) history

instance (runId : UUID) (history : History) : Decidable (Respected runId history) :=
  inferInstanceAs (Decidable (Throughout _ _))

variable {runId : UUID} {event : Event} {older : History}

theorem finalizeWrite_subject (hevent : finalizeWrite runId event = true) :
    event.subject = runId := by
  unfold finalizeWrite at hevent
  split at hevent
  · exact of_decide_eq_true hevent
  · cases hevent

theorem escalatorWrite_subject (hevent : escalatorWrite runId event = true) :
    event.subject = runId := by
  unfold escalatorWrite at hevent
  split at hevent
  · cases hevent
  · rw [Bool.and_eq_true] at hevent
    exact of_decide_eq_true hevent.2
  · cases hevent

theorem finalized_cons (hevent : finalizeWrite runId event = false) :
    Finalized runId (event :: older) ↔ Finalized runId older := by
  simp [Finalized, hevent]

/-- Only an update by FINALIZE_RESOURCE is a finalize write. -/
theorem not_finalizeWrite {drive : DriveId} {issuer : Issuer} {call : Call} {answer : call.Answer}
    {applied : Bool} (hissuer : issuer ≠ .step .finalizeResource) :
    finalizeWrite runId (.called drive issuer call answer applied) = false := by
  unfold finalizeWrite
  split
  next heq =>
    cases heq
    exact absurd rfl hissuer
  next => rfl

/-- Of the escalator's calls only the release writes to a record. -/
theorem AsideCall.not_escalatorWrite {state : RunState} {drive : DriveId} {issuer : Issuer}
    {call : Call} {answer : call.Answer} {applied : Bool} (hcall : AsideCall state issuer call)
    (hissuer : issuer ≠ .release) :
    escalatorWrite runId (.called drive issuer call answer applied) = false := by
  cases hcall with
  | incident request => rfl
  | aftermath hcall =>
      cases hcall with
      | release hcall => exact absurd rfl hissuer
      | _ => rfl

end Events

/-- The run's marker says so if a finalize write was accepted. -/
def Marked (run : WorkflowRun) (history : History) : Prop :=
  Prompt run.runId history → Finalized run.runId history → run.runState.resourceFinalized = true

section Facts

variable {run : WorkflowRun} {event : Event} {older : History}

theorem Marked.cons (hrun : Marked run older) (hevent : finalizeWrite run.runId event = false) :
    Marked run (event :: older) := by
  intro hprompt hfinalized
  exact hrun hprompt.2 ((finalized_cons hevent).mp hfinalized)

theorem Marked.congr {changed : WorkflowRun} {history : History} (hrun : Marked run history)
    (hid : changed.runId = run.runId)
    (hmarker : changed.runState.resourceFinalized = run.runState.resourceFinalized) :
    Marked changed history := by
  unfold Marked
  rw [hid, hmarker]
  exact hrun

/-- The record of a run that was taken up with its marker behind is not vouched for. -/
theorem Marked.loaded {drive : DriveId} (hid : run.runId = drive.subject)
    (hopen : run.status.terminal = false) : Marked run (.loaded drive run :: older) := by
  intro hprompt hfinalized
  have hlate := hprompt.1 ((finalized_cons rfl).mp hfinalized)
  simpa [marksLate, hid, hopen] using hlate

theorem Respected.cons {runId : UUID} (hrow : Respected runId older)
    (hevent : escalatorWrite runId event = false) : Respected runId (event :: older) :=
  ⟨fun _ => hevent, hrow⟩

/-- Where nothing is on record of a run, nothing was written for it. -/
theorem respected_of_silent {runId : UUID} (hsilent : ∀ event ∈ older, event.subject ≠ runId) :
    Respected runId older := by
  induction older with
  | nil => trivial
  | cons event older ih =>
      refine (ih fun other hother => hsilent other (List.mem_cons_of_mem _ hother)).cons ?_
      by_contra hwrite
      apply hsilent event List.mem_cons_self
      apply escalatorWrite_subject
      simpa using hwrite

/-- No handler but the finalizing one touches the marker, and that one sets it
where it completes. -/
theorem HandlerEnd.marker {engines : List WorkflowEngineType} {state final : RunState}
    {step : StepName} {trace : Trace Providers} {outcome : Except PyException Bool}
    (hend : HandlerEnd engines run state step trace outcome final) :
    final.resourceFinalized = state.resourceFinalized ∧
        (step = .finalizeResource → trace = [] ∨ ∃ error, outcome = .error error ∧
          ∀ message, error ≠ .runRejected message) ∨
      final.resourceFinalized = true := by
  cases hend with
  | succeededWith output _ _ =>
      left
      unfold captured
      split <;> exact ⟨rfl, by simp⟩
  | engineFailed failure _ =>
      left
      cases failure <;> exact ⟨rfl, by simp⟩
  | written _ _ _ => exact .inr rfl
  | deleted _ _ _ _ _ => exact .inr rfl
  | writeRaised error _ _ _ =>
      exact .inl ⟨rfl, fun _ => .inr ⟨_, rfl, by cases error <;> simp [ProviderError.toException]⟩⟩
  | deletionRefused error _ _ _ _ =>
      exact .inl ⟨rfl, fun _ => .inr ⟨_, rfl, by cases error <;> simp [ProviderError.toException]⟩⟩
  | deleteRaised _ error _ _ _ _ =>
      exact .inl ⟨rfl, fun _ => .inr ⟨_, rfl, by cases error <;> simp [ProviderError.toException]⟩⟩
  | nothingToFinalize _ => exact .inl ⟨rfl, fun _ => .inl rfl⟩
  | alreadyFinalized _ => exact .inl ⟨rfl, fun _ => .inl rfl⟩
  | _ => exact .inl ⟨rfl, by simp⟩

end Facts

/-- The vigil over the records of runs that were finalized. -/
def finalities : Vigil where
  matters runId event := finalizeWrite runId event || escalatorWrite runId event
  subject hevent := by
    rcases Bool.or_eq_true _ _ |>.mp hevent with hevent | hevent
    · exact finalizeWrite_subject hevent
    · exact escalatorWrite_subject hevent
  row run history := Prompt run.runId history → Respected run.runId history
  born _ hnew _ := (respected_of_silent hnew).cons rfl
  rescheduled _ hrow := hrow
  lasting _ hevent _ hrow hprompt := by
    rw [Bool.or_eq_false_iff] at hevent
    exact (hrow hprompt.2).cons hevent.2

theorem finalities_matters {runId : UUID} {event : Event} :
    finalities.matters runId event = false ↔
      finalizeWrite runId event = false ∧ escalatorWrite runId event = false := by
  simp [finalities]

open Vigil

def marked : finalities.Watch where
  holds run _ history := Marked run history
  lasting _ hevent hrun := hrun.cons (finalities_matters.mp hevent).1
  rescheduled _ hrun := hrun

/-- Within a step, of which some calls have been made already. -/
def withinStep (step : StepName) (trace : Trace Providers) : finalities.Watch where
  holds run _ history := (step = .finalizeResource → trace = []) → Marked run history
  lasting _ hevent hrun hstep := (hrun hstep).cons (finalities_matters.mp hevent).1
  rescheduled _ hrun := hrun

/-- A step was tried: marked, unless the finalizing step raised. -/
def triedStep (step : StepName) (outcome : Except PyException Bool) : finalities.Watch where
  holds run _ history := Marked run history ∨
    step = .finalizeResource ∧
      ∃ error, outcome = .error error ∧ ∀ message, error ≠ .runRejected message
  lasting _ hevent hrun :=
    hrun.imp_left fun hmarked => hmarked.cons (finalities_matters.mp hevent).1
  rescheduled _ hrun := hrun

abbrev unmarked : finalities.Watch := .only fun _ => True

section Outline

variable {drive : DriveId} {executor : Executor} {watch : finalities.Watch}
  {run changed : WorkflowRun} {world : World}

theorem marked_imp (hrun : watching drive marked run world) (hsame : run.Continues changed)
    (hmarker : changed.runState.resourceFinalized = run.runState.resourceFinalized) :
    watching drive marked changed world :=
  watching_imp hrun hsame fun hmarked => hmarked.congr hsame.1.runId.symm hmarker

theorem marked_log {record : LogRecord} (hrun : watching drive marked run world)
    (hinv : finalities.journal.Inv world) (hsame : run.Continues changed)
    (hmarker : changed.runState.resourceFinalized = run.runState.resourceFinalized) :
    Serves finalities.journal.discipline drive (.log record) world fun _ final =>
      watching drive marked changed final :=
  watching_log hrun hinv hsame rfl fun hmarked => hmarked.congr hsame.1.runId.symm hmarker

/-- A call aside of the steps and of the release writes to no record. -/
theorem aside_watched {issuer : Issuer} {call : Call} (hrun : watching drive watch run world)
    (hinv : finalities.journal.Inv world) (hcall : AsideCall run.runState issuer call)
    (hissuer : issuer ≠ .release) (hstep : ∀ step, issuer ≠ .step step) :
    Serves finalities.journal.discipline drive (.provider issuer call) world fun _ final =>
      watching drive watch run final := by
  apply watching_call hrun hinv
  intro answer applied
  exact finalities_matters.mpr ⟨not_finalizeWrite (hstep _), hcall.not_escalatorWrite hissuer⟩

/-- The release writes to the record of a run whose marker is not set; where the
marker keeps up, no finalize write of it was accepted. -/
theorem release_watched {call : Call} (hrun : watching drive marked run world)
    (hinv : finalities.journal.Inv world) (hcall : ReleaseCall run.runState call) :
    Serves finalities.journal.discipline drive (.provider .release call) world fun _ final =>
      watching drive marked run final := by
  have hnew : run.runState.resourceFinalized = false := by
    cases hcall with
    | delete hflight _ => exact (resourceInFlight_eq_some hflight).2.2
    | ready hflight _ => exact (resourceInFlight_eq_some hflight).2.2
  refine serves_call fun answer applied _ => ?_
  have hfinalize : ∀ runId,
      finalizeWrite runId (.called drive .release call answer applied) = false :=
    fun _ => not_finalizeWrite (by simp)
  refine Journal.noting_record hrun hinv (.called drive .release call answer applied) rfl
    (fun row hid hmarked hrow => ?_) fun row hmarked => Marked.cons hmarked (hfinalize _)
  intro hprompt
  refine ⟨fun hfinalized => ?_, hrow hprompt.2⟩
  rw [hid] at hfinalized hprompt
  have hmarker := hmarked hprompt.2 hfinalized
  rw [hnew] at hmarker
  cases hmarker

/-- The finalizing step's error puts the run among those whose marker is late. -/
theorem triedStep_log {step : StepName} {attempt : Int} {error : PyException}
    (hrun : watching drive (triedStep step (.error error)) run world)
    (hinv : finalities.journal.Inv world) :
    Serves finalities.journal.discipline drive (.log (.stepRaised step attempt error)) world
      fun _ final => watching drive marked run final := by
  refine serves_log
    (Journal.noting_record hrun hinv (.logged drive (.stepRaised step attempt error))
    rfl (fun row hid _ hrow hprompt => ⟨fun _ => rfl, hrow hprompt.2⟩) fun row htried => ?_)
  rcases htried with hmarked | ⟨rfl, -⟩
  · exact Marked.cons hmarked rfl
  · intro hprompt hfinalized
    have hlate := hprompt.1 ((finalized_cons rfl).mp hfinalized)
    simp [marksLate, hrun.1] at hlate

theorem marked_save (hrun : watching drive marked run world) (hinv : finalities.journal.Inv world)
    {post : (Op.runsSave run).Answer → World → Prop}
    (hpost : ∀ answer final, watching drive marked run final → post answer final) :
    Serves finalities.journal.discipline drive (.runsSave run) world post := by
  refine watching_save hrun hinv (fun row older hid hmarked hrow => ⟨?_, ?_⟩)
    (fun answer => hpost answer world hrun) hpost
  · intro hprompt
    change Prompt run.runId _ at hprompt
    rw [← hid] at hprompt
    have hrespected := hrow hprompt.2
    rw [hid] at hrespected
    exact ⟨fun _ => rfl, hrespected⟩
  · exact Marked.cons hmarked rfl

/-- The handler of a step: its writes, and the marker where it ends. -/
theorem marked_execute {engines : List WorkflowEngineType} {step : StepName} {handler : StepHandler}
    (hhandler : buildHandlers engines step = some handler)
    (hrun : watching drive marked run world) :
    (finalities.journal.discipline.through (S := Providers) (Op.provider (.step step))
        fun _ answer => answer).wp drive (handler.execute run)
      (fun outcome state final =>
        watching drive (triedStep step outcome) { run with runState := state } final)
      run.runState world := by
  refine Discipline.wp_mono (wp_handler
    (fun trace final => watching drive (withinStep step trace) run final) hhandler ?_ ?_
    (watching_imp hrun (.refl _) fun hmarked _ => hmarked)) ?_
  · intro trace world current hrun hrely hinv
    exact (watching drive (withinStep step trace)).stable hrun hrely hinv
  · intro trace call world hrun _ hinv
    refine serves_call fun answer applied _ => ?_
    refine Journal.noting_record hrun hinv (.called drive (.step step) call answer applied) rfl
      (fun row _ _ hrow hprompt => ⟨fun _ => rfl, hrow hprompt.2⟩) fun row hwithin hstep => ?_
    have hother : step ≠ .finalizeResource := fun heq => by simpa using hstep heq
    refine Marked.cons (hwithin fun heq => absurd heq hother) (not_finalizeWrite ?_)
    simpa using hother
  · rintro outcome state final ⟨trace, hrun, hend⟩
    refine watching_imp hrun ⟨.refl, hend.sameRequest⟩ fun {row history} hwithin => ?_
    rcases hend.marker with ⟨hmarker, hstep⟩ | hset
    · by_cases hquiet : step = .finalizeResource → trace = []
      · exact .inl ((hwithin hquiet).congr rfl hmarker)
      · have hfinalize : step = .finalizeResource := by
          by_contra hother
          exact hquiet fun heq => absurd heq hother
        exact .inr ⟨hfinalize, (hstep hfinalize).resolve_left fun htrace => hquiet fun _ => htrace⟩
    · exact .inl fun _ _ => hset

/-- The marker of a run in memory keeps up, as long as the finalizing step does not raise. -/
def finalityOutline (engines : List WorkflowEngineType) (drive : DriveId)
    (hwired : executor.handlers = buildHandlers engines) :
    Outline finalities.journal.discipline drive executor where
  fresh := watching drive marked
  turning _ := watching drive marked
  tried step _ outcome := watching drive (triedStep step outcome)
  raised _ _ := watching drive marked
  passed _ := watching drive marked
  denied := watching drive marked
  dismissed := watching drive marked
  failing _ := watching drive marked
  escalating _ := watching drive marked
  failed := watching drive marked
  released := watching drive marked
  pending := watching drive marked
  quiet := watching drive marked
  troubled _ := watching drive marked
  ended := watching drive unmarked
  wrecked _ := watching drive unmarked
  guar_refl world _ := ⟨.refl, fun _ _ => rfl⟩
  utcnow := serve_utcnow drive
  uniform := serve_uniform drive
  start hrun _ := marked_imp hrun (.refl _) rfl
  badStart hrun _ := hrun
  unhandled hrun _ := hrun
  restamp _ _ hrun := marked_imp hrun (.refl _) rfl
  naive hrun := hrun
  deadline hrun := watching_imp hrun (.refl _) .inl
  execute hhandler hrun _ := by
    rw [hwired] at hhandler
    exact marked_execute hhandler hrun
  reject hrun := watching_imp hrun (.refl _) fun htried => by
    -- only FINALIZE_RESOURCE may fail with its marker behind, and that never by a denial
    rcases htried with hmarked | ⟨-, error, heq, hnot⟩
    · exact hmarked.congr rfl rfl
    · cases heq
      exact absurd rfl (hnot _)
  release hrun hinv hcall := release_watched hrun hinv hcall
  unheld hrun _ := hrun
  dismissed_pending hrun := hrun
  logRaised hrun _ hinv := triedStep_log hrun hinv
  retry due hhandler hrun _ := by
    rw [hwired] at hhandler
    obtain ⟨-, -, -, -, -, -, -, -, hmarker⟩ := retryState_sameProgress hhandler _
    exact marked_imp hrun ⟨.refl, retryState_sameRequest hhandler⟩ hmarker.symm
  retryOverflow hhandler hrun _ := by
    rw [hwired] at hhandler
    obtain ⟨-, -, -, -, -, -, -, -, hmarker⟩ := retryState_sameProgress hhandler _
    exact marked_imp hrun ⟨.refl, retryState_sameRequest hhandler⟩ hmarker.symm
  giveUp hrun _ := marked_imp hrun (.refl _) rfl
  poll _ hrun := watching_imp hrun (.refl _) fun htried => by
    rcases htried with hmarked | ⟨-, error, heq, -⟩
    · exact hmarked.congr rfl rfl
    · cases heq
  pollOverflow hrun := watching_imp hrun (.refl _) fun htried => by
    rcases htried with hmarked | ⟨-, error, heq, -⟩
    · exact hmarked
    · cases heq
  logCompleted hrun hinv := by
    refine watching_log hrun hinv (.refl _) rfl fun htried => ?_
    rcases htried with hmarked | ⟨-, error, heq, -⟩
    · exact hmarked.congr rfl rfl
    · cases heq
  offPlan hrun _ := hrun
  next hrun _ _ := marked_imp hrun (.refl _) rfl
  finish hrun _ _ := marked_imp hrun (.refl _) rfl
  logEscalating hrun hinv := marked_log hrun hinv (.refl _) rfl
  openIncident request hrun hinv :=
    (aside_watched hrun hinv (.incident request) (by simp) (by simp)).opened
      fun _ _ hfinal => marked_imp hfinal (.refl _) rfl
  escalating_failed hrun := hrun
  aftermath {run world issuer call} hrun hinv hcall := by
    cases hcall with
    | release hcall => exact release_watched hrun hinv hcall
    | documentation request =>
        exact aside_watched hrun hinv (.aftermath (.documentation request)) (by simp) (by simp)
    | documented incident =>
        exact aside_watched hrun hinv (.aftermath (.documented incident)) (by simp) (by simp)
    | close note hticket =>
        exact aside_watched hrun hinv (.aftermath (.close note hticket)) (by simp) (by simp)
    | annotate note hticket =>
        exact aside_watched hrun hinv (.aftermath (.annotate note hticket)) (by simp) (by simp)
  ticketClosed hrun := marked_imp hrun (.refl _) rfl
  releaseFailed hrun hinv hcall := release_watched hrun hinv hcall
  unheldFailed hrun _ := hrun
  released_pending hrun := hrun
  released_quiet hrun := hrun
  save hrun hinv := by
    refine marked_save hrun hinv fun answer final hsaved => ?_
    split
    · exact watching_imp hsaved (.refl _) fun _ => trivial
    · exact watching_imp hsaved (.refl _) fun _ => trivial
    · exact hsaved
  saveQuietly hrun hinv := by
    refine marked_save hrun hinv fun answer final hsaved => ?_
    split <;> exact watching_imp hsaved (.refl _) fun _ => trivial
  unpersisted hrun _ hinv := marked_log hrun hinv (.refl _) rfl
  unnamed hrun _ _ _ := watching_imp hrun (.refl _) fun _ => trivial
  crashed {error} run step world hrun _ _ hinv := by
    refine marked_log hrun hinv ⟨.refl, ?_⟩ ?_
    · cases step <;> exact .refl _
    · cases step <;> rfl

end Outline

section Deletions

/-- A step writes a record of the run back to ready. -/
def stepReadies (runId : UUID) : Event → Bool
  | .called drive (.step _) (.updateResource _ _ _ fields) _ _ =>
      drive.subject = runId && fields.state = .ready
  | _ => false

theorem HandlerCall.readies {run : WorkflowRun} {state : RunState} {step : StepName}
    {drive : DriveId} {call : Call} {answer : call.Answer} {applied : Bool}
    (hcall : HandlerCall run state step call)
    (hready : stepReadies drive.subject (.called drive (.step step) call answer applied) = true) :
    state.operation ≠ .delete := by
  cases hcall with
  | markResource _ _ _ =>
      cases hoperation : state.operation <;>
        simp [patchCall, stepReadies, hoperation, operationStates, resourceStateFields] at hready
  | finalize _ _ hkept => exact hkept
  | markDeleted _ _ _ => simp [patchCall, stepReadies, resourceStateFields] at hready
  | _ => cases hready

/-- No step of a run that deletes writes a record back to ready. -/
def readying (engines : List WorkflowEngineType) : Upkeep engines where
  fact := .only fun _ => True
  event event older := ∀ runId, stepReadies runId event = true →
    ∃ origin, .created origin ∈ older ∧ origin.runId = runId ∧ origin.runState.operation ≠ .delete
  steady _ _ _ := trivial
  born _ := trivial
  created _ _ := by simp [stepReadies]
  loaded _ _ _ := by simp [stepReadies]
  saved _ _ _ := by simp [stepReadies]
  logged _ _ _ := by simp [stepReadies]
  aside answer applied _ _ _ hcall := by
    intro runId hready
    cases hcall with
    | incident request => cases hready
    | aftermath hcall => cases hcall <;> cases hready
  called {drive step run call older} answer applied hid horigin _ hcall := by
    intro runId hready
    obtain ⟨origin, hcreated, -, horigin, -, -, -, hoperation, -⟩ := horigin
    have hrunId : drive.subject = runId := by
      unfold stepReadies at hready
      split at hready
      next heq =>
        cases heq
        rw [Bool.and_eq_true] at hready
        exact of_decide_eq_true hready.1
      next => cases hready
    subst hrunId
    refine ⟨origin, hcreated, horigin.1.trans hid, ?_⟩
    rw [hoperation]
    exact hcall.readies hready
  ended _ _ _ _ := trivial

end Deletions

section Runs

variable {engines : List WorkflowEngineType} {executor : Executor} {runId : UUID}

theorem succeeded_respected (hwired : executor.handlers = buildHandlers engines) (clock : Time)
    (moves : List (Move system))
    (hprompt : Prompt runId (succeeded executor clock moves).world.history) :
    Respected runId (succeeded executor clock moves).world.history := by
  have hinv : finalities.journal.Inv (succeeded executor clock moves).world := by
    refine Journal.succeeded_inv (fun drive world => ?_) clock moves
    exact watching_load (finalityOutline engines drive hwired) rfl (fun _ _ => rfl)
      (fun hid hopen _ => Marked.loaded hid hopen) world
  cases hrow : Store.get (succeeded executor clock moves).world.rows runId with
  | some row =>
      have hfact := hinv.rows runId row hrow
      rw [← Store.runId_of_get hrow] at hprompt ⊢
      exact hfact hprompt
  | none => exact respected_of_silent (hinv.silent runId hrow)

/-- Wherever drives that succeed one another reach, where the run's marker never
fell behind a finalize write that was accepted: the escalator wrote to no record
of the run after one was, and neither did a step of a run that deletes write the
record back to ready. -/
theorem finalize_stands_where_prompt (engines : List WorkflowEngineType) (retryBase : Time)
    (defaultTeam : String) (clock : Time) (moves : List (Move system)) (runId : UUID)
    (hprompt : Prompt runId
      (succeeded (.wired engines retryBase defaultTeam) clock moves).world.history) :
    let world := (succeeded (.wired engines retryBase defaultTeam) clock moves).world
    ∀ newer event older, world.history = newer ++ event :: older → Finalized runId older →
      escalatorWrite runId event = false ∧
      ∀ origin, .created origin ∈ world.history → origin.runId = runId →
        origin.runState.operation = .delete → stepReadies runId event = false := by
  intro world newer event older hhistory hfinalized
  have hrespected := succeeded_respected rfl clock moves hprompt
  change Respected runId world.history at hrespected
  rw [hhistory] at hrespected
  refine ⟨hrespected.event hfinalized, fun origin hcreated hid hdelete => ?_⟩
  have hreadying : (readying engines).account.Inv world := by
    obtain ⟨others, hothers⟩ :=
      succeeded_eq_reached (.wired engines retryBase defaultTeam) clock moves
    change (readying engines).account.Inv (succeeded _ clock moves).world
    rw [hothers]
    exact Upkeep.reached_inv _ rfl clock others
  have hkept := hreadying.kept
  rw [hhistory] at hkept
  by_contra hready
  obtain ⟨found, hfound, hfoundId, hkeeps⟩ := hkept.event runId (by simpa using hready)
  have hmem : .created found ∈ world.history := by
    rw [hhistory]
    exact List.mem_append_right _ (List.mem_cons_of_mem _ hfound)
  obtain rfl := hreadying.unique found origin hmem hcreated (hfoundId.trans hid.symm)
  exact hkeeps hdelete

end Runs

section Examples

/-- The resource manager refuses to delete records. -/
def deletionRefused (call : Call) : call.Answer :=
  match call with
  | .deleteResource .. => .error (.other "HTTPStatusError" "502 Bad Gateway")
  | call => willing call

/-- A request to delete a record, and two drives of its run: one until the engine
is triggered, and one that finds the engine run to have succeeded. -/
def deleting (answer : (call : Call) → call.Answer) : List (Move system) :=
  .outside (.trigger sampleId (some resourceWorkflow) deletionSample) ::
  .start sampleId :: List.replicate 40 (.advance 0 { answer := answer }) ++
  .start sampleId :: List.replicate 40 (.advance 1 { answer := answer })

-- the statements below are not to be unfolded over the histories they name
attribute [irreducible] Prompt Respected Finalized

/-- The deletion goes well. -/
theorem finalize_stands_where_prompt_deleting :
    let world := (succeeded (.wired [.airflow] (seconds 10) "cloud") 0 (deleting willing)).world
    ∀ newer event older, world.history = newer ++ event :: older → Finalized sampleId older →
      escalatorWrite sampleId event = false ∧
      ∀ origin, .created origin ∈ world.history → origin.runId = sampleId →
        origin.runState.operation = .delete → stepReadies sampleId event = false :=
  finalize_stands_where_prompt [.airflow] (seconds 10) "cloud" 0 (deleting willing) sampleId
    (by decide +kernel)

/-- The record is marked deleted and the deletion refused: the escalation marks
the record ready again. -/
theorem deleted_marked_ready :
    Finalized sampleId (succeeded sampleExecutor 0 (deleting deletionRefused)).world.history ∧
      ¬ Respected sampleId
          (succeeded sampleExecutor 0 (deleting deletionRefused)).world.history := by
  constructor <;> decide +kernel

end Examples

end CloudioOrchestrator

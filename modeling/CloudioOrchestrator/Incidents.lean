import CloudioOrchestrator.Vigil

/-! # Incidents

A drive opens the incident of a run before it saves the run as failed, and only
that save keeps a later drive from opening another. Drives that succeed one
another therefore open at most one, as long as none of them starts between the
two.
-/

namespace CloudioOrchestrator

open Interaction

/-- An incident is opened for the team responsible for the run. -/
def opensIncident (runId : UUID) : Event → Bool
  | .called drive .escalation (.openIncident _) _ true => drive.subject = runId
  | _ => false

def incidents (runId : UUID) (history : History) : Nat :=
  history.countP (opensIncident runId)

/-- The drive opened an incident, and no save of its was committed since. -/
def Outstanding (drive : DriveId) (history : History) : Prop :=
  ∃ newer event older, history = newer ++ event :: older ∧ event.actor = some drive ∧
    opensIncident drive.subject event ∧ ∀ row, .saved drive row ∉ newer

/-- No drive takes up the run, unless it is over, where an incident is outstanding. -/
def Orderly (runId : UUID) (history : History) : Prop :=
  Throughout (fun event older => ∀ drive row, event = .loaded drive row → drive.subject = runId →
    row.status.terminal = false → ∀ earlier : DriveId, earlier.subject = runId →
    ¬ Outstanding earlier older) history

section History

variable {runId : UUID} {event : Event} {older : History}

theorem incidents_cons_of_not (hevent : opensIncident runId event = false) :
    incidents runId (event :: older) = incidents runId older := by
  simp [incidents, hevent]

theorem incidents_cons_le (runId : UUID) (event : Event) (older : History) :
    incidents runId (event :: older) ≤ incidents runId older + 1 := by
  unfold incidents
  rw [List.countP_cons]
  split <;> omega

theorem opensIncident_subject (hevent : opensIncident runId event) : event.subject = runId := by
  unfold opensIncident at hevent
  split at hevent
  next drive _ _ => 
    change drive.subject = runId
    simpa using hevent
  next => cases hevent

/-- Of what drives do, only the escalation's own call opens an incident. -/
theorem not_opensIncident_called {drive : DriveId} {issuer : Issuer} {call : Call}
    {answer : call.Answer} {applied : Bool} (hissuer : issuer ≠ .escalation ∨
      ∀ request, call ≠ .openIncident request) :
    opensIncident runId (.called drive issuer call answer applied) = false := by
  unfold opensIncident
  split
  next heq =>
    cases heq
    simp at hissuer
  next => rfl

theorem Outstanding.cons {drive : DriveId} (hopen : Outstanding drive older)
    (hsaved : ∀ row, event ≠ .saved drive row) : Outstanding drive (event :: older) := by
  obtain ⟨newer, opened, rest, rfl, hactor, hopens, hunsaved⟩ := hopen
  refine ⟨event :: newer, opened, rest, rfl, hactor, hopens, fun row hrow => ?_⟩
  rcases List.mem_cons.mp hrow with heq | hold
  · exact hsaved row heq.symm
  · exact hunsaved row hold

end History

/-- Nothing was escalated for the run. -/
def Unescalated (run : WorkflowRun) (history : History) : Prop :=
  Orderly run.runId history → incidents run.runId history = 0

/-- At most one incident, which ended the run or is still outstanding. -/
def EscalatedOnce (run : WorkflowRun) (history : History) : Prop :=
  Orderly run.runId history → incidents run.runId history ≤ 1 ∧
    (incidents run.runId history ≠ 0 → run.status.terminal = true ∨
      ∃ drive : DriveId, drive.subject = run.runId ∧ Outstanding drive history)

section Facts

variable {run : WorkflowRun} {older : History}

theorem Unescalated.of_runId {row : WorkflowRun} (hcalm : Unescalated run older)
    (hid : row.runId = run.runId) : Unescalated row older := by
  unfold Unescalated
  rw [hid]
  exact hcalm

theorem Unescalated.escalated (hcalm : Unescalated run older) : EscalatedOnce run older := by
  intro horderly
  have hzero := hcalm horderly
  exact ⟨by omega, fun hsome => absurd hzero hsome⟩

theorem Unescalated.cons {event : Event} (hcalm : Unescalated run older)
    (hevent : opensIncident run.runId event = false) : Unescalated run (event :: older) := by
  intro horderly
  rw [incidents_cons_of_not hevent]
  exact hcalm horderly.2

/-- Whatever happens that opens no incident, and is no save of the run. -/
theorem EscalatedOnce.cons {event : Event} (hrun : EscalatedOnce run older)
    (hevent : opensIncident run.runId event = false)
    (hsaved : ∀ drive row, event = .saved drive row → drive.subject ≠ run.runId) :
    EscalatedOnce run (event :: older) := by
  intro horderly
  obtain ⟨hone, hended⟩ := hrun horderly.2
  rw [incidents_cons_of_not hevent]
  refine ⟨hone, fun hsome => ?_⟩
  rcases hended hsome with hterminal | ⟨drive, hdrive, hopen⟩
  · exact .inl hterminal
  · exact .inr ⟨drive, hdrive, hopen.cons fun row heq => hsaved drive row heq hdrive⟩

/-- Who takes up the run, if it is not over, finds nothing escalated. -/
theorem EscalatedOnce.calm {drive : DriveId} (hrun : EscalatedOnce run older)
    (hid : run.runId = drive.subject) (hopen : run.status.terminal = false) :
    Unescalated run (.loaded drive run :: older) := by
  intro horderly
  rw [incidents_cons_of_not rfl]
  obtain ⟨-, hended⟩ := hrun horderly.2
  by_contra hsome
  rcases hended hsome with hterminal | ⟨earlier, hearlier, houtstanding⟩
  · rw [hopen] at hterminal
    cases hterminal
  · exact horderly.1 drive run rfl hid.symm hopen earlier hearlier houtstanding

/-- The incident of a run of which nothing was escalated before is outstanding. -/
theorem Unescalated.opened {drive : DriveId} {event : Event} (hcalm : Unescalated run older)
    (hdrive : drive.subject = run.runId) (hactor : event.actor = some drive)
    (hevent : opensIncident run.runId event) : EscalatedOnce run (event :: older) := by
  intro horderly
  have hzero := hcalm horderly.2
  have hle := incidents_cons_le run.runId event older
  refine ⟨by omega, fun _ => .inr ⟨drive, hdrive, [], event, older, rfl, hactor, ?_, by simp⟩⟩
  rwa [hdrive]

/-- A save either ends the run or finds nothing escalated. -/
theorem EscalatedOnce.saved {drive : DriveId} {saved : WorkflowRun} (hrun : EscalatedOnce run older)
    (hid : saved.runId = run.runId) (hsaved : Unescalated run older ∨ saved.status = .failed) :
    EscalatedOnce saved (.saved drive saved :: older) := by
  intro horderly
  rw [incidents_cons_of_not rfl, hid] at *
  refine ⟨(hrun horderly.2).1, fun hsome => ?_⟩
  rcases hsaved with hcalm | hfailed
  · exact absurd (hcalm horderly.2) hsome
  · left
    rw [hfailed]
    rfl

end Facts

/-- The vigil over the incidents of runs. -/
def escalations : Vigil where
  matters := opensIncident
  subject := opensIncident_subject
  row := EscalatedOnce
  born {run older} _ hnew := by
    intro _
    have hnone : incidents run.runId (.created run :: older) = 0 := by
      rw [incidents_cons_of_not rfl, incidents, List.countP_eq_zero]
      exact fun event hevent hopens => hnew event hevent (opensIncident_subject hopens)
    exact ⟨by omega, fun hsome => absurd hnone hsome⟩
  rescheduled _ hrow := hrow
  lasting _ hevent hsaved hrow := hrow.cons hevent hsaved

open Vigil

/-- Nothing was escalated for the run. -/
def calm : escalations.Watch where
  holds run _ history := Unescalated run history
  lasting _ hevent hcalm := hcalm.cons hevent
  rescheduled _ hcalm := hcalm

/-- The run is set failed, and nothing was escalated for it yet. -/
def escalable : escalations.Watch where
  holds run _ history := Unescalated run history ∧ run.status = .failed
  lasting _ hevent hrun := ⟨hrun.1.cons hevent, hrun.2⟩
  rescheduled _ hrun := hrun

/-- Nothing was escalated for the run, unless it is set failed. -/
def settled : escalations.Watch where
  holds run _ history := Unescalated run history ∨ run.status = .failed
  lasting _ hevent hrun := hrun.imp_left fun hcalm => hcalm.cons hevent
  rescheduled _ hrun := hrun

abbrev setFailed : escalations.Watch := .only fun run => run.status = .failed

abbrev forgotten : escalations.Watch := .only fun _ => True

section Outline

variable {drive : DriveId} {executor : Executor} {watch : escalations.Watch} {run : WorkflowRun}
  {world : World}

/-- The escalation's own call, made once per escalation. -/
theorem watching_openIncident (request : IncidentRequest)
    (hrun : watching drive escalable run world) (hinv : escalations.journal.Inv world) :
    Serves escalations.journal.discipline drive
      (.provider .escalation (.openIncident request)) world
      fun _ final => watching drive setFailed run final := by
  refine serves_call fun answer applied _ => ?_
  refine Journal.noting_record hrun hinv (.called drive .escalation (.openIncident request) answer
    applied) rfl (fun row hid hwatch hrow => ?_) fun row hwatch => hwatch.2
  cases hevent : opensIncident run.runId
      (.called drive .escalation (.openIncident request) answer applied) with
  | false => exact EscalatedOnce.cons hrow (by rwa [hid]) (by simp)
  | true => exact (hwatch.1.of_runId hid).opened (hrun.1.symm.trans hid.symm) rfl (by rwa [hid])

/-- A run is saved failed, or with nothing escalated for it. -/
theorem settled_save (hrun : watching drive settled run world)
    (hinv : escalations.journal.Inv world) {post : (Op.runsSave run).Answer → World → Prop}
    (hpost : ∀ answer final, watching drive settled run final → post answer final) :
    Serves escalations.journal.discipline drive (.runsSave run) world post := by
  refine watching_save hrun hinv (fun row older hid hwatch hrow => ⟨?_, ?_⟩)
    (fun answer => hpost answer world hrun) hpost
  · refine EscalatedOnce.saved hrow hid.symm ?_
    exact hwatch.imp_left fun hcalm => hcalm.of_runId hid
  · exact settled.lasting _ rfl hwatch

/-- Any call but the escalation's own. -/
theorem unescalating_call {issuer : Issuer} {call : Call} (hrun : watching drive watch run world)
    (hinv : escalations.journal.Inv world)
    (hcall : issuer ≠ .escalation ∨ ∀ request, call ≠ .openIncident request) :
    Serves escalations.journal.discipline drive (.provider issuer call) world fun _ final =>
      watching drive watch run final := by
  apply watching_call hrun hinv
  intro answer applied
  exact not_opensIncident_called hcall

theorem AftermathCall.unescalating {state : RunState} {issuer : Issuer} {call : Call}
    (hcall : AftermathCall state issuer call) :
    issuer ≠ .escalation ∨ ∀ request, call ≠ .openIncident request := by
  cases hcall <;> simp

/-- A drive escalates once, and on a run that it has set failed. -/
def incidentOutline (engines : List WorkflowEngineType) (drive : DriveId)
    (hwired : executor.handlers = buildHandlers engines) :
    Outline escalations.journal.discipline drive executor where
  fresh := watching drive calm
  turning _ := watching drive calm
  tried _ _ _ := watching drive calm
  raised _ _ := watching drive calm
  passed _ := watching drive calm
  denied := watching drive calm
  dismissed := watching drive calm
  failing _ := watching drive escalable
  escalating _ := watching drive escalable
  failed := watching drive setFailed
  released := watching drive setFailed
  pending := watching drive settled
  quiet := watching drive setFailed
  troubled _ := watching drive settled
  ended := watching drive forgotten
  wrecked _ := watching drive forgotten
  guar_refl world _ := ⟨.refl, fun _ _ => rfl⟩
  utcnow := serve_utcnow drive
  uniform := serve_uniform drive
  start hrun _ := watching_imp hrun (.refl _) id
  badStart hrun _ := watching_imp hrun (.refl _) .inl
  unhandled hrun _ := watching_imp hrun (.refl _) .inl
  restamp _ _ hrun := watching_imp hrun (.refl _) id
  naive hrun := watching_imp hrun (.refl _) .inl
  deadline hrun := hrun
  execute {step} handler run world hhandler hrun _ := by
    rw [hwired] at hhandler
    refine Discipline.wp_mono (wp_handler (fun _ final => watching drive calm run final)
      hhandler ?_ ?_ hrun) ?_
    · intro _ world current hrun hrely hinv
      exact (watching drive calm).stable hrun hrely hinv
    · intro _ call world hrun _ hinv
      exact unescalating_call hrun hinv (.inl (by simp))
    · rintro outcome state final ⟨_, hrun, hend⟩
      exact watching_imp hrun ⟨.refl, hend.sameRequest⟩ id
  reject hrun := watching_imp hrun (.refl _) id
  release hrun hinv _ := unescalating_call hrun hinv (.inl (by simp))
  unheld hrun _ := hrun
  dismissed_pending hrun := watching_imp hrun (.refl _) .inl
  logRaised hrun _ hinv := watching_log hrun hinv (.refl _) rfl id
  retry due hhandler hrun _ := by
    rw [hwired] at hhandler
    exact watching_imp hrun ⟨.refl, retryState_sameRequest hhandler⟩ .inl
  retryOverflow hhandler hrun _ := by
    rw [hwired] at hhandler
    exact watching_imp hrun ⟨.refl, retryState_sameRequest hhandler⟩ .inl
  giveUp hrun _ := watching_imp hrun (.refl _) fun hcalm => ⟨hcalm, rfl⟩
  poll _ hrun := watching_imp hrun (.refl _) .inl
  pollOverflow hrun := watching_imp hrun (.refl _) .inl
  logCompleted hrun hinv := watching_log hrun hinv (.refl _) rfl id
  offPlan hrun _ := watching_imp hrun (.refl _) .inl
  next hrun _ _ := watching_imp hrun (.refl _) id
  finish hrun _ _ := watching_imp hrun (.refl _) .inl
  logEscalating hrun hinv := watching_log hrun hinv (.refl _) rfl id
  openIncident request hrun hinv := (watching_openIncident request hrun hinv).opened
    fun _ _ hfinal => watching_imp hfinal (.refl _) id
  escalating_failed hrun := watching_imp hrun (.refl _) And.right
  aftermath hrun hinv hcall := unescalating_call hrun hinv hcall.unescalating
  ticketClosed hrun := watching_imp hrun (.refl _) id
  releaseFailed hrun hinv _ := unescalating_call hrun hinv (.inl (by simp))
  unheldFailed hrun _ := hrun
  released_pending hrun := watching_imp hrun (.refl _) .inr
  released_quiet hrun := hrun
  save hrun hinv := by
    refine settled_save hrun hinv fun answer final hnoted => ?_
    split
    · exact watching_imp hnoted (.refl _) fun _ => trivial
    · exact watching_imp hnoted (.refl _) fun _ => trivial
    · exact hnoted
  saveQuietly hrun hinv := by
    refine settled_save (watching_imp hrun (.refl _) .inr) hinv fun answer final hnoted => ?_
    split <;> exact watching_imp hnoted (.refl _) fun _ => trivial
  unpersisted hrun hfailed hinv := watching_log hrun hinv (.refl _) rfl fun _ => hfailed
  unnamed hrun _ _ _ := watching_imp hrun (.refl _) fun _ => trivial
  crashed {error} run step world hrun hopen _ hinv := by
    -- a run that is failed already is not escalated again
    refine watching_log hrun hinv ⟨.refl, ?_⟩ rfl fun hsettled => ⟨?_, rfl⟩
    · cases step <;> exact .refl _
    · exact hsettled.resolve_right hopen

end Outline

/-- Wherever drives that succeed one another reach: at most one incident was
opened for a run, as long as no drive took it up while one was outstanding. -/
theorem one_incident_where_orderly (engines : List WorkflowEngineType) (retryBase : Time)
    (defaultTeam : String) (clock : Time) (moves : List (Move system)) (runId : UUID)
    (horderly : Orderly runId
      (succeeded (.wired engines retryBase defaultTeam) clock moves).world.history) :
    incidents runId
      (succeeded (.wired engines retryBase defaultTeam) clock moves).world.history ≤ 1 := by
  have hinv : escalations.journal.Inv
      (succeeded (.wired engines retryBase defaultTeam) clock moves).world := by
    refine Journal.succeeded_inv (fun drive world => ?_) clock moves
    exact watching_load (incidentOutline engines drive rfl) rfl (fun _ _ => rfl)
      (fun hid hopen hrow => hrow.calm hid hopen) world
  cases hrow : Store.get
      (succeeded (.wired engines retryBase defaultTeam) clock moves).world.rows runId with
  | some row =>
      have hfact := hinv.rows runId row hrow
      rw [← Store.runId_of_get hrow] at horderly ⊢
      exact (hfact horderly).1
  | none =>
      have hnone : incidents runId _ = 0 := List.countP_eq_zero.mpr fun event hevent hopens =>
        hinv.silent runId hrow event hevent (opensIncident_subject hopens)
      omega

section Examples

theorem Outstanding.incidents_ne_zero {drive : DriveId} {history : History}
    (hopen : Outstanding drive history) : incidents drive.subject history ≠ 0 := by
  obtain ⟨newer, event, older, rfl, -, hopens, -⟩ := hopen
  intro hnone
  rw [incidents, List.countP_eq_zero] at hnone
  exact hnone event (List.mem_append_right newer List.mem_cons_self) hopens

/-- A legacy request without retries, and one drive of it for which the legacy
runner is down: it opens an incident and, given one more operation, saves. -/
def refused (operations : Nat) : List (Move system) :=
  .outside (.triggerLegacy sampleId legacyOnceSample) ::
  .start sampleId :: List.replicate operations (.advance 0 { answer := legacyDown })

/-- The drive saves, and a second one finds the run over. -/
theorem one_incident_where_orderly_refused :
    incidents sampleId (succeeded (.wired [.airflow] (seconds 10) "cloud") 0
      (refused 10 ++ [.start sampleId, .advance 1 { answer := legacyDown }])).world.history ≤ 1 :=
  one_incident_where_orderly [.airflow] (seconds 10) "cloud" 0 _ sampleId
    (by
      show Orderly sampleId [_, _, _, _, _, _, _, _]
      refine ⟨?_, by simp, by simp, by simp, by simp, by simp, ?_, by simp, trivial⟩
      · intro _ _ hloaded _ hopen
        cases hloaded
        cases hopen
      · intro _ _ _ _ _ earlier hearlier houtstanding
        exact houtstanding.incidents_ne_zero (by rw [hearlier]; rfl))

/-- The drive is cut off before it saves, and a second one opens another incident. -/
theorem second_incident :
    incidents sampleId (succeeded sampleExecutor 0
      (refused 9 ++ .start sampleId ::
        List.replicate 9 (.advance 1 { answer := legacyDown }))).world.history = 2 := rfl

end Examples

end CloudioOrchestrator

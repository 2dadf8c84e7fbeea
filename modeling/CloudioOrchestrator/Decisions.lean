import CloudioOrchestrator.Solo
import CloudioOrchestrator.Handlers

/-! # Whether a decision stands

A drive that decides its run, as rejected or as completed, hands it to the store
so decided. The crash path knows a run that failed, but none that was decided:
it overrides the decision exactly if that save raises.
-/

namespace CloudioOrchestrator

open Interaction

def WorkflowRun.Decided (run : WorkflowRun) : Prop :=
  run.status = .rejected ∨ run.status = .completed

/-- A deed that treats the run as failed. -/
inductive Overrides : Deed → Prop
  | incident (issuer : Issuer) {request : IncidentRequest}
      (answer : (Call.openIncident request).Answer) :
      Overrides (.called issuer (.openIncident request) answer)
  | close (issuer : Issuer) {ticket : TicketRef} {note : String}
      (answer : (Call.closeTicket ticket note .unsuccessful).Answer) :
      Overrides (.called issuer (.closeTicket ticket note .unsuccessful) answer)
  | failed {run : WorkflowRun} (answer : Except PyException Int) (hfailed : run.status = .failed) :
      Overrides (.saved run answer)

/-- The drive decided its run, and handed it to the store so. -/
def Decides (deeds : Deeds) : Prop :=
  ∃ run answer, .saved run answer ∈ deeds ∧ run.Decided

/-- No incident is opened, no ticket closed as unsuccessful, and no failed run
handed to the store. -/
def Upheld (deeds : Deeds) : Prop :=
  ∀ deed ∈ deeds, ¬ Overrides deed

/-- A save raised, other than by losing to a concurrent writer. -/
def Raises (answer : Except PyException Int) : Prop :=
  ∃ error, answer = .error error ∧ ∀ message, error ≠ .staleRun message

/-- The save of a decided run raised. -/
def Betrayed (deeds : Deeds) : Prop :=
  ∃ run answer, .saved run answer ∈ deeds ∧ run.Decided ∧ Raises answer

/-- Nothing that overrides a decision was done, and nothing saved. -/
def Untouched (deeds : Deeds) : Prop :=
  Upheld deeds ∧ ∀ run answer, .saved run answer ∉ deeds

/-- There is no decision to override, or one whose save raised. -/
def Overridable (deeds : Deeds) : Prop :=
  ¬ Decides deeds ∨ Betrayed deeds

/-- How a delivery ends, if its drive decided the run. -/
def StandsIff (deeds : Deeds) : Prop :=
  Decides deeds → (Upheld deeds ↔ ¬ Betrayed deeds)

section Deeds

variable {deeds : Deeds} {run : WorkflowRun}

theorem Untouched.undecided (huntouched : Untouched deeds) : ¬ Decides deeds := by
  rintro ⟨run, answer, hsaved, -⟩
  exact huntouched.2 run answer hsaved

theorem Untouched.cons {deed : Deed} (huntouched : Untouched deeds) (hdeed : ¬ Overrides deed)
    (hsave : ∀ run answer, deed ≠ .saved run answer) : Untouched (deed :: deeds) := by
  refine ⟨?_, ?_⟩
  · intro other hother
    rcases List.mem_cons.mp hother with rfl | hold
    · exact hdeed
    · exact huntouched.1 other hold
  · intro run answer hsaved
    rcases List.mem_cons.mp hsaved with heq | hold
    · exact hsave run answer heq.symm
    · exact huntouched.2 run answer hold

theorem Overridable.cons {deed : Deed} (hdeeds : Overridable deeds)
    (hdeed : ∀ run answer, deed = .saved run answer → ¬ run.Decided) :
    Overridable (deed :: deeds) := by
  rcases hdeeds with hundecided | ⟨run, answer, hsaved, hdecided⟩
  · left
    rintro ⟨run, answer, hsaved, hdecided⟩
    rcases List.mem_cons.mp hsaved with heq | hold
    · exact hdeed run answer heq.symm hdecided
    · exact hundecided ⟨run, answer, hold, hdecided⟩
  · exact .inr ⟨run, answer, List.mem_cons_of_mem _ hsaved, hdecided⟩

theorem Untouched.logged (record : LogRecord) (huntouched : Untouched deeds) :
    Untouched (.logged record :: deeds) :=
  huntouched.cons (fun hoverrides => by cases hoverrides) fun _ _ heq => by cases heq

theorem Overridable.logged (record : LogRecord) (hdeeds : Overridable deeds) :
    Overridable (.logged record :: deeds) :=
  hdeeds.cons fun _ _ heq => by cases heq

theorem Overridable.called (issuer : Issuer) (call : Call) (answer : call.Answer)
    (hdeeds : Overridable deeds) : Overridable (.called issuer call answer :: deeds) :=
  hdeeds.cons fun _ _ heq => by cases heq

theorem not_decided_of_failed (hfailed : run.status = .failed) : ¬ run.Decided := by
  simp [WorkflowRun.Decided, hfailed]

/-- A failed run handed to the store overrides what was decided before. -/
theorem standsIff_failed {answer : Except PyException Int} (hdeeds : Overridable deeds)
    (hfailed : run.status = .failed) : StandsIff (.saved run answer :: deeds) := by
  intro hdecides
  have hsaved : Overridable (.saved run answer :: deeds) := hdeeds.cons (by
    rintro _ _ ⟨⟩
    exact not_decided_of_failed hfailed)
  rcases hsaved with hundecided | hbetrayed
  · exact absurd hdecides hundecided
  · refine ⟨fun hupheld => ?_, fun hnot => absurd hbetrayed hnot⟩
    exact absurd (.failed answer hfailed) (hupheld _ List.mem_cons_self)

/-- The first save of a drive settles what was decided, unless it raises. -/
theorem standsIff_saved {answer : Except PyException Int} (hdeeds : Untouched deeds)
    (hrun : run.status ≠ .failed) (hanswer : ¬ Raises answer) :
    StandsIff (.saved run answer :: deeds) := by
  intro _
  refine ⟨fun _ => ?_, fun _ => ?_⟩
  · rintro ⟨saved, raised, hsaved, -, hraises⟩
    rcases List.mem_cons.mp hsaved with heq | hold
    · obtain ⟨rfl, rfl⟩ := Deed.saved.inj heq
      exact hanswer hraises
    · exact hdeeds.2 saved raised hold
  · intro deed hdeed hoverrides
    rcases List.mem_cons.mp hdeed with rfl | hold
    · cases hoverrides with
      | failed _ hfailed => exact hrun hfailed
    · exact hdeeds.1 deed hold hoverrides

theorem overridable_raised {answer : Except PyException Int} (hdeeds : Untouched deeds)
    (hanswer : Raises answer) : Overridable (.saved run answer :: deeds) := by
  by_cases hdecided : run.Decided
  · exact .inr ⟨run, answer, List.mem_cons_self, hdecided, hanswer⟩
  · refine (show Overridable deeds from .inl hdeeds.undecided).cons ?_
    rintro _ _ ⟨⟩
    exact hdecided

end Deeds

theorem HandlerCall.not_overrides {run : WorkflowRun} {state : RunState} {step : StepName}
    {call : Call} (answer : call.Answer) (hcall : HandlerCall run state step call) :
    ¬ Overrides (.called (.step step) call answer) := by
  intro hoverrides
  cases hcall <;> cases hoverrides

theorem ReleaseCall.not_overrides {state : RunState} {call : Call} (answer : call.Answer)
    (hcall : ReleaseCall state call) : ¬ Overrides (.called .release call answer) := by
  intro hoverrides
  cases hcall <;> cases hoverrides

section Outline

/-- In the driving code, before anything is decided. -/
def Undecided (run : WorkflowRun) (deeds : Deeds) : Prop :=
  Untouched deeds ∧ run.status = .running ∧ run.Nameable

/-- About to be saved: as decided or to be continued, or as failed. -/
def Savable (run : WorkflowRun) (deeds : Deeds) : Prop :=
  Untouched deeds ∧ run.status ≠ .failed ∧ run.Nameable ∨
    Overridable deeds ∧ run.status = .failed

/-- The driving code raised; a decision was handed to the store and raised, or
there was none. -/
def Wreckable (run : WorkflowRun) (deeds : Deeds) : Prop :=
  ¬ Decides deeds ∨ Betrayed deeds ∧ (run.status = .failed ∨ run.Nameable)

theorem Wreckable.overridable {run : WorkflowRun} {deeds : Deeds} (hrun : Wreckable run deeds) :
    Overridable deeds :=
  hrun.imp_right And.left

theorem Undecided.wreckable {run changed : WorkflowRun} {deeds : Deeds}
    (hrun : Undecided run deeds) : Wreckable changed deeds :=
  .inl hrun.1.undecided

/-- A save that does not raise ends the drive with what was decided. -/
theorem Savable.stands {run : WorkflowRun} {deeds : Deeds} {answer : Except PyException Int}
    (hrun : Savable run deeds) (hanswer : ¬ Raises answer) :
    StandsIff (.saved run answer :: deeds) := by
  rcases hrun with ⟨huntouched, hrun, -⟩ | ⟨hdeeds, hfailed⟩
  · exact standsIff_saved huntouched hrun hanswer
  · exact standsIff_failed hdeeds hfailed

/-- A save that raises sends the run down the crash path. -/
theorem Savable.raised {run : WorkflowRun} {deeds : Deeds} {answer : Except PyException Int}
    (hrun : Savable run deeds) (hanswer : Raises answer) :
    Wreckable run (.saved run answer :: deeds) := by
  rcases hrun with ⟨huntouched, -, hnameable⟩ | ⟨hdeeds, hfailed⟩
  · exact (overridable_raised huntouched hanswer).imp_right
      fun hbetrayed => ⟨hbetrayed, .inr hnameable⟩
  · have hsaved : Overridable (.saved run answer :: deeds) := hdeeds.cons (by
      rintro _ _ ⟨⟩
      exact not_decided_of_failed hfailed)
    exact hsaved.imp_right fun hbetrayed => ⟨hbetrayed, .inl hfailed⟩

/-- A decision is handed to the store at once. If that save raises, the crash
path ends with a failed run handed to the store; otherwise the drive is over. -/
def decisionOutline (engines : List WorkflowEngineType) (retryBase : Time) (defaultTeam : String)
    (row : WorkflowRun) (drive : Client UUID) :
    Outline (unattended row) drive (.wired engines retryBase defaultTeam) where
  fresh := privately fun _ deeds => Untouched deeds
  turning _ := privately Undecided
  tried _ _ _ := privately Undecided
  raised _ _ := privately Undecided
  passed _ := privately Undecided
  denied := privately fun run deeds =>
    Untouched deeds ∧ run.status = .rejected ∧ run.Nameable
  dismissed := privately fun run deeds =>
    Untouched deeds ∧ run.status = .rejected ∧ run.Nameable
  failing _ := privately fun run deeds => Overridable deeds ∧ run.status = .failed
  escalating _ := privately fun run deeds => Overridable deeds ∧ run.status = .failed
  failed := privately fun run deeds => Overridable deeds ∧ run.status = .failed
  released := privately fun run deeds => Overridable deeds ∧ run.status = .failed
  pending := privately Savable
  quiet := privately fun run deeds => Overridable deeds ∧ run.status = .failed
  troubled _ := privately Wreckable
  ended := privately fun _ deeds => StandsIff deeds
  wrecked _ := privately fun _ deeds => StandsIff deeds
  guar_refl _ _ := trivial
  utcnow := solo_utcnow row drive
  uniform := solo_uniform row drive
  start hrun _ := ⟨hrun, rfl, .inr ⟨_, rfl⟩⟩
  badStart hrun _ := .inl hrun.undecided
  unhandled hrun _ := hrun.wreckable
  restamp _ _ hrun := hrun
  naive hrun := hrun.wreckable
  deadline hrun := hrun
  execute {step} handler run deeds hhandler hrun _ := by
    refine Discipline.wp_mono (wp_handler (V := solo row)
      (fun _ (done : Deeds) => Undecided run done) hhandler ?_ ?_ hrun) ?_
    · rintro _ deeds _ hrun rfl _
      exact hrun
    · intro _ call deeds hrun hcall _
      refine solo_call fun answer => ?_
      exact ⟨hrun.1.cons (hcall.not_overrides answer) (by simp), hrun.2⟩
    · rintro outcome state deeds ⟨_, hrun, -⟩
      exact hrun
  reject hrun := ⟨hrun.1, rfl, hrun.2.2⟩
  release hrun _ hcall := solo_call fun answer =>
    ⟨hrun.1.cons (hcall.not_overrides answer) (by simp), hrun.2⟩
  unheld hrun _ := hrun
  dismissed_pending hrun := .inl ⟨hrun.1, by simp [hrun.2.1], hrun.2.2⟩
  logRaised hrun _ _ := solo_log ⟨hrun.1.logged _, hrun.2⟩
  retry _ _ hrun _ := .inl ⟨hrun.1, by simp [retriedRun, hrun.2.1], hrun.2.2⟩
  retryOverflow _ hrun _ := hrun.wreckable
  giveUp hrun _ := ⟨.inl hrun.1.undecided, rfl⟩
  poll _ hrun := .inl ⟨hrun.1, by simp [hrun.2.1], hrun.2.2⟩
  pollOverflow hrun := hrun.wreckable
  logCompleted hrun _ := solo_log ⟨hrun.1.logged _, hrun.2⟩
  offPlan hrun _ := hrun.wreckable
  next hrun _ _ := ⟨hrun.1, hrun.2.1, .inr ⟨_, rfl⟩⟩
  finish hrun _ _ := .inl ⟨hrun.1, by simp [completedRun], .inl rfl⟩
  logEscalating hrun _ := solo_log ⟨hrun.1.logged _, hrun.2⟩
  openIncident request hrun _ := solo_call fun answer => by
    split <;> exact ⟨hrun.1.called _ _ _, hrun.2⟩
  escalating_failed hrun := hrun
  aftermath hrun _ _ := solo_call fun _ => ⟨hrun.1.called _ _ _, hrun.2⟩
  ticketClosed hrun := hrun
  releaseFailed hrun _ _ := solo_call fun _ => ⟨hrun.1.called _ _ _, hrun.2⟩
  unheldFailed hrun _ := hrun
  released_pending hrun := .inr hrun
  released_quiet hrun := hrun
  save hrun _ := solo_save fun answer => by
    split
    · exact Savable.stands hrun (by rintro ⟨_, ⟨⟩, -⟩)
    · exact Savable.stands hrun (by rintro ⟨_, ⟨⟩, hstale⟩; exact hstale _ rfl)
    · exact Savable.raised hrun ⟨_, rfl, ‹_›⟩
  saveQuietly hrun _ := solo_save fun answer => by
    split <;> exact standsIff_failed hrun.1 hrun.2
  unpersisted hrun hfailed _ := solo_log ⟨hrun.overridable.logged _, hfailed⟩
  unnamed {error} nameError run text deeds hrun hopen htext hunnamed := by
    rcases hrun with hundecided | ⟨-, hfailed | hnameable⟩
    · exact fun hdecides => absurd hdecides hundecided
    · exact absurd hfailed hopen
    · exact absurd hunnamed (hnameable.named htext nameError)
  crashed hrun _ _ _ := solo_log ⟨hrun.overridable.logged _, rfl⟩

end Outline

/-- In a delivery whose drive decided the run, whatever the store and the
providers answer: the decision stands, with no incident, no ticket closed as
unsuccessful and no failed run handed to the store, exactly if the save of the
decided run did not raise. -/
theorem decision_stands_iff (engines : List WorkflowEngineType) (retryBase : Time)
    (defaultTeam : String) (row : WorkflowRun) (behaviour : Behaviour)
    (hdecides : Decides (deeds (.wired engines retryBase defaultTeam) row behaviour)) :
    Upheld (deeds (.wired engines retryBase defaultTeam) row behaviour) ↔
      ¬ Betrayed (deeds (.wired engines retryBase defaultTeam) row behaviour) := by
  have hstands : StandsIff (deeds (.wired engines retryBase defaultTeam) row behaviour) := by
    cases hopen : row.status.terminal with
    | true =>
        rw [deeds, delivery_terminal hopen]
        rintro ⟨run, answer, hsaved, -⟩
        cases hsaved
    | false =>
        have hfresh : Untouched [] := ⟨by simp [Upheld], by simp⟩
        rcases delivery_ends (decisionOutline engines retryBase defaultTeam row _) behaviour hopen
          hfresh with ⟨run, -, -, hstands⟩ | ⟨error, run, -, -, hstands⟩
        · exact hstands
        · exact hstands
  exact hstands hdecides

/-- A legacy run whose completion is handed to the store without trouble. -/
theorem decision_stands_completed :
    Upheld (deeds (.wired [.airflow] (seconds 10) "cloud") sampleRow obliging) ↔
      ¬ Betrayed (deeds (.wired [.airflow] (seconds 10) "cloud") sampleRow obliging) :=
  decision_stands_iff [.airflow] (seconds 10) "cloud" sampleRow obliging
    ⟨_, _, List.mem_of_getElem? (i := 0) rfl, .inr rfl⟩

/-- A resource request that waits for the approval of its ticket. -/
def waitingRow : WorkflowRun :=
  let created := triggered 0 sampleId resourceWorkflow resourceSample
  { created with
    status := .running, currentStep := some StepName.awaitApproval.value
    runState := { created.runState with
      ticket := some ⟨"RITM0000001", "1"⟩, resourceConfigured := true } }

/-- The ticket is rejected, and the database fails once, where the drive saves
for the first time. -/
def deniedAndFailing : Behaviour := fun count op =>
  match op with
  | .provider _ (.getApprovalStatus _) => .ok .rejected
  | .runsSave run =>
      if count = 7 then .error (.other "OperationalError" "server closed the connection")
      else .ok (run.version + 1)
  | op => obliging count op

/-- A rejected run whose save raises gets an incident, and is stored as failed. -/
theorem rejection_overridden :
    ∃ rejected failed request answer stored,
      rejected.status = .rejected ∧ failed.status = .failed ∧
      .saved rejected (.error (.other "OperationalError" "server closed the connection")) ∈
        deeds sampleExecutor waitingRow deniedAndFailing ∧
      .called .escalation (.openIncident request) answer ∈
        deeds sampleExecutor waitingRow deniedAndFailing ∧
      .saved failed (.ok stored) ∈ deeds sampleExecutor waitingRow deniedAndFailing :=
  ⟨_, _, _, _, _, rfl, rfl, List.mem_of_getElem? (i := 6) rfl, List.mem_of_getElem? (i := 3) rfl,
    List.mem_of_getElem? (i := 0) rfl⟩

end CloudioOrchestrator

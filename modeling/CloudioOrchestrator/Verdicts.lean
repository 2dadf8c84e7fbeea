import CloudioOrchestrator.Ledger
import CloudioOrchestrator.Handlers

/-! # Verdicts

A drive acts against its run when it opens an incident for it, closes its
ticket as unsuccessful or releases its resource. It does so before the save that
decides whether it won, so a completed run may have been acted against; but
whoever did so has no say in what the row becomes.
-/

namespace CloudioOrchestrator

open Interaction

/-- A call that treats the run as failed or denied. -/
inductive Adverse : Issuer → Call → Prop
  | incident (issuer : Issuer) (request : IncidentRequest) : Adverse issuer (.openIncident request)
  | close (issuer : Issuer) (ticket : TicketRef) (note : String) :
      Adverse issuer (.closeTicket ticket note .unsuccessful)
  | release (call : Call) : Adverse .release call

/-- The drive has acted against its run. -/
def Acted (drive : DriveId) (history : History) : Prop :=
  ∃ issuer call answer applied, .called drive issuer call answer applied ∈ history ∧
    Adverse issuer call

/-- Failed or rejected. -/
def WorkflowRun.Denied (run : WorkflowRun) : Prop :=
  run.status = .failed ∨ run.status = .rejected

/-- Whoever has acted against its run saves it as failed or rejected, or not at all. -/
def Verdicts (history : History) : Prop :=
  Throughout (fun event older =>
    ∀ drive row, event = .saved drive row → Acted drive older → row.Denied) history

theorem Verdicts.saved {newer older : History} {drive : DriveId} {row : WorkflowRun}
    (hverdicts : Verdicts (newer ++ .saved drive row :: older)) (hacted : Acted drive older) :
    row.Denied :=
  Throughout.event hverdicts drive row rfl hacted

/-- Creations change no verdict. -/
theorem Verdicts.nobody {newer older : History} (hverdicts : Verdicts older)
    (hnobody : ∀ event ∈ newer, event.actor = none) : Verdicts (newer ++ older) := by
  induction newer with
  | nil => exact hverdicts
  | cons event newer ih =>
      refine ⟨fun drive row heq => ?_, ih fun other hother =>
        hnobody other (List.mem_cons_of_mem _ hother)⟩
      have hactor := hnobody event List.mem_cons_self
      rw [heq] at hactor
      cases hactor

/-- No step acts against its run. -/
theorem HandlerCall.not_adverse {run : WorkflowRun} {state : RunState} {step : StepName}
    {call : Call} (hcall : HandlerCall run state step call) : ¬ Adverse (.step step) call := by
  intro hadverse
  cases hcall <;> cases hadverse

theorem Acted.of_record {drive : DriveId} {event : Event} {older : History}
    (hacted : Acted drive (event :: older)) (hevent : ∀ issuer call answer applied,
      event = .called drive issuer call answer applied → ¬ Adverse issuer call) :
    Acted drive older := by
  obtain ⟨issuer, call, answer, applied, hcalled, hadverse⟩ := hacted
  rcases List.mem_cons.mp hcalled with heq | hold
  · exact absurd hadverse (hevent issuer call answer applied heq.symm)
  · exact ⟨issuer, call, answer, applied, hold, hadverse⟩

/-- What others do is not the drive's doing. -/
theorem Acted.of_grows {drive : DriveId} {world final : World}
    (hgrows : world.Grows (fun event => event.actor ≠ some drive) final)
    (hacted : Acted drive final.history) : Acted drive world.history := by
  obtain ⟨newer, hhistory, hothers⟩ := hgrows
  obtain ⟨issuer, call, answer, applied, hcalled, hadverse⟩ := hacted
  rw [hhistory] at hcalled
  rcases List.mem_append.mp hcalled with hnew | hold
  · exact absurd rfl (hothers _ hnew)
  · exact ⟨issuer, call, answer, applied, hold, hadverse⟩

/-- The discipline of verdicts. -/
abbrev judging : Discipline system :=
  interleaving (fun world => Verdicts world.history) .none

/-- If the drive has acted against its run, the run meets a condition. -/
def sentenced (drive : DriveId) (condition : WorkflowRun → Prop) : Assertion judging drive where
  holds run world := Acted drive world.history → condition run
  stable hrun hrely _ hacted := hrun (hacted.of_grows hrely.1)

/-- The run meets a condition, acted against or not. -/
def settling (drive : DriveId) (status : RunStatus) : Assertion judging drive where
  holds run _ := run.status = status
  stable hrun _ _ := hrun

section Outline

variable {drive : DriveId} {run : WorkflowRun} {world : World}

/-- Recording a call or a log record leaves the verdicts as they are. -/
theorem judging_record (event : Event) (hinv : Verdicts world.history)
    (hactor : event.actor = some drive) (hsaved : ∀ row, event ≠ .saved drive row) :
    judging.inv (world.record event) ∧ judging.guar drive world (world.record event) := by
  refine ⟨⟨fun other row heq => ?_, hinv⟩, World.grows_record hactor, trivial⟩
  subst heq
  obtain rfl := Option.some.inj hactor
  exact absurd rfl (hsaved row)

/-- A call that is not adverse, or a log record, sentences nobody. -/
theorem sentenced_record {condition : WorkflowRun → Prop} (event : Event)
    (hrun : sentenced drive condition run world) (hinv : Verdicts world.history)
    (hactor : event.actor = some drive) (hsaved : ∀ row, event ≠ .saved drive row)
    (hcalled : ∀ issuer call answer applied,
      event = .called drive issuer call answer applied → ¬ Adverse issuer call) :
    judging.inv (world.record event) ∧ judging.guar drive world (world.record event) ∧
      sentenced drive condition run (world.record event) := by
  obtain ⟨hkept, hguar⟩ := judging_record event hinv hactor hsaved
  exact ⟨hkept, hguar, fun hacted => hrun (hacted.of_record hcalled)⟩

theorem sentenced_log {condition : WorkflowRun → Prop} {record : LogRecord}
    {changed : WorkflowRun} (hrun : sentenced drive condition run world)
    (hinv : Verdicts world.history) (hlater : condition run → condition changed) :
    Serves judging drive (.log record) world fun _ final =>
      sentenced drive condition changed final := by
  obtain ⟨hkept, hguar, hsentenced⟩ := sentenced_record (.logged drive record) hrun hinv rfl
    (by simp) (by simp)
  exact serves_log ⟨hkept, hguar, fun hacted => hlater (hsentenced hacted)⟩

/-- A run that is already settled may be acted against. -/
theorem settling_call {status : RunStatus} {issuer : Issuer} {call : Call}
    (hrun : run.status = status) (hinv : Verdicts world.history) :
    Serves judging drive (.provider issuer call) world fun _ final =>
      settling drive status run final := by
  refine serves_call fun answer applied _ => ?_
  obtain ⟨hkept, hguar⟩ := judging_record (.called drive issuer call answer applied) hinv rfl
    (by simp)
  exact ⟨hkept, hguar, hrun⟩

/-- A run that is denied if acted against may be saved. -/
theorem sentenced_save (hrun : sentenced drive WorkflowRun.Denied run world)
    (hinv : Verdicts world.history) {post : (Op.runsSave run).Answer → World → Prop}
    (hpost : ∀ answer final, sentenced drive WorkflowRun.Denied run final → post answer final) :
    Serves judging drive (.runsSave run) world post := by
  refine serves_save (fun error => ⟨hinv, ⟨.refl, trivial⟩, hpost _ _ hrun⟩) fun row hsave => ?_
  obtain ⟨db, -, -, hrow⟩ := Store.save_eq_ok hsave
  have hstatus : row.status = run.status := by rw [hrow]
  have hsentenced : sentenced drive WorkflowRun.Denied run (world.commit drive row) :=
    fun hacted => hrun (hacted.of_record (by simp))
  refine ⟨⟨fun other saved heq hacted => ?_, hinv⟩, ⟨⟨[_], rfl, by simp [Event.actor]⟩, trivial⟩,
    hpost _ _ hsentenced, fun _ _ => hpost _ _ hsentenced⟩
  obtain ⟨rfl, rfl⟩ := Event.saved.inj heq
  unfold WorkflowRun.Denied
  rw [hstatus]
  exact hrun hacted

/-- Until a drive sets its run failed or rejected it has done nothing against
it; from then on the run stays so. -/
def verdictOutline (engines : List WorkflowEngineType) (retryBase : Time) (defaultTeam : String)
    (drive : DriveId) : Outline judging drive (.wired engines retryBase defaultTeam) where
  fresh := sentenced drive fun _ => False
  turning _ := sentenced drive fun _ => False
  tried _ _ _ := sentenced drive fun _ => False
  raised _ _ := sentenced drive fun _ => False
  passed _ := sentenced drive fun _ => False
  denied := settling drive .rejected
  dismissed := settling drive .rejected
  failing _ := settling drive .failed
  escalating _ := settling drive .failed
  failed := settling drive .failed
  released := settling drive .failed
  pending := sentenced drive WorkflowRun.Denied
  quiet := sentenced drive WorkflowRun.Denied
  troubled _ := sentenced drive WorkflowRun.Denied
  ended := sentenced drive fun _ => True
  wrecked _ := sentenced drive fun _ => True
  guar_refl world _ := ⟨.refl, trivial⟩
  utcnow := serve_utcnow drive
  uniform := serve_uniform drive
  start hrun _ := hrun
  badStart hrun _ hacted := (hrun hacted).elim
  unhandled hrun _ hacted := (hrun hacted).elim
  restamp _ _ hrun := hrun
  naive hrun hacted := (hrun hacted).elim
  deadline hrun := hrun
  execute {step} handler run world hhandler hrun hinv := by
    refine Discipline.wp_mono (wp_handler
      (fun _ final => sentenced drive (fun _ => False) run final) hhandler ?_ ?_ hrun) ?_
    · intro _ world current hrun hrely hinv
      exact (sentenced drive fun _ => False).stable hrun hrely hinv
    · intro _ call world hrun hcall hinv
      -- no step makes a call against its own run
      refine serves_call fun answer applied _ => ?_
      apply sentenced_record _ hrun hinv rfl (by simp)
      intro issuer other _ _ heq
      cases heq
      exact hcall.not_adverse
    · rintro outcome state final ⟨_, hrun, -⟩
      exact hrun
  reject _ := rfl
  release hrun hinv _ := settling_call hrun hinv
  unheld hrun _ := hrun
  dismissed_pending hrun _ := .inr hrun
  logRaised hrun _ hinv := sentenced_log hrun hinv id
  retry _ _ hrun _ hacted := (hrun hacted).elim
  retryOverflow _ hrun _ hacted := (hrun hacted).elim
  giveUp _ _ := rfl
  poll _ hrun hacted := (hrun hacted).elim
  pollOverflow hrun hacted := (hrun hacted).elim
  logCompleted hrun hinv := sentenced_log hrun hinv id
  offPlan hrun _ hacted := (hrun hacted).elim
  next hrun _ _ := hrun
  finish hrun _ _ hacted := (hrun hacted).elim
  logEscalating {error} run world hrun hinv := by
    obtain ⟨hkept, hguar⟩ := judging_record (.logged drive (.escalating error)) hinv rfl (by simp)
    exact serves_log ⟨hkept, hguar, hrun⟩
  openIncident request hrun hinv := (settling_call hrun hinv).opened fun _ _ hfinal => hfinal
  escalating_failed hrun := hrun
  aftermath hrun hinv _ := settling_call hrun hinv
  ticketClosed hrun := hrun
  releaseFailed hrun hinv _ := settling_call hrun hinv
  unheldFailed hrun _ := hrun
  released_pending hrun _ := .inl hrun
  released_quiet hrun _ := .inl hrun
  save hrun hinv := by
    refine sentenced_save hrun hinv fun answer final hsentenced => ?_
    split
    · exact fun _ => trivial
    · exact fun _ => trivial
    · exact hsentenced
  saveQuietly hrun hinv := by
    refine sentenced_save hrun hinv fun answer final _ => ?_
    split <;> exact fun _ => trivial
  unpersisted hrun hfailed hinv := sentenced_log hrun hinv id
  unnamed _ _ _ _ _ := trivial
  crashed {error} run step world _ _ _ hinv := by
    obtain ⟨hkept, hguar⟩ := judging_record (.logged drive (.crashed error)) hinv rfl (by simp)
    exact serves_log ⟨hkept, hguar, rfl⟩

theorem reached_verdicts (engines : List WorkflowEngineType) (retryBase : Time)
    (defaultTeam : String) (clock : Time) (moves : List (Move system)) :
    Verdicts (reached (.wired engines retryBase defaultTeam) clock moves).world.history := by
  have hcompatible : judging.Compatible
      (Executor.handle (.wired engines retryBase defaultTeam)) Absent := by
    refine interleaving_compatible (fun event world hinv => ⟨?_, trivial⟩) ?_
    · obtain ⟨newer, hhistory, hnobody⟩ :=
        @World.grows_outside (fun event => event.actor = none) world event fun _ => rfl
      rw [hhistory]
      exact Verdicts.nobody hinv hnobody
    · intro drive world _ habsent
      refine (verdictOutline engines retryBase defaultTeam drive).handle_safe
        fun current hrely hinv => ?_
      have habsent := habsent.of_rely hrely
      have hclean : ∀ run, sentenced drive (fun _ => False) run current := by
        rintro run ⟨issuer, call, answer, applied, hcalled, -⟩
        exact habsent _ hcalled rfl
      refine serves_get (fun answer hmissed => ?_) fun row _ => ?_
      · exact ⟨hinv, ⟨.refl, trivial⟩, fun run hanswer => absurd hanswer (hmissed run)⟩
      · obtain ⟨hkept, hguar, hloaded⟩ := sentenced_record (.loaded drive row) (hclean row) hinv rfl
          (by simp) (by simp)
        exact ⟨hkept, hguar, fun _ _ _ => hloaded⟩
  exact (reached_sound hcompatible clock trivial moves).inv

end Outline

/-- Only drives that lose disagree with a completion: if a run is ever stored as
completed, then no drive that acted against it had any later save accepted. -/
theorem completed_despite_losers_only (engines : List WorkflowEngineType) (retryBase : Time)
    (defaultTeam : String) (clock : Time) (moves : List (Move system))
    (newer older : History) (drive winner : DriveId) (issuer : Issuer) (call : Call)
    (answer : call.Answer) (applied : Bool) (row : WorkflowRun)
    (hhistory : (reached (.wired engines retryBase defaultTeam) clock moves).world.history =
      newer ++ .called drive issuer call answer applied :: older)
    (hadverse : Adverse issuer call)
    (hsaved : .saved winner row ∈ newer ++ .called drive issuer call answer applied :: older)
    (hid : row.runId = drive.subject) (hcompleted : row.status = .completed) :
    ∀ other, .saved drive other ∉ newer := by
  intro other hother
  have hverdicts := reached_verdicts engines retryBase defaultTeam clock moves
  have hchained : Chained
      (reached (.wired engines retryBase defaultTeam) clock moves).world.history :=
    (reached_ledger clock moves).chained
  rw [hhistory] at hverdicts hchained
  obtain ⟨later, between, rfl⟩ := List.append_of_mem hother
  rw [List.append_assoc, List.cons_append] at hverdicts hchained hsaved
  have hdenied : other.Denied := by
    apply hverdicts.saved
    exact ⟨issuer, call, answer, applied, List.mem_append_right _ List.mem_cons_self, hadverse⟩
  have hotherId : other.runId = drive.subject := by
    obtain ⟨_, _, -, -, -, hotherId, -⟩ := hchained.links
    exact hotherId
  have hterminal : other.status.terminal = true := by
    rcases hdenied with hstatus | hstatus <;> rw [hstatus] <;> rfl
  have hsame := hchained.terminal_unique hsaved
    (List.mem_append_right _ List.mem_cons_self) (hid.trans hotherId.symm)
    (by rw [hcompleted]; rfl) hterminal
  rw [← hsame] at hdenied
  rcases hdenied with hstatus | hstatus <;> rw [hcompleted] at hstatus <;> cases hstatus

/-- Two overlapping drives of a legacy request without retries. The first finds
the legacy runner down and opens an incident; the second completes the run
before the first has saved. -/
def contested : List (Move system) :=
  .outside (.triggerLegacy sampleId legacyOnceSample) ::
  .start sampleId :: .start sampleId ::
  List.replicate 9 (.advance 0 { answer := legacyDown }) ++
  List.replicate 8 (.advance 1 { answer := willing }) ++
  [.advance 0 { answer := willing }]

/-- A completed run may have an incident open all the same. -/
theorem completed_with_incident :
    ∃ row request answer, 
      Store.get (reached sampleExecutor 0 contested).world.rows sampleId = some row ∧
      row.status = .completed ∧
      .called ⟨sampleId, 0⟩ .escalation (.openIncident request) answer true ∈
        (reached sampleExecutor 0 contested).world.history :=
  ⟨_, _, _, rfl, rfl, List.mem_of_getElem? (i := 4) rfl⟩

/-- The drive that opened it did not get to save. -/
theorem completed_despite_losers_only_contested :
    ¬ ∃ other, .saved ⟨sampleId, 0⟩ other ∈
      (reached sampleExecutor 0 contested).world.history.take 4 :=
  not_exists.mpr (completed_despite_losers_only [.airflow] (seconds 10) "cloud" 0 contested _ _
    ⟨sampleId, 0⟩ ⟨sampleId, 1⟩ .escalation _ _ true _ (List.take_append_drop 4 _).symm
    (.incident _ _) (.head _) rfl rfl)

end CloudioOrchestrator

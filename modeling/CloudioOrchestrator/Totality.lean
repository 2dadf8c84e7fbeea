import CloudioOrchestrator.Solo

/-! # Whether a delivery is total

A delivery returns, and what goes wrong around the steps ends its run as failed,
exactly if the stored text for the current step is one that the crash path can
name: the path converts it once more, outside of any guard.
-/

namespace CloudioOrchestrator

open Interaction

/-- A run that driving can start or that is not driven at all. -/
def WorkflowRun.Drivable (run : WorkflowRun) : Prop :=
  run.status.terminal = true ∨ run.currentStep = some "" ∨ run.Nameable

/-- An escalation was attempted. -/
def Escalated (deeds : Deeds) : Prop :=
  ∃ error, .logged (.escalating error) ∈ deeds

/-- Failed, with nothing scheduled. -/
def WorkflowRun.Buried (run : WorkflowRun) : Prop :=
  run.status = .failed ∧ run.scheduledAt = none

/-- The last deed was to hand a failed run to the store. -/
def LaidToRest (deeds : Deeds) : Prop :=
  ∃ run answer earlier, deeds = .saved run answer :: earlier ∧ run.Buried

/-- A delivery is total: it returns, and where anything but a step's own
exception ended the drive, the run is failed in memory, an escalation was
attempted, by the drive or after it, and then a save. -/
def Total (executor : Executor) (row : WorkflowRun) (behaviour : Behaviour) : Prop :=
  (delivery executor row behaviour).1.1 = .ok () ∧
  (row.status.terminal = false → ∀ error, (driving executor row behaviour).1.1 = .error error →
    ∃ run, (delivery executor row behaviour).1.2 = some run ∧ run.Buried ∧
      Escalated (deeds executor row behaviour) ∧ LaidToRest (deeds executor row behaviour))

theorem startStep_of_drivable {run : WorkflowRun} (hrun : run.Drivable)
    (hopen : run.status.terminal = false) : ∃ step, Executor.startStep run = .ok step := by
  rcases hrun with hterminal | hempty | hnone | ⟨step, hstep⟩
  · rw [hopen] at hterminal
    cases hterminal
  · exact ⟨firstStep run.runType, by simp [Executor.startStep, hempty]⟩
  · exact ⟨firstStep run.runType, by simp [Executor.startStep, hnone]⟩
  · exact ⟨step, startStep_named hstep⟩

/-- A run that is not drivable holds a text that names no step. -/
theorem unnamed_of_not_drivable {run : WorkflowRun} (hrun : ¬ run.Drivable) :
    run.status.terminal = false ∧ ∃ text error, run.currentStep = some text ∧ text ≠ "" ∧
      stepNamed text = .error error := by
  simp only [WorkflowRun.Drivable, WorkflowRun.Nameable, not_or, not_exists] at hrun
  obtain ⟨hopen, hempty, hnone, hunnamed⟩ := hrun
  obtain ⟨text, htext⟩ := Option.ne_none_iff_exists'.mp hnone
  rw [htext] at hempty hunnamed
  have hname : StepName.ofValue text = none := by
    cases hname : StepName.ofValue text with
    | none => rfl
    | some step => exact absurd (congrArg some (StepName.ofValue_eq_some.mp hname)) (hunnamed step)
  exact ⟨by simpa using hopen, text, _, htext, by simpa using hempty,
    by simp only [stepNamed, hname]; rfl⟩

section Outline

variable {row : WorkflowRun} {drive : Client UUID}

/-- Not failed, and in a state that the crash path can name. -/
def Calm (run : WorkflowRun) (_ : Deeds) : Prop :=
  run.status ≠ .failed ∧ run.Nameable

/-- Failed and escalated, or still calm. -/
def Recoverable (run : WorkflowRun) (deeds : Deeds) : Prop :=
  Calm run deeds ∨ run.Buried ∧ Escalated deeds

theorem Escalated.cons {deeds : Deeds} (deed : Deed) (hescalated : Escalated deeds) :
    Escalated (deed :: deeds) := by
  obtain ⟨error, hlogged⟩ := hescalated
  exact ⟨error, List.mem_cons_of_mem _ hlogged⟩

theorem Recoverable.cons {run : WorkflowRun} {deeds : Deeds} (deed : Deed)
    (hrun : Recoverable run deeds) : Recoverable run (deed :: deeds) := by
  rcases hrun with hcalm | ⟨hburied, hescalated⟩
  · exact .inl hcalm
  · exact .inr ⟨hburied, hescalated.cons deed⟩

/-- Wherever driving is given up, the run is calm, or failed and escalated; the
crash path then leaves it failed, escalated and handed to the store. -/
def totalOutline (executor : Executor) (row : WorkflowRun) (drive : Client UUID) :
    Outline (unattended row) drive executor where
  fresh := privately fun run _ =>
    run.status ≠ .failed ∧ ∃ step, Executor.startStep run = .ok step
  turning _ := privately Calm
  tried _ _ _ := privately Calm
  raised _ _ := privately Calm
  passed _ := privately Calm
  denied := privately Calm
  dismissed := privately Calm
  failing _ := privately fun run _ => run.Buried
  escalating _ := privately fun run deeds => run.Buried ∧ Escalated deeds
  failed := privately fun run deeds => run.Buried ∧ Escalated deeds
  released := privately fun run deeds => run.Buried ∧ Escalated deeds
  pending := privately Recoverable
  quiet := privately fun run deeds => run.Buried ∧ Escalated deeds
  troubled _ := privately Recoverable
  ended := privately fun _ _ => True
  wrecked ended := privately fun run deeds =>
    ended = .ok () ∧ run.Buried ∧ Escalated deeds ∧ LaidToRest deeds
  guar_refl _ _ := trivial
  utcnow := solo_utcnow row drive
  uniform := solo_uniform row drive
  start _ _ := ⟨by simp, .inr ⟨_, rfl⟩⟩
  badStart := by
    rintro run deeds error ⟨-, step, hstep⟩ hbad
    rw [hstep] at hbad
    cases hbad
  unhandled hrun _ := .inl hrun
  restamp _ _ hrun := hrun
  naive hrun := .inl hrun
  deadline hrun := hrun
  execute _ hrun _ := wp_handling (privately Calm) hrun fun call deeds _ hrun =>
    solo_call fun _ => hrun
  reject hrun := ⟨by simp [rejectedRun], hrun.2⟩
  release hrun _ _ := solo_call fun _ => hrun
  unheld hrun _ := hrun
  dismissed_pending hrun := .inl hrun
  logRaised hrun _ _ := solo_log hrun
  retry _ _ hrun _ := .inl hrun
  retryOverflow _ hrun _ := .inl hrun
  giveUp _ _ := ⟨rfl, rfl⟩
  poll _ hrun := .inl hrun
  pollOverflow hrun := .inl hrun
  logCompleted hrun _ := solo_log hrun
  offPlan hrun _ := .inl hrun
  next hrun _ _ := ⟨hrun.1, .inr ⟨_, rfl⟩⟩
  finish _ _ _ := .inl ⟨by simp [completedRun], .inl rfl⟩
  logEscalating hrun _ := solo_log ⟨hrun, _, List.mem_cons_self⟩
  openIncident request hrun _ := solo_call fun answer => by
    split <;> exact ⟨hrun.1, hrun.2.cons _⟩
  escalating_failed hrun := hrun
  aftermath hrun _ _ := solo_call fun _ => ⟨hrun.1, hrun.2.cons _⟩
  ticketClosed hrun := hrun
  releaseFailed hrun _ _ := solo_call fun _ => ⟨hrun.1, hrun.2.cons _⟩
  unheldFailed hrun _ := hrun
  released_pending hrun := .inr hrun
  released_quiet hrun := hrun
  save hrun _ := solo_save fun answer => by
    split
    · trivial
    · trivial
    · exact hrun.cons _
  saveQuietly {run} deeds hrun _ := solo_save fun answer => by
    have hrest : LaidToRest (.saved run answer :: deeds) := ⟨run, answer, deeds, rfl, hrun.1⟩
    split <;> exact ⟨rfl, hrun.1, hrun.2.cons _, hrest⟩
  unpersisted := by
    rintro error run deeds (hcalm | hburied) hfailed _
    · exact absurd hfailed hcalm.1
    · exact solo_log ⟨hburied.1, hburied.2.cons _⟩
  unnamed := by
    rintro error nameError run text deeds (hcalm | hburied) hopen htext hunnamed
    · exact absurd hunnamed (hcalm.2.named htext nameError)
    · exact absurd hburied.1.1 hopen
  crashed _ _ _ _ := solo_log ⟨rfl, rfl⟩

end Outline

section Delivery

variable {executor : Executor} {row : WorkflowRun} {behaviour : Behaviour}

theorem total_of_drivable (hrow : row.Drivable) : Total executor row behaviour := by
  unfold Total
  cases hopen : row.status.terminal with
  | true =>
      refine ⟨by rw [delivery_terminal hopen], fun hfalse => ?_⟩
      cases hfalse
  | false =>
      have hfresh : (totalOutline executor row ⟨row.runId, 0⟩).fresh row [] := by
        refine ⟨fun hfailed => ?_, startStep_of_drivable hrow hopen⟩
        rw [hfailed] at hopen
        cases hopen
      rcases delivery_ends _ behaviour hopen hfresh with
        ⟨run, hdriven, hended, -⟩ | ⟨error, run, hdriven, hrun, hended, hburied⟩
      · refine ⟨by rw [hended], fun _ error herror => ?_⟩
        rw [hdriven] at herror
        cases herror
      · exact ⟨hended, fun _ _ _ => ⟨run, hrun, hburied⟩⟩

/-- Where the text names no step the crash path raises itself, before anything
was done about the run. -/
theorem raises_of_not_drivable (hrow : ¬ row.Drivable) :
    ∃ error, (delivery executor row behaviour).1.1 = .error error := by
  obtain ⟨hopen, text, error, htext, hnonempty, hunnamed⟩ := unnamed_of_not_drivable hrow
  have hstart : Executor.startStep row = .error error := by
    simp [Executor.startStep, htext, hnonempty, hunnamed]
  have hfailed : row.status ≠ .failed := by
    intro hfailed
    rw [hfailed] at hopen
    cases hopen
  have hdrive : executor.drive row = .ret (.error error, row) := by
    simp only [Executor.drive, Routine.read_bind, hstart, Routine.ofExcept_error_bind]
  have hcrash : executor.crash error row = .ret (.error error, row) := by
    simp only [Executor.crash, Routine.read_bind, hfailed, if_false, htext, hunnamed,
      Routine.ofExcept_error_bind]
  have hdriven : (driving executor row behaviour).1 = (.error error, row) := by
    rw [driving, hdrive]
    rfl
  refine ⟨error, ?_⟩
  rw [delivery_crashed hopen hdriven, hcrash]
  rfl

end Delivery

/-- A delivery is total exactly if the run is drivable, whatever the handlers,
the providers and the store do. -/
theorem total_iff_drivable (executor : Executor) (row : WorkflowRun) (behaviour : Behaviour) :
    Total executor row behaviour ↔ row.Drivable := by
  refine ⟨fun htotal => ?_, total_of_drivable⟩
  by_contra hrow
  obtain ⟨error, hraised⟩ := @raises_of_not_drivable executor row behaviour hrow
  rw [htotal.1] at hraised
  cases hraised

/-- A run stored at a step that no member names any more, with everything else
as it should be: converting the text escapes from the crash path. -/
theorem not_total_at_unknown_step :
    ¬ Total sampleExecutor { sampleRow with status := .running, currentStep := some "provisioning" }
      obliging := by
  intro htotal
  have hended := htotal.1
  cases hended

end CloudioOrchestrator

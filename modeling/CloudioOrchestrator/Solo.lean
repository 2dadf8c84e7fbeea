import CloudioOrchestrator.Walk
import CloudioOrchestrator.Services
import CloudioOrchestrator.Interaction.Alone

/-! # A delivery on its own

A stored run is delivered once, whatever the clock, the providers and the store
answer. What the delivery did is kept beside it: its provider calls, its log
records, and the runs it handed to the store.
-/

namespace CloudioOrchestrator

open Interaction

/-- What a drive did, with what it was answered. -/
inductive Deed
  | called (issuer : Issuer) (call : Call) (answer : call.Answer)
  | logged (record : LogRecord)
  | saved (run : WorkflowRun) (answer : Except PyException Int)

/-- Everything that one delivery did, newest first. -/
abbrev Deeds := List Deed

/-- An environment that answers anything at all, but loads the given row. -/
abbrev solo (row : WorkflowRun) : Service Operations UUID where
  World := Deeds
  Choice := (op : Op) → op.Answer
  Outside := Empty
  serve _ choice op deeds :=
    match op with
    | .runsGet _ => (.ok (some row), deeds)
    | .runsSave run => (choice (.runsSave run), .saved run (choice (.runsSave run)) :: deeds)
    | .utcnow => (choice .utcnow, deeds)
    | .uniform => (choice .uniform, deeds)
    | .provider issuer call =>
        (choice (.provider issuer call),
          .called issuer call (choice (.provider issuer call)) :: deeds)
    | .log record => ((), .logged record :: deeds)
  outside event := nomatch event

/-- What the environment answers, by the number of the operation. -/
abbrev Behaviour := Nat → (op : Op) → op.Answer

section Delivery

variable (executor : Executor) (row : WorkflowRun) (behaviour : Behaviour)

/-- One delivery of the row: how it ended, the run it held, and what it did. -/
def delivery : (Except PyException Unit × Option WorkflowRun) × (solo row).Progress :=
  (solo row).finish ⟨row.runId, 0⟩ behaviour (executor.handle row.runId) (0, [])

/-- The driving code within the delivery, once the row is loaded. -/
def driving : (Except PyException Unit × WorkflowRun) × (solo row).Progress :=
  (solo row).finish ⟨row.runId, 0⟩ behaviour (executor.drive row) (1, [])

/-- What the delivery did. -/
def deeds : Deeds :=
  (delivery executor row behaviour).2.2

variable {executor row behaviour}

theorem delivery_terminal (hterminal : row.status.terminal = true) :
    delivery executor row behaviour = ((.ok (), some row), (1, [])) := by
  simp [delivery, Executor.handle, Service.finish, hterminal]

/-- A delivery of a run that is not terminal drives it. -/
theorem delivery_open (hopen : row.status.terminal = false) :
    delivery executor row behaviour =
      let handled := (solo row).finish ⟨row.runId, 0⟩ behaviour (executor.driveOrCrash row) (1, [])
      ((handled.1.1, some handled.1.2), handled.2) := by
  simp only [delivery, Executor.handle, Service.finish, hopen, Bool.false_eq_true, if_false]
  exact (solo row).finish_bind behaviour _ _ _

/-- The driving code, and the crash path where it raises. -/
theorem driveOrCrash_eq (executor : Executor) (run : WorkflowRun) :
    executor.driveOrCrash run = (executor.drive run).bind fun
      | (.ok (), run) => .ret (.ok (), run)
      | (.error error, run) => executor.crash error run := by
  change ((executor.drive run).bind _).bind _ = _
  rw [Prog.bind_assoc]
  congr 1
  funext ⟨ended, object⟩
  cases ended <;> rfl

/-- The driving code ended the drive by itself. -/
theorem delivery_driven (hopen : row.status.terminal = false) {run : WorkflowRun}
    (hdriven : (driving executor row behaviour).1 = (.ok (), run)) :
    delivery executor row behaviour = ((.ok (), some run), (driving executor row behaviour).2) := by
  have hdriving : (solo row).finish ⟨row.runId, 0⟩ behaviour (executor.drive row) (1, []) =
      driving executor row behaviour := rfl
  simp only [delivery_open hopen, driveOrCrash_eq, Service.finish_bind, hdriving, hdriven,
    Service.finish]

/-- What left the driving code went down the crash path. -/
theorem delivery_crashed (hopen : row.status.terminal = false) {error : PyException}
    {run : WorkflowRun} (hdriven : (driving executor row behaviour).1 = (.error error, run)) :
    delivery executor row behaviour =
      let crashed := (solo row).finish ⟨row.runId, 0⟩ behaviour (executor.crash error run)
        (driving executor row behaviour).2
      ((crashed.1.1, some crashed.1.2), crashed.2) := by
  have hdriving : (solo row).finish ⟨row.runId, 0⟩ behaviour (executor.drive row) (1, []) =
      driving executor row behaviour := rfl
  simp only [delivery_open hopen, driveOrCrash_eq, Service.finish_bind, hdriving, hdriven]

end Delivery

/-- The discipline of a delivery on its own. -/
abbrev unattended (row : WorkflowRun) : Discipline (solo row) :=
  (solo row).alone

/-- What holds of the run in memory and what was done; nobody else is about. -/
def privately {row : WorkflowRun} {drive : Client UUID} (holds : WorkflowRun → Deeds → Prop) :
    Assertion (unattended row) drive where
  holds := holds
  stable := by
    rintro run deeds _ hholds rfl _
    exact hholds

/-- The stored step is absent, or names a step. -/
def WorkflowRun.Nameable (run : WorkflowRun) : Prop :=
  run.currentStep = none ∨ ∃ step : StepName, run.currentStep = some step.value

/-- The crash path can name the step it finds there. -/
theorem WorkflowRun.Nameable.named {run : WorkflowRun} (hrun : run.Nameable) {text : String}
    (htext : run.currentStep = some text) (error : PyException) :
    stepNamed text ≠ .error error := by
  intro hunnamed
  rcases hrun with hnone | ⟨step, hstep⟩
  · rw [htext] at hnone
    cases hnone
  · rw [htext] at hstep
    obtain rfl := Option.some.inj hstep
    simp [stepNamed] at hunnamed

section Serving

variable {row run : WorkflowRun} {drive : Client UUID} {deeds : Deeds}

theorem solo_call {issuer : Issuer} {call : Call} {post : call.Answer → Deeds → Prop}
    (hpost : ∀ answer, post answer (.called issuer call answer :: deeds)) :
    Serves (unattended row) drive (.provider issuer call) deeds post :=
  fun _ => ⟨trivial, trivial, hpost _⟩

theorem solo_log {record : LogRecord} {post : Unit → Deeds → Prop}
    (hpost : post () (.logged record :: deeds)) :
    Serves (unattended row) drive (.log record) deeds post :=
  fun _ => ⟨trivial, trivial, hpost⟩

theorem solo_save {post : Except PyException Int → Deeds → Prop}
    (hpost : ∀ answer, post answer (.saved run answer :: deeds)) :
    Serves (unattended row) drive (.runsSave run) deeds post :=
  fun _ => ⟨trivial, trivial, hpost _⟩

theorem solo_utcnow (row : WorkflowRun) (drive : Client UUID) (choice : (solo row).Choice)
    (deeds : Deeds) : ((solo row).serve drive choice .utcnow deeds).2 = deeds := rfl

theorem solo_uniform (row : WorkflowRun) (drive : Client UUID) (choice : (solo row).Choice)
    (deeds : Deeds) : ((solo row).serve drive choice .uniform deeds).2 = deeds := rfl

end Serving

/-- A drive that is safe on its own ends as it should, whatever it is answered. -/
theorem finish_ends {row run : WorkflowRun} {drive : Client UUID} {body : Drive Unit}
    {post : Except PyException Unit → WorkflowRun → Deeds → Prop} (behaviour : Behaviour)
    (progress : (solo row).Progress)
    (hsafe : (unattended row).wp drive body post run progress.2) :
    let ended := (solo row).finish drive behaviour (body run) progress
    post ended.1.1 ended.1.2 ended.2.2 :=
  Discipline.Safe.finish (V := solo row) behaviour progress hsafe

section Ends

variable {executor : Executor} {row : WorkflowRun}
  (O : Outline (unattended row) ⟨row.runId, 0⟩ executor) (behaviour : Behaviour)

/-- How a delivery of a run that is not terminal ends: the drive is over, or the
driving code raised and the crash path is over. -/
theorem delivery_ends (hopen : row.status.terminal = false) (hfresh : O.fresh row []) :
    (∃ run, (driving executor row behaviour).1.1 = .ok () ∧
      (delivery executor row behaviour).1 = (.ok (), some run) ∧
      O.ended run (deeds executor row behaviour)) ∨
    (∃ error run, (driving executor row behaviour).1.1 = .error error ∧
      (delivery executor row behaviour).1.2 = some run ∧
      O.wrecked (delivery executor row behaviour).1.1 run (deeds executor row behaviour)) := by
  have hsettled := finish_ends behaviour (1, []) (O.wp_drive hfresh)
  change O.settled (driving executor row behaviour).1.1 (driving executor row behaviour).1.2
    (driving executor row behaviour).2.2 at hsettled
  cases hdriven : (driving executor row behaviour).1 with
  | mk ended run =>
      rw [hdriven] at hsettled
      cases ended with
      | ok =>
          refine .inl ⟨run, rfl, ?_⟩
          rw [deeds, delivery_driven hopen hdriven]
          exact ⟨rfl, hsettled⟩
      | error error =>
          have hcrashed : (unattended row).wp ⟨row.runId, 0⟩ (executor.crash error)
              (fun ended => O.wrecked ended) run (driving executor row behaviour).2.2 :=
            O.wp_crash hsettled
          have hwrecked := finish_ends behaviour _ hcrashed
          rw [deeds, delivery_crashed hopen hdriven]
          exact .inr ⟨error, _, rfl, rfl, hwrecked⟩

end Ends

/-- A legacy request as it is stored. -/
def sampleRow : WorkflowRun :=
  triggerLegacy 0 sampleId legacySample

/-- Everything is answered as it should be. -/
def obliging : Behaviour := fun _ op =>
  match op with
  | .runsGet _ => .ok none
  | .runsSave run => .ok (run.version + 1)
  | .utcnow => 0
  | .uniform => seconds 1
  | .provider _ call => willing call
  | .log _ => ()

end CloudioOrchestrator

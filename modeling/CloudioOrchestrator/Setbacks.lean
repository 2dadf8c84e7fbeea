import CloudioOrchestrator.Retries
import Mathlib.Algebra.Ring.Int.Defs

/-! # A drive by the stopwatch

One drive, its answers given by anybody, under a stopwatch that is set when a
step of it fails: whether the drive turns to a step again after that, and what
it has left for the store to keep.
-/

namespace CloudioOrchestrator

open Interaction

/-- A failure of a step: how often the step had failed before, and when it failed. -/
structure Setback where
  step : StepName
  failures : Nat
  since : Time

structure Stopwatch where
  clock : Time
  setback : Option Setback := none
  /-- The run as it was last committed. -/
  kept : Option WorkflowRun := none
  /-- The drive turned to a step after a setback or a commit. -/
  again : Bool := false

namespace Stopwatch

/-- The drive turns to a step. -/
def turn (watch : Stopwatch) : Stopwatch :=
  { watch with again := watch.again || watch.setback.isSome || watch.kept.isSome }

/-- A run is committed. -/
def keep (run : WorkflowRun) (watch : Stopwatch) : Stopwatch :=
  { watch with kept := some { run with version := run.version + 1 } }

/-- What the environment decides: the answers, the random backoff, and whether a
save took effect. -/
structure Reply where
  answer : (op : Op) → op.Answer
  jitter : { time : Time // seconds 1 ≤ time ∧ time ≤ seconds 5 }
  commit : Bool

/-- After a setback every save is accepted; before it a save may be answered in any way. -/
def serve (watch : Stopwatch) (reply : Reply) : (op : Op) → op.Answer × Stopwatch
  | .utcnow => (watch.clock, watch)
  | .uniform => (reply.jitter.val, watch)
  | .runsGet runId => (reply.answer (.runsGet runId), watch.turn)
  | .runsSave run =>
      if watch.setback.isSome then (.ok (run.version + 1), watch.keep run)
      else (reply.answer (.runsSave run), if reply.commit then watch.keep run else watch)
  | .provider (.step step) call =>
      (reply.answer (.provider (.step step) call), watch.turn)
  | .provider issuer call => (reply.answer (.provider issuer call), watch)
  | .log (.stepRaised step attempt _) =>
      ((), { watch.turn with setback := some ⟨step, attempt.toNat, watch.clock⟩ })
  | .log (.stepCompleted _) => ((), watch.turn)
  | .log _ => ((), watch)

end Stopwatch

/-- One drive under the stopwatch; nothing but time passes outside it. -/
abbrev timing : Service Operations UUID where
  World := Stopwatch
  Choice := Stopwatch.Reply
  Outside := Time
  serve _ reply op watch := watch.serve reply op
  outside clock watch := { watch with clock := clock }

/-- The stored run starts at the step, which failed so often before. -/
structure Afoot (row : WorkflowRun) (step : StepName) (failures : Nat) : Prop where
  start : Executor.startStep row = .ok step
  underway : Underway row step failures
    { row with status := .running, currentStep := some step.value }

/-- How long a step is put off after one more failure, at the least. -/
def putOff (base : Time) (failures : Nat) : Time :=
  backoff base ((failures : Int) + 1) (seconds 1)

theorem putOff_eq (base : Time) (failures : Nat) :
    putOff base failures = base * 2 ^ failures + seconds 1 := by
  have hcount : (1 : Int) ≤ (failures : Int) + 1 := by omega
  have hexponent : ((failures : Int) + 1 - 1).toNat = failures := by omega
  rw [putOff, backoff, if_pos hcount, hexponent]
  rfl

theorem putOff_le {base jitter : Time} (failures : Nat) (hjitter : seconds 1 ≤ jitter) :
    putOff base failures ≤ backoff base ((failures : Int) + 1) jitter := by
  have hcount : (1 : Int) ≤ (failures : Int) + 1 := by omega
  simp only [putOff, backoff, if_pos hcount]
  simp only [Time] at *
  omega

section Stopwatch

variable (row : WorkflowRun) (start : StepName) (count : Nat) (base : Time)

/-- A drive of the row comes to the step, at its count of failures: where it
starts, or further on in the plan, where none are counted. -/
def Arrives (step : StepName) (failures : Nat) : Prop :=
  step = start ∧ failures = count ∨
    failures = 0 ∧ step ∈ following (runPlans row.runType) start ∧
      following (runPlans row.runType) step ⊆ following (runPlans row.runType) start

/-- What a commit leaves of a run that is to go on: before a setback it stands
where the drive came to, and after one it waits out the backoff. -/
inductive Resting : Option Setback → WorkflowRun → Prop
  | polled {run : WorkflowRun} {step : StepName} {failures : Nat}
      (hrun : Underway row step failures run) (harrives : Arrives row start count step failures) :
      Resting none run
  | retrying {run : WorkflowRun} {setback : Setback} (due : Time)
      (hrun : Underway row setback.step (setback.failures + 1) run)
      (hunbegun : run.runState.attemptStartedAt = none) (hdue : run.scheduledAt = some due)
      (hlate : setback.since + putOff base setback.failures ≤ due) : Resting (some setback) run

/-- What a commit leaves. -/
def Left (setback : Option Setback) (run : WorkflowRun) : Prop :=
  run.status.terminal = true ∨ Resting row start count base setback run

/-- The run is the one that was loaded, in its version, at a step that has a name. -/
structure Ours (run : WorkflowRun) : Prop where
  runId : run.runId = row.runId
  version : run.version = row.version
  nameable : run.Nameable

structure Stopwatch.Sound (watch : Stopwatch) : Prop where
  once : watch.again = false
  arrived : ∀ setback, watch.setback = some setback →
    Arrives row start count setback.step setback.failures
  kept : ∀ run, watch.kept = some run → run.runId = row.runId ∧ run.version = row.version + 1 ∧
    Left row start count base watch.setback run

/-- Under a clock that goes forward. -/
def timed : Discipline timing where
  inv := Stopwatch.Sound row start count base
  rely _ watch later := ∃ clock, watch.clock ≤ clock ∧ later = { watch with clock := clock }
  guar _ _ _ := True
  refl _ watch := ⟨watch.clock, Int.le_refl _, rfl⟩
  trans := by
    intro _ first second third hfirst hsecond
    obtain ⟨clock, hclock, heq⟩ := hfirst
    obtain ⟨later, hlater, heq'⟩ := hsecond
    subst heq heq'
    exact ⟨later, Int.le_trans hclock hlater, rfl⟩

variable {row start count base}
variable {run changed : WorkflowRun} {step next : StepName} {failures : Nat} {watch : Stopwatch}
variable {drive : Client UUID}

/-- The step after one the drive has come to. -/
theorem Arrives.further {rest : List StepName} (harrives : Arrives row start count step failures)
    (hplanned : step ∈ runPlans row.runType)
    (hnext : following (runPlans row.runType) step = next :: rest) :
    Arrives row start count next 0 := by
  obtain ⟨-, hrest, -⟩ := following_eq_cons (runPlans_nodup _) hplanned hnext
  -- what the plan has after the step it has after where the drive started
  have hwithin : following (runPlans row.runType) step ⊆
      following (runPlans row.runType) start := by
    cases harrives with
    | inl hstart =>
        rw [hstart.1]
        exact List.Subset.refl _
    | inr hlater => exact hlater.2.2
  right
  constructor
  · rfl
  constructor
  · apply hwithin
    rw [hnext]
    exact List.mem_cons_self
  · rw [hrest]
    intro other hother
    apply hwithin
    rw [hnext]
    exact List.mem_cons_of_mem next hother

theorem Ours.congr (hrun : Ours row run) (hid : changed.runId = run.runId)
    (hversion : changed.version = run.version) (hstep : changed.currentStep = run.currentStep) :
    Ours row changed where
  runId := hid.trans hrun.runId
  version := hversion.trans hrun.version
  nameable := by
    unfold WorkflowRun.Nameable
    rw [hstep]
    exact hrun.nameable

/-- What is left of a run does not depend on its version. -/
theorem Left.versioned {setback : Option Setback} (hleft : Left row start count base setback run)
    (version : Int) : Left row start count base setback { run with version := version } := by
  cases hleft with
  | inl hterminal => exact .inl hterminal
  | inr hresting =>
      right
      cases hresting with
      | polled hrun harrives =>
          exact .polled (hrun.congr rfl rfl rfl rfl rfl hrun.aware) harrives
      | retrying due hrun hunbegun hdue hlate =>
          exact .retrying due (hrun.congr rfl rfl rfl rfl rfl hrun.aware) hunbegun hdue hlate

/-! ## The outline -/

/-- Nothing has failed, and nothing is committed yet. -/
def Untroubled (watch : Stopwatch) : Prop :=
  watch.setback = none ∧ watch.kept = none

variable (row start count)

/-- At a step that the drive has come to. -/
def Going (step : StepName) (run : WorkflowRun) (watch : Stopwatch) : Prop :=
  Untroubled watch ∧ Ours row run ∧ ∃ failures, Underway row step failures run ∧
    Arrives row start count step failures

/-- The step has failed, which is not counted yet. -/
def Stumbled (step : StepName) (run : WorkflowRun) (watch : Stopwatch) : Prop :=
  watch.kept = none ∧ Ours row run ∧ ∃ failures since, Underway row step failures run ∧
    watch.setback = some ⟨step, failures, since⟩ ∧ since ≤ watch.clock

/-- The step has completed. -/
def Gone (step : StepName) (run : WorkflowRun) (watch : Stopwatch) : Prop :=
  Untroubled watch ∧ Ours row run ∧ run.runType = row.runType ∧
    (∀ next ∈ runPlans row.runType,
      Underway row next 0 { run with currentStep := some next.value }) ∧
    step ∈ runPlans row.runType ∧ ∃ failures, Arrives row start count step failures

/-- The run has ended badly, and is not committed so yet. -/
def Lost (status : RunStatus) (run : WorkflowRun) (_ : Stopwatch) : Prop :=
  Ours row run ∧ run.status = status

/-- A failure of a step has been committed. -/
def Settled (_ : WorkflowRun) (watch : Stopwatch) : Prop :=
  watch.setback.isSome → watch.kept.isSome

variable {row start count}

theorem Going.stumbles (hrun : Going row start count step run watch) :
    Stumbled row step run
      { watch.turn with
        setback := some ⟨step, (run.runState.attempts step).toNat, watch.clock⟩ } := by
  obtain ⟨⟨-, hkept⟩, hours, failures, hunderway, -⟩ := hrun
  refine ⟨hkept, hours, failures, watch.clock, hunderway, ?_, Int.le_refl _⟩
  rw [hunderway.attempts_eq]
  simp

theorem Going.goes (hrun : Going row start count step run watch) :
    Gone row start count step (steppedRun step run) watch := by
  obtain ⟨huntroubled, hours, failures, hunderway, harrives⟩ := hrun
  refine ⟨huntroubled, hours.congr rfl rfl rfl, hunderway.runType, ?_, hunderway.planned, failures,
    harrives⟩
  intro next hnext
  refine ⟨hunderway.runType, hunderway.maxRetries, hunderway.status, rfl, hnext, ?_, ?_⟩
  · change run.runState.stepAttempts.pop step = .empty
    rw [hunderway.attempts, tally_pop]
  · simp [steppedRun]

/-- Turning to a step is nothing to note before a setback and a commit. -/
theorem Untroubled.turned (huntroubled : Untroubled watch) : watch.turn = watch := by
  obtain ⟨hsetback, hkept⟩ := huntroubled
  cases watch
  simp only at hsetback hkept
  simp [Stopwatch.turn, hsetback, hkept]

/-- What holds of the run in memory and under the stopwatch, whatever time it is. -/
def anytime (holds : WorkflowRun → Stopwatch → Prop)
    (hstable : ∀ run watch clock, holds run watch → watch.clock ≤ clock →
      holds run { watch with clock := clock }) :
    Assertion (timed row start count base) drive where
  holds := holds
  stable := by
    intro run watch later hholds hrely _
    obtain ⟨clock, hclock, heq⟩ := hrely
    rw [heq]
    exact hstable run watch clock hholds hclock

/-- A call that no step makes. -/
theorem timed_call {issuer : Issuer} {call : Call} {post : call.Answer → Stopwatch → Prop}
    (hinv : watch.Sound row start count base) (hissuer : ∀ step, issuer ≠ .step step)
    (hpost : ∀ answer, post answer watch) :
    Serves (timed row start count base) drive (.provider issuer call) watch post := by
  intro reply
  cases issuer with
  | step step => exact absurd rfl (hissuer step)
  | _ => exact ⟨hinv, trivial, hpost _⟩

/-- A log record that is about no step. -/
theorem timed_log {record : LogRecord} {post : Unit → Stopwatch → Prop}
    (hinv : watch.Sound row start count base)
    (hraised : ∀ step attempt error, record ≠ .stepRaised step attempt error)
    (hcompleted : ∀ step, record ≠ .stepCompleted step) (hpost : post () watch) :
    Serves (timed row start count base) drive (.log record) watch post := by
  intro reply
  cases record with
  | stepRaised step attempt error => exact absurd rfl (hraised step attempt error)
  | stepCompleted step => exact absurd rfl (hcompleted step)
  | _ => exact ⟨hinv, trivial, hpost⟩

/-- A save of a run that may be left: after a setback it is accepted. -/
theorem timed_save {post : Except PyException Int → Stopwatch → Prop}
    (hinv : watch.Sound row start count base) (hours : Ours row run)
    (hleft : Left row start count base watch.setback run)
    (haccepted : post (.ok (run.version + 1)) (watch.keep run))
    (hanswered : watch.setback = none → ∀ answer final,
      final.setback = none → post answer final) :
    Serves (timed row start count base) drive (.runsSave run) watch post := by
  have hkeep : (watch.keep run).Sound row start count base := by
    refine ⟨hinv.once, hinv.arrived, ?_⟩
    intro kept hkept
    obtain rfl : { run with version := run.version + 1 } = kept := Option.some.inj hkept
    refine ⟨hours.runId, ?_, hleft.versioned _⟩
    change run.version + 1 = row.version + 1
    rw [hours.version]
  intro reply
  change (timed row start count base).inv (watch.serve reply (.runsSave run)).2 ∧ True ∧
    post (watch.serve reply (.runsSave run)).1 (watch.serve reply (.runsSave run)).2
  simp only [Stopwatch.serve]
  cases hsetback : watch.setback with
  | some setback => exact ⟨hkeep, trivial, haccepted⟩
  | none =>
      simp only [Option.isSome_none, Bool.false_eq_true, if_false]
      cases reply.commit with
      | true => exact ⟨hkeep, trivial, hanswered hsetback _ _ hsetback⟩
      | false => exact ⟨hinv, trivial, hanswered hsetback _ _ hsetback⟩

variable (row start count base) {executor : Executor}

/-- From the end of the turns on: the run is saved as it may be left. -/
def timedRest : Ending (timed row start count base) drive where
  denied := anytime (Lost row .rejected) fun _ _ _ hrun _ => hrun
  dismissed := anytime (Lost row .rejected) fun _ _ _ hrun _ => hrun
  failing _ := anytime (Lost row .failed) fun _ _ _ hrun _ => hrun
  escalating _ := anytime (Lost row .failed) fun _ _ _ hrun _ => hrun
  failed := anytime (Lost row .failed) fun _ _ _ hrun _ => hrun
  released := anytime (Lost row .failed) fun _ _ _ hrun _ => hrun
  pending := anytime (fun run watch => Ours row run ∧ Left row start count base watch.setback run)
    fun _ _ _ hrun _ => hrun
  quiet := anytime (Lost row .failed) fun _ _ _ hrun _ => hrun
  troubled _ := anytime (fun run _ => Ours row run) fun _ _ _ hrun _ => hrun
  ended := anytime Settled fun _ _ _ hrun _ => hrun
  wrecked _ := anytime Settled fun _ _ _ hrun _ => hrun
  release hrun hinv _ := timed_call hinv (by simp) fun _ => hrun
  unheld hrun _ := hrun
  dismissed_pending := by
    intro run watch hrun
    refine ⟨hrun.1, .inl ?_⟩
    rw [hrun.2]
    rfl
  logEscalating hrun hinv := timed_log hinv (by simp) (by simp) hrun
  openIncident request hrun hinv := by
    apply timed_call hinv (by simp)
    intro answer
    split
    · exact ⟨hrun.1.congr rfl rfl rfl, hrun.2⟩
    · exact hrun
  escalating_failed hrun := hrun
  aftermath hrun hinv hcall := by
    apply timed_call hinv _ fun _ => hrun
    intro step hissuer
    cases hcall <;> cases hissuer
  ticketClosed hrun := ⟨hrun.1.congr rfl rfl rfl, hrun.2⟩
  releaseFailed hrun hinv _ := timed_call hinv (by simp) fun _ => hrun
  unheldFailed hrun _ := hrun
  released_pending := by
    intro run watch hrun
    refine ⟨hrun.1, .inl ?_⟩
    rw [hrun.2]
    rfl
  released_quiet hrun := hrun
  save := by
    intro run watch hrun hinv
    apply timed_save hinv hrun.1 hrun.2
    · intro _
      rfl
    · intro _ answer final hsetback
      have hsettled : Settled run final := by simp [Settled, hsetback]
      split
      · exact hsettled
      · exact hsettled
      · exact hrun.1
  saveQuietly := by
    intro run watch hrun hinv
    have hleft : Left row start count base watch.setback run := by
      left
      rw [hrun.2]
      rfl
    apply timed_save hinv hrun.1 hleft
    · intro _
      rfl
    · intro _ answer final hsetback
      have hsettled : Settled run final := by simp [Settled, hsetback]
      split
      · exact hsettled
      · exact hsettled
  unpersisted hrun hfailed hinv := timed_log hinv (by simp) (by simp) ⟨hrun, hfailed⟩
  unnamed := by
    intro error nameError run text watch hrun _ htext hunnamed
    exact absurd hunnamed (hrun.nameable.named htext nameError)
  crashed := by
    intro error run named watch hrun _ _ hinv
    apply timed_log hinv (by simp) (by simp)
    exact ⟨hrun.congr rfl rfl rfl, rfl⟩

variable {row start count base}

/-- Time changes nothing about a run at a step. -/
theorem Stumbled.mono {clock : Time} (hrun : Stumbled row step run watch)
    (hclock : watch.clock ≤ clock) : Stumbled row step run { watch with clock := clock } := by
  obtain ⟨hkept, hours, failures, since, hunderway, hsetback, hsince⟩ := hrun
  exact ⟨hkept, hours, failures, since, hunderway, hsetback, Int.le_trans hsince hclock⟩

/-- A failure that may be retried is left to wait out a backoff that is counted from now. -/
theorem Stumbled.rests {engines : List WorkflowEngineType} {handler : StepHandler}
    {jitter due : Time} (hrun : Stumbled row step run watch)
    (hhandler : buildHandlers engines step = some handler) (hjitter : seconds 1 ≤ jitter)
    (hdue : later watch.clock (backoff base (run.runState.attempts step + 1) jitter) = .ok due) :
    Ours row { retriedRun step handler run with scheduledAt := some due } ∧
      Left row start count base watch.setback
        { retriedRun step handler run with scheduledAt := some due } := by
  obtain ⟨-, hours, failures, since, hunderway, hsetback, hsince⟩ := hrun
  refine ⟨hours.congr rfl rfl rfl, .inr ?_⟩
  rw [hsetback]
  apply Resting.retrying due ((hunderway.retried hhandler).rescheduled _) rfl rfl
  rw [hunderway.attempts_eq] at hdue
  have hput : putOff base failures ≤ _ := putOff_le failures hjitter
  unfold later at hdue
  split at hdue
  next =>
    have heq := Except.ok.inj hdue
    simp only [Time] at *
    omega
  next => cases hdue

theorem Going.polls (hrun : Going row start count step run watch) (due : Time) :
    Ours row { run with scheduledAt := some due } ∧
      Left row start count base watch.setback { run with scheduledAt := some due } := by
  obtain ⟨⟨hsetback, -⟩, hours, failures, hunderway, harrives⟩ := hrun
  refine ⟨hours.congr rfl rfl rfl, .inr ?_⟩
  rw [hsetback]
  exact .polled (hunderway.rescheduled _) harrives

variable (start count base)

/-- The turns, up to where a step fails, completes or is to be polled. -/
def timedCloseup {engines : List WorkflowEngineType}
    (hwired : executor.handlers = buildHandlers engines) (hafoot : Afoot row start count) :
    Closeup (timed row start count executor.retryBase) drive executor where
  rest := timedRest row start count executor.retryBase
  fresh := anytime (fun run watch => run = row ∧ Untroubled watch) fun _ _ _ hrun _ => hrun
  entering step := anytime (Going row start count step) fun _ _ _ hrun _ => hrun
  noted step := anytime (Going row start count step) fun _ _ _ hrun _ => hrun
  ready step _ := anytime (Going row start count step) fun _ _ _ hrun _ => hrun
  tried step attempt _ := anytime (fun run watch => Going row start count step run watch ∧
    attempt = run.runState.attempts step) fun _ _ _ hrun _ => hrun
  raised step _ := anytime (Stumbled row step) fun _ _ _ hrun hclock => hrun.mono hclock
  drawn step _ jitter := anytime (fun run watch => Stumbled row step run watch ∧
    seconds 1 ≤ jitter) fun _ _ _ hrun hclock => ⟨hrun.1.mono hclock, hrun.2⟩
  passed step := anytime (Gone row start count step) fun _ _ _ hrun _ => hrun
  utcnow _ _ hinv := ⟨hinv, trivial⟩
  uniform _ _ hinv := ⟨hinv, trivial⟩
  start := by
    intro run watch step hrun hstart
    obtain ⟨rfl, huntroubled⟩ := hrun
    -- the row is driven on from where the watch began, with the count it had
    obtain rfl := Except.ok.inj (hafoot.start.symm.trans hstart)
    exact ⟨huntroubled, ⟨rfl, rfl, .inr ⟨_, rfl⟩⟩, count, hafoot.underway, .inl ⟨rfl, rfl⟩⟩
  badStart := by
    intro run watch error hrun hbad
    obtain ⟨rfl, -⟩ := hrun
    rw [hafoot.start] at hbad
    cases hbad
  unhandled hrun _ := hrun.2.1
  note choice hrun _ := by
    obtain ⟨huntroubled, hours, failures, hunderway, harrives⟩ := hrun
    exact ⟨huntroubled, hours.congr rfl rfl rfl, failures,
      hunderway.congr rfl rfl rfl rfl rfl hunderway.aware, harrives⟩
  resume hrun _ := hrun
  begin choice hrun _ _ := by
    obtain ⟨huntroubled, hours, failures, hunderway, harrives⟩ := hrun
    refine ⟨huntroubled, hours.congr rfl rfl rfl, failures,
      hunderway.congr rfl rfl rfl rfl rfl ?_, harrives⟩
    simp [begunRun]
  glance _ hrun _ := hrun
  naive hrun := hrun.2.1
  late _ _ hrun _ _ := ⟨hrun, rfl⟩
  execute {step} handler started run watch hhandler hrun _ := by
    rw [hwired] at hhandler
    obtain ⟨huntroubled, hours, failures, hunderway, harrives⟩ := hrun
    apply Discipline.wp_mono (wp_handler (fun _ watch => Untroubled watch) hhandler ?_ ?_
      huntroubled)
    · intro ended state final hended
      obtain ⟨trace, huntroubled, hend⟩ := hended
      have hattempts : state.stepAttempts = run.runState.stepAttempts := hend.stepAttempts
      refine ⟨⟨huntroubled, hours.congr rfl rfl rfl, failures,
        hunderway.congr rfl rfl rfl rfl hattempts ?_, harrives⟩, ?_⟩
      · intro instant
        change state.attemptStartedAt ≠ _
        rw [hend.times.2]
        exact hunderway.aware instant
      · simp only [RunState.attempts, hattempts]
    · intro _ watch current huntroubled hrely _
      obtain ⟨clock, -, rfl⟩ := hrely
      exact huntroubled
    · intro _ call watch huntroubled _ hinv reply
      change (timed row start count executor.retryBase).inv watch.turn ∧ True ∧
        Untroubled watch.turn
      rw [huntroubled.turned]
      exact ⟨hinv, trivial, huntroubled⟩
  reject hrun := ⟨hrun.1.2.1.congr rfl rfl rfl, rfl⟩
  logRaised := by
    intro step attempt error run watch hrun _ hinv reply
    obtain ⟨hrun, rfl⟩ := hrun
    -- this is the drive's first failure, and it has saved nothing before it
    have hstumbled := hrun.stumbles
    obtain ⟨huntroubled, -, failures, hunderway, harrives⟩ := hrun
    refine ⟨⟨?_, ?_, ?_⟩, trivial, hstumbled⟩
    · change watch.turn.again = false
      rw [huntroubled.turned]
      exact hinv.once
    · intro setback hsetback
      obtain rfl := Option.some.inj hsetback
      rw [hunderway.attempts_eq, Int.toNat_natCast]
      exact harrives
    · intro kept hkept
      have hnone : watch.kept = none := huntroubled.2
      change watch.kept = some kept at hkept
      rw [hnone] at hkept
      cases hkept
  draw reply hrun _ := ⟨hrun, reply.jitter.property.1⟩
  retry choice hhandler hrun _ _ hdue := by
    rw [hwired] at hhandler
    exact hrun.1.rests hhandler hrun.2 hdue
  retryOverflow _ _ hrun _ _ _ := hrun.1.2.1.congr rfl rfl rfl
  giveUp hrun _ := ⟨hrun.2.1.congr rfl rfl rfl, rfl⟩
  poll _ _ hrun _ _ := hrun.1.polls _
  pollOverflow _ _ hrun _ _ := hrun.1.2.1
  logCompleted := by
    intro step attempt run watch hrun hinv reply
    obtain ⟨hrun, -⟩ := hrun
    change (timed row start count executor.retryBase).inv watch.turn ∧ True ∧
      Gone row start count step (steppedRun step run) watch.turn
    rw [hrun.1.turned]
    exact ⟨hinv, trivial, hrun.goes⟩
  offPlan hrun _ := hrun.2.1
  next := by
    intro step next rest run watch hrun _ hnext
    obtain ⟨huntroubled, hours, htype, hunderway, hplanned, failures, harrives⟩ := hrun
    rw [htype] at hnext
    obtain ⟨hin, -, -⟩ := following_eq_cons (runPlans_nodup _) hplanned hnext
    refine ⟨huntroubled, ⟨hours.runId, hours.version, .inr ⟨next, rfl⟩⟩, 0, hunderway next hin, ?_⟩
    exact harrives.further hplanned hnext
  finish hrun _ _ := ⟨⟨hrun.2.1.runId, hrun.2.1.version, .inl rfl⟩, .inl rfl⟩

/-- A drive of a row turns to no step once a step of it has failed, and leaves the
row to wait out the backoff, or ended. -/
theorem timed_driveOrCrash {engines : List WorkflowEngineType}
    (hwired : executor.handlers = buildHandlers engines) (hafoot : Afoot row start count)
    (clock : Time) :
    (timed row start count executor.retryBase).wp drive executor.driveOrCrash
      (fun _ => Settled) row { clock := clock } := by
  let C : Closeup (timed row start count executor.retryBase) drive executor :=
    timedCloseup start count hwired hafoot
  have hfresh : C.fresh row { clock := clock } := ⟨rfl, rfl, rfl⟩
  apply Discipline.wp_mono (C.wp_driveOrCrash hfresh)
  intro ended run watch hended
  cases hended with
  | inl hover => exact hover.2
  | inr hwrecked => exact hwrecked

end Stopwatch

end CloudioOrchestrator

import CloudioOrchestrator.Solo
import CloudioOrchestrator.Interleaving
import CloudioOrchestrator.Handlers

/-! # A drive with the store to itself

The providers answer as they are given to, the database works, and nobody else
touches the store: what is left open is the time, which stays within bounds,
and the random backoff. One rule for each function of the driver says what a
drive makes of the rows and of the history then.
-/

namespace CloudioOrchestrator

open Interaction Drive

/-- What is left open while one operation is served. -/
structure Moment (opens closes : Time) where
  time : Time
  jitter : { time : Time // seconds 1 ≤ time ∧ time ≤ seconds 5 } := ⟨seconds 1, jitter_within⟩
  opens_le : opens ≤ time
  le_closes : time ≤ closes

/-- The rows and the history, which is what a drive changes. -/
abbrev Books := Store.Rows × History

/-- The system as a drive finds it that has the store to itself. -/
abbrev attended (answer : (call : Call) → call.Answer) (opens closes : Time) :
    Service Operations UUID where
  World := Books
  Choice := Moment opens closes
  Outside := Empty
  serve drive moment op books :=
    let served := World.serve drive { answer := answer, jitter := moment.jitter } op
      ⟨books.1, books.2, moment.time⟩
    (served.1, served.2.rows, served.2.history)
  outside event := nomatch event

def World.books (world : World) : Books :=
  (world.rows, world.history)

section Rules

variable {answer : (call : Call) → call.Answer} {opens closes : Time} {drive : DriveId}
  {run : WorkflowRun} {books : Books}

theorem attended_utcnow {post : Except PyException Time → WorkflowRun → Books → Prop}
    (hpost : ∀ now, opens ≤ now → now ≤ closes → post (.ok now) run books) :
    (attended answer opens closes).alone.wp drive (perform .utcnow) post run books :=
  Discipline.alone_ask.mpr fun moment => hpost moment.time moment.opens_le moment.le_closes

theorem attended_uniform {post : Except PyException Time → WorkflowRun → Books → Prop}
    (hpost : ∀ jitter, seconds 1 ≤ jitter → jitter ≤ seconds 5 → post (.ok jitter) run books) :
    (attended answer opens closes).alone.wp drive (perform .uniform) post run books :=
  Discipline.alone_ask.mpr fun moment =>
    hpost moment.jitter.val moment.jitter.property.1 moment.jitter.property.2

theorem attended_log {record : LogRecord}
    {post : Except PyException Unit → WorkflowRun → Books → Prop}
    (hpost : post (.ok ()) run (books.1, .logged drive record :: books.2)) :
    (attended answer opens closes).alone.wp drive (log record) post run books :=
  Discipline.alone_ask.mpr fun _ => hpost

theorem attended_issue {issuer : Issuer} {call : Call}
    {post : Except PyException call.Result → WorkflowRun → Books → Prop}
    (hpost : post ((answer call).mapError ProviderError.toException) run
      (books.1, .called drive issuer call (answer call) (answer call).isOk :: books.2)) :
    (attended answer opens closes).alone.wp drive (issue issuer call) post run books := by
  simp only [issue, Discipline.wp_bind, Discipline.wp_ofExcept]
  apply Discipline.alone_ask.mpr
  intro moment
  simpa [World.serve, World.record] using hpost

/-- The save of a run whose version is the stored one. -/
theorem attended_save {row : WorkflowRun} (hsave : Store.save books.1 run = .ok row)
    {post : Except PyException Unit → WorkflowRun → Books → Prop}
    (hpost : post (.ok ()) { run with version := row.version }
      (Store.put books.1 row, .saved drive row :: books.2)) :
    (attended answer opens closes).alone.wp drive Executor.save post run books := by
  simp only [Executor.save, Discipline.wp_bind, Discipline.wp_read]
  apply Discipline.alone_ask.mpr
  intro moment
  simp only [World.serve, World.save, hsave, World.commit]
  exact hpost

/-- The run as the store keeps it once it was saved. -/
def savedRun (run : WorkflowRun) : WorkflowRun :=
  { run with version := run.version + 1 }

/-- The store has the run at the version the drive holds it at. -/
def Stored (rows : Store.Rows) (run : WorkflowRun) : Prop :=
  ∃ db, Store.get rows run.runId = some db ∧ db.version = run.version ∧ db.SameOrigin run

theorem Stored.congr {rows : Store.Rows} {changed : WorkflowRun} (hstored : Stored rows run)
    (hsame : run.SameOrigin changed) (hversion : changed.version = run.version) :
    Stored rows changed := by
  obtain ⟨db, hget, hdb, horigin⟩ := hstored
  exact ⟨db, hsame.runId ▸ hget, hdb.trans hversion.symm, horigin.trans hsame⟩

theorem Stored.save {rows : Store.Rows} (hstored : Stored rows run) :
    Store.save rows run = .ok (savedRun run) := by
  obtain ⟨db, hget, hversion, hid, htype, hidentifier, hcreator, hretries⟩ := hstored
  simp [Store.save, hget, hversion, savedRun, hid, htype, hidentifier, hcreator, hretries]

/-- What was saved is what the next drive loads. -/
theorem Stored.get_put {rows : Store.Rows} (hstored : Stored rows run) :
    Store.get (Store.put rows (savedRun run)) run.runId = some (savedRun run) := by
  obtain ⟨db, hget, -⟩ := hstored
  have htaken : Store.get rows (savedRun run).runId ≠ none := by
    simp [savedRun, hget]
  rw [Store.get_put run.runId htaken]
  exact if_pos rfl

theorem attended_stored (hstored : Stored books.1 run)
    {post : Except PyException Unit → WorkflowRun → Books → Prop}
    (hpost : post (.ok ()) (savedRun run)
      (Store.put books.1 (savedRun run), .saved drive (savedRun run) :: books.2)) :
    (attended answer opens closes).alone.wp drive Executor.save post run books :=
  attended_save hstored.save hpost

theorem attended_schedule {delay : Time} (hlater : closes + delay ≤ datetimeMax)
    {post : Except PyException Unit → WorkflowRun → Books → Prop}
    (hpost : ∀ due, opens + delay ≤ due → due ≤ closes + delay →
      (attended answer opens closes).alone.wp drive Executor.save post
        { run with scheduledAt := some due } books) :
    (attended answer opens closes).alone.wp drive (Executor.schedule delay) post run books := by
  simp only [Executor.schedule, Discipline.wp_bind, Discipline.wp_ofExcept, Discipline.wp_update]
  apply attended_utcnow
  intro now hopens hcloses
  have hdue : later now delay = .ok (now + delay) := by
    rw [later, if_pos]
    exact Int.le_trans (Int.add_le_add_right hcloses delay) hlater
  simp only [hdue]
  exact hpost _ (Int.add_le_add_right hopens delay) (Int.add_le_add_right hcloses delay)

/-- When the attempt under way began, or begins now. -/
def Dated (opens closes : Time) (run : WorkflowRun) (started : Time) : Prop :=
  run.runState.attemptStartedAt = some (.aware started) ∨
    run.runState.attemptStartedAt = none ∧ opens ≤ started ∧ started ≤ closes

/-- The run at a step, once the beginnings of the step and the attempt are noted. -/
def stampedRun (step : StepName) (now started : Time) (run : WorkflowRun) : WorkflowRun :=
  { run with
    currentStep := some step.value
    runState := { run.runState with
      stepStartedAt := run.runState.stepStartedAt.setDefault step (.aware now)
      attemptStartedAt := some (.aware started) } }

theorem attended_stamp {step : StepName}
    (hnaive : ∀ instant, run.runState.attemptStartedAt ≠ some (.naive instant))
    {post : Except PyException Datetime → WorkflowRun → Books → Prop}
    (hpost : ∀ now started, opens ≤ now → now ≤ closes → Dated opens closes run started →
      post (.ok (.aware started))
        { run with runState := (stampedRun step now started run).runState } books) :
    (attended answer opens closes).alone.wp drive (Executor.stamp step) post run books := by
  simp only [Executor.stamp, Discipline.wp_bind, wp_updateState, Discipline.wp_read]
  apply attended_utcnow
  intro now hopens hcloses
  simp only
  cases hstarted : run.runState.attemptStartedAt with
  | none =>
      simp only [Discipline.wp_bind, wp_updateState, Discipline.wp_pure]
      apply attended_utcnow
      intro started hfrom huntil
      exact hpost now started hopens hcloses (.inr ⟨hstarted, hfrom, huntil⟩)
  | some datetime =>
      cases datetime with
      | naive instant => exact absurd hstarted (hnaive instant)
      | aware started =>
          have hpassed := hpost now started hopens hcloses (.inl hstarted)
          simp only [stampedRun, ← hstarted] at hpassed
          simpa only [Discipline.wp_pure, hstarted] using hpassed

/-- What a turn does with the outcome of its step. -/
def afterAttempt (executor : Executor) (step : StepName) (handler : StepHandler) (attempt : Int) :
    Except PyException Bool → Drive Bool
  | .error (.runRejected message) => do
      Executor.rejectRun step message
      return false
  | .error error => do
      log (.stepRaised step attempt error)
      executor.onStepError step handler error
      return false
  | .ok false => do
      Executor.schedule handler.pollInterval
      return false
  | .ok true => do
      log (.stepCompleted step)
      updateState fun state =>
        { state with stepAttempts := state.stepAttempts.pop step, attemptStartedAt := none }
      return true

/-- One turn within the step's budget: the handler, then what follows from how it ended. -/
theorem attended_turn {executor : Executor} {step : StepName} {handler : StepHandler}
    (hhandler : executor.handlers step = some handler)
    (hnaive : ∀ instant, run.runState.attemptStartedAt ≠ some (.naive instant))
    (hbudget : ∀ started, Dated opens closes run started →
      closes - started ≤ handler.maxStepDuration)
    {post : Except PyException Bool → WorkflowRun → Books → Prop}
    (hexecute : ∀ now started, opens ≤ now → now ≤ closes → Dated opens closes run started →
      (attended answer opens closes).alone.wp drive
        (onProviders step (handler.execute (stampedRun step now started run)))
        (fun ended object books => (attended answer opens closes).alone.wp drive
          (afterAttempt executor step handler (run.runState.attempts step) ended) post object books)
        (stampedRun step now started run) books) :
    (attended answer opens closes).alone.wp drive (executor.turn step) post run books := by
  simp only [Executor.turn, hhandler, Discipline.wp_bind, Discipline.wp_update,
    Discipline.wp_read, Discipline.wp_ofExcept, Discipline.wp_attempt]
  refine attended_stamp ?_ fun now started hopens hcloses hdated => ?_
  · exact hnaive
  simp only
  apply attended_utcnow
  intro logged _ _
  simp only [elapsed, Executor.attemptStep, Discipline.wp_bind, Discipline.wp_ofExcept]
  apply attended_utcnow
  intro tried _ htried
  have hspent : ¬ handler.maxStepDuration < tried - started :=
    Int.not_lt.mpr (Int.le_trans (Int.sub_le_sub_right htried started) (hbudget started hdated))
  simp only [if_neg hspent]
  exact hexecute now started hopens hcloses hdated

/-- The calls of a handler as the history has them. -/
def calledEvents (drive : DriveId) (step : StepName) (trace : Trace Providers) : History :=
  trace.map fun exchange =>
    .called drive (.step step) exchange.op exchange.answer exchange.answer.isOk

/-- A handler ends as specified, with the exchanges the providers make of its calls. -/
theorem attended_handler {engines : List WorkflowEngineType} {step : StepName}
    {handler : StepHandler} (hhandler : buildHandlers engines step = some handler)
    {post : Except PyException Bool → WorkflowRun → Books → Prop}
    (hpost : ∀ trace ended final, HandlerEnd engines run run.runState step trace ended final →
      (∀ exchange ∈ trace, exchange.answer = answer exchange.op) →
      post ended { run with runState := final }
        (books.1, calledEvents drive step trace ++ books.2)) :
    (attended answer opens closes).alone.wp drive (onProviders step (handler.execute run)) post
      run books := by
  rw [wp_onProviders]
  refine Discipline.Safe.mono (wp_handler (fun trace current =>
    current = (books.1, calledEvents drive step trace ++ books.2) ∧
      ∀ exchange ∈ trace, exchange.answer = answer exchange.op) hhandler ?_ ?_ ?_) ?_
  · rintro trace world current hrelated rfl -
    exact hrelated
  · rintro trace call world ⟨rfl, hanswers⟩ - - moment
    refine ⟨trivial, trivial, ?_, ?_⟩
    · simp [World.serve, World.record, calledEvents]
    · intro exchange hexchange
      rcases List.mem_cons.mp hexchange with rfl | hearlier
      · rfl
      · exact hanswers exchange hearlier
  · exact ⟨rfl, by simp⟩
  · rintro ⟨ended, final⟩ world ⟨trace, ⟨rfl, hanswers⟩, hend⟩
    exact hpost trace ended final hend hanswers

/-- A turn that goes on to the next step of the plan when it completes. -/
theorem wp_advance_cons {V : Service Operations UUID} {D : Discipline V} {world : V.World}
    {executor : Executor} {plan rest : List StepName} {step next : StepName} (hstep : step ∈ plan)
    {post : Except PyException Unit → WorkflowRun → V.World → Prop}
    (hturn : D.wp drive (executor.turn step) (fun ended object world => match ended with
      | .ok true => D.wp drive (executor.advance plan rest next) post object world
      | .ok false => post (.ok ()) object world
      | .error error => post (.error error) object world) run world) :
    D.wp drive (executor.advance plan (next :: rest) step) post run world := by
  simp only [Executor.advance, Executor.proceed, Discipline.wp_bind]
  refine Discipline.wp_mono hturn ?_
  rintro (error | _ | _) object final hfinal
  · exact hfinal
  · exact hfinal
  · simpa [hstep] using hfinal

/-- Whatever a program does, what happened stays on record. -/
theorem attended_keeps {α : Type} {event : Event} (program : Prog Operations α)
    (hevent : event ∈ books.2) :
    (attended answer opens closes).alone.Safe drive (fun _ final => event ∈ final.2) program
      books := by
  refine Discipline.Safe.of_serves (D := (attended answer opens closes).alone)
    (P := fun final : Books => event ∈ final.2) program ?_ ?_ hevent
  · rintro world current hworld rfl -
    exact hworld
  · intro op current moment _ hcurrent
    exact ⟨trivial, trivial, (World.grows_serve drive
      { answer := answer, jitter := moment.jitter } op fun _ _ => trivial).mem hcurrent⟩

/-- What a turn put on record is on record when the drive is over. -/
theorem attended_advance_keeps {event : Event} {executor : Executor} {plan rest : List StepName}
    {step : StepName}
    (hturn : (attended answer opens closes).alone.wp drive (executor.turn step)
      (fun _ _ final => event ∈ final.2) run books) :
    (attended answer opens closes).alone.wp drive (executor.advance plan rest step)
      (fun _ _ final => event ∈ final.2) run books := by
  cases rest <;> simp only [Executor.advance, Executor.proceed, Discipline.wp_bind]
  all_goals
    refine Discipline.wp_mono hturn ?_
    rintro (error | completed) object final hfinal
    · exact hfinal
    · exact attended_keeps _ hfinal

/-- A drive enters the loop at the step it starts at. -/
theorem wp_drive_of_start {V : Service Operations UUID} {D : Discipline V} {world : V.World}
    {executor : Executor} {step : StepName} (hstart : Executor.startStep run = .ok step)
    {post : Except PyException Unit → WorkflowRun → V.World → Prop}
    (hloop : D.wp drive
      (executor.advance (runPlans run.runType) (following (runPlans run.runType) step) step) post
      { run with status := .running, currentStep := some step.value } world) :
    D.wp drive executor.drive post run world := by
  simpa only [Executor.drive, Discipline.wp_bind, Discipline.wp_read, Discipline.wp_ofExcept,
    hstart, Discipline.wp_update] using hloop

theorem startStep_triggered (now : Time) (runId : UUID) (workflow : Workflow)
    (request : TriggerRequest) :
    Executor.startStep (triggered now runId workflow request) = .ok (firstStep workflow.runType) :=
  rfl

/-- The delivery of a run that is not terminal. -/
theorem attended_delivery {executor : Executor} {row : WorkflowRun} {runId : UUID}
    (hget : Store.get books.1 runId = some row) (hopen : row.status.terminal = false)
    {post : Except PyException Unit × Option WorkflowRun → Books → Prop}
    (hdrive : (attended answer opens closes).alone.wp drive executor.driveOrCrash
      (fun ended run final => post (ended, some run) final) row
      (books.1, .loaded drive row :: books.2)) :
    (attended answer opens closes).alone.Safe drive post (executor.handle runId) books := by
  rintro current rfl - moment
  refine ⟨trivial, trivial, ?_⟩
  simp only [World.serve, World.load, hget, World.record, hopen, Bool.false_eq_true, if_false]
  rw [Discipline.safe_bind]
  exact hdrive

/-- The drive of a delivery, where it does not raise. -/
theorem attended_driveOrCrash {executor : Executor}
    {post : Except PyException Unit → WorkflowRun → Books → Prop}
    (hdrive : (attended answer opens closes).alone.wp drive executor.drive
      (fun ended run final => ended = .ok () ∧ post (.ok ()) run final) run books) :
    (attended answer opens closes).alone.wp drive executor.driveOrCrash post run books := by
  rw [Discipline.wp, driveOrCrash_eq, Discipline.safe_bind]
  refine Discipline.Safe.mono hdrive ?_
  rintro ⟨ended, run⟩ final ⟨rfl, hfinal⟩
  exact hfinal

end Rules

/-- A delivery that has the store to itself is a run of the system that delivers
the run last. -/
theorem finish_reached (executor : Executor) (answer : (call : Call) → call.Answer)
    {opens closes : Time} (moments : Nat → Moment opens closes)
    (threads : List (UUID × Prog Operations (Except PyException Unit × Option WorkflowRun)))
    (runId : UUID) (world : World) :
    let ended := (attended answer opens closes).finish ⟨runId, threads.length⟩ moments
      (executor.handle runId) (0, world.books)
    ∃ (moves : List (Move system)) (final : World), final.books = ended.2.2 ∧
      Pool.run executor.handle (.start runId :: moves) ⟨world, threads⟩ =
        ⟨final, threads ++ [(runId, .ret ended.1)]⟩ :=
  Pool.exists_run_finish (V := system) (W := attended answer opens closes) World.books
    (fun _ moment _ _ =>
      ⟨.tick moment.time, { answer := answer, jitter := moment.jitter }, rfl⟩)
    executor.handle moments threads runId (executor.handle runId) 0 world

/-- What holds at the end of such a delivery holds at the end of a run of the system. -/
theorem attended_reached {executor : Executor} {answer : (call : Call) → call.Answer}
    {opens closes : Time} (moments : Nat → Moment opens closes)
    (threads : List (UUID × Prog Operations (Except PyException Unit × Option WorkflowRun)))
    (runId : UUID) (world : World)
    {post : Except PyException Unit × Option WorkflowRun → Books → Prop}
    (hdelivered : (attended answer opens closes).alone.Safe ⟨runId, threads.length⟩ post
      (executor.handle runId) world.books) :
    ∃ (moves : List (Move system)) (final : World)
      (ended : Except PyException Unit × Option WorkflowRun), post ended final.books ∧
      Pool.run executor.handle (.start runId :: moves) ⟨world, threads⟩ =
        ⟨final, threads ++ [(runId, .ret ended)]⟩ := by
  have hended := Discipline.Safe.finish (V := attended answer opens closes) moments
    (0, world.books) hdelivered
  obtain ⟨moves, final, hfinal, hrun⟩ :=
    finish_reached executor answer moments threads runId world
  refine ⟨moves, final, _, ?_, hrun⟩
  rw [hfinal]
  exact hended

end CloudioOrchestrator

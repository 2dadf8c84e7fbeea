import CloudioOrchestrator.Preparation
import CloudioOrchestrator.Airflow

/-! # The course of a run whose engine runs fail

A run is visited by drives that have the store to itself, while the providers
answer and every engine run fails by the same exception: what it comes to, who
is called, and what the requester is told.
-/

namespace CloudioOrchestrator

open Interaction Drive

/-- What events of the outside, each at its time, make of the books. -/
def meanwhile (events : List (Time × Outside)) (books : Books) : Books :=
  events.foldl (fun books event => (World.outside event.2 ⟨books.1, books.2, event.1⟩).books) books

/-- A drive's visit to a run: what the outside does before it, what the providers
answer, the DAG run as the engine shows it, when the visit begins and is over, and
what is left open in between. -/
structure Visit where
  before : List (Time × Outside) := []
  answer : (call : Call) → call.Answer
  dag : DagRun
  opens : Time
  closes : Time
  moments : Nat → Moment opens closes

/-- The calls of a visit are answered, those to the engine by what its adapter
makes of the DAG run; and the visit does not take longer than any step may. -/
structure Visit.Served (codec : JsonCodec) (visit : Visit) : Prop where
  cooperative : Cooperative visit.answer
  status : ∀ engine automationId engineRunId,
    visit.answer (.queryRunStatus engine automationId engineRunId) =
      .ok (visit.dag.queryRunStatus codec)
  failure : ∀ engine automationId engineRunId failure, visit.dag.getFailure codec = some failure →
    visit.answer (.getFailure engine automationId engineRunId) = .ok failure
  brief : visit.closes - visit.opens ≤ seconds 3600

/-- What a visit makes of the rows and the history. -/
def Visit.attend (executor : Executor) (runId : UUID) (visit : Visit) (serial : Nat)
    (books : Books) : Books :=
  ((attended visit.answer visit.opens visit.closes).finish ⟨runId, serial⟩ visit.moments
    (executor.handle runId) (0, meanwhile visit.before books)).2.2

/-- What visits one after the other make of them, under serials from a first one on. -/
def attendAll (executor : Executor) (runId : UUID) : List Visit → Nat → Books → Books
  | [], _, books => books
  | visit :: visits, serial, books =>
      attendAll executor runId visits (serial + 1) (visit.attend executor runId serial books)

theorem attendAll_append (executor : Executor) (runId : UUID) (first second : List Visit)
    (serial : Nat) (books : Books) :
    attendAll executor runId (first ++ second) serial books =
      attendAll executor runId second (serial + first.length)
        (attendAll executor runId first serial books) := by
  induction first generalizing serial books with
  | nil => rfl
  | cons visit rest ih =>
      simp only [List.cons_append, attendAll, ih, List.length_cons]
      congr 1
      omega

theorem Visit.attend_of_safe {executor : Executor} {runId : UUID} {visit : Visit} {serial : Nat}
    {books : Books} {post : Books → Prop}
    (hsafe : (attended visit.answer visit.opens visit.closes).alone.Safe ⟨runId, serial⟩
      (fun _ final => post final) (executor.handle runId) (meanwhile visit.before books)) :
    post (visit.attend executor runId serial books) :=
  Discipline.Safe.finish (V := attended visit.answer visit.opens visit.closes) visit.moments
    (0, meanwhile visit.before books) hsafe

/-- What the outside does is a run of the system, in which no drive is advanced. -/
theorem meanwhile_reached (executor : Executor) (events : List (Time × Outside)) (world : World)
    (threads : List (UUID × Prog Operations (Except PyException Unit × Option WorkflowRun))) :
    ∃ (moves : List (Move system)) (final : World), final.books = meanwhile events world.books ∧
      Pool.run executor.handle moves ⟨world, threads⟩ = ⟨final, threads⟩ := by
  induction events generalizing world with
  | nil => exact ⟨[], world, rfl, rfl⟩
  | cons event events ih =>
      obtain ⟨moves, final, hfinal, hrun⟩ :=
        ih (World.outside event.2 (World.outside (.tick event.1) world))
      exact ⟨.outside (.tick event.1) :: .outside event.2 :: moves, final, hfinal, hrun⟩

/-- Visits are a run of the system, whose drives succeed one another. -/
theorem attendAll_reached (executor : Executor) (runId : UUID) (visits : List Visit) (world : World)
    (threads : List (UUID × Prog Operations (Except PyException Unit × Option WorkflowRun))) :
    ∃ (moves : List (Move system)) (final : World)
      (later : List (UUID × Prog Operations (Except PyException Unit × Option WorkflowRun))),
      final.books = attendAll executor runId visits threads.length world.books ∧
      Pool.run executor.handle moves ⟨world, threads⟩ = ⟨final, threads ++ later⟩ := by
  induction visits generalizing world threads with
  | nil => exact ⟨[], world, [], rfl, by simp⟩
  | cons visit visits ih =>
      obtain ⟨events, arrived, harrived, hevents⟩ :=
        meanwhile_reached executor visit.before world threads
      obtain ⟨moves, left, hleft, hmoves⟩ :=
        finish_reached executor visit.answer visit.moments threads runId arrived
      obtain ⟨following, final, later, hfinal, hfollowing⟩ := ih left (threads ++ [(runId, _)])
      rw [← hmoves, ← hevents, ← Pool.run_append, ← Pool.run_append, List.append_assoc]
        at hfollowing
      refine ⟨_, final, _, ?_, hfollowing⟩
      rw [hfinal, hleft, harrived, List.length_append, List.length_singleton]
      rfl

section Tallies

/-- The run asks the engine for a run. -/
def triggersEngine (runId : UUID) : Event → Bool
  | .called drive _ (.triggerWorkflow ..) _ _ => drive.subject = runId
  | _ => false

/-- The run tells somebody that it went wrong: by an incident, or in its ticket. -/
def speaksOut (runId : UUID) : Event → Bool
  | .called drive _ (.openIncident _) _ _ | .called drive _ (.closeTicket ..) _ _
  | .called drive _ (.annotateTicket ..) _ _ => drive.subject = runId
  | _ => false

theorem preparatory_silent (runId : UUID) {drive : DriveId} {event : Event}
    (hevent : preparatory drive event = true) :
    triggersEngine runId event = false ∧ speaksOut runId event = false := by
  cases event with
  | called by' issuer call answer applied =>
      cases issuer <;> cases call <;> simp_all [preparatory, triggersEngine, speaksOut]
  | _ => simp [triggersEngine, speaksOut]

/-- Where a run stands: what its row is like, how many engine runs it asked for,
and that it has told nobody that anything went wrong. -/
structure Standing (runId : UUID) (phase : WorkflowRun → Prop) (triggers : Nat) (books : Books) :
    Prop where
  row : ∃ row, Store.get books.1 runId = some row ∧ phase row
  triggers : books.2.countP (triggersEngine runId) = triggers
  silent : ∀ event ∈ books.2, speaksOut runId event = false

/-- A drive that holds the run as the store has it, with the same account of it. -/
structure Driven (run : WorkflowRun) (triggers : Nat) (books : Books) : Prop where
  stored : Stored books.1 run
  triggers : books.2.countP (triggersEngine run.runId) = triggers
  silent : ∀ event ∈ books.2, speaksOut run.runId event = false

variable {run : WorkflowRun} {triggers : Nat} {books : Books}

/-- A drive goes on, leaving events of its own. -/
theorem Driven.next {changed : WorkflowRun} (newer : History) (added : Nat)
    (hrun : Driven run triggers books) (hsame : run.SameOrigin changed)
    (hversion : changed.version = run.version)
    (hadded : newer.countP (triggersEngine run.runId) = added)
    (hsilent : ∀ event ∈ newer, speaksOut run.runId event = false) :
    Driven changed (triggers + added) (books.1, newer ++ books.2) where
  stored := hrun.stored.congr hsame hversion
  triggers := by rw [← hsame.1, List.countP_append, hrun.triggers, hadded, Nat.add_comm]
  silent := by
    rw [← hsame.1]
    exact List.forall_mem_append.mpr ⟨hsilent, hrun.silent⟩

theorem Driven.congr {changed : WorkflowRun} (hrun : Driven run triggers books)
    (hsame : run.SameOrigin changed) (hversion : changed.version = run.version) :
    Driven changed triggers books where
  stored := hrun.stored.congr hsame hversion
  triggers := hsame.1 ▸ hrun.triggers
  silent := hsame.1 ▸ hrun.silent

/-- What a drive saves is where the run stands then. -/
theorem Driven.save {phase : WorkflowRun → Prop} {drive : DriveId} {runId : UUID}
    (hid : run.runId = runId) (hrun : Driven run triggers books) (hphase : phase (savedRun run)) :
    Standing runId phase triggers
      (Store.put books.1 (savedRun run), .saved drive (savedRun run) :: books.2) := by
  subst hid
  refine ⟨⟨_, hrun.stored.get_put, hphase⟩, ?_, List.forall_mem_cons.mpr ⟨rfl, hrun.silent⟩⟩
  simpa [triggersEngine] using hrun.triggers

/-- It does not matter when a run that is like this is scheduled. -/
def Unscheduled (phase : WorkflowRun → Prop) : Prop :=
  ∀ row scheduledAt, phase row → phase { row with scheduledAt := scheduledAt }

/-- The outside touches only the schedule of a run, and leaves in the history that
other runs were created. -/
theorem meanwhile_row (events : List (Time × Outside)) {runId : UUID} {row : WorkflowRun}
    (hget : Store.get books.1 runId = some row) :
    ∃ scheduledAt newer,
      Store.get (meanwhile events books).1 runId = some { row with scheduledAt := scheduledAt } ∧
      (meanwhile events books).2 = newer ++ books.2 ∧
      ∀ event ∈ newer, ∃ run, event = .created run := by
  induction events generalizing books row with
  | nil => exact ⟨row.scheduledAt, [], hget, rfl, by simp⟩
  | cons event events ih =>
      let world : World := ⟨books.1, books.2, event.1⟩
      have hworld : Store.get world.rows runId = some row := hget
      obtain ⟨⟨first, hhistory, hfirst⟩, between, hbetween⟩ := World.outside_row event.2 hworld
      have hbooks : Store.get (world.outside event.2).books.1 runId =
          some { row with scheduledAt := between } := hbetween
      obtain ⟨scheduledAt, newer, hrow, hlater, hnewer⟩ := ih hbooks
      refine ⟨scheduledAt, newer ++ first, hrow, ?_, ?_⟩
      · rw [List.append_assoc]
        exact hlater.trans (congrArg (newer ++ ·) hhistory)
      · refine List.forall_mem_append.mpr ⟨hnewer, fun event hevent => ?_⟩
        obtain ⟨run, hrun, -⟩ := hfirst event hevent
        exact ⟨run, hrun⟩

/-- Where a run stands is left alone by the outside. -/
theorem Standing.meanwhile {phase : WorkflowRun → Prop} {runId : UUID}
    (hphase : Unscheduled phase) (events : List (Time × Outside))
    (hbooks : Standing runId phase triggers books) :
    Standing runId phase triggers (meanwhile events books) := by
  obtain ⟨⟨row, hget, hrow⟩, htriggers, hsilent⟩ := hbooks
  obtain ⟨scheduledAt, newer, hlater, hhistory, hnewer⟩ := meanwhile_row events hget
  refine ⟨⟨_, hlater, hphase row scheduledAt hrow⟩, ?_, ?_⟩
  · have hnone : newer.countP (triggersEngine runId) = 0 := by
      rw [List.countP_eq_zero]
      intro event hevent
      obtain ⟨run, rfl⟩ := hnewer event hevent
      simp [triggersEngine]
    rw [hhistory, List.countP_append, hnone, Nat.zero_add, htriggers]
  · rw [hhistory]
    refine List.forall_mem_append.mpr ⟨fun event hevent => ?_, hsilent⟩
    obtain ⟨run, rfl⟩ := hnewer event hevent
    rfl

/-- A drive takes up the run from where it stands. -/
theorem Standing.driven {phase : WorkflowRun → Prop} {runId : UUID} (drive : DriveId)
    (hbooks : Standing runId phase triggers books) :
    ∃ row, row.runId = runId ∧ Store.get books.1 runId = some row ∧ phase row ∧
      Driven row triggers (books.1, .loaded drive row :: books.2) := by
  obtain ⟨row, hget, hphase⟩ := hbooks.row
  obtain rfl : row.runId = runId := Store.runId_of_get hget
  refine ⟨row, rfl, hget, hphase, ⟨row, hget, rfl, .refl⟩, ?_, ?_⟩
  · simpa [triggersEngine] using hbooks.triggers
  · exact List.forall_mem_cons.mpr ⟨rfl, hbooks.silent⟩

end Tallies

/-- A run on its way through its engine runs, after so many that failed. -/
structure Engaged (origin : WorkflowRun) (failures : Nat) (run : WorkflowRun) : Prop where
  continues : origin.Continues run
  ticket : run.runState.ticket.isSome
  incidentId : run.runState.incidentId = none
  attempts : run.runState.attempts .runEngine = failures
  running : run.status = .running

/-- No engine run is under way. -/
structure Idle (origin : WorkflowRun) (failures : Nat) (run : WorkflowRun) : Prop extends
    Engaged origin failures run where
  engineRunId : run.runState.engineRunId = none
  unbegun : run.runState.attemptStartedAt = none

/-- An engine run is to be asked for again. -/
structure Retrying (origin : WorkflowRun) (failures : Nat) (run : WorkflowRun) : Prop extends
    Idle origin failures run where
  atStep : run.currentStep = some StepName.runEngine.value

/-- An engine run is under way, and the attempt did not begin before a given time. -/
structure Busy (origin : WorkflowRun) (failures : Nat) (since : Time) (run : WorkflowRun) : Prop
    extends Engaged origin failures run where
  engineRunId : run.runState.engineRunId.isSome
  begun : ∃ started, run.runState.attemptStartedAt = some (.aware started) ∧ since ≤ started
  atStep : run.currentStep = some StepName.runEngine.value

theorem Engaged.rescheduled {origin run : WorkflowRun} {failures : Nat}
    (hrun : Engaged origin failures run) (scheduledAt : Option Time) :
    Engaged origin failures { run with scheduledAt := scheduledAt } :=
  ⟨hrun.continues, hrun.ticket, hrun.incidentId, hrun.attempts, hrun.running⟩

theorem Retrying.unscheduled (origin : WorkflowRun) (failures : Nat) :
    Unscheduled (Retrying origin failures) := fun _ scheduledAt hrow =>
  ⟨⟨hrow.rescheduled scheduledAt, hrow.engineRunId, hrow.unbegun⟩, hrow.atStep⟩

theorem Busy.unscheduled (origin : WorkflowRun) (failures : Nat) (since : Time) :
    Unscheduled (Busy origin failures since) := fun _ scheduledAt hrow =>
  ⟨hrow.rescheduled scheduledAt, hrow.engineRunId, hrow.begun, hrow.atStep⟩

section Reports

variable {engines : List WorkflowEngineType} {run : WorkflowRun} {state final : RunState}
  {trace : Trace Providers} {ended : Except PyException Bool} {engineRunId : String}
  {answer : (call : Call) → call.Answer}

/-- What the engine answers first decides how asking after its run goes on. -/
theorem HandlerEnd.asked (hend : HandlerEnd engines run state .runEngine trace ended final)
    (hanswers : ∀ exchange ∈ trace, exchange.answer = answer exchange.op)
    (hengine : state.workflow.engineType ∈ engines) (hid : state.engineRunId = some engineRunId) :
    (answer (engineQuery state engineRunId) = .ok .inProgress ∧ ended = .ok false ∧ final = state ∧
      trace = [⟨engineQuery state engineRunId, .ok .inProgress⟩]) ∨
    (answer (engineQuery state engineRunId) = .ok .failed ∧
      final = explained state (answer (engineFailureCall state engineRunId)) ∧
      ended = .error (engineStepFailure final engineRunId) ∧
      trace = [⟨engineFailureCall state engineRunId, answer (engineFailureCall state engineRunId)⟩,
        ⟨engineQuery state engineRunId, .ok .failed⟩]) ∨
    (answer (engineQuery state engineRunId) ≠ .ok .inProgress ∧
      answer (engineQuery state engineRunId) ≠ .ok .failed) := by
  have hdecided : answer (engineQuery state engineRunId) = .ok .success →
      answer (engineQuery state engineRunId) ≠ .ok .inProgress ∧
        answer (engineQuery state engineRunId) ≠ .ok .failed := by
    intro hsuccess
    rw [hsuccess]
    constructor <;> (intro heq; cases heq)
  cases hend with
  | unknownEngine hunbound => exact absurd hengine hunbound
  | triggered engineRunId hnone => simp [hid] at hnone
  | triggerRaised error hnone => simp [hid] at hnone
  | inProgress hsome =>
      obtain rfl := Option.some.inj (hid.symm.trans hsome)
      exact .inl ⟨(hanswers _ List.mem_cons_self).symm, rfl, rfl, rfl⟩
  | queryRaised error hsome =>
      obtain rfl := Option.some.inj (hid.symm.trans hsome)
      have hquery := hanswers _ List.mem_cons_self
      exact .inr (.inr (by simp [← hquery]))
  | succeeded hsome hresource =>
      obtain rfl := Option.some.inj (hid.symm.trans hsome)
      have hquery := hanswers _ List.mem_cons_self
      exact .inr (.inr (hdecided hquery.symm))
  | succeededWith output hsome hresource =>
      obtain rfl := Option.some.inj (hid.symm.trans hsome)
      have hquery := hanswers _ (List.mem_cons_of_mem _ List.mem_cons_self)
      exact .inr (.inr (hdecided hquery.symm))
  | engineFailed failure hsome =>
      obtain rfl := Option.some.inj (hid.symm.trans hsome)
      have hquery := hanswers _ (List.mem_cons_of_mem _ List.mem_cons_self)
      have hfailure := hanswers _ List.mem_cons_self
      simp only at hfailure
      refine .inr (.inl ⟨hquery.symm, ?_⟩)
      rw [← hfailure]
      exact ⟨rfl, rfl, rfl⟩

end Reports

section Turns

variable {engines : List WorkflowEngineType} {origin run : WorkflowRun} {drive : DriveId}
  {opens closes since : Time} {books : Books} {failures triggers : Nat} {executor : Executor}

/-- The turn that asks for an engine run. -/
theorem attended_triggers {answer : (call : Call) → call.Answer}
    (hwired : executor.handlers = buildHandlers engines)
    (hengine : origin.runState.workflow.engineType ∈ engines) (hanswer : Cooperative answer)
    (hrun : Idle origin failures run) (hdriven : Driven run triggers books)
    (hdrive : drive.subject = run.runId) (hvisit : closes - opens ≤ seconds 3600)
    (hlater : closes + seconds 15 ≤ datetimeMax) :
    (attended answer opens closes).alone.wp drive (executor.turn .runEngine)
      (fun ended _ final => ended = .ok false ∧
        Standing run.runId (Busy origin failures opens) (triggers + 1) final) run books := by
  have hhandler : executor.handlers .runEngine = some (runEngineStep engines) := by
    rw [hwired]
    rfl
  refine attended_turn hhandler (by simp [hrun.unbegun]) ?_ ?_
  · rintro started (hstarted | ⟨-, hopens, -⟩)
    · rw [hrun.unbegun] at hstarted
      cases hstarted
    · exact Int.le_trans (Int.sub_le_sub_left hopens closes) hvisit
  intro now started _ _ hdated
  have hbegun : opens ≤ started := by
    rcases hdated with hstarted | ⟨-, hopens, -⟩
    · rw [hrun.unbegun] at hstarted
      cases hstarted
    · exact hopens
  have hbuilt : buildHandlers engines .runEngine = some (runEngineStep engines) := rfl
  apply attended_handler hbuilt
  intro trace ended final hend hanswers
  -- no engine run is known yet, so that the handler can only trigger one
  have hidle : ∀ {engineRunId : String},
      (stampedRun .runEngine now started run).runState.engineRunId ≠ some engineRunId := by
    simp [stampedRun, hrun.engineRunId]
  cases hend with
  | unknownEngine hunbound =>
      refine absurd hengine ?_
      rw [hrun.continues.2.1]
      exact hunbound
  | triggered engineRunId hnone =>
      simp only [afterAttempt, Discipline.wp_bind, Discipline.wp_pure]
      refine attended_schedule hlater fun due _ _ => ?_
      apply attended_stored
      · exact hdriven.stored.congr .refl rfl
      refine ⟨trivial, Driven.save rfl ?_ ?_⟩
      · refine hdriven.next _ 1 .refl rfl ?_ ?_
        · simp [calledEvents, engineTrigger, triggersEngine, hdrive]
        · simp [calledEvents, engineTrigger, speaksOut]
      · refine ⟨⟨hrun.continues, hrun.ticket, hrun.incidentId, hrun.attempts, hrun.running⟩, rfl,
          ⟨started, rfl, hbegun⟩, rfl⟩
  | triggerRaised error hnone =>
      obtain ⟨result, hresult⟩ := hanswer.answers
        (engineTrigger (stampedRun .runEngine now started run)
          (stampedRun .runEngine now started run).runState)
      have hraised := hanswers _ List.mem_cons_self
      rw [hresult] at hraised
      cases hraised
  | inProgress hid => exact absurd hid hidle
  | queryRaised error hid => exact absurd hid hidle
  | succeeded hid hresource => exact absurd hid hidle
  | succeededWith output hid hresource => exact absurd hid hidle
  | engineFailed failure hid => exact absurd hid hidle

/-- A turn that asks after the engine run under way: what follows from how the
handler ends, given what the engine reports. -/
theorem attended_asks {answer : (call : Call) → call.Answer}
    (hwired : executor.handlers = buildHandlers engines)
    (hrun : Busy origin failures since run) (hbudget : closes - since ≤ seconds 3600)
    {post : Except PyException Bool → WorkflowRun → Books → Prop}
    (hexecute : ∀ engineRunId now started trace ended final,
      run.runState.engineRunId = some engineRunId → since ≤ started →
      HandlerEnd engines (stampedRun .runEngine now started run)
        (stampedRun .runEngine now started run).runState .runEngine trace ended final →
      (∀ exchange ∈ trace, exchange.answer = answer exchange.op) →
      (attended answer opens closes).alone.wp drive
        (afterAttempt executor .runEngine (runEngineStep engines) failures ended) post
        { stampedRun .runEngine now started run with runState := final }
        (books.1, calledEvents drive .runEngine trace ++ books.2)) :
    (attended answer opens closes).alone.wp drive (executor.turn .runEngine) post run books := by
  have hhandler : executor.handlers .runEngine = some (runEngineStep engines) := by
    rw [hwired]
    rfl
  obtain ⟨begun, hbegun, hsince⟩ := hrun.begun
  have hdate : ∀ {started : Time}, Dated opens closes run started → started = begun := by
    rintro started (hstarted | ⟨hnone, -⟩)
    · rw [hbegun] at hstarted
      cases hstarted
      rfl
    · rw [hbegun] at hnone
      cases hnone
  obtain ⟨engineRunId, hid⟩ := Option.isSome_iff_exists.mp hrun.engineRunId
  refine attended_turn hhandler (by simp [hbegun]) ?_ ?_
  · rintro started hdated
    rw [hdate hdated]
    exact Int.le_trans (Int.sub_le_sub_left hsince closes) hbudget
  · intro now started _ _ hdated
    rw [hrun.attempts]
    have hbuilt : buildHandlers engines .runEngine = some (runEngineStep engines) := rfl
    apply attended_handler hbuilt
    intro trace ended final hend hanswers
    exact hexecute engineRunId now started trace ended final hid (hdate hdated ▸ hsince)
      hend hanswers

variable {codec : JsonCodec} {visit : Visit}

/-- The turn that finds the engine run still in progress. -/
theorem attended_polls (hwired : executor.handlers = buildHandlers engines)
    (hengine : origin.runState.workflow.engineType ∈ engines) (hserved : visit.Served codec)
    (hstatus : visit.dag.queryRunStatus codec = .inProgress) (hrun : Busy origin failures since run)
    (hdriven : Driven run triggers books) (hbudget : visit.closes - since ≤ seconds 3600)
    (hlater : visit.closes + seconds 15 ≤ datetimeMax) :
    (attended visit.answer visit.opens visit.closes).alone.wp drive (executor.turn .runEngine)
      (fun ended _ final => ended = .ok false ∧
        Standing run.runId (Busy origin failures since) triggers final) run books := by
  refine attended_asks hwired hrun hbudget ?_
  intro engineRunId now started trace ended final hid hsince hend hanswers
  have hbound : (stampedRun .runEngine now started run).runState.workflow.engineType ∈ engines := by
    change run.runState.workflow.engineType ∈ engines
    rwa [← hrun.continues.2.1]
  have hreport := hserved.status run.runState.workflow.engineType
    run.runState.workflow.automationId engineRunId
  rw [hstatus] at hreport
  rcases hend.asked hanswers hbound hid with ⟨-, rfl, rfl, rfl⟩ | ⟨hfailed, -⟩ | ⟨hnot, -⟩
  · simp only [afterAttempt, Discipline.wp_bind, Discipline.wp_pure]
    refine attended_schedule hlater fun due _ _ => ?_
    apply attended_stored
    · exact hdriven.stored.congr .refl rfl
    refine ⟨trivial, Driven.save rfl ?_ ?_⟩
    · refine hdriven.next _ 0 .refl rfl ?_ ?_
      · simp [calledEvents, engineQuery, triggersEngine]
      · simp [calledEvents, engineQuery, speaksOut]
    · exact ⟨⟨hrun.continues, hrun.ticket, hrun.incidentId, hrun.attempts, hrun.running⟩,
        hrun.engineRunId, ⟨started, rfl, hsince⟩, rfl⟩
  · cases hreport.symm.trans hfailed
  · exact absurd hreport hnot

/-- The run that a drive holds once it has read the engine's account of a failure. -/
def blamedRun (now started : Time) (failure : EngineFailure) (run : WorkflowRun) : WorkflowRun :=
  { stampedRun .runEngine now started run with
    runState := { (stampedRun .runEngine now started run).runState with
      engineFailure := some failure } }

/-- The turn that finds the engine run failed. -/
theorem attended_fails (hwired : executor.handlers = buildHandlers engines)
    (hengine : origin.runState.workflow.engineType ∈ engines) (hserved : visit.Served codec)
    (hstatus : visit.dag.queryRunStatus codec = .failed) {failure : EngineFailure}
    (hfailure : visit.dag.getFailure codec = some failure) (hrun : Busy origin failures since run)
    (hdriven : Driven run triggers books) (hbudget : visit.closes - since ≤ seconds 3600)
    {post : Except PyException Bool → WorkflowRun → Books → Prop}
    (hpost : ∀ now started message current,
      Driven (blamedRun now started failure run) triggers current →
      (attended visit.answer visit.opens visit.closes).alone.wp drive (do
        executor.onStepError .runEngine (runEngineStep engines) (.stepFailure message failure.kind)
        return false) post (blamedRun now started failure run) current) :
    (attended visit.answer visit.opens visit.closes).alone.wp drive (executor.turn .runEngine) post
      run books := by
  refine attended_asks hwired hrun hbudget ?_
  intro engineRunId now started trace ended final hid hsince hend hanswers
  have hbound : (stampedRun .runEngine now started run).runState.workflow.engineType ∈ engines := by
    change run.runState.workflow.engineType ∈ engines
    rwa [← hrun.continues.2.1]
  have hreport := hserved.status run.runState.workflow.engineType
    run.runState.workflow.automationId engineRunId
  rw [hstatus] at hreport
  have haccount := hserved.failure run.runState.workflow.engineType
    run.runState.workflow.automationId engineRunId failure hfailure
  rcases hend.asked hanswers hbound hid with ⟨hpending, -⟩ | ⟨-, rfl, rfl, rfl⟩ | ⟨-, hnot⟩
  · cases hreport.symm.trans hpending
  · have hexplained : visit.answer (engineFailureCall
        (stampedRun .runEngine now started run).runState engineRunId) = .ok failure := haccount
    rw [hexplained]
    simp only [engineStepFailure, explained, afterAttempt]
    rw [Discipline.wp_bind]
    apply attended_log
    refine hpost now started _ _ ?_
    refine hdriven.next (.logged drive _ :: calledEvents drive .runEngine _) 0 .refl rfl ?_ ?_
    · simp [calledEvents, engineQuery, engineFailureCall, triggersEngine]
    · simp [calledEvents, engineQuery, engineFailureCall, speaksOut]
  · exact absurd hreport hnot

theorem backoff_le (base : Time) (attempts : Int) {jitter bound : Time} (hjitter : jitter ≤ bound) :
    backoff base attempts jitter ≤ backoff base attempts bound := by
  unfold backoff
  split <;> exact Int.add_le_add_left hjitter _

/-- A failure that may be retried leaves the engine run to be asked for again. -/
theorem attended_retries (hwired : executor.handlers = buildHandlers engines)
    (hengine : origin.runState.workflow.engineType ∈ engines) (hserved : visit.Served codec)
    (hstatus : visit.dag.queryRunStatus codec = .failed) {failure : EngineFailure}
    (hfailure : visit.dag.getFailure codec = some failure) (hkind : failure.kind = .task)
    (hretries : (failures : Int) + 1 ≤ origin.maxRetries) (hrun : Busy origin failures since run)
    (hdriven : Driven run triggers books) (hbudget : visit.closes - since ≤ seconds 3600)
    (hlater : visit.closes + backoff executor.retryBase (failures + 1) (seconds 5) ≤ datetimeMax) :
    (attended visit.answer visit.opens visit.closes).alone.wp drive (executor.turn .runEngine)
      (fun ended _ final => ended = .ok false ∧
        Standing run.runId (Retrying origin (failures + 1)) triggers final) run books := by
  refine attended_fails hwired hengine hserved hstatus hfailure hrun hdriven hbudget ?_
  intro now started message current hcurrent
  have hattempts : (blamedRun now started failure run).runState.attempts .runEngine = failures :=
    hrun.attempts
  have hmay : mayRetry (.stepFailure message failure.kind) (failures + 1)
      (blamedRun now started failure run).maxRetries = true := by
    have hsame : origin.maxRetries = run.maxRetries := hrun.continues.1.maxRetries
    simp only [mayRetry, PyException.kind, hkind, policyFor]
    simpa [blamedRun, stampedRun, ← hsame] using hretries
  simp only [Executor.onStepError, Discipline.wp_bind, wp_updateState, Discipline.wp_read,
    Outline.countAttempt_attempts, hattempts, hmay, if_true, Discipline.wp_pure]
  apply attended_uniform
  intro jitter _ hjitter
  have hdue : visit.closes + backoff executor.retryBase (failures + 1) jitter ≤ datetimeMax :=
    Int.le_trans (Int.add_le_add_left (backoff_le _ _ hjitter) _) hlater
  refine attended_schedule hdue fun due _ _ => ?_
  apply attended_stored
  · exact hcurrent.stored.congr .refl rfl
  refine ⟨trivial, Driven.save rfl ?_ ?_⟩
  · exact hcurrent.congr .refl rfl
  · have hreset : (runEngineStep engines).resetForRetry = runEngineReset := rfl
    have hcounted : (Executor.countAttempt .runEngine
        (blamedRun now started failure run).runState).attempts .runEngine = failures + 1 := by
      rw [Outline.countAttempt_attempts, hattempts]
    simp only [savedRun, Executor.retryState, hreset, runEngineReset, Executor.countAttempt,
      blamedRun, stampedRun] at hcounted ⊢
    exact ⟨⟨⟨hrun.continues, hrun.ticket, hrun.incidentId, hcounted, hrun.running⟩, rfl, rfl⟩, rfl⟩

end Turns

end CloudioOrchestrator

import CloudioOrchestrator.Backoffs

/-! # Waiting out a backoff

Where loops drive a run one after another, a step that has failed is left alone
until its backoff is over, unless a callback reaches the run meanwhile.
-/

namespace CloudioOrchestrator

open Interaction

/-! ## Moves -/

/-- What a move of a fleet comes to. -/
inductive Fleet.Takes (executor : Executor) (fleet : Fleet) : FleetMove → Fleet → Prop
  | rests {move : FleetMove} {later : Fleet} (hpool : later.pool = fleet.pool)
      (hflights : later.flights = fleet.flights) : Takes executor fleet move later
  | outside {move : FleetMove} {later : Fleet} (event : Outside)
      (hpool : later.pool = fleet.pool.step executor.handle (.outside event))
      (hflights : later.flights = fleet.flights)
      (hticks : ∀ now, event = .tick now → move = .tick now)
      (hwakes : ∀ runId, event = .wake runId →
        ∃ index, move = .wake index ∧ fleet.wakes[index]? = some runId) :
      Takes executor fleet move later
  | claims {worker : Nat} {locked : UUID → Bool} {later : Fleet} (row : WorkflowRun) (time : Time)
      (hdormant : fleet.flightOf worker = none)
      (hrow : Store.get fleet.world.rows row.runId = some row)
      (hdue : Store.isDue fleet.world.clock row = true)
      (hids : (Store.claimDue fleet.world.clock 1 time locked fleet.world.rows).1 = [row.runId])
      (hpool : later.pool = (fleet.pool.step executor.handle
        (.outside (.claimDue 1 time locked))).step executor.handle (.start row.runId))
      (hflights : later.flights =
        ⟨worker, ⟨row.runId, fleet.pool.threads.length⟩, fleet.world.clock⟩ :: fleet.flights) :
      Takes executor fleet (.claim worker locked) later
  | advances {choice : Choice} {later : Fleet} (flight : Flight) (hflight : flight ∈ fleet.flights)
      (hpool : later.pool =
        fleet.pool.step executor.handle (.advance flight.drive.serial choice))
      (hflights : later.flights =
        if landed later.pool flight.drive then fleet.without flight.worker else fleet.flights) :
      Takes executor fleet (.advance flight.worker choice) later
  | dies (worker : Nat) :
      Takes executor fleet (.die worker) { fleet with flights := fleet.without worker }

theorem Fleet.takes {executor : Executor} {lease : Nat → Time} {fleet : Fleet}
    (hrows : (fleet.world.rows.map WorkflowRun.runId).Nodup) (move : FleetMove) :
    Fleet.Takes executor fleet move (fleet.step executor lease move) := by
  -- what neither moves the clock nor wakes a run
  have hother : ∀ {event : Outside} {move : FleetMove} {later : Fleet},
      later.pool = fleet.pool.step executor.handle (.outside event) →
      later.flights = fleet.flights →
      (∀ now, event ≠ .tick now) → (∀ runId, event ≠ .wake runId) →
      Fleet.Takes executor fleet move later := by
    intro event move later hpool hflights htick hwake
    apply Fleet.Takes.outside event hpool hflights
    · intro now heq
      exact absurd heq (htick now)
    · intro runId heq
      exact absurd heq (hwake runId)
  cases move with
  | claim worker locked =>
      simp only [step, claim]
      cases hdormant : fleet.flightOf worker with
      | some flight => exact .rests rfl rfl
      | none =>
          have hclaimed := @claimDue_one fleet.world.rows fleet.world.clock (lease worker) locked
            hrows
          cases hclaimed with
          | inl hnone =>
              simp only [hnone]
              refine @hother (.claimDue 1 (lease worker) locked) _ _ rfl rfl ?_ ?_
              all_goals
                intro _ heq
                cases heq
          | inr hone =>
              obtain ⟨row, hrow, hdue, hids⟩ := hone
              simp only [hids]
              exact .claims row (lease worker) hdormant hrow hdue hids rfl rfl
  | advance worker choice =>
      simp only [step, advance]
      cases hdriving : fleet.flightOf worker with
      | none => exact .rests rfl rfl
      | some flight =>
          have hworker : flight.worker = worker := by simpa using List.find?_some hdriving
          subst hworker
          exact .advances flight (List.mem_of_find?_eq_some hdriving) rfl rfl
  | die worker => exact .dies worker
  | trigger runId workflow request =>
      refine @hother (.trigger runId workflow request) _ _ rfl rfl ?_ ?_
      all_goals
        intro _ heq
        cases heq
  | triggerLegacy runId request =>
      refine @hother (.triggerLegacy runId request) _ _ rfl rfl ?_ ?_
      all_goals
        intro _ heq
        cases heq
  | wakeByTicket ticketId => exact .rests rfl rfl
  | wakeByEngineRun engineRunId => exact .rests rfl rfl
  | wake index =>
      simp only [step, wake]
      cases hwake : fleet.wakes[index]? with
      | none => exact .rests rfl rfl
      | some runId =>
          refine .outside (.wake runId) rfl rfl ?_ ?_
          · intro now heq
            cases heq
          · intro other heq
            injection heq with heq
            exact ⟨index, rfl, hwake.trans (congrArg some heq)⟩
  | tick now =>
      refine .outside (.tick now) rfl rfl ?_ ?_
      · intro other heq
        injection heq with heq
        rw [heq]
      · intro runId heq
        cases heq

/-- Time goes forward, and a drive in which a step has failed is neither cut off nor
refused its save. -/
def Unsevered (fleet : Fleet) : FleetMove → Prop
  | .tick now => fleet.world.clock ≤ now
  | .die worker => ∀ flight ∈ fleet.flights, flight.worker = worker →
      failedIn flight.drive fleet.world.history = false
  | .advance worker choice => ∀ flight ∈ fleet.flights, flight.worker = worker →
      failedIn flight.drive fleet.world.history = true → choice.saveFault = none
  | _ => True

/-- A run that rests between two attempts at a step, before it is due. -/
def CoolsOff (clock : Time) (row : WorkflowRun) : Bool :=
  row.status = .running && row.runState.attemptStartedAt = none && !Store.isDue clock row

/-- No run is woken that rests between two attempts at a step. -/
def Unhurried (fleet : Fleet) : FleetMove → Prop
  | .wake index => ∀ row ∈ fleet.world.rows, fleet.wakes[index]? = some row.runId →
      (∀ flight ∈ fleet.flights, flight.drive.subject ≠ row.runId) →
      CoolsOff fleet.world.clock row = false
  | _ => True

instance (fleet : Fleet) : DecidablePred (Unsevered fleet)
  | .tick now => inferInstanceAs (Decidable (fleet.world.clock ≤ now))
  | .die worker => inferInstanceAs (Decidable (∀ flight ∈ fleet.flights, flight.worker = worker →
      failedIn flight.drive fleet.world.history = false))
  | .advance worker { saveFault := none, .. } => .isTrue fun _ _ _ _ => rfl
  | .advance worker { saveFault := some _, .. } =>
      decidable_of_iff (∀ flight ∈ fleet.flights, flight.worker = worker →
          failedIn flight.drive fleet.world.history = false) (by
        constructor
        · intro hcalm flight hflight hworker hfailed
          rw [hcalm flight hflight hworker] at hfailed
          cases hfailed
        · intro hcalm flight hflight hworker
          cases hfailed : failedIn flight.drive fleet.world.history with
          | false => rfl
          | true => exact nomatch hcalm flight hflight hworker hfailed)
  | .claim .. | .trigger .. | .triggerLegacy .. | .wakeByTicket _ | .wakeByEngineRun _
  | .wake _ => .isTrue trivial

instance (fleet : Fleet) : DecidablePred (Unhurried fleet)
  | .wake index => inferInstanceAs (Decidable (∀ row ∈ fleet.world.rows,
      fleet.wakes[index]? = some row.runId →
        (∀ flight ∈ fleet.flights, flight.drive.subject ≠ row.runId) →
        CoolsOff fleet.world.clock row = false))
  | .claim .. | .advance .. | .die _ | .trigger .. | .triggerLegacy .. | .wakeByTicket _
  | .wakeByEngineRun _ | .tick _ => .isTrue trivial

/-! ## Drives of a fleet -/

/-- A drive that has not loaded its row yet. -/
structure Aboard (executor : Executor) (pool : DrivePool) (drive : DriveId) : Prop where
  thread : pool.threads[drive.serial]? = some (drive.subject, executor.handle drive.subject)
  calm : failedIn drive (World.history pool.world) = false
  row : ∃ row, Store.get (World.rows pool.world) drive.subject = some row ∧
    TalliedRow row (World.history pool.world)

/-- A drive that has loaded its row, under the stopwatch. -/
structure Aloft (executor : Executor) (pool : DrivePool) (drive : DriveId) (row : WorkflowRun)
    (start : StepName) (count : Nat) (watch : Stopwatch) : Prop where
  flown : Flown executor.retryBase pool.world drive row start count watch
  thread : ∃ body, pool.threads[drive.serial]? = some (drive.subject, body) ∧
    body.Concludes (S := Operations) SaveAccepted (fun _ => True) ∧
    (timed row start count executor.retryBase).Safe drive (fun _ => Settled row) body watch

/-- A drive that has loaded its row and is not over. -/
def Airborne (executor : Executor) (pool : DrivePool) (drive : DriveId) (watch : Stopwatch) :
    Prop :=
  (watch.setback.isSome → watch.kept = none) ∧
    ∃ row start count, Aloft executor pool drive row start count watch

section Drives

variable {executor : Executor} {pool after : DrivePool} {drive : DriveId} {row : WorkflowRun}
variable {start : StepName} {count : Nat} {watch : Stopwatch} {choice : Choice}

theorem Aloft.spared (haloft : Aloft executor pool drive row start count watch)
    (hthread : after.threads[drive.serial]? = pool.threads[drive.serial]?)
    (hspared : Spared drive.subject pool.world after.world) :
    Aloft executor after drive row start count watch where
  flown := haloft.flown.spared hspared
  thread := by
    rw [hthread]
    exact haloft.thread

theorem Airborne.spared (hairborne : Airborne executor pool drive watch)
    (hthread : after.threads[drive.serial]? = pool.threads[drive.serial]?)
    (hspared : Spared drive.subject pool.world after.world) :
    Airborne executor after drive watch := by
  obtain ⟨hcalm, row, start, count, haloft⟩ := hairborne
  exact ⟨hcalm, row, start, count, haloft.spared hthread hspared⟩

/-- A row that is left alone stands as before. -/
theorem TalliedRow.spared {runId : UUID} {world final : World} (hspared : Spared runId world final)
    {old : WorkflowRun} (hold : Store.get world.rows runId = some old)
    (htallied : TalliedRow old world.history) {row : WorkflowRun}
    (hrow : Store.get final.rows runId = some row) : TalliedRow row final.history := by
  obtain ⟨scheduledAt, hlater⟩ := hspared.row old hold
  obtain rfl := Option.some.inj (hlater.symm.trans hrow)
  obtain ⟨newer, hhistory, hothers⟩ := hspared.history
  apply (htallied.rescheduled scheduledAt).congr
  intro step
  rw [hhistory]
  apply failuresOn_aside
  change ∀ event ∈ newer, ∀ drive, event.actor = some drive → drive.subject ≠ old.runId
  rw [Store.runId_of_get hold]
  exact hothers

theorem Aboard.spared (haboard : Aboard executor pool drive)
    (hthread : after.threads[drive.serial]? = pool.threads[drive.serial]?)
    (hspared : Spared drive.subject pool.world after.world) : Aboard executor after drive := by
  obtain ⟨row, hrow, htallied⟩ := haboard.row
  obtain ⟨scheduledAt, hlater⟩ := hspared.row row hrow
  refine ⟨hthread.trans haboard.thread, ?_, _, hlater, htallied.spared hspared hrow hlater⟩
  obtain ⟨newer, hhistory, hothers⟩ := hspared.history
  rw [hhistory, failedIn_aside]
  · exact haboard.calm
  · intro event hevent hactor
    exact hothers event hevent drive hactor rfl

/-- A drive that has returned has left its run as its failures say. -/
theorem Aloft.tallied (haloft : Aloft executor pool drive row start count watch)
    (hlanded : Fleet.landed pool drive = true) {stored : WorkflowRun}
    (hget : Store.get (World.rows pool.world) drive.subject = some stored) :
    Settled row watch ∧ TalliedRow stored (World.history pool.world) := by
  obtain ⟨body, hthread, -, hsafe⟩ := haloft.thread
  simp only [Fleet.landed, hthread] at hlanded
  cases body with
  | ret value => exact ⟨hsafe, haloft.flown.tallied hsafe hget⟩
  | call op next => cases hlanded

theorem Aloft.stored (haloft : Aloft executor pool drive row start count watch) :
    ∃ stored, Store.get (World.rows pool.world) drive.subject = some stored := by
  obtain ⟨scheduledAt, hstored⟩ := haloft.flown.stored
  exact ⟨_, hstored⟩

theorem Stopwatch.Sound.initial {base : Time} (clock : Time) :
    Stopwatch.Sound row start count base { clock := clock } := by
  constructor
  · rfl
  · intro setback hsetback
    cases hsetback
  · intro run hkept
    cases hkept

/-- A drive of a row, with what it returns. -/
theorem timed_delivery {engines : List WorkflowEngineType}
    (hwired : executor.handlers = buildHandlers engines) (hafoot : Afoot row start count)
    (clock : Time) :
    (timed row start count executor.retryBase).Safe drive (fun _ => Settled row)
      ((executor.driveOrCrash row).bind fun (outcome, run) => .ret (outcome, some run))
      { clock := clock } := by
  have hdrive := @timed_driveOrCrash row start count drive _ _ hwired hafoot clock
  unfold Discipline.wp at hdrive
  rw [Discipline.safe_bind]
  apply hdrive.mono
  intro ended watch hsettled
  exact hsettled

/-- Loading the row. -/
theorem Aboard.advance {engines : List WorkflowEngineType}
    (hwired : executor.handlers = buildHandlers engines) (haboard : Aboard executor pool drive)
    (hafter : after = pool.step executor.handle (.advance drive.serial choice)) :
    (∀ step attempt error, World.history after.world ≠
      .logged drive (.stepRaised step attempt error) :: World.history pool.world) ∧
    (Fleet.landed after drive = true ∧ (∃ row, Store.get (World.rows after.world) drive.subject =
        some row ∧ TalliedRow row (World.history after.world)) ∨
      Fleet.landed after drive = false ∧ ∃ watch, Airborne executor after drive watch) := by
  obtain ⟨row, hrow, htallied⟩ := haboard.row
  have hlength := (List.getElem?_eq_some_iff.mp haboard.thread).1
  have hsteps : ∀ next, executor.handle drive.subject = .call (.runsGet drive.subject) next →
      after = ⟨(World.load drive choice drive.subject pool.world).2, pool.threads.set drive.serial
        (drive.subject, next (World.load drive choice drive.subject pool.world).1)⟩ := by
    intro next hnext
    have hthread := haboard.thread
    rw [hnext] at hthread
    rw [hafter]
    simp only [Pool.step, hthread]
    rfl
  have hstep := hsteps _ rfl
  have hlanded : ∀ world value, Fleet.landed ⟨world, pool.threads.set drive.serial
      (drive.subject, .ret value)⟩ drive = true := by
    intro world value
    simp only [Fleet.landed, List.getElem?_set_self hlength]
  cases hfault : choice.readFault with
  | some fault =>
      have hload : World.load drive choice drive.subject pool.world =
          (.error (.other fault.1 fault.2), pool.world) := by
        simp only [World.load, hfault]
      rw [hload] at hstep
      rw [hstep]
      exact ⟨fun _ _ _ heq => List.cons_ne_self _ _ heq.symm,
        .inl ⟨hlanded _ _, row, hrow, htallied⟩⟩
  | none =>
      have hload : World.load drive choice drive.subject pool.world =
          (.ok (some row), pool.world.record (.loaded drive row)) := by
        simp only [World.load, hfault, hrow]
      have hsame : ∀ step, failuresOn row.runId step
          (World.record (.loaded drive row) pool.world).history =
            failuresOn row.runId step (World.history pool.world) :=
        fun step => List.countP_cons_of_neg (by simp [Event.raises])
      rw [hload] at hstep
      simp only at hstep
      refine ⟨by rw [hstep]; simp [World.record], ?_⟩
      split at hstep
      next =>
        left
        rw [hstep]
        exact ⟨hlanded _ _, row, hrow, htallied.congr hsame⟩
      next hopen =>
        obtain ⟨start, count, hafoot, howed⟩ := htallied (by simpa using hopen)
        have haloft : Aloft executor after drive row start count
            { clock := after.world.clock } := by
          have hconcludes := (handle_concludes executor drive.subject (.ok (some row))).1
          simp only [if_neg hopen] at hconcludes
          rw [hstep]
          refine ⟨⟨.initial _, Int.le_refl _, Store.runId_of_get hrow, hafoot,
            ⟨row.scheduledAt, hrow⟩, ?_, howed.congr hsame⟩,
            ⟨_, List.getElem?_set_self hlength, hconcludes, ?_⟩⟩
          · exact haboard.calm.symm
          · exact timed_delivery hwired hafoot _
        cases hland : Fleet.landed after drive with
        | true =>
            left
            obtain ⟨stored, hstored⟩ := haloft.stored
            exact ⟨rfl, stored, hstored, (haloft.tallied hland hstored).2⟩
        | false =>
            right
            exact ⟨rfl, _, fun hsome => absurd hsome (by simp), row, start, count, haloft⟩

/-- One operation of a drive that has loaded its row: it turns to no step once one
has failed, and what it returns with is left to wait. -/
theorem Airborne.advance (hairborne : Airborne executor pool drive watch)
    (hfault : failedIn drive (World.history pool.world) = true → choice.saveFault = none)
    (hafter : after = pool.step executor.handle (.advance drive.serial choice)) :
    ∃ later row start count, Aloft executor after drive row start count later ∧
      (Fleet.landed after drive = false → later.setback.isSome → later.kept = none) ∧
      (∀ step attempt error, World.history after.world =
          .logged drive (.stepRaised step attempt error) :: World.history pool.world →
        later.setback = some ⟨step, attempt.toNat, World.clock pool.world⟩ ∧ later.kept = none) ∧
      (∀ setback, watch.setback = some setback → later.setback = some setback ∧
        (∃ newer, World.history after.world = newer ++ World.history pool.world ∧
          ∀ event ∈ newer, event.resumes drive.subject = false) ∧
        (Fleet.landed after drive = true → LeftWaiting after.world drive.subject
          (setback.since + putOff executor.retryBase setback.failures))) := by
  obtain ⟨hcalm, row, start, count, hflown, body, hthread, hconcludes, hsafe⟩ := hairborne
  have hlength := (List.getElem?_eq_some_iff.mp hthread).1
  cases body with
  | ret value =>
      have hsame : after = pool := by rw [hafter]; simp [Pool.step, hthread]
      rw [hsame]
      refine ⟨watch, row, start, count, ⟨hflown, _, hthread, hconcludes, hsafe⟩,
        fun _ => hcalm, fun _ _ _ heq => absurd heq.symm (List.cons_ne_self _ _), ?_⟩
      intro setback hsetback
      refine ⟨hsetback, ⟨[], rfl, by simp⟩, ?_⟩
      intro _
      have hkept : watch.kept.isSome := hsafe (by simp [hsetback])
      rw [hcalm (by simp [hsetback])] at hkept
      cases hkept
  | call op next =>
      have hnofault : watch.setback.isSome → choice.saveFault = none := by
        intro hsome
        exact hfault (hflown.told.symm.trans hsome)
      obtain ⟨later, hflies, hnext⟩ := hflown.serves hcalm hnofault hsafe
      obtain ⟨hended, hlast⟩ := hconcludes (World.serve drive choice op pool.world).1
      have hstep : after = ⟨(World.serve drive choice op pool.world).2, pool.threads.set
          drive.serial (drive.subject, next (World.serve drive choice op pool.world).1)⟩ := by
        rw [hafter]
        simp only [Pool.step, hthread]
      subst hstep
      -- a save that is accepted is the last thing the drive does
      have haccepted : SaveAccepted op (World.serve drive choice op pool.world).1 →
          Fleet.landed ⟨(World.serve drive choice op pool.world).2, pool.threads.set drive.serial
            (drive.subject, next (World.serve drive choice op pool.world).1)⟩ drive = true := by
        intro hsaved
        obtain ⟨value, hvalue, -⟩ := hlast hsaved
        rw [hvalue]
        simp only [Fleet.landed, List.getElem?_set_self hlength]
      have haloft : Aloft executor ⟨(World.serve drive choice op pool.world).2, pool.threads.set
          drive.serial (drive.subject, next (World.serve drive choice op pool.world).1)⟩ drive row
            start count later :=
        ⟨hflies.flown, _, List.getElem?_set_self hlength, hended, hnext⟩
      refine ⟨later, row, start, count, haloft, ?_, hflies.noticed, ?_⟩
      · intro haloft hsome
        cases hflies.calm hsome with
        | inl hnone => exact hnone
        | inr hsaved =>
            rw [haccepted hsaved] at haloft
            cases haloft
      · intro setback hsetback
        obtain ⟨hsame, hsilent, hleft⟩ := hflies.troubled setback hsetback
        refine ⟨hsame, hsilent, ?_⟩
        intro hlanded
        cases hleft with
        | inl hnone =>
            obtain ⟨stored, hstored⟩ := haloft.stored
            have hkept := (haloft.tallied hlanded hstored).1 (by simp [hsame])
            rw [hnone] at hkept
            cases hkept
        | inr hsaved => exact hsaved.2

end Drives

/-! ## The whole fleet -/

/-- A drive of a fleet, wherever it is. -/
def Piloted (executor : Executor) (pool : DrivePool) (drive : DriveId) : Prop :=
  Aboard executor pool drive ∨ ∃ watch, Airborne executor pool drive watch

/-- Every run stands as its failures say, or a loop is driving it. -/
structure Tended (executor : Executor) (fleet : Fleet) : Prop where
  system : ∃ clock others, fleet.pool = reached executor clock others
  workers : fleet.flights.Pairwise fun first second => first.worker ≠ second.worker
  piloted : ∀ flight ∈ fleet.flights, Piloted executor fleet.pool flight.drive
  resting : ∀ runId row, (∀ flight ∈ fleet.flights, flight.drive.subject ≠ runId) →
    Store.get fleet.world.rows runId = some row → TalliedRow row fleet.world.history
  unknown : ∀ runId, Store.get fleet.world.rows runId = none →
    ∀ step, failuresOn runId step fleet.world.history = 0

section Tended

variable {executor : Executor} {lease : Nat → Time} {fleet later : Fleet} {pool after : DrivePool}
variable {drive : DriveId} {choice : Choice} {runId : UUID}

theorem Piloted.spared (hpiloted : Piloted executor pool drive)
    (hthread : after.threads[drive.serial]? = pool.threads[drive.serial]?)
    (hspared : Spared drive.subject pool.world after.world) : Piloted executor after drive := by
  cases hpiloted with
  | inl haboard => exact .inl (haboard.spared hthread hspared)
  | inr hairborne =>
      obtain ⟨watch, hairborne⟩ := hairborne
      exact .inr ⟨watch, hairborne.spared hthread hspared⟩

theorem Piloted.thread (hpiloted : Piloted executor pool drive) :
    ∃ body, pool.threads[drive.serial]? = some (drive.subject, body) := by
  cases hpiloted with
  | inl haboard => exact ⟨_, haboard.thread⟩
  | inr hairborne =>
      obtain ⟨_, _, _, _, _, -, body, hthread, -⟩ := hairborne
      exact ⟨body, hthread⟩

theorem Piloted.stored (hpiloted : Piloted executor pool drive) :
    ∃ row, Store.get (World.rows pool.world) drive.subject = some row := by
  cases hpiloted with
  | inl haboard =>
      obtain ⟨row, hrow, -⟩ := haboard.row
      exact ⟨row, hrow⟩
  | inr hairborne =>
      obtain ⟨_, _, _, _, _, haloft⟩ := hairborne
      exact haloft.stored

/-- One operation of a drive: it returns and leaves its run as its failures say, or
it goes on. -/
theorem Piloted.advance {engines : List WorkflowEngineType}
    (hwired : executor.handlers = buildHandlers engines) (hpiloted : Piloted executor pool drive)
    (hfault : failedIn drive (World.history pool.world) = true → choice.saveFault = none)
    (hafter : after = pool.step executor.handle (.advance drive.serial choice)) :
    Fleet.landed after drive = true ∧ (∃ row, Store.get (World.rows after.world) drive.subject =
        some row ∧ TalliedRow row (World.history after.world)) ∨
      Fleet.landed after drive = false ∧ Piloted executor after drive := by
  cases hpiloted with
  | inl haboard =>
      cases (haboard.advance hwired hafter).2 with
      | inl hlanded => exact .inl hlanded
      | inr hairborne => exact .inr ⟨hairborne.1, .inr hairborne.2⟩
  | inr hairborne =>
      obtain ⟨watch, hairborne⟩ := hairborne
      obtain ⟨watch, row, start, count, haloft, hcalm, -⟩ := hairborne.advance hfault hafter
      cases hland : Fleet.landed after drive with
      | true =>
          obtain ⟨stored, hstored⟩ := haloft.stored
          exact .inl ⟨rfl, stored, hstored, (haloft.tallied hland hstored).2⟩
      | false => exact .inr ⟨rfl, .inr ⟨watch, hcalm hland, row, start, count, haloft⟩⟩

/-- A drive in which nothing has failed may be cut off. -/
theorem Piloted.tallied (hpiloted : Piloted executor pool drive)
    (hcalm : failedIn drive (World.history pool.world) = false) {stored : WorkflowRun}
    (hget : Store.get (World.rows pool.world) drive.subject = some stored) :
    TalliedRow stored (World.history pool.world) := by
  cases hpiloted with
  | inl haboard =>
      obtain ⟨row, hrow, htallied⟩ := haboard.row
      obtain rfl := Option.some.inj (hrow.symm.trans hget)
      exact htallied
  | inr hairborne =>
      obtain ⟨watch, -, row, start, count, haloft⟩ := hairborne
      have hnone : ¬ watch.setback.isSome = true := by
        rw [haloft.flown.told, hcalm]
        simp
      exact haloft.flown.tallied (fun hsome => absurd hsome hnone) hget

/-- A drive leaves the other runs alone. -/
theorem advance_aside {body : Prog Operations (Except PyException Unit × Option WorkflowRun)}
    (hthread : pool.threads[drive.serial]? = some (drive.subject, body))
    (hafter : after = pool.step executor.handle (.advance drive.serial choice))
    (hledger : LedgerInv after.world) (hother : runId ≠ drive.subject) :
    Spared runId pool.world after.world := by
  simp only [Pool.step, hthread] at hafter
  cases body with
  | ret value =>
      rw [hafter]
      exact ⟨Int.le_refl _, fun row hrow => ⟨row.scheduledAt, hrow⟩, [], rfl, by simp⟩
  | call op next =>
      rw [hafter] at hledger ⊢
      exact World.serve_aside hledger hother

theorem advance_others {body : Prog Operations (Except PyException Unit × Option WorkflowRun)}
    (hthread : pool.threads[drive.serial]? = some (drive.subject, body))
    (hafter : after = pool.step executor.handle (.advance drive.serial choice))
    (hledger : LedgerInv after.world) (hother : runId ≠ drive.subject) :
    Store.get (World.rows after.world) runId = Store.get (World.rows pool.world) runId := by
  simp only [Pool.step, hthread] at hafter
  cases body with
  | ret value => rw [hafter]
  | call op next =>
      rw [hafter] at hledger ⊢
      exact World.serve_others hledger hother

/-- Only the drive that is advanced does anything. -/
theorem advance_drive {body : Prog Operations (Except PyException Unit × Option WorkflowRun)}
    {other : DriveId} {record : LogRecord}
    (hthread : pool.threads[drive.serial]? = some (drive.subject, body))
    (hafter : after = pool.step executor.handle (.advance drive.serial choice))
    (hlogged : World.history after.world = .logged other record :: World.history pool.world) :
    other = drive := by
  simp only [Pool.step, hthread] at hafter
  cases body with
  | ret value =>
      rw [hafter] at hlogged
      exact absurd hlogged.symm (List.cons_ne_self _ _)
  | call op next =>
      rw [hafter] at hlogged
      obtain ⟨newer, hhistory, hown⟩ := @World.serve_history pool.world drive choice op
      have hnewer : newer = [.logged other record] :=
        List.append_cancel_right (hhistory.symm.trans hlogged)
      have hactor := hown _ (by rw [hnewer]; exact List.mem_singleton_self _)
      exact Option.some.inj hactor

/-- An absent run stays as it was where it is left alone. -/
theorem Spared.absent {world final : World} (hspared : Spared runId world final)
    (hnone : Store.get final.rows runId = none) : Store.get world.rows runId = none := by
  cases hrow : Store.get world.rows runId with
  | none => rfl
  | some row =>
      obtain ⟨scheduledAt, hlater⟩ := hspared.row row hrow
      rw [hnone] at hlater
      cases hlater

theorem Spared.failuresOn {world final : World} (hspared : Spared runId world final)
    (step : StepName) :
    failuresOn runId step final.history = failuresOn runId step world.history := by
  obtain ⟨newer, hhistory, hothers⟩ := hspared.history
  rw [hhistory]
  exact failuresOn_aside hothers

namespace Tended

theorem initial (clock : Time) : Tended executor { pool := ⟨{ clock := clock }, []⟩ } where
  system := ⟨clock, [], rfl⟩
  workers := .nil
  piloted _ hflight := by cases hflight
  resting _ _ _ hrow := by cases hrow
  unknown _ _ _ := rfl

theorem system_step (htended : Tended executor fleet) (move : FleetMove) :
    ∃ clock others, (fleet.step executor lease move).pool = reached executor clock others := by
  obtain ⟨clock, others, hpool⟩ := htended.system
  obtain ⟨next, hnext⟩ := fleet.step_pool executor lease move
  exact ⟨clock, others ++ next, by rw [hnext, hpool, reached_append]⟩

theorem runIds (htended : Tended executor fleet) :
    (fleet.world.rows.map WorkflowRun.runId).Nodup := by
  obtain ⟨clock, others, hpool⟩ := htended.system
  rw [Fleet.world, hpool]
  exact reached_runIds executor clock others

theorem ledger (htended : Tended executor fleet) : LedgerInv fleet.world := by
  obtain ⟨clock, others, hpool⟩ := htended.system
  rw [Fleet.world, hpool]
  exact reached_ledger clock others

/-- A drive that is not started yet has done nothing. -/
theorem fresh (htended : Tended executor fleet) {drive : DriveId}
    (hserial : fleet.pool.threads.length ≤ drive.serial) :
    failedIn drive fleet.world.history = false := by
  obtain ⟨clock, others, hpool⟩ := htended.system
  have habsent := (reached_sound (ledger_compatible executor) clock (.initial clock) others).absent
    drive (by rwa [← hpool])
  rw [← hpool] at habsent
  have hnone := @failedIn_aside (World.history fleet.pool.world) [] drive habsent
  rw [List.append_nil] at hnone
  exact hnone

/-- Something comes from outside. -/
theorem outside (htended : Tended executor fleet) {event : Outside}
    (hforward : ∀ now, event = .tick now → fleet.world.clock ≤ now)
    (hpool : later.pool = fleet.pool.step executor.handle (.outside event))
    (hflights : later.flights = fleet.flights) : Tended executor later := by
  have hspared : ∀ runId, Spared runId fleet.pool.world later.pool.world := by
    intro runId
    rw [hpool]
    exact World.outside_aside hforward
  refine ⟨?_, by rw [hflights]; exact htended.workers, ?_, ?_, ?_⟩
  · obtain ⟨clock, others, hsystem⟩ := htended.system
    refine ⟨clock, others ++ [.outside event], ?_⟩
    rw [hpool, hsystem, reached_append]
    rfl
  · rw [hflights]
    intro flight hflight
    exact (htended.piloted flight hflight).spared (by rw [hpool]; rfl) (hspared _)
  · intro runId row hfree hrow
    rw [hflights] at hfree
    have hlater : Store.get (World.rows (World.outside event fleet.world)) runId = some row := by
      rw [Fleet.world, hpool] at hrow
      exact hrow
    cases World.outside_rows event hlater with
    | inl hold =>
        obtain ⟨old, scheduledAt, hold, -⟩ := hold
        exact TalliedRow.spared (hspared runId) hold (htended.resting runId old hfree hold) hrow
    | inr hcreated =>
        apply hcreated.2.tallied
        intro step
        rw [Store.runId_of_get hrow]
        exact ((hspared runId).failuresOn step).trans (htended.unknown runId hcreated.1 step)
  · intro runId hnone step
    exact ((hspared runId).failuresOn step).trans
      (htended.unknown runId ((hspared runId).absent hnone) step)

/-- A loop starts driving a run that no other drives. -/
theorem boards (htended : Tended executor fleet) {worker : Nat} {time : Time} {row : WorkflowRun}
    (hrow : Store.get fleet.world.rows runId = some row)
    (hfree : ∀ flight ∈ fleet.flights, flight.drive.subject ≠ runId)
    (hdormant : ∀ flight ∈ fleet.flights, flight.worker ≠ worker)
    (hpool : later.pool = fleet.pool.step executor.handle (.start runId))
    (hflights : later.flights =
      ⟨worker, ⟨runId, fleet.pool.threads.length⟩, time⟩ :: fleet.flights) :
    Tended executor later := by
  have hworld : later.world = fleet.world := by
    rw [Fleet.world, hpool]
    rfl
  refine ⟨?_, ?_, ?_, ?_, ?_⟩
  · obtain ⟨clock, others, hsystem⟩ := htended.system
    refine ⟨clock, others ++ [.start runId], ?_⟩
    rw [hpool, hsystem, reached_append]
    rfl
  · rw [hflights]
    apply List.Pairwise.cons _ htended.workers
    intro flight hflight
    exact (hdormant flight hflight).symm
  · rw [hflights]
    intro flight hflight
    cases List.mem_cons.mp hflight with
    | inl hnew =>
        subst hnew
        left
        rw [hpool]
        refine ⟨List.getElem?_concat_length, htended.fresh (Nat.le_refl _), row, hrow, ?_⟩
        exact htended.resting runId row hfree hrow
    | inr hold =>
        have hpiloted := htended.piloted flight hold
        obtain ⟨body, hthread⟩ := hpiloted.thread
        obtain ⟨hlength, -⟩ := List.getElem?_eq_some_iff.mp hthread
        apply hpiloted.spared
        · rw [hpool]
          exact List.getElem?_append_left hlength
        · rw [hpool]
          exact ⟨Int.le_refl _, fun row hrow => ⟨row.scheduledAt, hrow⟩, [], rfl, by simp⟩
  · intro other found hother hfound
    rw [hworld] at hfound ⊢
    apply htended.resting other found _ hfound
    intro flight hflight
    apply hother
    rw [hflights]
    exact List.mem_cons_of_mem _ hflight
  · rw [hworld]
    exact htended.unknown

/-- A loop that is cut off with nothing failed. -/
theorem dies (htended : Tended executor fleet) {worker : Nat}
    (hcalm : ∀ flight ∈ fleet.flights, flight.worker = worker →
      failedIn flight.drive fleet.world.history = false) :
    Tended executor { fleet with flights := fleet.without worker } where
  system := htended.system
  workers := htended.workers.filter _
  piloted flight hflight := htended.piloted flight (List.mem_of_mem_filter hflight)
  resting := by
    intro runId row hfree hrow
    by_cases hdriven : ∃ flight ∈ fleet.flights, flight.drive.subject = runId
    · obtain ⟨flight, hflight, hsubject⟩ := hdriven
      have hworker : flight.worker = worker := by
        by_contra hother
        have hkept : flight ∈ fleet.without worker :=
          List.mem_filter.mpr ⟨hflight, by simpa using hother⟩
        exact hfree flight hkept hsubject
      rw [← hsubject] at hrow
      exact (htended.piloted flight hflight).tallied (hcalm flight hflight hworker) hrow
    · apply htended.resting runId row _ hrow
      intro flight hflight hsubject
      exact hdriven ⟨flight, hflight, hsubject⟩
  unknown := htended.unknown

/-- The other drives in flight are of other runs, and in other threads. -/
theorem apart (htended : Tended executor fleet) (hsequential : OneDriver fleet)
    {flight other : Flight} (hflight : flight ∈ fleet.flights) (hother : other ∈ fleet.flights)
    (hne : other ≠ flight) :
    other.worker ≠ flight.worker ∧ other.drive.subject ≠ flight.drive.subject ∧
      other.drive.serial ≠ flight.drive.serial := by
  have hpiloted : ∀ first second : Flight, first ∈ fleet.flights → second ∈ fleet.flights →
      first ≠ second → first.worker ≠ second.worker ∧
        first.drive.subject ≠ second.drive.subject := by
    have hboth := htended.workers.and hsequential
    have hsymm : Std.Symm fun first second : Flight =>
        first.worker ≠ second.worker ∧ first.drive.subject ≠ second.drive.subject := by
      constructor
      intro first second hne
      exact ⟨hne.1.symm, hne.2.symm⟩
    intro first second hfirst hsecond hne
    exact List.Pairwise.forall hboth hfirst hsecond hne
  obtain ⟨hworker, hsubject⟩ := hpiloted other flight hother hflight hne
  refine ⟨hworker, hsubject, ?_⟩
  intro hserial
  obtain ⟨_, hthread⟩ := (htended.piloted other hother).thread
  obtain ⟨_, hthread'⟩ := (htended.piloted flight hflight).thread
  rw [hserial, hthread'] at hthread
  exact hsubject (congrArg Prod.fst (Option.some.inj hthread)).symm

theorem advance_threads (htended : Tended executor fleet) {flight : Flight}
    (hflight : flight ∈ fleet.flights)
    (hpool : later.pool = fleet.pool.step executor.handle (.advance flight.drive.serial choice))
    {serial : Nat} (hserial : serial ≠ flight.drive.serial) :
    later.pool.threads[serial]? = fleet.pool.threads[serial]? := by
  obtain ⟨body, hthread⟩ := (htended.piloted flight hflight).thread
  rw [hpool]
  cases body with
  | ret value => simp [Pool.step, hthread]
  | call op next =>
      simp only [Pool.step, hthread]
      exact List.getElem?_set_ne hserial.symm

/-- One operation of a drive in flight. -/
theorem advance {engines : List WorkflowEngineType}
    (hwired : executor.handlers = buildHandlers engines) (htended : Tended executor fleet)
    (hsequential : OneDriver fleet) {flight : Flight} (hflight : flight ∈ fleet.flights)
    (hfault : failedIn flight.drive fleet.world.history = true → choice.saveFault = none)
    (hpool : later.pool = fleet.pool.step executor.handle (.advance flight.drive.serial choice))
    (hflights : later.flights = if Fleet.landed later.pool flight.drive then
      fleet.without flight.worker else fleet.flights) : Tended executor later := by
  have hsystem : ∃ clock others, later.pool = reached executor clock others := by
    obtain ⟨clock, others, hsystem⟩ := htended.system
    refine ⟨clock, others ++ [.advance flight.drive.serial choice], ?_⟩
    rw [hpool, hsystem, reached_append]
    rfl
  have hledger : LedgerInv later.pool.world := by
    obtain ⟨clock, others, hsystem⟩ := hsystem
    rw [hsystem]
    exact reached_ledger clock others
  have hpiloted := htended.piloted flight hflight
  have hadvanced := hpiloted.advance hwired hfault hpool
  obtain ⟨body, hthread⟩ := hpiloted.thread
  have hspared : ∀ runId, runId ≠ flight.drive.subject →
      Spared runId fleet.pool.world later.pool.world := fun runId =>
    advance_aside hthread hpool hledger
  have hothers : ∀ other ∈ fleet.flights, other ≠ flight →
      Piloted executor later.pool other.drive := by
    intro other hother hne
    obtain ⟨-, hsubject, hserial⟩ := htended.apart hsequential hflight hother hne
    exact (htended.piloted other hother).spared (htended.advance_threads hflight hpool hserial)
      (hspared _ hsubject)
  have hstored : ∃ row, Store.get later.world.rows flight.drive.subject = some row := by
    cases hadvanced with
    | inl hlanded =>
        obtain ⟨-, row, hrow, -⟩ := hlanded
        exact ⟨row, hrow⟩
    | inr hairborne => exact hairborne.2.stored
  have hunknown : ∀ runId, Store.get later.world.rows runId = none →
      ∀ step, failuresOn runId step later.world.history = 0 := by
    intro runId hnone step
    have hother : runId ≠ flight.drive.subject := by
      intro heq
      obtain ⟨row, hrow⟩ := hstored
      rw [heq, hrow] at hnone
      cases hnone
    exact ((hspared runId hother).failuresOn step).trans
      (htended.unknown runId ((hspared runId hother).absent hnone) step)
  have hresting : ∀ runId row, runId ≠ flight.drive.subject →
      (∀ other ∈ fleet.flights, other ≠ flight → other.drive.subject ≠ runId) →
      Store.get later.world.rows runId = some row → TalliedRow row later.world.history := by
    intro runId row hother hfree hrow
    have hsame : Store.get later.world.rows runId = Store.get fleet.world.rows runId :=
      advance_others hthread hpool hledger hother
    apply TalliedRow.spared (hspared runId hother) (hsame.symm.trans hrow) _ hrow
    apply htended.resting runId row _ (hsame.symm.trans hrow)
    intro other hmem heq
    by_cases hsame : other = flight
    · rw [hsame] at heq
      exact hother heq.symm
    · exact hfree other hmem hsame heq
  cases hadvanced with
  | inl hlanded =>
      obtain ⟨hlanded, row, hrow, htallied⟩ := hlanded
      rw [if_pos hlanded] at hflights
      have hremain : ∀ other, other ∈ later.flights ↔ other ∈ fleet.flights ∧ other ≠ flight := by
        intro other
        rw [hflights, Fleet.without, List.mem_filter]
        constructor
        · intro hmem
          refine ⟨hmem.1, ?_⟩
          intro heq
          rw [heq] at hmem
          simp at hmem
        · intro hmem
          refine ⟨hmem.1, ?_⟩
          simpa using (htended.apart hsequential hflight hmem.1 hmem.2).1
      refine ⟨hsystem, by rw [hflights]; exact htended.workers.filter _, ?_, ?_, hunknown⟩
      · intro other hother
        obtain ⟨hmem, hne⟩ := (hremain other).mp hother
        exact hothers other hmem hne
      · intro runId found hfree hfound
        by_cases hsame : runId = flight.drive.subject
        · rw [hsame] at hfound
          obtain rfl := Option.some.inj (hrow.symm.trans hfound)
          exact htallied
        · apply hresting runId found hsame _ hfound
          intro other hmem hne
          exact hfree other ((hremain other).mpr ⟨hmem, hne⟩)
  | inr hairborne =>
      rw [if_neg (by simp [hairborne.1])] at hflights
      refine ⟨hsystem, by rw [hflights]; exact htended.workers, ?_, ?_, hunknown⟩
      · rw [hflights]
        intro other hother
        by_cases hsame : other = flight
        · rw [hsame]
          exact hairborne.2
        · exact hothers other hother hsame
      · rw [hflights]
        intro runId row hfree hrow
        apply hresting runId row (hfree flight hflight).symm _ hrow
        intro other hother _
        exact hfree other hother

/-- One move of a fleet in which no run is driven by two loops. -/
theorem step {engines : List WorkflowEngineType}
    (hwired : executor.handlers = buildHandlers engines) (htended : Tended executor fleet)
    (hsequential : OneDriver fleet) {move : FleetMove}
    (hsequential' : OneDriver (fleet.step executor lease move))
    (hunsevered : Unsevered fleet move) :
    Tended executor (fleet.step executor lease move) := by
  have htakes : Fleet.Takes executor fleet move (fleet.step executor lease move) :=
    Fleet.takes htended.runIds move
  cases htakes with
  | rests hpool hflights =>
      have hworld : (fleet.step executor lease move).world = fleet.world := by
        rw [Fleet.world, hpool]
        rfl
      refine ⟨by rw [hpool]; exact htended.system, by rw [hflights]; exact htended.workers,
        by rw [hpool, hflights]; exact htended.piloted, ?_, ?_⟩
      · rw [hworld, hflights]
        exact htended.resting
      · rw [hworld]
        exact htended.unknown
  | outside event hpool hflights hticks _ =>
      apply htended.outside _ hpool hflights
      intro now heq
      rw [hticks now heq] at hunsevered
      exact hunsevered
  | @claims worker locked _ row time hdormant hrow hdue hids hpool hflights =>
      have htimeless : ∀ now, Outside.claimDue 1 time locked = .tick now →
          fleet.world.clock ≤ now := by
        intro now heq
        cases heq
      have hclaimed : Tended executor (fleet.outside executor (.claimDue 1 time locked)) :=
        htended.outside htimeless rfl rfl
      obtain ⟨scheduledAt, hlater⟩ :=
        (@World.outside_aside _ row.runId _ htimeless).row row hrow
      rw [OneDriver, hflights] at hsequential'
      apply hclaimed.boards hlater _ _ hpool hflights
      · intro flight hflight
        exact (List.rel_of_pairwise_cons hsequential' hflight).symm
      · intro flight hflight
        have hother := List.find?_eq_none.mp hdormant flight hflight
        simpa using hother
  | advances flight hflight hpool hflights =>
      exact htended.advance hwired hsequential hflight (hunsevered flight hflight rfl)
        hpool hflights
  | dies worker => exact htended.dies hunsevered

end Tended

/-! ## Waiting -/

/-- A step of the run has failed, and the run is not driven on: the drive has still to
save it, or it waits. -/
def Cooling (executor : Executor) (fleet : Fleet) (runId : UUID) (due : Time) : Prop :=
  (∃ flight ∈ fleet.flights, flight.drive.subject = runId ∧ ∃ watch setback,
    Airborne executor fleet.pool flight.drive watch ∧ watch.setback = some setback ∧
      setback.since + putOff executor.retryBase setback.failures = due) ∨
  (∀ flight ∈ fleet.flights, flight.drive.subject ≠ runId) ∧ LeftWaiting fleet.world runId due

/-- The run was not driven on between the two. -/
def Dormant (runId : UUID) (before after : World) : Prop :=
  ∃ newer, after.history = newer ++ before.history ∧
    ∀ event ∈ newer, event.resumes runId = false

theorem Dormant.refl (world : World) : Dormant runId world world :=
  ⟨[], rfl, by simp⟩

theorem Dormant.trans {first second third : World} (hfirst : Dormant runId first second)
    (hsecond : Dormant runId second third) : Dormant runId first third := by
  obtain ⟨older, hold, hsilent⟩ := hfirst
  obtain ⟨newer, hnew, hquiet⟩ := hsecond
  refine ⟨newer ++ older, by rw [hnew, hold, List.append_assoc], ?_⟩
  intro event hevent
  cases List.mem_append.mp hevent with
  | inl hmem => exact hquiet event hmem
  | inr hmem => exact hsilent event hmem

theorem Spared.dormant {world final : World} (hspared : Spared runId world final) :
    Dormant runId world final := by
  obtain ⟨newer, hhistory, hothers⟩ := hspared.history
  refine ⟨newer, hhistory, ?_⟩
  intro event hevent
  cases hresumes : event.resumes runId with
  | false => rfl
  | true =>
      obtain ⟨drive, hactor, hsubject⟩ := Event.resumes_actor hresumes
      exact absurd hsubject (hothers event hevent drive hactor)

/-- A row that is due is past its backoff. -/
theorem LeftWaiting.past {world : World} {due : Time} (hleft : LeftWaiting world runId due)
    (hledger : LedgerInv world) {row : WorkflowRun}
    (hrow : Store.get world.rows runId = some row)
    (hisDue : Store.isDue world.clock row = true) : due ≤ world.clock := by
  obtain ⟨stored, hstored, hwaits⟩ := hleft
  obtain rfl := Option.some.inj (hstored.symm.trans hrow)
  have hscheduled : stored.scheduledAt ≠ none := Store.scheduled_of_isDue hisDue
  cases hwaits with
  | inl hterminal =>
      exact absurd ((hledger.scheduled runId stored hrow).mpr hterminal) hscheduled
  | inr hwaits =>
      obtain ⟨-, -, scheduledAt, hat, hlate⟩ := hwaits
      simp only [Store.isDue, hat, decide_eq_true_eq] at hisDue
      exact Int.le_trans hlate hisDue

/-- A run that waits goes on waiting, whatever comes from outside, unless it is due or
it is woken between two attempts at a step. -/
theorem LeftWaiting.outside {world : World} {due : Time} {event : Outside}
    (hleft : LeftWaiting world runId due) (hledger : LedgerInv world)
    (hwake : event = .wake runId → ∀ row, Store.get world.rows runId = some row →
      CoolsOff world.clock row = false) :
    due ≤ world.clock ∨ LeftWaiting (world.outside event) runId due := by
  have hpast := @LeftWaiting.past _ _ _ hleft hledger
  obtain ⟨row, hrow, hwaits⟩ := hleft
  have hdue := @hpast row hrow
  have hkept : ∀ select time, (select row = true → due ≤ world.clock) →
      due ≤ world.clock ∨
        LeftWaiting { world with rows := Store.reschedule select time world.rows } runId due := by
    intro select time hselected
    cases hselect : select row with
    | true => exact .inl (hselected hselect)
    | false =>
        right
        refine ⟨row, ?_, hwaits⟩
        simp only [Store.get_reschedule, hrow, Option.map_some, hselect]
        rfl
  have hinsert : ∀ run, LeftWaiting (world.insert run) runId due :=
    fun run => ⟨row, FleetInv.get_insert hrow, hwaits⟩
  cases event with
  | trigger newId workflow request =>
      right
      simp only [World.outside]
      split
      next run _ => exact hinsert run
      next => exact ⟨row, hrow, hwaits⟩
  | triggerLegacy newId request => exact .inr (hinsert _)
  | claimDue limit lease locked =>
      apply hkept
      intro hselected
      rw [Bool.and_eq_true] at hselected
      exact hdue hselected.1
  | wake woken =>
      apply hkept
      intro hselected
      simp only [Store.wakes, decide_eq_true_eq] at hselected
      have hid : woken = runId := hselected.1.symm.trans (Store.runId_of_get hrow)
      have hcools := hwake (by rw [hid]) row hrow
      cases hwaits with
      | inl hterminal =>
          have hopen : row.status.terminal = false := by
            cases hselected.2 with
            | inl hpending => rw [hpending]; rfl
            | inr hrunning => rw [hrunning]; rfl
          rw [hterminal] at hopen
          cases hopen
      | inr hresting =>
          obtain ⟨hrunning, hunbegun, -⟩ := hresting
          apply hdue
          simpa [CoolsOff, hrunning, hunbegun] using hcools
  | tick now => exact .inr ⟨row, hrow, hwaits⟩

/-- What leaves the run and its drive alone leaves it waiting. -/
theorem Cooling.spared {due : Time} (hcooling : Cooling executor fleet runId due)
    (hspared : Spared runId fleet.pool.world later.pool.world)
    (hflights : ∀ flight ∈ fleet.flights, flight.drive.subject = runId → flight ∈ later.flights)
    (hfree : (∀ flight ∈ fleet.flights, flight.drive.subject ≠ runId) →
      ∀ flight ∈ later.flights, flight.drive.subject ≠ runId)
    (hthreads : ∀ flight ∈ fleet.flights, flight.drive.subject = runId →
      later.pool.threads[flight.drive.serial]? = fleet.pool.threads[flight.drive.serial]?)
    (hleft : (∀ flight ∈ fleet.flights, flight.drive.subject ≠ runId) →
      LeftWaiting fleet.world runId due → LeftWaiting later.world runId due) :
    Cooling executor later runId due ∧ Dormant runId fleet.world later.world := by
  refine ⟨?_, hspared.dormant⟩
  cases hcooling with
  | inl hflying =>
      obtain ⟨flight, hflight, hsubject, watch, setback, hairborne, hsetback⟩ := hflying
      refine .inl ⟨flight, hflights flight hflight hsubject, hsubject, watch, setback, ?_,
        hsetback⟩
      apply hairborne.spared (hthreads flight hflight hsubject)
      rw [hsubject]
      exact hspared
  | inr hresting =>
      exact .inr ⟨hfree hresting.1, hleft hresting.1 hresting.2⟩

/-- An operation of the drive that the step has failed in. -/
theorem Cooling.advance (hsequential : OneDriver fleet)
    (htended : Tended executor fleet) {flight : Flight} (hflight : flight ∈ fleet.flights)
    {due : Time} (hcooling : Cooling executor fleet flight.drive.subject due)
    (hfault : failedIn flight.drive fleet.world.history = true → choice.saveFault = none)
    (hpool : later.pool = fleet.pool.step executor.handle (.advance flight.drive.serial choice))
    (hflights : later.flights = if Fleet.landed later.pool flight.drive then
      fleet.without flight.worker else fleet.flights) :
    Cooling executor later flight.drive.subject due ∧
      Dormant flight.drive.subject fleet.world later.world := by
  cases hcooling with
  | inr hresting => exact absurd rfl (hresting.1 flight hflight)
  | inl hflying =>
      obtain ⟨other, hother, hsubject, watch, setback, hairborne, hsetback, hdue⟩ := hflying
      have hsame : other = flight := by
        by_contra hne
        exact (htended.apart hsequential hflight hother hne).2.1 hsubject
      subst hsame
      obtain ⟨watch, row, start, count, haloft, hcalm, -, htroubled⟩ :=
        hairborne.advance hfault hpool
      obtain ⟨hset, hdormant, hleft⟩ := htroubled setback hsetback
      refine ⟨?_, hdormant⟩
      cases hland : Fleet.landed later.pool other.drive with
      | true =>
          right
          rw [hland, if_pos rfl] at hflights
          refine ⟨?_, by rw [← hdue]; exact hleft hland⟩
          rw [hflights]
          intro driven hdriven hagain
          obtain ⟨hmem, hworker⟩ := List.mem_filter.mp hdriven
          by_cases hsame : driven = other
          · rw [hsame] at hworker
            simp at hworker
          · exact (htended.apart hsequential hother hmem hsame).2.1 hagain
      | false =>
          left
          rw [hland] at hflights
          refine ⟨other, by rw [hflights]; simpa using hother, rfl, watch, setback, ?_, hset, hdue⟩
          exact ⟨hcalm hland, row, start, count, haloft⟩

/-- A run that waits goes on waiting until it is due. -/
theorem Cooling.step (htended : Tended executor fleet) (hsequential : OneDriver fleet)
    {move : FleetMove} (hunsevered : Unsevered fleet move) (hunhurried : Unhurried fleet move)
    {due : Time} (hcooling : Cooling executor fleet runId due) :
    due ≤ fleet.world.clock ∨ Cooling executor (fleet.step executor lease move) runId due ∧
      Dormant runId fleet.world (fleet.step executor lease move).world := by
  have hledger : LedgerInv (fleet.step executor lease move).pool.world := by
    obtain ⟨clock, others, hpool⟩ := @Tended.system_step executor lease fleet htended move
    rw [hpool]
    exact reached_ledger clock others
  have htakes : Fleet.Takes executor fleet move (fleet.step executor lease move) :=
    Fleet.takes htended.runIds move
  cases htakes with
  | rests hpool hflights =>
      right
      apply hcooling.spared
      · rw [hpool]
        exact ⟨Int.le_refl _, fun row hrow => ⟨row.scheduledAt, hrow⟩, [], rfl, by simp⟩
      · intro flight hflight _
        rwa [hflights]
      · intro hfree
        rwa [hflights]
      · intro flight _ _
        rw [hpool]
      · intro _ hleft
        rw [Fleet.world, hpool]
        exact hleft
  | outside event hpool hflights hticks hwakes =>
      have hforward : ∀ now, event = .tick now → fleet.world.clock ≤ now := by
        intro now heq
        rw [hticks now heq] at hunsevered
        exact hunsevered
      have hwoken : event = .wake runId → (∀ flight ∈ fleet.flights,
          flight.drive.subject ≠ runId) → ∀ row, Store.get fleet.world.rows runId = some row →
            CoolsOff fleet.world.clock row = false := by
        intro heq hfree row hrow
        obtain ⟨index, hmove, hwoken⟩ := hwakes runId heq
        rw [hmove] at hunhurried
        have hid := Store.runId_of_get hrow
        apply hunhurried row (List.mem_of_find?_eq_some hrow)
        · rw [hwoken, hid]
        · rw [hid]
          exact hfree
      have hgoes : ((∀ flight ∈ fleet.flights, flight.drive.subject ≠ runId) →
          LeftWaiting fleet.world runId due →
            LeftWaiting (fleet.step executor lease move).world runId due) →
          Cooling executor (fleet.step executor lease move) runId due ∧
            Dormant runId fleet.world (fleet.step executor lease move).world := by
        apply hcooling.spared
        · rw [hpool]
          exact World.outside_aside hforward
        · intro flight hflight _
          rwa [hflights]
        · intro hfree
          rwa [hflights]
        · intro flight _ _
          rw [hpool]
          rfl
      by_cases hfree : ∀ flight ∈ fleet.flights, flight.drive.subject ≠ runId
      · cases hcooling with
        | inl hflying =>
            obtain ⟨flight, hflight, hsubject, -⟩ := hflying
            exact absurd hsubject (hfree flight hflight)
        | inr hresting =>
            cases hresting.2.outside htended.ledger (fun heq => hwoken heq hfree) with
            | inl hdue => exact .inl hdue
            | inr hleft =>
                right
                apply hgoes
                intro _ _
                rw [Fleet.world, hpool]
                exact hleft
      · exact .inr (hgoes fun hnone => absurd hnone hfree)
  | @claims worker locked _ row time hdormant hrow hdue hids hpool hflights =>
      have htimeless : ∀ now, Outside.claimDue 1 time locked = .tick now →
          fleet.world.clock ≤ now := by
        intro now heq
        cases heq
      have hgoes : ((∀ flight ∈ fleet.flights, flight.drive.subject ≠ runId) →
          row.runId ≠ runId) → ((∀ flight ∈ fleet.flights, flight.drive.subject ≠ runId) →
            LeftWaiting fleet.world runId due →
              LeftWaiting (fleet.step executor lease (.claim worker locked)).world runId due) →
          Cooling executor (fleet.step executor lease (.claim worker locked)) runId due ∧
            Dormant runId fleet.world (fleet.step executor lease (.claim worker locked)).world := by
        intro hothers
        apply hcooling.spared
        · rw [hpool]
          exact World.outside_aside htimeless
        · intro flight hflight _
          rw [hflights]
          exact List.mem_cons_of_mem _ hflight
        · intro hfree flight hflight
          rw [hflights] at hflight
          cases List.mem_cons.mp hflight with
          | inl hnew =>
              rw [hnew]
              exact hothers hfree
          | inr hold => exact hfree flight hold
        · intro flight hflight _
          obtain ⟨body, hthread⟩ := (htended.piloted flight hflight).thread
          obtain ⟨hlength, -⟩ := List.getElem?_eq_some_iff.mp hthread
          rw [hpool]
          exact List.getElem?_append_left hlength
      by_cases hfree : ∀ flight ∈ fleet.flights, flight.drive.subject ≠ runId
      · cases hcooling with
        | inl hflying =>
            obtain ⟨flight, hflight, hsubject, -⟩ := hflying
            exact absurd hsubject (hfree flight hflight)
        | inr hresting =>
            by_cases hsame : row.runId = runId
            · rw [hsame] at hrow
              exact .inl (hresting.2.past htended.ledger hrow hdue)
            · have hheld : due ≤ fleet.world.clock ∨
                  LeftWaiting (fleet.world.outside (.claimDue 1 time locked)) runId due :=
                hresting.2.outside htended.ledger fun heq => by cases heq
              cases hheld with
              | inl hdue => exact .inl hdue
              | inr hleft =>
                  right
                  apply hgoes (fun _ => hsame)
                  intro _ _
                  rw [Fleet.world, hpool]
                  exact hleft
      · exact .inr (hgoes (fun hnone => absurd hnone hfree) fun hnone => absurd hnone hfree)
  | advances flight hflight hpool hflights =>
      right
      by_cases hsame : flight.drive.subject = runId
      · subst hsame
        exact hcooling.advance hsequential htended hflight (hunsevered flight hflight rfl) hpool
          hflights
      · obtain ⟨body, hthread⟩ := (htended.piloted flight hflight).thread
        have hother : ∀ other ∈ fleet.flights, other.drive.subject = runId →
            other.worker ≠ flight.worker ∧ other.drive.serial ≠ flight.drive.serial := by
          intro other hmem hsubject
          have hne : other ≠ flight := by
            intro heq
            rw [heq] at hsubject
            exact hsame hsubject
          obtain ⟨hworker, -, hserial⟩ := htended.apart hsequential hflight hmem hne
          exact ⟨hworker, hserial⟩
        apply hcooling.spared
        · exact advance_aside hthread hpool hledger (Ne.symm hsame)
        · intro other hmem hsubject
          rw [hflights]
          split
          · exact List.mem_filter.mpr ⟨hmem, by simpa using (hother other hmem hsubject).1⟩
          · exact hmem
        · intro hfree other hmem
          rw [hflights] at hmem
          split at hmem
          · exact hfree other (List.mem_of_mem_filter hmem)
          · exact hfree other hmem
        · intro other hmem hsubject
          exact htended.advance_threads hflight hpool (hother other hmem hsubject).2
        · intro _ hleft
          obtain ⟨row, hrow, hwaits⟩ := hleft
          exact ⟨row, (advance_others hthread hpool hledger (Ne.symm hsame)).trans hrow, hwaits⟩
  | dies worker =>
      right
      refine ⟨?_, .refl _⟩
      cases hcooling with
      | inl hflying =>
          obtain ⟨flight, hflight, hsubject, watch, setback, hairborne, hsetback⟩ := hflying
          have hfailed : failedIn flight.drive fleet.world.history = true := by
            obtain ⟨-, _, _, _, haloft⟩ := hairborne
            have htold := haloft.flown.told
            rw [hsetback.1] at htold
            exact htold.symm
          have hworker : flight.worker ≠ worker := by
            intro heq
            have hcalm := hunsevered flight hflight heq
            rw [hfailed] at hcalm
            cases hcalm
          refine .inl ⟨flight, List.mem_filter.mpr ⟨hflight, by simpa using hworker⟩, hsubject,
            watch, setback, hairborne, hsetback⟩
      | inr hresting =>
          right
          refine ⟨?_, hresting.2⟩
          intro flight hflight
          exact hresting.1 flight (List.mem_of_mem_filter hflight)

/-- A step fails, and the run waits from then on. -/
theorem Tended.fails {engines : List WorkflowEngineType}
    (hwired : executor.handlers = buildHandlers engines) (htended : Tended executor fleet)
    {move : FleetMove} (hunsevered : Unsevered fleet move) {step : StepName} {attempt : Int}
    {error : PyException}
    (hfailed : (fleet.step executor lease move).world.history =
      .logged drive (.stepRaised step attempt error) :: fleet.world.history) :
    Cooling executor (fleet.step executor lease move) drive.subject (fleet.world.clock +
      putOff executor.retryBase (failuresOn drive.subject step fleet.world.history)) := by
  have hnobody : ∀ event, (fleet.step executor lease move).world.history =
      (fleet.world.outside event).history → False := by
    intro event hsame
    obtain ⟨newer, hhistory, hnobody⟩ := fleet.world.outside_history event
    rw [hsame, hhistory] at hfailed
    have hnewer : newer = [.logged drive (.stepRaised step attempt error)] :=
      List.append_cancel_right hfailed
    have hactor := hnobody _ (by rw [hnewer]; exact List.mem_singleton_self _)
    cases hactor
  have htakes : Fleet.Takes executor fleet move (fleet.step executor lease move) :=
    Fleet.takes htended.runIds move
  cases htakes with
  | rests hpool hflights =>
      rw [Fleet.world, hpool] at hfailed
      exact absurd hfailed.symm (List.cons_ne_self _ _)
  | outside event hpool hflights hticks hwakes =>
      exact (hnobody event (by rw [Fleet.world, hpool]; rfl)).elim
  | @claims worker locked _ row time hdormant hrow hdue hids hpool hflights =>
      exact (hnobody (.claimDue 1 time locked) (by rw [Fleet.world, hpool]; rfl)).elim
  | dies worker => exact absurd hfailed.symm (List.cons_ne_self _ _)
  | @advances choice _ flight hflight hpool hflights =>
      have hpiloted := htended.piloted flight hflight
      obtain ⟨body, hthread⟩ := hpiloted.thread
      have hdrive : drive = flight.drive := advance_drive hthread hpool hfailed
      subst hdrive
      cases hpiloted with
      | inl haboard => exact absurd hfailed ((haboard.advance hwired hpool).1 step attempt error)
      | inr hairborne =>
          obtain ⟨watch, hairborne⟩ := hairborne
          obtain ⟨later, row, start, count, haloft, hcalm, hnoticed, -⟩ :=
            hairborne.advance (hunsevered flight hflight rfl) hpool
          obtain ⟨hsetback, hkept⟩ := hnoticed step attempt error hfailed
          obtain ⟨stored, hstored⟩ := haloft.stored
          have hland : Fleet.landed
              (fleet.step executor lease (.advance flight.worker choice)).pool flight.drive =
                false := by
            rw [Bool.eq_false_iff]
            intro hlanded
            have hsettled := (haloft.tallied hlanded hstored).1 (by simp [hsetback])
            rw [hkept] at hsettled
            cases hsettled
          -- the failures on record are those before it, and this one
          have howed := haloft.flown.owed
          rw [hsetback] at howed
          have hcount : failuresOn flight.drive.subject step fleet.world.history =
              attempt.toNat := by
            have hraises : Event.raises flight.drive.subject step
                (.logged flight.drive (.stepRaised step attempt error)) = true := by
              simp [Event.raises]
            have hsum := howed.1
            rw [haloft.flown.subject] at hsum
            change failuresOn flight.drive.subject step
              (fleet.step executor lease (.advance flight.worker choice)).world.history = _ at hsum
            rw [hfailed, failuresOn, List.countP_cons_of_pos hraises] at hsum
            exact Nat.succ.inj hsum
          left
          rw [hland] at hflights
          refine ⟨flight, by rw [hflights]; simpa using hflight, rfl, later, _, ?_, hsetback, ?_⟩
          · exact ⟨hcalm hland, row, start, count, haloft⟩
          · rw [hcount]
            rfl

/-- Time never goes back, and no history is lost. -/
theorem Fleet.step_onward (htended : Tended executor fleet) {move : FleetMove}
    (hunsevered : Unsevered fleet move) :
    fleet.world.clock ≤ (fleet.step executor lease move).world.clock ∧
      ∃ newer, (fleet.step executor lease move).world.history = newer ++ fleet.world.history := by
  have htakes : Fleet.Takes executor fleet move (fleet.step executor lease move) :=
    Fleet.takes htended.runIds move
  have houtside : ∀ event, (∀ now, event = .tick now → fleet.world.clock ≤ now) →
      (fleet.step executor lease move).world = fleet.world.outside event →
      fleet.world.clock ≤ (fleet.step executor lease move).world.clock ∧
        ∃ newer, (fleet.step executor lease move).world.history =
          newer ++ fleet.world.history := by
    intro event hforward hsame
    obtain ⟨newer, hhistory, -⟩ := fleet.world.outside_history event
    rw [hsame]
    exact ⟨World.outside_clock hforward, newer, hhistory⟩
  cases htakes with
  | rests hpool hflights =>
      rw [Fleet.world, Fleet.world, hpool]
      exact ⟨Int.le_refl _, [], rfl⟩
  | outside event hpool hflights hticks hwakes =>
      apply houtside event
      · intro now heq
        rw [hticks now heq] at hunsevered
        exact hunsevered
      · rw [Fleet.world, hpool]
        rfl
  | @claims worker locked _ row time hdormant hrow hdue hids hpool hflights =>
      apply houtside (.claimDue 1 time locked)
      · intro now heq
        cases heq
      · rw [Fleet.world, hpool]
        rfl
  | dies worker => exact ⟨Int.le_refl _, [], rfl⟩
  | @advances choice _ flight hflight hpool hflights =>
      obtain ⟨body, hthread⟩ := (htended.piloted flight hflight).thread
      rw [Fleet.world, Fleet.world, hpool]
      simp only [Pool.step, hthread]
      cases body with
      | ret value => exact ⟨Int.le_refl _, [], rfl⟩
      | call op next =>
          obtain ⟨newer, hhistory, -⟩ :=
            @World.serve_history fleet.pool.world flight.drive choice op
          exact ⟨Int.le_of_eq (World.serve_clock ..).symm, newer, hhistory⟩

variable (executor lease) in
/-- No run is being driven by two loops after the move. -/
def Sequential (fleet : Fleet) (move : FleetMove) : Prop :=
  OneDriver (fleet.step executor lease move)

instance (fleet : Fleet) : DecidablePred (Sequential executor lease fleet) :=
  fun move => inferInstanceAs (Decidable (OneDriver (fleet.step executor lease move)))

theorem During.append {condition : Fleet → FleetMove → Prop} {first second : List FleetMove}
    (hduring : During executor lease condition (first ++ second) fleet) :
    During executor lease condition first fleet ∧
      During executor lease condition second (fleet.run executor lease first) := by
  induction first generalizing fleet with
  | nil => exact ⟨trivial, hduring⟩
  | cons move first ih =>
      obtain ⟨hmove, hrest⟩ := hduring
      obtain ⟨hfirst, hsecond⟩ := ih hrest
      exact ⟨⟨hmove, hfirst⟩, hsecond⟩

section Runs

variable {engines : List WorkflowEngineType} {moves : List FleetMove}

theorem Tended.run (hwired : executor.handlers = buildHandlers engines)
    (htended : Tended executor fleet) (hone : OneDriver fleet)
    (hsequential : During executor lease (Sequential executor lease) moves fleet)
    (hunsevered : During executor lease Unsevered moves fleet) :
    Tended executor (fleet.run executor lease moves) ∧
      OneDriver (fleet.run executor lease moves) := by
  induction moves generalizing fleet with
  | nil => exact ⟨htended, hone⟩
  | cons move moves ih =>
      exact ih (htended.step hwired hone hsequential.1 hunsevered.1) hsequential.1 hsequential.2
        hunsevered.2

theorem Fleet.run_onward (hwired : executor.handlers = buildHandlers engines)
    (htended : Tended executor fleet) (hone : OneDriver fleet)
    (hsequential : During executor lease (Sequential executor lease) moves fleet)
    (hunsevered : During executor lease Unsevered moves fleet) :
    fleet.world.clock ≤ (fleet.run executor lease moves).world.clock ∧
      ∃ newer, (fleet.run executor lease moves).world.history =
        newer ++ fleet.world.history := by
  induction moves generalizing fleet with
  | nil => exact ⟨Int.le_refl _, [], rfl⟩
  | cons move moves ih =>
      obtain ⟨hclock, older, hold⟩ :=
        @Fleet.step_onward executor lease fleet htended move hunsevered.1
      obtain ⟨hlater, newer, hnew⟩ := ih (htended.step hwired hone hsequential.1 hunsevered.1)
        hsequential.1 hsequential.2 hunsevered.2
      refine ⟨Int.le_trans hclock hlater, newer ++ older, ?_⟩
      rw [List.append_assoc, ← hold]
      exact hnew

/-- A run that waits is not driven on before it is due. -/
theorem Cooling.run (hwired : executor.handlers = buildHandlers engines)
    (htended : Tended executor fleet) (hone : OneDriver fleet)
    (hsequential : During executor lease (Sequential executor lease) moves fleet)
    (hunsevered : During executor lease Unsevered moves fleet)
    (hunhurried : During executor lease Unhurried moves fleet)
    {due : Time} (hcooling : Cooling executor fleet runId due) :
    due ≤ (fleet.run executor lease moves).world.clock ∨
      Dormant runId fleet.world (fleet.run executor lease moves).world := by
  induction moves generalizing fleet with
  | nil => exact .inr (.refl _)
  | cons move moves ih =>
      have hstep : Tended executor (fleet.step executor lease move) :=
        htended.step hwired hone hsequential.1 hunsevered.1
      cases hcooling.step htended hone hunsevered.1 hunhurried.1 with
      | inl hdue =>
          left
          obtain ⟨hclock, -⟩ := Fleet.run_onward hwired htended hone hsequential hunsevered
          exact Int.le_trans hdue hclock
      | inr hgoes =>
          obtain ⟨hcooling, hdormant⟩ := hgoes
          cases ih hstep hsequential.1 hsequential.2 hunsevered.2 hunhurried.2 hcooling with
          | inl hdue => exact .inl hdue
          | inr hlater => exact .inr (hdormant.trans hlater)

end Runs

end Tended

/-- Where no run is driven by two loops, no drive is cut off between a failure and its
save, and no run is woken that rests between two attempts at a step: a step that has
failed so often before is left alone, with the whole run, for the base delay times two
to that power, and a second. -/
theorem backoff_kept {executor : Executor} {engines : List WorkflowEngineType}
    (hwired : executor.handlers = buildHandlers engines) (lease : Nat → Time) (clock : Time)
    (first : List FleetMove) (move : FleetMove) (later : List FleetMove)
    (hsequential : During executor lease (Sequential executor lease) (first ++ move :: later)
      (fleetReached executor lease clock []))
    (hunsevered : During executor lease Unsevered (first ++ move :: later)
      (fleetReached executor lease clock []))
    (hunhurried : During executor lease Unhurried (first ++ move :: later)
      (fleetReached executor lease clock []))
    (drive : DriveId) (step : StepName) (attempt : Int) (error : PyException)
    (hfailed : (fleetReached executor lease clock (first ++ [move])).world.history =
      .logged drive (.stepRaised step attempt error) ::
        (fleetReached executor lease clock first).world.history) :
    ∃ newer, (fleetReached executor lease clock (first ++ move :: later)).world.history =
        newer ++ (fleetReached executor lease clock (first ++ [move])).world.history ∧
      ((∃ event ∈ newer, event.resumes drive.subject = true) →
        (fleetReached executor lease clock first).world.clock +
            (executor.retryBase * 2 ^ failuresOn drive.subject step
              (fleetReached executor lease clock first).world.history + seconds 1) ≤
          (fleetReached executor lease clock (first ++ move :: later)).world.clock) := by
  let start : Fleet := fleetReached executor lease clock first
  have hstart : Tended executor start ∧ OneDriver start :=
    Tended.run hwired (.initial clock) .nil (During.append hsequential).1
      (During.append hunsevered).1
  obtain ⟨-, hmove, hsequential⟩ := During.append hsequential
  obtain ⟨-, hordered, hunsevered⟩ := During.append hunsevered
  obtain ⟨-, -, hunhurried⟩ := During.append hunhurried
  have hfailing : fleetReached executor lease clock (first ++ [move]) =
      start.step executor lease move := by
    simp only [fleetReached, Fleet.run, List.foldl_append, List.foldl_cons, List.foldl_nil, start]
  have hending : fleetReached executor lease clock (first ++ move :: later) =
      (start.step executor lease move).run executor lease later := by
    simp only [fleetReached, Fleet.run, List.foldl_append, List.foldl_cons, start]
  rw [hfailing] at hfailed ⊢
  rw [hending]
  have hstep : Tended executor (start.step executor lease move) :=
    hstart.1.step hwired hstart.2 hmove hordered
  obtain ⟨-, newer, hnewer⟩ := Fleet.run_onward hwired hstep hmove hsequential hunsevered
  refine ⟨newer, hnewer, ?_⟩
  intro hresumes
  obtain ⟨event, hevent, hresumes⟩ := hresumes
  cases (hstart.1.fails hwired hordered hfailed).run hwired hstep hmove hsequential hunsevered
    hunhurried with
  | inl hdue =>
      rw [putOff_eq] at hdue
      exact hdue
  | inr hdormant =>
      obtain ⟨silent, hsilent, hquiet⟩ := hdormant
      have hsame : newer = silent := List.append_cancel_right (hnewer.symm.trans hsilent)
      rw [hsame] at hevent
      rw [hquiet event hevent] at hresumes
      cases hresumes

section Examples

/-- The engine cannot be reached. -/
def engineDown : Choice where
  answer call := match call with
    | .triggerWorkflow .. => .error (.other "ConnectError" "")
    | call => willing call

/-- A drive, up to where it asks the engine. -/
def upToTheFailure : List FleetMove :=
  .trigger sampleId (some automationWorkflow) automationSample ::
  (.claim 0 fun _ => false) :: List.replicate 6 (.advance 0 engineDown)

/-- The rest of the drive, the backoff and a callback after it, and the next drive. -/
def afterTheFailure : List FleetMove :=
  List.replicate 3 (.advance 0 engineDown) ++
  [.wakeByTicket "RITM0000001", .tick (seconds 11), .wake 0, .claim 0 fun _ => false,
    .advance 0 engineDown]

theorem backoff_kept_engineDown :
    (fleetReached sampleExecutor sampleLease 0
        (upToTheFailure ++ .advance 0 engineDown :: afterTheFailure)).flights.length = 1 ∧
    ∃ newer, (fleetReached sampleExecutor sampleLease 0
        (upToTheFailure ++ .advance 0 engineDown :: afterTheFailure)).world.history =
          newer ++ (fleetReached sampleExecutor sampleLease 0
            (upToTheFailure ++ [.advance 0 engineDown])).world.history ∧
      ((∃ event ∈ newer, event.resumes sampleId = true) →
        (fleetReached sampleExecutor sampleLease 0 upToTheFailure).world.clock +
            (seconds 10 * 2 ^ failuresOn sampleId .runEngine
              (fleetReached sampleExecutor sampleLease 0 upToTheFailure).world.history +
                seconds 1) ≤
          (fleetReached sampleExecutor sampleLease 0
            (upToTheFailure ++ .advance 0 engineDown :: afterTheFailure)).world.clock) := by
  constructor
  · decide +kernel
  · exact @backoff_kept sampleExecutor [.airflow] rfl sampleLease 0 upToTheFailure
      (.advance 0 engineDown) afterTheFailure (by decide +kernel) (by decide +kernel)
      (by decide +kernel) ⟨sampleId, 0⟩ .runEngine 0 (.other "ConnectError" "")
      (by with_unfolding_all rfl)

/-- The same, but that the callback comes before the backoff is over. -/
def hurriedAfterTheFailure : List FleetMove :=
  List.replicate 3 (.advance 0 engineDown) ++
  [.wakeByTicket "RITM0000001", .wake 0, .claim 0 fun _ => false]

/-- A callback cuts a backoff short. -/
theorem backoff_cut_short :
    During sampleExecutor sampleLease (Sequential sampleExecutor sampleLease)
        (upToTheFailure ++ .advance 0 engineDown :: hurriedAfterTheFailure)
        (fleetReached sampleExecutor sampleLease 0 []) ∧
      During sampleExecutor sampleLease Unsevered
        (upToTheFailure ++ .advance 0 engineDown :: hurriedAfterTheFailure)
        (fleetReached sampleExecutor sampleLease 0 []) ∧
      (fleetReached sampleExecutor sampleLease 0 (upToTheFailure ++
        .advance 0 engineDown :: hurriedAfterTheFailure)).flights.map Flight.claimedAt = [0] := by
  decide +kernel

end Examples

end CloudioOrchestrator

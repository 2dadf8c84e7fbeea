import CloudioOrchestrator.Fleet
import CloudioOrchestrator.Interaction.Fairness
import CloudioOrchestrator.Interaction.Following

/-! # The daemon

A daemon is a number of worker loops in one process that stop when they are asked to.
Beside it go on the loops of other daemons, the callbacks and the triggers. A loop is
scheduled from one await to the next; what it meets there may be a failing database
or a drive that crashes.
-/

namespace CloudioOrchestrator

open Interaction

/-- What a loop waits for. -/
inductive Phase
  /-- For its task to begin. -/
  | starting
  /-- For the due run that it has asked for. -/
  | claiming
  | driving
  /-- For the poll interval to pass, or to be asked to stop. -/
  | idling
  | stopped
deriving DecidableEq, Repr

/-- What a loop meets as it goes on: the rows that others hold and the failures of the
database where it claims, the environment of one operation where it drives. -/
structure Turn where
  locked : UUID → Bool := fun _ => false
  claimFault : Option SaveFault := none
  choice : Choice

structure Daemon where
  fleet : Fleet
  phase : Nat → Phase := fun _ => .starting
  /-- Whether the loops are asked to stop. -/
  stop : Bool := false

inductive DaemonMove
  | go (worker : Nat) (turn : Turn)
  | requestStop
  /-- What goes on beside the loops of this daemon. -/
  | others (move : FleetMove)

/-- The loop that moves, where one does. -/
def FleetMove.worker : FleetMove → Option Nat
  | .claim worker _ | .advance worker _ | .die worker => some worker
  | _ => none

namespace Daemon

variable (executor : Executor) (lease : Nat → Time) (limit : Nat)

def await (worker : Nat) (phase : Phase) (daemon : Daemon) : Daemon :=
  { daemon with phase := Function.update daemon.phase worker phase }

/-- The head of the loop. -/
def again (worker : Nat) (daemon : Daemon) : Daemon :=
  daemon.await worker (if daemon.stop then .stopped else .claiming)

/-- The claim answers. Where it was committed before it raised, the run is left to its lease. -/
def claimed (worker : Nat) (turn : Turn) (daemon : Daemon) : Daemon :=
  match turn.claimFault with
  | some (.beforeCommit ..) => daemon.await worker .idling
  | some (.afterCommit ..) =>
      { daemon with
        fleet := daemon.fleet.run executor lease [.claim worker turn.locked, .die worker]
      }.await worker .idling
  | none =>
      let fleet := daemon.fleet.step executor lease (.claim worker turn.locked)
      { daemon with fleet := fleet }.await worker
        (if (fleet.flightOf worker).isSome then .driving else .idling)

/-- The drive performs an operation. Once it has returned, or raised, the loop begins again. -/
def driven (worker : Nat) (turn : Turn) (daemon : Daemon) : Daemon :=
  let later : Daemon :=
    { daemon with fleet := daemon.fleet.step executor lease (.advance worker turn.choice) }
  if (later.fleet.flightOf worker).isSome then later else later.again worker

def go (worker : Nat) (turn : Turn) (daemon : Daemon) : Daemon :=
  match daemon.phase worker with
  | .starting | .idling => daemon.again worker
  | .claiming => daemon.claimed executor lease worker turn
  | .driving => daemon.driven executor lease worker turn
  | .stopped => daemon

/-- The loops of the daemon are those below the limit. -/
def step (daemon : Daemon) : DaemonMove → Daemon
  | .go worker turn => if worker < limit then daemon.go executor lease worker turn else daemon
  | .requestStop => { daemon with stop := true }
  | .others move =>
      if move.worker.all fun worker => limit ≤ worker then
        { daemon with fleet := daemon.fleet.step executor lease move }
      else daemon

/-- The daemon after the first moves of a schedule. -/
def after (daemon : Daemon) (schedule : Nat → DaemonMove) : Nat → Daemon
  | 0 => daemon
  | time + 1 => (daemon.after schedule time).step executor lease limit (schedule time)

end Daemon

/-! ## Flights of one loop -/

section Flights

variable {executor : Executor} {lease : Nat → Time} {fleet : Fleet} {worker : Nat}

/-- Every drive in flight is one of the pool, and no two are the same or of one loop. -/
structure Manned (fleet : Fleet) : Prop where
  boarded : ∀ flight ∈ fleet.flights, flight.drive.serial < fleet.pool.threads.length
  apart : fleet.flights.Pairwise fun first second =>
    first.worker ≠ second.worker ∧ first.drive.serial ≠ second.drive.serial

theorem mem_of_flightOf {flight : Flight} (hflight : fleet.flightOf worker = some flight) :
    flight ∈ fleet.flights ∧ flight.worker = worker :=
  ⟨List.mem_of_find?_eq_some hflight, by simpa using List.find?_some hflight⟩

theorem flightOf_eq_none : fleet.flightOf worker = none ↔
    ∀ flight ∈ fleet.flights, flight.worker ≠ worker := by
  simp [Fleet.flightOf]

/-- Flights of one loop, or of one drive, are the same. -/
theorem Manned.same (hmanned : Manned fleet) {first second : Flight}
    (hfirst : first ∈ fleet.flights) (hsecond : second ∈ fleet.flights)
    (hshared : first.worker = second.worker ∨ first.drive.serial = second.drive.serial) :
    first = second := by
  by_contra hne
  have hsymm : Std.Symm fun first second : Flight =>
      first.worker ≠ second.worker ∧ first.drive.serial ≠ second.drive.serial :=
    ⟨fun _ _ hpair => ⟨hpair.1.symm, hpair.2.symm⟩⟩
  obtain ⟨hworker, hserial⟩ := List.Pairwise.forall hmanned.apart hfirst hsecond hne
  cases hshared with
  | inl hsame => exact hworker hsame
  | inr hsame => exact hserial hsame

theorem Manned.flightOf (hmanned : Manned fleet) {flight : Flight}
    (hflight : flight ∈ fleet.flights) : fleet.flightOf flight.worker = some flight := by
  cases hfound : fleet.flightOf flight.worker with
  | none => exact absurd rfl (flightOf_eq_none.mp hfound flight hflight)
  | some other =>
      obtain ⟨hother, hworker⟩ := mem_of_flightOf hfound
      rw [hmanned.same hother hflight (.inl hworker)]

theorem Manned.thread (hmanned : Manned fleet) {flight : Flight}
    (hflight : flight ∈ fleet.flights) :
    ∃ thread, fleet.pool.threads[flight.drive.serial]? = some thread :=
  ⟨_, List.getElem?_eq_getElem (hmanned.boarded flight hflight)⟩

theorem Manned.without (hmanned : Manned fleet) (worker : Nat) :
    Manned { fleet with flights := fleet.without worker } where
  boarded flight hflight := hmanned.boarded flight (List.mem_of_mem_filter hflight)
  apart := hmanned.apart.filter _

theorem Manned.outside (hmanned : Manned fleet) (event : Outside) :
    Manned (fleet.outside executor event) :=
  ⟨hmanned.boarded, hmanned.apart⟩

theorem Manned.claim (hmanned : Manned fleet) (worker : Nat) (locked : UUID → Bool) :
    Manned (fleet.claim executor lease worker locked) := by
  unfold Fleet.claim
  cases hfree : fleet.flightOf worker with
  | some flight => exact hmanned
  | none =>
      simp only
      split
      next => exact hmanned.outside _
      next runId _ _ =>
        constructor
        · intro flight hflight
          have hlonger : flight.drive.serial < fleet.pool.threads.length + 1 := by
            cases List.mem_cons.mp hflight with
            | inl hnew =>
                rw [hnew]
                exact Nat.lt_succ_self _
            | inr hold => exact Nat.lt_succ_of_lt (hmanned.boarded flight hold)
          simpa [Fleet.outside, Pool.step] using hlonger
        · apply List.Pairwise.cons _ hmanned.apart
          intro flight hflight
          have hserial := hmanned.boarded flight hflight
          exact ⟨(flightOf_eq_none.mp hfree flight hflight).symm, Nat.ne_of_gt hserial⟩

theorem step_length (pool : DrivePool) (serial : Nat) (choice : Choice) :
    (pool.step executor.handle (.advance serial choice)).threads.length = pool.threads.length := by
  simp only [Pool.step]
  split <;> simp

theorem Manned.advance (hmanned : Manned fleet) (worker : Nat) (choice : Choice) :
    Manned (fleet.advance executor worker choice) := by
  unfold Fleet.advance
  cases fleet.flightOf worker with
  | none => exact hmanned
  | some flight =>
      simp only
      split
      · exact ⟨fun other hother => by
          rw [step_length]
          exact hmanned.boarded other (List.mem_of_mem_filter hother), hmanned.apart.filter _⟩
      · exact ⟨fun other hother => by
          rw [step_length]
          exact hmanned.boarded other hother, hmanned.apart⟩

theorem Manned.step (hmanned : Manned fleet) (move : FleetMove) :
    Manned (fleet.step executor lease move) := by
  cases move with
  | claim worker locked => exact hmanned.claim worker locked
  | advance worker choice => exact hmanned.advance worker choice
  | die worker => exact hmanned.without worker
  | wake index =>
      simp only [Fleet.step, Fleet.wake]
      split
      · exact hmanned
      · exact ⟨hmanned.boarded, hmanned.apart⟩
  | wakeByTicket ticketId => exact ⟨hmanned.boarded, hmanned.apart⟩
  | wakeByEngineRun engineRunId => exact ⟨hmanned.boarded, hmanned.apart⟩
  | trigger runId workflow request => exact hmanned.outside _
  | triggerLegacy runId request => exact hmanned.outside _
  | tick now => exact hmanned.outside _

theorem flightOf_without (other : Nat) (hne : worker ≠ other) :
    Fleet.flightOf { fleet with flights := fleet.without other } worker =
      fleet.flightOf worker := by
  simp only [Fleet.flightOf, Fleet.without, List.find?_filter]
  congr 1
  funext flight
  by_cases hworker : flight.worker = worker
  · simp [hworker, hne]
  · simp [hworker]

/-- The other loops leave the drive of a loop as it is. -/
theorem flight_others (hmanned : Manned fleet) {move : FleetMove}
    (hothers : move.worker ≠ some worker) :
    (fleet.step executor lease move).flightOf worker = fleet.flightOf worker ∧
      ∀ flight, fleet.flightOf worker = some flight →
        (fleet.step executor lease move).pool.threads[flight.drive.serial]? =
          fleet.pool.threads[flight.drive.serial]? := by
  have hlength : ∀ flight, fleet.flightOf worker = some flight →
      flight.drive.serial < fleet.pool.threads.length :=
    fun flight hflight => hmanned.boarded flight (mem_of_flightOf hflight).1
  have houtside : ∀ event, (fleet.outside executor event).flightOf worker =
        fleet.flightOf worker ∧
      ∀ flight, fleet.flightOf worker = some flight →
        (fleet.outside executor event).pool.threads[flight.drive.serial]? =
          fleet.pool.threads[flight.drive.serial]? := fun event => ⟨rfl, fun _ _ => rfl⟩
  cases move with
  | claim other locked =>
      have hne : worker ≠ other := fun heq => hothers (congrArg some heq.symm)
      simp only [Fleet.step, Fleet.claim]
      split
      · exact ⟨rfl, fun _ _ => rfl⟩
      · split
        · exact houtside _
        · constructor
          · simp only [Fleet.flightOf, List.find?_cons, decide_eq_false (Ne.symm hne)]
          · intro flight hflight
            exact List.getElem?_append_left (hlength flight hflight)
  | advance other choice =>
      have hne : worker ≠ other := fun heq => hothers (congrArg some heq.symm)
      simp only [Fleet.step, Fleet.advance]
      split
      · exact ⟨rfl, fun _ _ => rfl⟩
      next advanced hadvanced =>
        obtain ⟨hmem, hworker⟩ := mem_of_flightOf hadvanced
        constructor
        · split
          · exact flightOf_without other hne
          · rfl
        · intro flight hflight
          apply Pool.step_apart (hlength flight hflight)
          intro picked hmove
          injection hmove with hserial
          obtain ⟨hflying, hof⟩ := mem_of_flightOf hflight
          have hsame := hmanned.same hmem hflying (.inr hserial)
          rw [hsame, hof] at hworker
          exact hne hworker
  | die other =>
      have hne : worker ≠ other := fun heq => hothers (congrArg some heq.symm)
      exact ⟨flightOf_without other hne, fun _ _ => rfl⟩
  | wake index =>
      simp only [Fleet.step, Fleet.wake]
      split
      · exact ⟨rfl, fun _ _ => rfl⟩
      · exact houtside _
  | wakeByTicket ticketId => exact ⟨rfl, fun _ _ => rfl⟩
  | wakeByEngineRun engineRunId => exact ⟨rfl, fun _ _ => rfl⟩
  | trigger runId workflow request => exact houtside _
  | triggerLegacy runId request => exact houtside _
  | tick now => exact houtside _

theorem flightOf_without_self (worker : Nat) :
    Fleet.flightOf { fleet with flights := fleet.without worker } worker = none := by
  apply flightOf_eq_none.mpr
  intro flight hflight
  simpa using (List.mem_filter.mp hflight).2

theorem landed_iff {pool : DrivePool} {drive : DriveId} :
    Fleet.landed pool drive = true ↔
      ∃ subject value, pool.threads[drive.serial]? = some (subject, .ret value) := by
  unfold Fleet.landed
  split
  next subject value hthread => simp [hthread]
  next hother =>
    constructor
    · intro hfalse
      cases hfalse
    · intro hlanded
      obtain ⟨subject, value, hthread⟩ := hlanded
      exact absurd hthread (hother subject value)

/-- A drive that has returned has returned for good. -/
theorem landed_step {pool : DrivePool} {drive : DriveId} (hlanded : Fleet.landed pool drive = true)
    (move : Move system) : Fleet.landed (pool.step executor.handle move) drive = true := by
  rw [landed_iff] at hlanded ⊢
  obtain ⟨subject, value, hthread⟩ := hlanded
  obtain ⟨hlength, -⟩ := List.getElem?_eq_some_iff.mp hthread
  refine ⟨subject, value, ?_⟩
  by_cases hown : ∃ choice, move = .advance drive.serial choice
  · obtain ⟨choice, rfl⟩ := hown
    simp only [Pool.step, hthread]
  · rw [Pool.step_apart hlength fun choice heq => hown ⟨choice, heq⟩, hthread]

theorem landed_run {pool : DrivePool} {drive : DriveId} (hlanded : Fleet.landed pool drive = true)
    (moves : List (Move system)) : Fleet.landed (pool.run executor.handle moves) drive = true := by
  induction moves generalizing pool with
  | nil => exact hlanded
  | cons move moves ih => exact ih (landed_step hlanded move)

/-- An operation of a drive leaves it less to do, or lands it. -/
theorem flight_advance {flight : Flight} (hflight : fleet.flightOf worker = some flight)
    {subject : UUID} {body : Prog Operations (Except PyException Unit × Option WorkflowRun)}
    (hthread : fleet.pool.threads[flight.drive.serial]? = some (subject, body)) (choice : Choice) :
    ((fleet.step executor lease (.advance worker choice)).flightOf worker = none ∧
      Fleet.landed (fleet.step executor lease (.advance worker choice)).pool flight.drive = true) ∨
    ((fleet.step executor lease (.advance worker choice)).flightOf worker = some flight ∧
      ∃ less, Prog.After less body ∧
        (fleet.step executor lease (.advance worker choice)).pool.threads[
          flight.drive.serial]? = some (subject, less)) := by
  simp only [Fleet.step, Fleet.advance, hflight]
  obtain ⟨hlength, -⟩ := List.getElem?_eq_some_iff.mp hthread
  cases hland : Fleet.landed (fleet.pool.step executor.handle
      (.advance flight.drive.serial choice)) flight.drive with
  | true => exact .inl ⟨flightOf_without_self worker, rfl⟩
  | false =>
      right
      cases body with
      | ret value =>
          have hlanded : Fleet.landed fleet.pool flight.drive = true :=
            landed_iff.mpr ⟨subject, value, hthread⟩
          rw [landed_step hlanded] at hland
          cases hland
      | call op next =>
          refine ⟨hflight, _, .answered next
            (World.serve ⟨subject, flight.drive.serial⟩ choice op fleet.world).1, ?_⟩
          simp only [Pool.step, hthread]
          exact List.getElem?_set_self hlength

end Flights

/-! ## What a loop does next -/

namespace Daemon

section Steps

variable {executor : Executor} {lease : Nat → Time} {limit : Nat} {daemon : Daemon} {worker : Nat}

/-- The loops that drive are the ones that have a drive in flight, and none has stopped
that was not asked to. -/
structure Staffed (limit : Nat) (daemon : Daemon) : Prop where
  manned : Manned daemon.fleet
  driving : ∀ worker < limit,
    daemon.phase worker = .driving ↔ (daemon.fleet.flightOf worker).isSome = true
  asked : ∀ worker < limit, daemon.phase worker = .stopped → daemon.stop = true

theorem await_same (phase : Phase) : (daemon.await worker phase).phase worker = phase :=
  Function.update_self ..

theorem await_other (phase : Phase) {other : Nat} (hne : other ≠ worker) :
    (daemon.await worker phase).phase other = daemon.phase other :=
  Function.update_of_ne hne ..

/-- One loop goes on by moves of its own, to a phase that fits. -/
structure Turned (executor : Executor) (lease : Nat → Time) (worker : Nat)
    (daemon later : Daemon) : Prop where
  fleet : ∃ moves : List FleetMove, (∀ move ∈ moves, move.worker = some worker) ∧
    later.fleet = daemon.fleet.run executor lease moves
  phase : ∀ other, other ≠ worker → later.phase other = daemon.phase other
  stop : later.stop = daemon.stop
  driving : later.phase worker = .driving ↔ (later.fleet.flightOf worker).isSome = true
  asked : later.phase worker = .stopped → daemon.stop = true

theorem again_turned (hfree : (daemon.fleet.flightOf worker).isSome = false) :
    Turned executor lease worker daemon (daemon.again worker) where
  fleet := ⟨[], by simp, rfl⟩
  phase other hne := await_other _ hne
  stop := rfl
  driving := by
    simp only [again, await_same]
    change _ ↔ (daemon.fleet.flightOf worker).isSome = true
    rw [hfree]
    split <;> simp
  asked := by
    simp only [again, await_same]
    split
    next hstop => exact fun _ => hstop
    next =>
      intro heq
      cases heq

theorem Staffed.free (hstaffed : Staffed limit daemon) (hworker : worker < limit)
    (hphase : daemon.phase worker ≠ .driving) :
    (daemon.fleet.flightOf worker).isSome = false := by
  rw [Bool.eq_false_iff]
  intro hflying
  exact hphase ((hstaffed.driving worker hworker).mpr hflying)

theorem claimed_turned (hfree : (daemon.fleet.flightOf worker).isSome = false) (turn : Turn) :
    Turned executor lease worker daemon (daemon.claimed executor lease worker turn) := by
  unfold claimed
  split
  next =>
    refine ⟨⟨[], by simp, rfl⟩, fun other hne => await_other _ hne, rfl, ?_, ?_⟩
    · rw [await_same]
      change _ ↔ (daemon.fleet.flightOf worker).isSome = true
      simp [hfree]
    · rw [await_same]
      intro heq
      cases heq
  next =>
    refine ⟨⟨[.claim worker turn.locked, .die worker], by simp [FleetMove.worker], rfl⟩,
      fun other hne => await_other _ hne, rfl, ?_, ?_⟩
    · rw [await_same]
      have hdied : Fleet.flightOf (Fleet.run executor lease [.claim worker turn.locked, .die worker]
          daemon.fleet) worker = none := flightOf_without_self worker
      change _ ↔ (Fleet.flightOf (Fleet.run executor lease _ daemon.fleet) worker).isSome = true
      simp [hdied]
    · rw [await_same]
      intro heq
      cases heq
  next =>
    refine ⟨⟨[.claim worker turn.locked], by simp [FleetMove.worker], rfl⟩,
      fun other hne => await_other _ hne, rfl, ?_, ?_⟩
    · rw [await_same]
      change _ ↔ (Fleet.flightOf (Fleet.step executor lease daemon.fleet _) worker).isSome = true
      split
      next hflying => simp [hflying]
      next hgone => simp [hgone]
    · rw [await_same]
      split
      all_goals
        intro heq
        cases heq

theorem driven_turned (hphase : daemon.phase worker = .driving) (turn : Turn) :
    Turned executor lease worker daemon (daemon.driven executor lease worker turn) := by
  unfold driven
  simp only
  split
  next hflying =>
    refine ⟨⟨[.advance worker turn.choice], by simp [FleetMove.worker], rfl⟩,
      fun _ _ => rfl, rfl, ?_, ?_⟩
    · simp [hphase, hflying]
    · intro hstopped
      rw [hphase] at hstopped
      cases hstopped
  next hlanded =>
    have hagain := @again_turned executor lease
      { daemon with fleet := daemon.fleet.step executor lease (.advance worker turn.choice) } worker
      (by simpa using hlanded)
    exact ⟨⟨[.advance worker turn.choice], by simp [FleetMove.worker], rfl⟩, hagain.phase,
      hagain.stop, hagain.driving, hagain.asked⟩

theorem Staffed.go (hstaffed : Staffed limit daemon) (hworker : worker < limit) (turn : Turn) :
    Turned executor lease worker daemon (daemon.go executor lease worker turn) := by
  have hfree := hstaffed.free hworker
  unfold Daemon.go
  cases hphase : daemon.phase worker with
  | starting => exact again_turned (hfree (by simp [hphase]))
  | idling => exact again_turned (hfree (by simp [hphase]))
  | claiming => exact claimed_turned (hfree (by simp [hphase])) turn
  | driving => exact driven_turned hphase turn
  | stopped =>
      exact ⟨⟨[], by simp, rfl⟩, fun _ _ => rfl, rfl, hstaffed.driving worker hworker,
        hstaffed.asked worker hworker⟩

theorem Manned.run {fleet : Fleet} (hmanned : Manned fleet) (moves : List FleetMove) :
    Manned (fleet.run executor lease moves) := by
  induction moves generalizing fleet with
  | nil => exact hmanned
  | cons move moves ih => exact ih (hmanned.step move)

/-- Moves of others leave a loop's drive as it is. -/
theorem flight_run {fleet : Fleet} (hmanned : Manned fleet) {moves : List FleetMove}
    (hothers : ∀ move ∈ moves, move.worker ≠ some worker) :
    (fleet.run executor lease moves).flightOf worker = fleet.flightOf worker ∧
      ∀ flight, fleet.flightOf worker = some flight →
        (fleet.run executor lease moves).pool.threads[flight.drive.serial]? =
          fleet.pool.threads[flight.drive.serial]? := by
  induction moves generalizing fleet with
  | nil => exact ⟨rfl, fun _ _ => rfl⟩
  | cons move moves ih =>
      obtain ⟨hflight, hthread⟩ := @flight_others executor lease fleet worker hmanned move
        (hothers move List.mem_cons_self)
      obtain ⟨hflight', hthread'⟩ := ih (hmanned.step move)
        fun other hother => hothers other (List.mem_cons_of_mem _ hother)
      refine ⟨hflight'.trans hflight, ?_⟩
      intro flight hflying
      exact (hthread' flight (hflight.trans hflying)).trans (hthread flight hflying)

/-- A move that the loop has no part in. -/
structure Bystood (daemon later : Daemon) (worker : Nat) : Prop where
  phase : later.phase worker = daemon.phase worker
  flight : later.fleet.flightOf worker = daemon.fleet.flightOf worker
  thread : ∀ flight, daemon.fleet.flightOf worker = some flight →
    later.fleet.pool.threads[flight.drive.serial]? =
      daemon.fleet.pool.threads[flight.drive.serial]?

/-- What a move of the daemon does to its fleet, fleets do. -/
theorem step_fleet (hstaffed : Staffed limit daemon) (move : DaemonMove) :
    ∃ moves : List FleetMove, (daemon.step executor lease limit move).fleet =
      daemon.fleet.run executor lease moves := by
  cases move with
  | go worker turn =>
      simp only [step]
      split
      next hworker =>
        obtain ⟨⟨moves, -, hfleet⟩, -⟩ := @Staffed.go executor lease limit daemon worker hstaffed
          hworker turn
        exact ⟨moves, hfleet⟩
      next => exact ⟨[], rfl⟩
  | requestStop => exact ⟨[], rfl⟩
  | others move =>
      simp only [step]
      split
      · exact ⟨[move], rfl⟩
      · exact ⟨[], rfl⟩

theorem step_bystood (hstaffed : Staffed limit daemon) (hworker : worker < limit)
    {move : DaemonMove} (hother : ∀ turn, move ≠ .go worker turn) :
    Bystood daemon (daemon.step executor lease limit move) worker := by
  cases move with
  | go other turn =>
      have hne : other ≠ worker := fun heq => hother turn (by rw [heq])
      simp only [step]
      split
      next hbelow =>
        obtain ⟨⟨moves, hmoves, hfleet⟩, hphase, -⟩ :=
          @Staffed.go executor lease limit daemon other hstaffed hbelow turn
        obtain ⟨hflight, hthread⟩ := @flight_run executor lease worker daemon.fleet
          hstaffed.manned moves fun move hmove heq =>
            hne (Option.some.inj ((hmoves move hmove).symm.trans heq))
        rw [← hfleet] at hflight hthread
        exact ⟨hphase worker hne.symm, hflight, hthread⟩
      next => exact ⟨rfl, rfl, fun _ _ => rfl⟩
  | requestStop => exact ⟨rfl, rfl, fun _ _ => rfl⟩
  | others move =>
      simp only [step]
      split
      next hlimit =>
        obtain ⟨hflight, hthread⟩ := @flight_others executor lease daemon.fleet worker
          hstaffed.manned move (by
            intro heq
            simp only [heq, Option.all_some, decide_eq_true_eq] at hlimit
            omega)
        exact ⟨rfl, hflight, hthread⟩
      next => exact ⟨rfl, rfl, fun _ _ => rfl⟩

theorem step_stop (hstaffed : Staffed limit daemon) (move : DaemonMove) :
    (daemon.step executor lease limit move).stop = true ↔
      daemon.stop = true ∨ move = .requestStop := by
  cases move with
  | go worker turn =>
      simp only [step]
      split
      next hworker =>
        have hturned := @Staffed.go executor lease limit daemon worker hstaffed hworker turn
        simp [hturned.stop]
      next => simp
  | requestStop => simp [step]
  | others move =>
      simp only [step]
      split <;> simp

theorem Staffed.step (hstaffed : Staffed limit daemon) (move : DaemonMove) :
    Staffed limit (daemon.step executor lease limit move) := by
  have hstop := @step_stop executor lease limit daemon hstaffed move
  have hmanned : Manned (daemon.step executor lease limit move).fleet := by
    obtain ⟨moves, hfleet⟩ := @step_fleet executor lease limit daemon hstaffed move
    rw [hfleet]
    exact Manned.run hstaffed.manned moves
  refine ⟨hmanned, ?_, ?_⟩
  · intro worker hworker
    by_cases hown : ∃ turn, move = .go worker turn
    · obtain ⟨turn, rfl⟩ := hown
      have hturned := @Staffed.go executor lease limit daemon worker hstaffed hworker turn
      simpa only [Daemon.step, if_pos hworker] using hturned.driving
    · have hbystood := @step_bystood executor lease limit daemon worker hstaffed hworker move
        fun turn heq => hown ⟨turn, heq⟩
      rw [hbystood.phase, hbystood.flight]
      exact hstaffed.driving worker hworker
  · intro worker hworker hstopped
    apply hstop.mpr
    by_cases hown : ∃ turn, move = .go worker turn
    · obtain ⟨turn, rfl⟩ := hown
      have hturned := @Staffed.go executor lease limit daemon worker hstaffed hworker turn
      simp only [Daemon.step, if_pos hworker] at hstopped
      exact .inl (hturned.asked hstopped)
    · have hbystood := @step_bystood executor lease limit daemon worker hstaffed hworker move
        fun turn heq => hown ⟨turn, heq⟩
      rw [hbystood.phase] at hstopped
      exact .inl (hstaffed.asked worker hworker hstopped)

/-- What a loop has still to do before it begins again. -/
inductive Remaining
  | claim
  | drive (body : Prog Operations (Except PyException Unit × Option WorkflowRun))
  | wait

/-- What one turn of the loop leaves of it. -/
inductive Remaining.Less : Remaining → Remaining → Prop
  | claimed (body : Prog Operations (Except PyException Unit × Option WorkflowRun)) :
      Less (.drive body) .claim
  | denied : Less .wait .claim
  | advanced {less body : Prog Operations (Except PyException Unit × Option WorkflowRun)}
      (hafter : Prog.After less body) : Less (.drive less) (.drive body)

theorem Remaining.less_wellFounded : WellFounded Remaining.Less := by
  have hwait : Acc Remaining.Less .wait := by
    constructor
    intro less hless
    cases hless
  have hdrive : ∀ body, Acc Remaining.Less (.drive body) := by
    intro body
    induction body using Prog.after_wellFounded.induction with
    | _ body ih =>
        constructor
        intro less hless
        cases hless with
        | advanced hafter => exact ih _ hafter
  constructor
  intro remaining
  cases remaining with
  | wait => exact hwait
  | drive body => exact hdrive body
  | claim =>
      constructor
      intro less hless
      cases hless with
      | claimed body => exact hdrive body
      | denied => exact hwait

/-- What remains of a loop as it stands. -/
def Standing (daemon : Daemon) (worker : Nat) : Remaining → Prop
  | .claim => daemon.phase worker = .claiming
  | .drive body => ∃ flight subject, daemon.fleet.flightOf worker = some flight ∧
      daemon.fleet.pool.threads[flight.drive.serial]? = some (subject, body)
  | .wait => daemon.phase worker = .starting ∨ daemon.phase worker = .idling

theorem standing_of_flying (hmanned : Manned daemon.fleet)
    (hflying : (daemon.fleet.flightOf worker).isSome = true) :
    ∃ body, Standing daemon worker (.drive body) := by
  obtain ⟨flight, hflight⟩ := Option.isSome_iff_exists.mp hflying
  obtain ⟨⟨subject, body⟩, hthread⟩ := hmanned.thread (mem_of_flightOf hflight).1
  exact ⟨body, flight, subject, hflight, hthread⟩

theorem Staffed.standing (hstaffed : Staffed limit daemon) (hworker : worker < limit)
    (hgoing : daemon.phase worker ≠ .stopped) : ∃ remaining, Standing daemon worker remaining := by
  cases hphase : daemon.phase worker with
  | starting => exact ⟨.wait, .inl hphase⟩
  | claiming => exact ⟨.claim, hphase⟩
  | idling => exact ⟨.wait, .inr hphase⟩
  | stopped => exact absurd hphase hgoing
  | driving =>
      obtain ⟨body, hstanding⟩ :=
        standing_of_flying hstaffed.manned ((hstaffed.driving worker hworker).mp hphase)
      exact ⟨.drive body, hstanding⟩

theorem Bystood.standing {later : Daemon} (hbystood : Bystood daemon later worker)
    {remaining : Remaining} (hstanding : Standing daemon worker remaining) :
    Standing later worker remaining := by
  cases remaining with
  | claim => exact hbystood.phase.trans hstanding
  | wait =>
      simp only [Standing, hbystood.phase]
      exact hstanding
  | drive body =>
      obtain ⟨flight, subject, hflight, hthread⟩ := hstanding
      exact ⟨flight, subject, hbystood.flight.trans hflight,
        (hbystood.thread flight hflight).trans hthread⟩

/-- A turn of a loop leaves it less to do, or brings it to its head. -/
theorem go_falls (hstaffed : Staffed limit daemon) (hworker : worker < limit)
    {remaining : Remaining} (hstanding : Standing daemon worker remaining) (turn : Turn) :
    (daemon.go executor lease worker turn).phase worker =
        (if daemon.stop then .stopped else .claiming) ∨
      ∃ less, Remaining.Less less remaining ∧
        Standing (daemon.go executor lease worker turn) worker less := by
  have hturned := @Staffed.go executor lease limit daemon worker hstaffed hworker turn
  have hmanned : Manned (daemon.go executor lease worker turn).fleet := by
    obtain ⟨moves, -, hfleet⟩ := hturned.fleet
    rw [hfleet]
    exact Manned.run hstaffed.manned moves
  cases remaining with
  | wait =>
      left
      cases hstanding with
      | inl hphase =>
          simp only [Daemon.go, hphase]
          exact await_same _
      | inr hphase =>
          simp only [Daemon.go, hphase]
          exact await_same _
  | claim =>
      right
      -- the loop drives what it has claimed, or waits
      have hclaimed : (daemon.go executor lease worker turn).phase worker = .driving ∨
          (daemon.go executor lease worker turn).phase worker = .idling := by
        have hphase : daemon.phase worker = .claiming := hstanding
        simp only [Daemon.go, hphase, claimed]
        split
        · exact .inr (await_same _)
        · exact .inr (await_same _)
        · rw [await_same]
          split
          · exact .inl rfl
          · exact .inr rfl
      cases hclaimed with
      | inl hdriving =>
          obtain ⟨body, hlater⟩ := standing_of_flying hmanned (hturned.driving.mp hdriving)
          exact ⟨.drive body, .claimed body, hlater⟩
      | inr hidling => exact ⟨.wait, .denied, .inr hidling⟩
  | drive body =>
      obtain ⟨flight, subject, hflight, hthread⟩ := hstanding
      have hphase : daemon.phase worker = .driving :=
        (hstaffed.driving worker hworker).mpr (by rw [hflight]; rfl)
      simp only [Daemon.go, hphase, driven]
      cases @flight_advance executor lease daemon.fleet worker flight hflight subject body hthread
        turn.choice with
      | inl hlanded =>
          left
          simp only [hlanded.1, Option.isSome_none]
          exact await_same _
      | inr hflying =>
          obtain ⟨hstill, less, hafter, hless⟩ := hflying
          right
          simp only [hstill, Option.isSome_some, if_true]
          exact ⟨.drive less, .advanced hafter, flight, subject, hstill, hless⟩

/-- With the stop set, no turn ends in asking for a run. -/
theorem go_unclaiming (hstop : daemon.stop = true) (turn : Turn) :
    (daemon.go executor lease worker turn).phase worker ≠ .claiming := by
  have hagain : ∀ later : Daemon, later.stop = true →
      (later.again worker).phase worker ≠ .claiming := by
    intro later hlater
    simp [again, await_same, hlater]
  unfold Daemon.go
  cases hphase : daemon.phase worker with
  | starting => exact hagain daemon hstop
  | idling => exact hagain daemon hstop
  | claiming =>
      simp only [claimed]
      split
      · simp [await_same]
      · simp [await_same]
      · rw [await_same]
        split <;> simp
  | driving =>
      simp only [driven]
      split
      · simp [hphase]
      · exact hagain _ hstop
  | stopped => simp [hphase]

end Steps

/-! ## Loops under a schedule -/

section Schedules

variable {executor : Executor} {lease : Nat → Time} {limit : Nat} {daemon : Daemon}
variable {schedule : Nat → DaemonMove} {worker : Nat}

/-- The loop is scheduled. -/
def Goes (schedule : Nat → DaemonMove) (worker time : Nat) : Prop :=
  ∃ turn, schedule time = .go worker turn

/-- A claim of the loop is answered. -/
def Claims (executor : Executor) (lease : Nat → Time) (limit : Nat) (daemon : Daemon)
    (schedule : Nat → DaemonMove) (worker time : Nat) : Prop :=
  (daemon.after executor lease limit schedule time).phase worker = .claiming ∧
    Goes schedule worker time

theorem Staffed.after (hstaffed : Staffed limit daemon) (time : Nat) :
    Staffed limit (daemon.after executor lease limit schedule time) := by
  induction time with
  | zero => exact hstaffed
  | succ time ih => exact ih.step _

theorem after_bystood (hstaffed : Staffed limit daemon) (hworker : worker < limit) {time : Nat}
    (hrests : ¬ Goes schedule worker time) :
    Bystood (daemon.after executor lease limit schedule time)
      (daemon.after executor lease limit schedule (time + 1)) worker :=
  step_bystood (hstaffed.after time) hworker fun turn heq => hrests ⟨turn, heq⟩

/-- What a daemon does to its fleet, fleets do. -/
theorem after_fleet (hstaffed : Staffed limit daemon) (time : Nat) :
    ∃ moves : List FleetMove, (daemon.after executor lease limit schedule time).fleet =
      daemon.fleet.run executor lease moves := by
  induction time with
  | zero => exact ⟨[], rfl⟩
  | succ time ih =>
      obtain ⟨moves, hmoves⟩ := ih
      obtain ⟨next, hnext⟩ := @step_fleet executor lease limit _
        (@Staffed.after executor lease limit daemon schedule hstaffed time) (schedule time)
      refine ⟨moves ++ next, ?_⟩
      rw [Daemon.after, hnext, hmoves, Fleet.run, Fleet.run, Fleet.run, List.foldl_append]

/-- A loop that is scheduled again and again comes to its head. -/
theorem comes_round (hstaffed : Staffed limit daemon) (hworker : worker < limit)
    (hfair : Infinitely (Goes schedule worker)) {since : Nat}
    (hgoing : (daemon.after executor lease limit schedule since).phase worker ≠ .stopped) :
    ∃ time, since < time ∧ (daemon.after executor lease limit schedule time).phase worker =
      if (daemon.after executor lease limit schedule time).stop then .stopped else .claiming := by
  obtain ⟨remaining, hstanding⟩ := (hstaffed.after since).standing hworker hgoing
  refine @eventually_of_rank _ _ Remaining.less_wellFounded
    (fun time => Standing (daemon.after executor lease limit schedule time) worker) _ _ hfair
    ?_ ?_ _ _ hstanding
  · intro time remaining hstanding hrests
    exact (after_bystood hstaffed hworker hrests).standing hstanding
  · intro time remaining hstanding hgoes
    obtain ⟨turn, hturn⟩ := hgoes
    have hnow := @Staffed.after executor lease limit daemon schedule hstaffed time
    simp only [Daemon.after, hturn, Daemon.step, if_pos hworker]
    rw [(hnow.go hworker turn).stop]
    exact go_falls hnow hworker hstanding turn

theorem stop_stays (hstaffed : Staffed limit daemon) {since later : Nat} (hle : since ≤ later)
    (hstop : (daemon.after executor lease limit schedule since).stop = true) :
    (daemon.after executor lease limit schedule later).stop = true := by
  induction later, hle using Nat.le_induction with
  | base => exact hstop
  | succ later hle ih => exact (step_stop (hstaffed.after later) _).mpr (.inl ih)

theorem going_unasked (hstaffed : Staffed limit daemon) (hstart : daemon.stop = false)
    (hnever : ∀ time, schedule time ≠ .requestStop) (time : Nat) :
    (daemon.after executor lease limit schedule time).stop = false := by
  induction time with
  | zero => exact hstart
  | succ time ih =>
      rw [Bool.eq_false_iff]
      intro hstop
      cases (step_stop (hstaffed.after time) _).mp hstop with
      | inl hbefore =>
          rw [ih] at hbefore
          cases hbefore
      | inr hasked => exact hnever time hasked

/-- A loop that nobody asks to stop claims again and again. -/
theorem claims_recur (hstaffed : Staffed limit daemon) (hstart : daemon.stop = false)
    (hnever : ∀ time, schedule time ≠ .requestStop) (hworker : worker < limit)
    (hfair : Infinitely (Goes schedule worker)) :
    Infinitely (daemon.Claims executor lease limit schedule worker) := by
  have hunasked := @going_unasked executor lease limit daemon schedule hstaffed hstart hnever
  intro since
  have hgoing : (daemon.after executor lease limit schedule since).phase worker ≠ .stopped := by
    intro hstopped
    have hasked := (hstaffed.after since).asked worker hworker hstopped
    rw [hunasked] at hasked
    cases hasked
  obtain ⟨time, hlt, hround⟩ := comes_round hstaffed hworker hfair hgoing
  rw [hunasked] at hround
  have hwaits : ∀ time, (daemon.after executor lease limit schedule time).phase worker =
      .claiming → ¬ Goes schedule worker time →
        (daemon.after executor lease limit schedule (time + 1)).phase worker = .claiming :=
    fun time hclaiming hrests =>
      (after_bystood hstaffed hworker hrests).phase.trans hclaiming
  -- the claim that the loop now waits for is answered when it is scheduled next
  obtain ⟨answered, hle, hgoes, hclaiming⟩ := meets_helpful hfair hwaits hround
  exact ⟨answered, by omega, hclaiming, hgoes⟩

/-- A loop that was asked to stop and has not asked for a run asks for none any more. -/
theorem claims_no_more (hstaffed : Staffed limit daemon) (hworker : worker < limit)
    {since later : Nat} (hle : since ≤ later)
    (hstop : (daemon.after executor lease limit schedule since).stop = true)
    (hphase : (daemon.after executor lease limit schedule since).phase worker ≠ .claiming) :
    (daemon.after executor lease limit schedule later).phase worker ≠ .claiming := by
  induction later, hle using Nat.le_induction with
  | base => exact hphase
  | succ later hle ih =>
      by_cases hgoes : Goes schedule worker later
      · obtain ⟨turn, hturn⟩ := hgoes
        simp only [Daemon.after, hturn, Daemon.step, if_pos hworker]
        exact go_unclaiming (stop_stays hstaffed hle hstop) turn
      · rw [(after_bystood hstaffed hworker hgoes).phase]
        exact ih

theorem stopped_stays (hstaffed : Staffed limit daemon) (hworker : worker < limit)
    {since later : Nat} (hle : since ≤ later)
    (hstopped : (daemon.after executor lease limit schedule since).phase worker = .stopped) :
    (daemon.after executor lease limit schedule later).phase worker = .stopped := by
  induction later, hle using Nat.le_induction with
  | base => exact hstopped
  | succ later hle ih =>
      by_cases hgoes : Goes schedule worker later
      · obtain ⟨turn, hturn⟩ := hgoes
        simp only [Daemon.after, hturn, Daemon.step, if_pos hworker, Daemon.go, ih]
      · rw [(after_bystood hstaffed hworker hgoes).phase]
        exact ih

/-- A loop that is asked to stop does. -/
theorem comes_to_stop (hstaffed : Staffed limit daemon) (hworker : worker < limit)
    (hfair : Infinitely (Goes schedule worker)) {since : Nat}
    (hstop : (daemon.after executor lease limit schedule since).stop = true) :
    ∃ time, ∀ later, time ≤ later →
      (daemon.after executor lease limit schedule later).phase worker = .stopped := by
  by_cases hgoing : (daemon.after executor lease limit schedule since).phase worker = .stopped
  · exact ⟨since, fun later hle => stopped_stays hstaffed hworker hle hgoing⟩
  · obtain ⟨time, hlt, hround⟩ := comes_round hstaffed hworker hfair hgoing
    rw [stop_stays hstaffed (Nat.le_of_lt hlt) hstop, if_pos rfl] at hround
    exact ⟨time, fun later hle => stopped_stays hstaffed hworker hle hround⟩

/-- What each of finitely many loops comes to for good, all come to. -/
theorem all_come {holds : Nat → Nat → Prop} (limit : Nat)
    (heach : ∀ worker < limit, ∃ time, ∀ later, time ≤ later → holds worker later) :
    ∃ time, ∀ later, time ≤ later → ∀ worker < limit, holds worker later := by
  induction limit with
  | zero => exact ⟨0, fun _ _ worker hworker => absurd hworker (Nat.not_lt_zero worker)⟩
  | succ limit ih =>
      obtain ⟨first, hfirst⟩ := ih fun worker hworker => heach worker (by omega)
      obtain ⟨second, hsecond⟩ := heach limit (by omega)
      refine ⟨max first second, ?_⟩
      intro later hle worker hworker
      by_cases hlast : worker = limit
      · rw [hlast]
        exact hsecond later (by omega)
      · exact hfirst later (by omega) worker (by omega)

/-- A drive of a loop is in flight until it has returned. -/
theorem flies_or_landed (hstaffed : Staffed limit daemon) {flight : Flight} {since later : Nat}
    (hle : since ≤ later)
    (hflight : flight ∈ (daemon.after executor lease limit schedule since).fleet.flights)
    (hworker : flight.worker < limit) :
    flight ∈ (daemon.after executor lease limit schedule later).fleet.flights ∨
      Fleet.landed (daemon.after executor lease limit schedule later).fleet.pool flight.drive =
        true := by
  induction later, hle using Nat.le_induction with
  | base => exact .inl hflight
  | succ later hle ih =>
      have hnow := @Staffed.after executor lease limit daemon schedule hstaffed later
      cases ih with
      | inr hlanded =>
          obtain ⟨moves, hfleet⟩ :=
            @step_fleet executor lease limit _ hnow (schedule later)
          right
          simp only [Daemon.after, hfleet]
          clear hfleet
          generalize (daemon.after executor lease limit schedule later).fleet = fleet at hlanded ⊢
          induction moves generalizing fleet with
          | nil => exact hlanded
          | cons move moves ih =>
              obtain ⟨others, hpool⟩ := fleet.step_pool executor lease move
              exact ih _ (by rw [hpool]; exact landed_run hlanded others)
      | inl hflying =>
          have hof := hnow.manned.flightOf hflying
          by_cases hgoes : Goes schedule flight.worker later
          · obtain ⟨turn, hturn⟩ := hgoes
            have hphase := (hnow.driving flight.worker hworker).mpr (by rw [hof]; rfl)
            obtain ⟨⟨subject, body⟩, hthread⟩ := hnow.manned.thread hflying
            simp only [Daemon.after, hturn, Daemon.step, if_pos hworker, Daemon.go, hphase, driven]
            cases @flight_advance executor lease _ flight.worker flight hof subject body hthread
              turn.choice with
            | inl hlanded =>
                right
                simp only [hlanded.1, Option.isSome_none]
                exact hlanded.2
            | inr hstill =>
                left
                simp only [hstill.1, Option.isSome_some, if_true]
                exact (mem_of_flightOf hstill.1).1
          · left
            have hbystood := @after_bystood executor lease limit daemon schedule flight.worker
              hstaffed hworker later hgoes
            exact (mem_of_flightOf (hbystood.flight.trans hof)).1

end Schedules

end Daemon

/-- A daemon as it is launched, beside whatever a fleet has reached. -/
structure Daemon.Launched (executor : Executor) (lease : Nat → Time) (limit : Nat)
    (daemon : Daemon) : Prop where
  reached : ∃ clock moves, daemon.fleet = fleetReached executor lease clock moves
  fresh : ∀ flight ∈ daemon.fleet.flights, limit ≤ flight.worker
  phase : ∀ worker, daemon.phase worker = .starting
  stop : daemon.stop = false

theorem Daemon.Launched.staffed {executor : Executor} {lease : Nat → Time} {limit : Nat}
    {daemon : Daemon} (hlaunched : daemon.Launched executor lease limit) :
    daemon.Staffed limit where
  manned := by
    obtain ⟨clock, moves, hfleet⟩ := hlaunched.reached
    have hempty : Manned { pool := ⟨{ clock := clock }, []⟩ } := ⟨by simp, .nil⟩
    rw [hfleet]
    exact Daemon.Manned.run hempty moves
  driving worker hworker := by
    have hnone : daemon.fleet.flightOf worker = none := by
      apply flightOf_eq_none.mpr
      intro flight hflight heq
      have hle := hlaunched.fresh flight hflight
      omega
    simp [hlaunched.phase, hnone]
  asked worker hworker hstopped := by
    rw [hlaunched.phase] at hstopped
    cases hstopped

/-- What is known of fleets is known of the fleet of a daemon. -/
theorem Daemon.Launched.fleet_after {executor : Executor} {lease : Nat → Time} {limit : Nat}
    {daemon : Daemon} (hlaunched : daemon.Launched executor lease limit)
    (schedule : Nat → DaemonMove) (time : Nat) :
    ∃ clock moves, (daemon.after executor lease limit schedule time).fleet =
      fleetReached executor lease clock moves := by
  obtain ⟨clock, first, hfirst⟩ := hlaunched.reached
  obtain ⟨moves, hmoves⟩ := @Daemon.after_fleet executor lease limit daemon schedule
    hlaunched.staffed time
  refine ⟨clock, first ++ moves, ?_⟩
  rw [hmoves, hfirst, fleetReached, fleetReached, Fleet.run, Fleet.run, Fleet.run,
    List.foldl_append]

/-- As long as nobody asks the daemon to stop, a loop of it that is scheduled again and
again claims again and again, whatever its claims raise and its drives come to. -/
theorem claims_again_and_again (executor : Executor) (lease : Nat → Time) (limit : Nat)
    (daemon : Daemon) (schedule : Nat → DaemonMove) (worker : Nat)
    (hlaunched : daemon.Launched executor lease limit) (hworker : worker < limit)
    (hfair : Infinitely (Daemon.Goes schedule worker))
    (hnever : ∀ time, schedule time ≠ .requestStop) :
    Infinitely (daemon.Claims executor lease limit schedule worker) := by
  exact Daemon.claims_recur hlaunched.staffed hlaunched.stop hnever hworker hfair

section Examples

/-- A daemon of two loops that finds a run waiting. -/
def sampleDaemon : Daemon where
  fleet := fleetReached sampleExecutor sampleLease 0
    [.trigger sampleId (some automationWorkflow) automationSample]

theorem sampleDaemon_launched : sampleDaemon.Launched sampleExecutor sampleLease 2 where
  reached := ⟨0, _, rfl⟩
  fresh := by
    have hnone : sampleDaemon.fleet.flights = [] := rfl
    simp [hnone]
  phase _ := rfl
  stop := rfl

/-- The first loop alone is scheduled, and every other claim of it fails. -/
def faltering (time : Nat) : DaemonMove :=
  .go 0
    { claimFault := if time % 2 = 0 then some (.beforeCommit "OperationalError" "") else none
      choice := { answer := willing } }

theorem claims_again_and_again_faltering :
    Infinitely (sampleDaemon.Claims sampleExecutor sampleLease 2 faltering 0) :=
  claims_again_and_again sampleExecutor sampleLease 2 sampleDaemon faltering 0
    sampleDaemon_launched (by decide) (fun since => ⟨since, Nat.le_refl _, _, rfl⟩)
    (by
      intro time hasked
      cases hasked)

end Examples

/-- Once it is asked to stop, a daemon whose loops are each scheduled again and again
drains: from some time on all of them have stopped and every drive that one of them
started has returned, and none has had more than one claim answered since. -/
theorem drains (executor : Executor) (lease : Nat → Time) (limit : Nat) (daemon : Daemon)
    (schedule : Nat → DaemonMove) (asked : Nat)
    (hlaunched : daemon.Launched executor lease limit)
    (hfair : ∀ worker < limit, Infinitely (Daemon.Goes schedule worker))
    (hasked : schedule asked = .requestStop) :
    (∃ time, ∀ later, time ≤ later →
      (∀ worker < limit,
        (daemon.after executor lease limit schedule later).phase worker = .stopped) ∧
      ∀ earlier ≤ later,
        ∀ flight ∈ (daemon.after executor lease limit schedule earlier).fleet.flights,
          flight.worker < limit → Fleet.landed
            (daemon.after executor lease limit schedule later).fleet.pool flight.drive = true) ∧
    ∀ worker < limit, ∀ first second, asked < first → first < second →
      daemon.Claims executor lease limit schedule worker first →
      ¬ daemon.Claims executor lease limit schedule worker second := by
  have hstaffed := hlaunched.staffed
  have hstop : (daemon.after executor lease limit schedule (asked + 1)).stop = true :=
    (Daemon.step_stop (hstaffed.after asked) _).mpr (.inr hasked)
  constructor
  · obtain ⟨time, hall⟩ := Daemon.all_come limit fun worker hworker =>
      Daemon.comes_to_stop hstaffed hworker (hfair worker hworker) hstop
    refine ⟨time, ?_⟩
    intro later hle
    refine ⟨hall later hle, ?_⟩
    intro earlier hearlier flight hflight hworker
    cases Daemon.flies_or_landed hstaffed hearlier hflight hworker with
    | inr hlanded => exact hlanded
    | inl hflying =>
        -- a loop that has stopped drives nothing
        have hnow := @Daemon.Staffed.after executor lease limit daemon schedule hstaffed later
        have hdriving := (hnow.driving flight.worker hworker).mpr
          (by rw [hnow.manned.flightOf hflying]; rfl)
        rw [hall later hle flight.worker hworker] at hdriving
        cases hdriving
  · intro worker hworker first second hfirst hsecond hclaims hagain
    have hasked' := @Daemon.stop_stays executor lease limit daemon schedule hstaffed _ _ hfirst
      hstop
    obtain ⟨-, turn, hturn⟩ := hclaims
    have hafter : (daemon.after executor lease limit schedule (first + 1)).phase worker ≠
        .claiming := by
      simp only [Daemon.after, hturn, Daemon.step, if_pos hworker]
      exact Daemon.go_unclaiming hasked' turn
    exact Daemon.claims_no_more hstaffed hworker hsecond
      (Daemon.stop_stays hstaffed (Nat.le_succ first) hasked') hafter hagain.1

section Examples

/-- Both loops in turn, and the stop while the first is driving. -/
def interrupted (time : Nat) : DaemonMove :=
  if time = 6 then .requestStop else .go (time % 2) { choice := { answer := willing } }

theorem drains_interrupted :
    (∃ time, ∀ later, time ≤ later →
      (∀ worker < 2, (sampleDaemon.after sampleExecutor sampleLease 2 interrupted later).phase
        worker = .stopped) ∧
      ∀ earlier ≤ later,
        ∀ flight ∈ (sampleDaemon.after sampleExecutor sampleLease 2 interrupted
          earlier).fleet.flights, flight.worker < 2 → Fleet.landed (sampleDaemon.after
            sampleExecutor sampleLease 2 interrupted later).fleet.pool flight.drive = true) ∧
    ∀ worker < 2, ∀ first second, 6 < first → first < second →
      sampleDaemon.Claims sampleExecutor sampleLease 2 interrupted worker first →
      ¬ sampleDaemon.Claims sampleExecutor sampleLease 2 interrupted worker second :=
  drains sampleExecutor sampleLease 2 sampleDaemon interrupted 6 sampleDaemon_launched
    (by
      intro worker hworker since
      refine ⟨2 * since + 8 + worker, by omega, { choice := { answer := willing } }, ?_⟩
      have hparity : (2 * since + 8 + worker) % 2 = worker := by omega
      have hlater : 2 * since + 8 + worker ≠ 6 := by omega
      simp only [interrupted, if_neg hlater, hparity])
    rfl

end Examples

end CloudioOrchestrator

import CloudioOrchestrator.Attribution
import CloudioOrchestrator.Conclusion
import CloudioOrchestrator.Ledger

/-! # Worker loops

Any number of loops over one table, each claiming a due run, driving it to the
end of its delivery and claiming again. A run is kept from the other loops by
nothing but its schedule, which a claim pushes past a lease.
-/

namespace CloudioOrchestrator

open Interaction

/-- The runs attached to a ticket. -/
def Store.findByTicketId (ticketId : String) (rows : Store.Rows) : List WorkflowRun :=
  rows.filter fun row => row.runState.ticket.map TicketRef.ticketId = some ticketId

/-- The runs that an engine run belongs to. -/
def Store.findByEngineRunId (engineRunId : String) (rows : Store.Rows) : List WorkflowRun :=
  rows.filter fun row => row.runState.engineRunId = some engineRunId

/-- The drives that were started, in the system as it stands. -/
abbrev DrivePool := Pool system (Except PyException Unit × Option WorkflowRun)

/-- A loop that is driving a run: which loop, which drive, and when it claimed the run. -/
structure Flight where
  worker : Nat
  drive : DriveId
  claimedAt : Time

/-- The drives, the loops that are driving, and the wakes that callbacks have still to
do: a callback finds its runs first, and then wakes each in a transaction of its own. -/
structure Fleet where
  pool : DrivePool
  flights : List Flight := []
  wakes : List UUID := []

inductive FleetMove
  /-- A loop that is not driving claims a run and starts driving it. -/
  | claim (worker : Nat) (locked : UUID → Bool)
  /-- The drive of a loop performs its next operation. -/
  | advance (worker : Nat) (choice : Choice)
  /-- A loop dies, and with it the drive. -/
  | die (worker : Nat)
  | trigger (runId : UUID) (workflow : Option Workflow) (request : TriggerRequest)
  | triggerLegacy (runId : UUID) (request : LegacyRunRequest)
  | wakeByTicket (ticketId : String)
  | wakeByEngineRun (engineRunId : String)
  /-- One of the wakes that callbacks have still to do. -/
  | wake (index : Nat)
  | tick (now : Time)

namespace Fleet

def world (fleet : Fleet) : World :=
  fleet.pool.world

def flightOf (fleet : Fleet) (worker : Nat) : Option Flight :=
  fleet.flights.find? fun flight => flight.worker = worker

/-- The other loops' flights. -/
def without (fleet : Fleet) (worker : Nat) : List Flight :=
  fleet.flights.filter fun flight => flight.worker ≠ worker

/-- The drive has returned. -/
def landed (pool : DrivePool) (drive : DriveId) : Bool :=
  match pool.threads[drive.serial]? with
  | some (_, .ret _) => true
  | _ => false

variable (executor : Executor) (lease : Nat → Time)

/-- The outside acts. -/
def outside (event : Outside) (fleet : Fleet) : Fleet :=
  { fleet with pool := fleet.pool.step executor.handle (.outside event) }

def claim (worker : Nat) (locked : UUID → Bool) (fleet : Fleet) : Fleet :=
  match fleet.flightOf worker with
  | some _ => fleet
  | none =>
    let now := fleet.world.clock
    let claimed := fleet.outside executor (.claimDue 1 (lease worker) locked)
    match (Store.claimDue now 1 (lease worker) locked fleet.world.rows).1 with
    | [] => claimed
    | runId :: _ =>
      { claimed with
        pool := claimed.pool.step executor.handle (.start runId)
        flights := ⟨worker, ⟨runId, fleet.pool.threads.length⟩, now⟩ :: fleet.flights }

def advance (worker : Nat) (choice : Choice) (fleet : Fleet) : Fleet :=
  match fleet.flightOf worker with
  | none => fleet
  | some flight =>
    let pool := fleet.pool.step executor.handle (.advance flight.drive.serial choice)
    { fleet with
      pool := pool
      flights := if landed pool flight.drive then fleet.without worker else fleet.flights }

/-- A callback has found its runs. -/
def callback (found : List WorkflowRun) (fleet : Fleet) : Fleet :=
  { fleet with wakes := fleet.wakes ++ found.map WorkflowRun.runId }

def wake (index : Nat) (fleet : Fleet) : Fleet :=
  match fleet.wakes[index]? with
  | none => fleet
  | some runId => { fleet.outside executor (.wake runId) with wakes := fleet.wakes.eraseIdx index }

def step (fleet : Fleet) : FleetMove → Fleet
  | .claim worker locked => fleet.claim executor lease worker locked
  | .advance worker choice => fleet.advance executor worker choice
  | .die worker => { fleet with flights := fleet.without worker }
  | .trigger runId workflow request => fleet.outside executor (.trigger runId workflow request)
  | .triggerLegacy runId request => fleet.outside executor (.triggerLegacy runId request)
  | .wakeByTicket ticketId => fleet.callback (Store.findByTicketId ticketId fleet.world.rows)
  | .wakeByEngineRun engineRunId =>
      fleet.callback (Store.findByEngineRunId engineRunId fleet.world.rows)
  | .wake index => fleet.wake executor index
  | .tick now => fleet.outside executor (.tick now)

def run (moves : List FleetMove) (fleet : Fleet) : Fleet :=
  moves.foldl (step executor lease) fleet

end Fleet

/-- What any number of worker loops reach from an empty store. -/
def fleetReached (executor : Executor) (lease : Nat → Time) (clock : Time)
    (moves : List FleetMove) : Fleet :=
  Fleet.run executor lease moves { pool := ⟨{ clock := clock }, []⟩ }

/-- What a fleet does, its drives and the outside do in the system. -/
theorem Fleet.step_pool (executor : Executor) (lease : Nat → Time) (fleet : Fleet)
    (move : FleetMove) : ∃ others, (fleet.step executor lease move).pool =
      Pool.run executor.handle others fleet.pool := by
  cases move with
  | claim worker locked =>
      simp only [step, claim]
      split
      · exact ⟨[], rfl⟩
      · split
        · exact ⟨[.outside (.claimDue 1 (lease worker) locked)], rfl⟩
        next runId _ _ =>
          exact ⟨[.outside (.claimDue 1 (lease worker) locked), .start runId], rfl⟩
  | advance worker choice =>
      simp only [step, advance]
      split
      · exact ⟨[], rfl⟩
      next flight _ => exact ⟨[.advance flight.drive.serial choice], rfl⟩
  | die worker => exact ⟨[], rfl⟩
  | trigger runId workflow request => exact ⟨[.outside (.trigger runId workflow request)], rfl⟩
  | triggerLegacy runId request => exact ⟨[.outside (.triggerLegacy runId request)], rfl⟩
  | wakeByTicket ticketId => exact ⟨[], rfl⟩
  | wakeByEngineRun engineRunId => exact ⟨[], rfl⟩
  | wake index =>
      simp only [step, wake]
      split
      · exact ⟨[], rfl⟩
      next runId _ => exact ⟨[.outside (.wake runId)], rfl⟩
  | tick now => exact ⟨[.outside (.tick now)], rfl⟩

/-! ## One driver at a time -/

/-- Every drive is finished within the lease of its claim. -/
def Timely (lease : Nat → Time) (fleet : Fleet) : Prop :=
  ∀ flight ∈ fleet.flights, fleet.world.clock < flight.claimedAt + lease flight.worker

/-- No run is being driven by two loops. -/
def OneDriver (fleet : Fleet) : Prop :=
  fleet.flights.Pairwise fun first second => first.drive.subject ≠ second.drive.subject

/-- No run that is being driven is woken, and no save raises once it is committed. -/
def LeftAlone (fleet : Fleet) : FleetMove → Prop
  | .wake index => ∀ flight ∈ fleet.flights, fleet.wakes[index]? ≠ some flight.drive.subject
  | .advance _ choice => ∀ name message, choice.saveFault ≠ some (.afterCommit name message)
  | _ => True

/-- A condition of each move in the state that it is made in. -/
def During (executor : Executor) (lease : Nat → Time) (condition : Fleet → FleetMove → Prop) :
    List FleetMove → Fleet → Prop
  | [], _ => True
  | move :: moves, fleet => condition fleet move ∧
      During executor lease condition moves (fleet.step executor lease move)

instance (fleet : Fleet) : Decidable (OneDriver fleet) :=
  inferInstanceAs (Decidable (List.Pairwise _ _))

instance (lease : Nat → Time) (fleet : Fleet) : Decidable (Timely lease fleet) :=
  inferInstanceAs (Decidable (∀ flight ∈ fleet.flights, fleet.world.clock < _))

instance (fleet : Fleet) : DecidablePred (LeftAlone fleet)
  | .wake index =>
      inferInstanceAs (Decidable (∀ flight ∈ fleet.flights,
        fleet.wakes[index]? ≠ some flight.drive.subject))
  | .advance _ { saveFault := some (.afterCommit name message), .. } =>
      .isFalse fun hfault => hfault name message rfl
  | .advance _ { saveFault := some (.beforeCommit ..), .. } => .isTrue fun _ _ heq => nomatch heq
  | .advance _ { saveFault := none, .. } => .isTrue fun _ _ heq => nomatch heq
  | .claim .. | .die _ | .trigger .. | .triggerLegacy .. | .wakeByTicket _ | .wakeByEngineRun _
  | .tick _ => .isTrue trivial

instance During.decidable (executor : Executor) (lease : Nat → Time)
    (condition : Fleet → FleetMove → Prop) [∀ fleet, DecidablePred (condition fleet)] :
    ∀ moves fleet, Decidable (During executor lease condition moves fleet)
  | [], _ => .isTrue trivial
  | _ :: moves, _ =>
      have := During.decidable executor lease condition moves
      inferInstanceAs (Decidable (_ ∧ _))

/-! ## What a drive does to the rows -/

/-- Serving an operation leaves the rows as they are, or it is a save that is
accepted; no save raises once it is committed. -/
theorem serve_rows (drive : DriveId) (choice : Choice) (op : Op) (world : World)
    (hfault : ∀ name message, choice.saveFault ≠ some (.afterCommit name message)) :
    (World.serve drive choice op world).2.rows = world.rows ∨
      ∃ row, (World.serve drive choice op world).2 = world.commit drive row ∧
        SaveAccepted op (World.serve drive choice op world).1 := by
  cases op with
  | runsGet runId =>
      left
      rw [World.serve]
      rcases world.load_cases drive choice runId with ⟨_, -, hserved⟩ | ⟨_, -, hserved⟩
      · rw [hserved]
      · rw [hserved]
        rfl
  | runsSave run =>
      rw [World.serve]
      rcases world.save_cases drive choice run with
        ⟨error, hserved⟩ | ⟨row, answer, -, hanswer, hserved⟩
      · rw [hserved]
        exact .inl rfl
      · rw [hserved]
        rcases hanswer with rfl | ⟨name, message, hchoice, -⟩
        · exact .inr ⟨row, rfl, trivial⟩
        · exact absurd hchoice (hfault name message)
  | _ => exact .inl rfl

/-- A claim takes a row that is due, and only that one's schedule is pushed. -/
theorem claimDue_one {rows : Store.Rows} {now lease : Time} {locked : UUID → Bool}
    (hrows : (rows.map WorkflowRun.runId).Nodup) :
    (Store.claimDue now 1 lease locked rows).1 = [] ∨
      ∃ row, Store.get rows row.runId = some row ∧ Store.isDue now row = true ∧
        (Store.claimDue now 1 lease locked rows).1 = [row.runId] := by
  simp only [Store.claimDue, Store.dueIds]
  generalize hordered : (rows.filter fun row => Store.isDue now row && !locked row.runId).mergeSort
    (fun first second => first.scheduledAt.getD 0 ≤ second.scheduledAt.getD 0) = ordered
  cases ordered with
  | nil => exact .inl rfl
  | cons row rest =>
      have hmem : row ∈ (rows.filter fun row => Store.isDue now row && !locked row.runId).mergeSort
          (fun first second => first.scheduledAt.getD 0 ≤ second.scheduledAt.getD 0) := by
        rw [hordered]
        exact List.mem_cons_self
      rw [List.mem_mergeSort, List.mem_filter, Bool.and_eq_true] at hmem
      exact .inr ⟨row, Store.get_of_mem hrows hmem.1, hmem.2.1, rfl⟩

section Keeping

variable {executor : Executor} {lease : Nat → Time}

/-- A loop that is driving: its drive has had no save accepted, and the row is not
due before the lease is over. -/
structure Flying (lease : Nat → Time) (pool : DrivePool) (flight : Flight) : Prop where
  body : ∃ body, pool.threads[flight.drive.serial]? = some (flight.drive.subject, body) ∧
    body.Concludes (S := Operations) SaveAccepted fun _ => True
  due : ∃ row due, Store.get (World.rows pool.world) flight.drive.subject = some row ∧
    row.scheduledAt = some due ∧ flight.claimedAt + lease flight.worker ≤ due

structure FleetInv (executor : Executor) (lease : Nat → Time) (fleet : Fleet) : Prop where
  flying : ∀ flight ∈ fleet.flights, Flying lease fleet.pool flight
  distinct : OneDriver fleet
  system : ∃ clock others, fleet.pool = reached executor clock others

/-- A row that is left alone is due when it was. -/
theorem Flying.keep {pool later : DrivePool} {flight : Flight}
    (hflying : Flying lease pool flight)
    (hthread : later.threads[flight.drive.serial]? = pool.threads[flight.drive.serial]?)
    (hrow : ∀ row, Store.get (World.rows pool.world) flight.drive.subject = some row →
      Store.get (World.rows later.world) flight.drive.subject = some row) :
    Flying lease later flight := by
  obtain ⟨hbody, row, due, hget, hdue⟩ := hflying
  exact ⟨by rwa [hthread], row, due, hrow row hget, hdue⟩

namespace FleetInv

variable {fleet : Fleet}

theorem initial (clock : Time) :
    FleetInv executor lease { pool := ⟨{ clock := clock }, []⟩ } where
  flying _ hflight := by cases hflight
  distinct := .nil
  system := ⟨clock, [], rfl⟩

theorem system_step (hfleet : FleetInv executor lease fleet) (move : FleetMove) :
    ∃ clock others, (fleet.step executor lease move).pool = reached executor clock others := by
  obtain ⟨clock, others, hpool⟩ := hfleet.system
  obtain ⟨later, hlater⟩ := fleet.step_pool executor lease move
  exact ⟨clock, others ++ later, by rw [hlater, hpool, reached_append]⟩

theorem runIds (hfleet : FleetInv executor lease fleet) :
    (fleet.world.rows.map WorkflowRun.runId).Nodup := by
  obtain ⟨clock, others, hpool⟩ := hfleet.system
  rw [Fleet.world, hpool]
  exact reached_runIds executor clock others

theorem ledger_step (hfleet : FleetInv executor lease fleet) (move : FleetMove) :
    LedgerInv (fleet.step executor lease move).world := by
  obtain ⟨clock, others, hpool⟩ := hfleet.system_step move
  rw [Fleet.world, hpool]
  exact reached_ledger clock others

/-- Two loops that are driving drive different runs. -/
theorem apart (hfleet : FleetInv executor lease fleet) {first second : Flight}
    (hfirst : first ∈ fleet.flights) (hsecond : second ∈ fleet.flights) (hne : first ≠ second) :
    first.drive.subject ≠ second.drive.subject := by
  have hsymm : Std.Symm fun first second : Flight =>
      first.drive.subject ≠ second.drive.subject := by
    constructor
    intro one other hne
    exact hne.symm
  exact List.Pairwise.forall hfleet.distinct hfirst hsecond hne

/-- The row of a run that is being driven is not due. -/
theorem not_due (hfleet : FleetInv executor lease fleet) (htimely : Timely lease fleet)
    {flight : Flight} (hflight : flight ∈ fleet.flights) {row : WorkflowRun}
    (hrow : Store.get fleet.world.rows flight.drive.subject = some row) :
    Store.isDue fleet.world.clock row = false := by
  obtain ⟨other, due, hget, hdue, hlease⟩ := (hfleet.flying flight hflight).due
  obtain rfl := Option.some.inj (hget.symm.trans hrow)
  have hclock := htimely flight hflight
  simp only [Store.isDue, hdue, decide_eq_false_iff_not]
  simp only [Time] at *
  omega

/-- What leaves alone the rows of the runs that are being driven, and the drives,
leaves the fleet as it is. -/
theorem outside (hfleet : FleetInv executor lease fleet) (event : Outside) {move : FleetMove}
    (hpool : (fleet.step executor lease move).pool =
      fleet.pool.step executor.handle (.outside event))
    (hflights : (fleet.step executor lease move).flights = fleet.flights)
    (hrows : ∀ flight ∈ fleet.flights, ∀ row,
      Store.get fleet.world.rows flight.drive.subject = some row →
        Store.get (fleet.world.outside event).rows flight.drive.subject = some row) :
    FleetInv executor lease (fleet.step executor lease move) := by
  refine ⟨?_, ?_, hfleet.system_step move⟩
  · rw [hpool, hflights]
    intro flight hflight
    exact (hfleet.flying flight hflight).keep rfl (hrows flight hflight)
  · rw [OneDriver, hflights]
    exact hfleet.distinct

/-- A claim pushes no schedule of a run that is being driven. -/
theorem claim_rows (hfleet : FleetInv executor lease fleet) (htimely : Timely lease fleet)
    (time : Time) (locked : UUID → Bool) {flight : Flight} (hflight : flight ∈ fleet.flights)
    {row : WorkflowRun} (hrow : Store.get fleet.world.rows flight.drive.subject = some row) :
    Store.get (fleet.world.outside (.claimDue 1 time locked)).rows flight.drive.subject =
      some row := by
  have hdue := hfleet.not_due htimely hflight hrow
  simp only [World.outside, Store.claimDue]
  rw [Store.get_reschedule, hrow]
  simp [hdue]

theorem claim (hfleet : FleetInv executor lease fleet) (htimely : Timely lease fleet)
    (worker : Nat) (locked : UUID → Bool) :
    FleetInv executor lease (fleet.step executor lease (.claim worker locked)) := by
  have hsystem := hfleet.system_step (.claim worker locked)
  have hkept : ∀ flight ∈ fleet.flights, ∀ row,
      Store.get fleet.world.rows flight.drive.subject = some row →
        Store.get (fleet.world.outside (.claimDue 1 (lease worker) locked)).rows
          flight.drive.subject = some row := by
    intro flight hflight row hrow
    exact hfleet.claim_rows htimely (lease worker) locked hflight hrow
  cases hidle : fleet.flightOf worker with
  | some flight => simpa only [Fleet.step, Fleet.claim, hidle] using hfleet
  | none =>
      rcases @claimDue_one fleet.world.rows fleet.world.clock (lease worker) locked
        hfleet.runIds with hnone | ⟨row, hget, hdue, hids⟩
      · apply hfleet.outside _ _ _ hkept
        · simp only [Fleet.step, Fleet.claim, hidle, hnone]
          rfl
        · simp only [Fleet.step, Fleet.claim, hidle, hnone]
          rfl
      · simp only [Fleet.step, Fleet.claim, hidle, hids] at hsystem ⊢
        refine ⟨?_, ?_, hsystem⟩
        · intro flight hflight
          rcases List.mem_cons.mp hflight with rfl | hold
          -- the claimed row is due when the lease runs out
          · refine ⟨⟨_, List.getElem?_concat_length, handle_concludes executor row.runId⟩,
              { row with scheduledAt := some (fleet.world.clock + lease worker) }, _, ?_, rfl,
              Int.le_refl _⟩
            simp only [Fleet.outside, Pool.step, World.outside, Store.claimDue] at hids ⊢
            rw [Store.get_reschedule]
            simp only [Fleet.world] at *
            rw [hget]
            simp [hdue, hids]
          · apply (hfleet.flying flight hold).keep
            · obtain ⟨body, hbody, -⟩ := (hfleet.flying flight hold).body
              obtain ⟨hlength, -⟩ := List.getElem?_eq_some_iff.mp hbody
              exact List.getElem?_append_left hlength
            · exact hkept flight hold
        · apply List.Pairwise.cons _ hfleet.distinct
          intro other hother heq
          have hsame : row.runId = other.drive.subject := heq
          rw [hsame] at hget
          -- a run that is driven within its lease is not due, so it was not claimed
          have hfree := hfleet.not_due htimely hother hget
          rw [hdue] at hfree
          cases hfree

/-- The drives that were not advanced stay as they are, as long as the rows of their
runs do. -/
theorem flying_others (hfleet : FleetInv executor lease fleet) {flight : Flight}
    (hflight : flight ∈ fleet.flights)
    {thread : UUID × Prog Operations (Except PyException Unit × Option WorkflowRun)}
    {world : World} (hrows : ∀ runId, runId ≠ flight.drive.subject → ∀ row,
      Store.get fleet.world.rows runId = some row → Store.get world.rows runId = some row)
    {other : Flight} (hother : other ∈ fleet.flights) (hne : other ≠ flight) :
    Flying lease ⟨world, fleet.pool.threads.set flight.drive.serial thread⟩ other := by
  have hapart := hfleet.apart hother hflight hne
  apply (hfleet.flying other hother).keep
  · apply List.getElem?_set_ne
    intro hserial
    obtain ⟨_, hbody, -⟩ := (hfleet.flying flight hflight).body
    obtain ⟨_, hbody', -⟩ := (hfleet.flying other hother).body
    rw [← hserial, hbody] at hbody'
    exact hapart (congrArg Prod.fst (Option.some.inj hbody')).symm
  · exact hrows _ hapart

/-- After one operation of a drive every loop is still driving as it was, or the
operation was a save that was accepted, and the drive has returned with it. -/
theorem advance_flying (hfleet : FleetInv executor lease fleet) {flight : Flight}
    (hflight : flight ∈ fleet.flights) {choice : Choice}
    (hfault : ∀ name message, choice.saveFault ≠ some (.afterCommit name message))
    {pool : DrivePool}
    (hpool : fleet.pool.step executor.handle (.advance flight.drive.serial choice) = pool)
    (hledger : LedgerInv pool.world) :
    (∀ other ∈ fleet.flights, Flying lease pool other) ∨
      Fleet.landed pool flight.drive = true ∧
        ∀ other ∈ fleet.flights, other ≠ flight → Flying lease pool other := by
  obtain ⟨body, hthread, hconcludes⟩ := (hfleet.flying flight hflight).body
  obtain ⟨hlength, -⟩ := List.getElem?_eq_some_iff.mp hthread
  cases body with
  | ret value =>
      left
      simp only [Pool.step, hthread] at hpool
      rw [← hpool]
      exact hfleet.flying
  | call op next =>
      obtain ⟨answer, world, hserve⟩ : ∃ answer world,
          World.serve flight.drive choice op fleet.world = (answer, world) := ⟨_, _, rfl⟩
      have hserved := serve_rows flight.drive choice op fleet.world hfault
      have hlater : pool = ⟨world, fleet.pool.threads.set flight.drive.serial
          (flight.drive.subject, next answer)⟩ := by
        simp only [Pool.step, hthread] at hpool
        -- the move is the service's answer, and the drive goes on with it
        rw [← hpool]
        change (⟨(World.serve flight.drive choice op fleet.world).2, fleet.pool.threads.set
          flight.drive.serial (flight.drive.subject,
            next (World.serve flight.drive choice op fleet.world).1)⟩ : DrivePool) = _
        rw [hserve]
      obtain ⟨hnext, hlast⟩ := hconcludes answer
      rw [hserve] at hserved
      simp only at hserved
      subst hlater
      rcases hserved with hrows | ⟨row, hcommit, haccepted⟩
      · left
        intro other hother
        by_cases hsame : other = flight
        · subst hsame
          refine ⟨⟨_, List.getElem?_set_self hlength, hnext⟩, ?_⟩
          simp only [hrows]
          exact (hfleet.flying other hother).due
        · apply hfleet.flying_others hflight _ hother hsame
          intro runId _ row hrow
          rwa [hrows]
      · -- a save that is accepted is the last thing the drive does
        right
        obtain ⟨value, hvalue, -⟩ := hlast haccepted
        constructor
        · rw [hvalue]
          simp only [Fleet.landed, List.getElem?_set_self hlength]
        · intro other hother hne
          apply hfleet.flying_others hflight _ hother hne
          intro runId hid found hfound
          subst hcommit
          obtain ⟨_, previous, _, hlast, _, hrowId, -⟩ := hledger.chained.1
          have htaken : Store.get fleet.world.rows row.runId ≠ none := by
            rw [hrowId]
            obtain ⟨driven, _, hdriven, -⟩ := (hfleet.flying flight hflight).due
            rw [Fleet.world, hdriven]
            simp
          rw [World.commit, Store.get_put _ htaken, hrowId, if_neg (Ne.symm hid)]
          exact hfound

theorem advance (hfleet : FleetInv executor lease fleet) (worker : Nat) (choice : Choice)
    (hfault : ∀ name message, choice.saveFault ≠ some (.afterCommit name message)) :
    FleetInv executor lease (fleet.step executor lease (.advance worker choice)) := by
  have hsystem := hfleet.system_step (.advance worker choice)
  have hledger := hfleet.ledger_step (.advance worker choice)
  simp only [Fleet.step, Fleet.advance] at hsystem hledger ⊢
  cases hdriving : fleet.flightOf worker with
  | none => exact hfleet
  | some flight =>
      have hflight : flight ∈ fleet.flights := List.mem_of_find?_eq_some hdriving
      have hworker : flight.worker = worker := by simpa using List.find?_some hdriving
      rw [hdriving] at hsystem hledger
      simp only at hsystem hledger ⊢
      have hothers : ∀ other ∈ fleet.without worker, other ∈ fleet.flights ∧ other ≠ flight := by
        intro other hother
        obtain ⟨hmem, hne⟩ := List.mem_filter.mp hother
        refine ⟨hmem, ?_⟩
        rintro rfl
        simp [hworker] at hne
      refine ⟨?_, ?_, hsystem⟩
      · intro other hother
        simp only at hother
        rcases hfleet.advance_flying hflight hfault rfl hledger with hall | ⟨hlanded, hrest⟩
        · apply hall
          split at hother
          · exact (hothers other hother).1
          · exact hother
        · rw [if_pos hlanded] at hother
          exact hrest other (hothers other hother).1 (hothers other hother).2
      · simp only [OneDriver]
        split
        · exact hfleet.distinct.filter _
        · exact hfleet.distinct

/-- Creating a run leaves the rows there are. -/
theorem get_insert {world : World} {run row : WorkflowRun} {runId : UUID}
    (hrow : Store.get world.rows runId = some row) :
    Store.get (world.insert run).rows runId = some row := by
  unfold World.insert
  split
  next => exact hrow
  next htaken =>
    have hfresh : Store.get world.rows run.runId = none := by simpa using htaken
    rw [Store.get_create runId hfresh, if_neg, hrow]
    intro heq
    rw [heq, hrow] at hfresh
    cases hfresh

theorem step (hfleet : FleetInv executor lease fleet) (htimely : Timely lease fleet)
    {move : FleetMove} (halone : LeftAlone fleet move) :
    FleetInv executor lease (fleet.step executor lease move) := by
  cases move with
  | claim worker locked => exact hfleet.claim htimely worker locked
  | advance worker choice => exact hfleet.advance worker choice halone
  | die worker =>
      have hsystem := hfleet.system_step (.die worker)
      refine ⟨?_, hfleet.distinct.filter _, hsystem⟩
      intro flight hflight
      exact hfleet.flying flight (List.mem_of_mem_filter hflight)
  | trigger runId workflow request =>
      apply hfleet.outside _ rfl rfl
      intro flight hflight row hrow
      simp only [World.outside]
      split
      · exact get_insert hrow
      · exact hrow
  | triggerLegacy runId request =>
      apply hfleet.outside _ rfl rfl
      intro flight hflight row hrow
      exact get_insert hrow
  | wakeByTicket ticketId => exact ⟨hfleet.flying, hfleet.distinct, hfleet.system⟩
  | wakeByEngineRun engineRunId => exact ⟨hfleet.flying, hfleet.distinct, hfleet.system⟩
  | wake index =>
      cases hwake : fleet.wakes[index]? with
      | none => simpa only [Fleet.step, Fleet.wake, hwake] using hfleet
      | some runId =>
          apply hfleet.outside (.wake runId)
          · simp only [Fleet.step, Fleet.wake, hwake]
            rfl
          · simp only [Fleet.step, Fleet.wake, hwake]
            rfl
          · intro flight hflight row hrow
            simp only [World.outside, Store.wake]
            rw [Store.get_reschedule, hrow]
            -- a callback for a run in flight is what `LeftAlone` excludes
            have hother : row.runId ≠ runId := by
              rw [Store.runId_of_get hrow]
              intro heq
              exact halone flight hflight (hwake.trans (congrArg some heq.symm))
            simp [Store.wakes, hother]
  | tick now =>
      apply hfleet.outside _ rfl rfl
      intro flight hflight row hrow
      exact hrow

theorem run {moves : List FleetMove} (hfleet : FleetInv executor lease fleet)
    (htimely : During executor lease (fun fleet _ => Timely lease fleet) moves fleet)
    (halone : During executor lease LeftAlone moves fleet) :
    FleetInv executor lease (fleet.run executor lease moves) := by
  induction moves generalizing fleet with
  | nil => exact hfleet
  | cons move moves ih => exact ih (hfleet.step htimely.1 halone.1) htimely.2 halone.2

end FleetInv

/-- As long as every drive is finished within the lease of its claim, no run that is
being driven is woken, and no save raises once it is committed, no run is ever being
driven by two loops. -/
theorem one_driver_where_left_alone (executor : Executor) (lease : Nat → Time) (clock : Time)
    (moves : List FleetMove)
    (htimely : During executor lease (fun fleet _ => Timely lease fleet) moves
      (fleetReached executor lease clock []))
    (halone : During executor lease LeftAlone moves (fleetReached executor lease clock [])) :
    OneDriver (fleetReached executor lease clock moves) :=
  (FleetInv.run (FleetInv.initial clock) htimely halone).distinct

end Keeping

section Examples

def sampleLease : Nat → Time :=
  fun _ => seconds 300

/-- A drive that waits for its engine run, a callback after it, and a second loop. -/
def wokenAfterwards : List FleetMove :=
  .trigger sampleId (some automationWorkflow) automationSample ::
  (.claim 0 fun _ => false) :: List.replicate 8 (.advance 0 { answer := willing }) ++
  [.wakeByTicket "RITM0000001", .wake 0, .claim 1 fun _ => false]

theorem one_driver_where_left_alone_wokenAfterwards :
    (fleetReached sampleExecutor sampleLease 0 wokenAfterwards).flights.length = 1 ∧
      OneDriver (fleetReached sampleExecutor sampleLease 0 wokenAfterwards) := by
  constructor
  · decide +kernel
  · exact one_driver_where_left_alone sampleExecutor sampleLease 0 wokenAfterwards
      (by decide +kernel) (by decide +kernel)

/-- A callback between a loop's claim and its save, and a second loop. -/
def wokenInFlight : List FleetMove :=
  [.trigger sampleId (some automationWorkflow) automationSample, .claim 0 fun _ => false,
    .advance 0 { answer := willing }, .wakeByTicket "RITM0000001", .wake 0,
    .claim 1 fun _ => false]

theorem two_drivers_wokenInFlight :
    During sampleExecutor sampleLease (fun fleet _ => Timely sampleLease fleet) wokenInFlight
        (fleetReached sampleExecutor sampleLease 0 []) ∧
      ¬ OneDriver (fleetReached sampleExecutor sampleLease 0 wokenInFlight) := by
  decide +kernel

/-- A drive whose save is committed and raises, and a second loop while the first
still escalates. -/
def savedInFlight : List FleetMove :=
  .trigger sampleId (some automationWorkflow) automationSample ::
  (.claim 0 fun _ => false) ::
  List.replicate 8 (.advance 0
    { answer := willing, saveFault := some (.afterCommit "OperationalError" "") }) ++
  [.tick (seconds 15), .claim 1 fun _ => false]

theorem two_drivers_savedInFlight :
    During sampleExecutor sampleLease (fun fleet _ => Timely sampleLease fleet) savedInFlight
        (fleetReached sampleExecutor sampleLease 0 []) ∧
      ¬ OneDriver (fleetReached sampleExecutor sampleLease 0 savedInFlight) := by
  decide +kernel

end Examples

end CloudioOrchestrator

import CloudioOrchestrator.Backoffs
import CloudioOrchestrator.Daemon

/-! # How long a due run waits

Claims take the run that is scheduled earliest, and what they write is later than the
clock. So a run that is overdue is overtaken by nothing but the saves of drives that
reckon from an earlier clock.
-/

namespace CloudioOrchestrator

open Interaction

namespace Store

/-- How many runs are scheduled no later than at the time. -/
def queued (time : Time) (rows : Rows) : Nat :=
  rows.countP (isDue time)

/-- The run is scheduled for the time. -/
def Waits (runId : UUID) (time : Time) (rows : Rows) : Prop :=
  ∃ row, get rows runId = some row ∧ row.scheduledAt = some time

instance (runId : UUID) (time : Time) (rows : Rows) : Decidable (Waits runId time rows) :=
  decidable_of_iff ((get rows runId).map WorkflowRun.scheduledAt = some (some time)) (by
    simp only [Waits, Option.map_eq_some_iff])

section Queued

variable {rows : Rows} {runId : UUID} {time now : Time}

theorem Waits.due (hwaits : Waits runId time rows) :
    ∃ row ∈ rows, row.runId = runId ∧ row.scheduledAt = some time := by
  obtain ⟨row, hget, hscheduled⟩ := hwaits
  exact ⟨row, List.mem_of_find?_eq_some hget, runId_of_get hget, hscheduled⟩

theorem Waits.queued_pos (hwaits : Waits runId time rows) : 0 < queued time rows := by
  obtain ⟨row, hrow, -, hscheduled⟩ := hwaits.due
  exact List.countP_pos_iff.mpr ⟨row, hrow, by simp [isDue, hscheduled]⟩

/-- A claim takes a run that is scheduled no later than any it might take. -/
theorem dueIds_earliest {locked : UUID → Bool} {row : WorkflowRun} (hrow : row ∈ rows)
    (hdue : isDue now row = true) (hfree : locked row.runId = false) :
    ∃ first ∈ rows, dueIds now 1 locked rows = [first.runId] ∧ isDue now first = true ∧
      first.scheduledAt.getD 0 ≤ row.scheduledAt.getD 0 := by
  have htrans : ∀ first second third : WorkflowRun,
      decide (first.scheduledAt.getD 0 ≤ second.scheduledAt.getD 0) = true →
      decide (second.scheduledAt.getD 0 ≤ third.scheduledAt.getD 0) = true →
      decide (first.scheduledAt.getD 0 ≤ third.scheduledAt.getD 0) = true := by
    intro first second third hfirst hsecond
    simp only [decide_eq_true_eq] at hfirst hsecond ⊢
    exact Int.le_trans hfirst hsecond
  have htotal : ∀ first second : WorkflowRun,
      (decide (first.scheduledAt.getD 0 ≤ second.scheduledAt.getD 0) ||
        decide (second.scheduledAt.getD 0 ≤ first.scheduledAt.getD 0)) = true := by
    intro first second
    simp only [Bool.or_eq_true, decide_eq_true_eq]
    exact Int.le_total _ _
  have hsorted := List.pairwise_mergeSort htrans htotal
    (rows.filter fun row => isDue now row && !locked row.runId)
  have hmem : ∀ other, other ∈ (rows.filter fun row => isDue now row && !locked row.runId).mergeSort
      (fun first second => decide (first.scheduledAt.getD 0 ≤ second.scheduledAt.getD 0)) ↔
        other ∈ rows ∧ isDue now other = true ∧ locked other.runId = false := by
    intro other
    rw [List.mem_mergeSort, List.mem_filter, Bool.and_eq_true, Bool.not_eq_true']
  simp only [dueIds]
  generalize (rows.filter fun row => isDue now row && !locked row.runId).mergeSort
    (fun first second => decide (first.scheduledAt.getD 0 ≤ second.scheduledAt.getD 0)) = ordered
    at hmem hsorted
  have hordered := (hmem row).mpr ⟨hrow, hdue, hfree⟩
  cases ordered with
  | nil => cases hordered
  | cons first rest =>
      obtain ⟨hfirst, hfirstDue, -⟩ := (hmem first).mp List.mem_cons_self
      refine ⟨first, hfirst, rfl, hfirstDue, ?_⟩
      cases List.mem_cons.mp hordered with
      | inl hsame =>
          subst hsame
          exact Int.le_refl _
      | inr hrest => simpa using (List.pairwise_cons.mp hsorted).1 row hrest

/-- Where a later schedule is written over some rows, the others are still ahead. -/
theorem queued_reschedule (select : WorkflowRun → Bool) (hlater : time < now) :
    queued time (reschedule select now rows) + rows.countP (fun row => isDue time row && select row)
      = queued time rows := by
  have hpushed : ∀ row,
    isDue time (if select row then { row with scheduledAt := some now } else row)
      = (isDue time row && !select row) := by
    intro row
    cases hselected : select row with
    | true => simp [isDue, Int.not_le.mpr hlater]
    | false => simp
  have hsplit := List.countP_eq_countP_filter_add rows (isDue time) select
  simp only [List.countP_filter] at hsplit
  have hcount : queued time (reschedule select now rows) =
      rows.countP fun row => isDue time row && !select row := by
    simp only [queued, reschedule, List.countP_map]
    apply List.countP_congr
    intro row _
    rw [Function.comp_apply, hpushed]
  rw [hcount, queued, hsplit, Nat.add_comm]

theorem queued_create {run : WorkflowRun} (hlater : run.scheduledAt = some now)
    (hpast : time < now) : queued time (create rows run) = queued time rows := by
  unfold create
  split
  · rfl
  · simp [queued, isDue, hlater, Int.not_le.mpr hpast]

/-- A save puts one run ahead at most. -/
theorem queued_put (hrows : (rows.map WorkflowRun.runId).Nodup) (row : WorkflowRun) :
    queued time (put rows row) ≤ queued time rows + if isDue time row then 1 else 0 := by
  induction rows with
  | nil => exact Nat.zero_le _
  | cons head rows ih =>
      obtain ⟨hfresh, hnodup⟩ := List.nodup_cons.mp hrows
      simp only [queued, put, List.map_cons, List.countP_cons] at ih ⊢
      by_cases hsame : head.runId = row.runId
      · -- the other rows are not the one that is written over
        have hothers : rows.map (fun other => if other.runId = row.runId then row else other) =
            rows := by
          apply (List.map_congr_left _).trans (List.map_id rows)
          intro other hother
          have hne : other.runId ≠ row.runId := by
            intro heq
            apply hfresh
            rw [hsame, ← heq]
            exact List.mem_map_of_mem hother
          simp [hne]
        rw [hothers, if_pos hsame]
        omega
      · have hrest := ih hnodup
        rw [if_neg hsame]
        omega

/-- While a run waits that is overdue, a claim that may take it takes what is ahead. -/
theorem queued_claimDue {lease : Time} {locked : UUID → Bool} (hwaits : Waits runId time rows)
    (hoverdue : time < now) (hlease : 0 ≤ lease) :
    queued time (claimDue now 1 lease locked rows).2 + (if locked runId = false then 1 else 0) ≤
      queued time rows := by
  have hpushed : time < now + lease := by
    simp only [Time] at *
    omega
  have hcount := @queued_reschedule rows time (now + lease)
    (fun row => isDue now row && row.runId ∈ dueIds now 1 locked rows) hpushed
  simp only [claimDue]
  split
  next hfree =>
    obtain ⟨row, hrow, hid, hscheduled⟩ := hwaits.due
    have hdue : isDue now row = true := by
      simp only [isDue, hscheduled, decide_eq_true_eq]
      exact Int.le_of_lt hoverdue
    have hrowFree : locked row.runId = false := hid ▸ hfree
    obtain ⟨first, hfirst, hids, hfirstDue, hearlier⟩ := dueIds_earliest hrow hdue hrowFree
    have hahead : isDue time first = true := by
      cases hfirstAt : first.scheduledAt with
      | none => simp [isDue, hfirstAt] at hfirstDue
      | some scheduledAt =>
          rw [hfirstAt, hscheduled] at hearlier
          simpa [isDue, hfirstAt] using hearlier
    have hpos : 0 < rows.countP fun row =>
        isDue time row && (isDue now row && decide (row.runId ∈ dueIds now 1 locked rows)) := by
      apply List.countP_pos_iff.mpr
      refine ⟨first, hfirst, ?_⟩
      rw [hahead, hfirstDue, hids]
      simp
    omega
  next => omega

end Queued

end Store

/-- A save that gives its run a schedule no later than the time. -/
def Event.overtakes (time : Time) : Event → Bool
  | .saved _ row => Store.isDue time row
  | _ => false

def overtakes (time : Time) (history : History) : Nat :=
  history.countP (Event.overtakes time)

section Moves

variable {executor : Executor} {lease : Nat → Time} {fleet : Fleet} {world : World}
variable {runId : UUID} {time : Time}

theorem overtakes_cons (event : Event) (history : History) :
    overtakes time (event :: history) =
      overtakes time history + if event.overtakes time then 1 else 0 :=
  List.countP_cons

/-- An operation of a drive puts a run ahead by an overtaking save only. -/
theorem queued_serve (hrows : (world.rows.map WorkflowRun.runId).Nodup) (drive : DriveId)
    (choice : Choice) (op : Op) :
    Store.queued time (world.serve drive choice op).2.rows + overtakes time world.history ≤
      Store.queued time world.rows + overtakes time (world.serve drive choice op).2.history := by
  have hcommit : ∀ row, Store.queued time (world.commit drive row).rows +
      overtakes time world.history ≤
        Store.queued time world.rows + overtakes time (world.commit drive row).history := by
    intro row
    have hput := @Store.queued_put world.rows time hrows row
    simp only [World.commit, overtakes_cons]
    by_cases hdue : Store.isDue time row = true
    · have hovertakes : Event.overtakes time (.saved drive row) = true := hdue
      rw [if_pos hdue] at hput
      rw [if_pos hovertakes]
      omega
    · have hovertakes : ¬ Event.overtakes time (.saved drive row) = true := hdue
      rw [if_neg hdue] at hput
      rw [if_neg hovertakes]
      omega
  have hrecord : ∀ event, Store.queued time (world.record event).rows +
      overtakes time world.history ≤
        Store.queued time world.rows + overtakes time (world.record event).history := by
    intro event
    simp only [World.record, overtakes_cons]
    omega
  cases op with
  | runsGet loaded =>
      rw [World.serve]
      rcases world.load_cases drive choice loaded with ⟨_, -, hserved⟩ | ⟨_, -, hserved⟩
      · rw [hserved]
      · rw [hserved]
        exact hrecord _
  | runsSave run =>
      rw [World.serve]
      rcases world.save_cases drive choice run with ⟨_, hserved⟩ | ⟨row, _, -, -, hserved⟩
      · rw [hserved]
      · rw [hserved]
        exact hcommit row
  | utcnow => exact Nat.le_refl _
  | uniform => exact Nat.le_refl _
  | provider issuer call => exact hrecord _
  | log record => exact hrecord _

theorem queued_insert {run : WorkflowRun} (hborn : run.scheduledAt = some world.clock)
    (hoverdue : time < world.clock) :
    Store.queued time (world.insert run).rows = Store.queued time world.rows ∧
      overtakes time (world.insert run).history = overtakes time world.history := by
  unfold World.insert
  split
  · exact ⟨rfl, rfl⟩
  · exact ⟨Store.queued_create hborn hoverdue, by simp [overtakes_cons, Event.overtakes]⟩

theorem trigger_scheduled {now : Time} {workflow : Option Workflow} {request : TriggerRequest}
    {run : WorkflowRun} (htrigger : trigger now runId workflow request = .ok run) :
    run.scheduledAt = some now := by
  simp only [trigger] at htrigger
  split at htrigger
  next => cases htrigger
  next =>
    split at htrigger
    next => cases htrigger
    next =>
      cases htrigger
      rfl

/-- What comes from outside puts no run ahead of one that is overdue. -/
theorem queued_outside (hoverdue : time < world.clock) {event : Outside}
    (hclaim : ∀ limit lease locked, event = .claimDue limit lease locked → 0 ≤ lease) :
    Store.queued time (world.outside event).rows ≤ Store.queued time world.rows ∧
      overtakes time (world.outside event).history = overtakes time world.history := by
  cases event with
  | trigger created workflow request =>
      simp only [World.outside]
      split
      next run hrun =>
        obtain ⟨hqueued, hhistory⟩ := queued_insert (trigger_scheduled hrun) hoverdue
        exact ⟨Nat.le_of_eq hqueued, hhistory⟩
      next => exact ⟨Nat.le_refl _, rfl⟩
  | triggerLegacy created request =>
      obtain ⟨hqueued, hhistory⟩ :=
        @queued_insert world time (triggerLegacy world.clock created request) rfl hoverdue
      exact ⟨Nat.le_of_eq hqueued, hhistory⟩
  | claimDue limit lease locked =>
      have hlease := hclaim limit lease locked rfl
      have hpushed : time < world.clock + lease := by
        simp only [Time] at *
        omega
      have hcount := @Store.queued_reschedule world.rows time _ (fun row =>
        Store.isDue world.clock row && row.runId ∈ Store.dueIds world.clock limit locked world.rows)
        hpushed
      refine ⟨?_, rfl⟩
      simp only [World.outside, Store.claimDue]
      omega
  | wake woken =>
      have hcount := @Store.queued_reschedule world.rows time _ (Store.wakes woken) hoverdue
      refine ⟨?_, rfl⟩
      simp only [World.outside, Store.wake]
      omega
  | tick now => exact ⟨Nat.le_refl _, rfl⟩

/-- All that a move of a fleet can do to the world. -/
theorem Fleet.step_world (fleet : Fleet) (move : FleetMove) :
    (fleet.step executor lease move).world = fleet.world ∨
    (∃ event, (fleet.step executor lease move).world = fleet.world.outside event ∧
      (∀ now, event = .tick now → move = .tick now) ∧
      ∀ limit length locked, event = .claimDue limit length locked →
        ∃ worker, length = lease worker) ∨
    ∃ drive choice op, (fleet.step executor lease move).world =
      (fleet.world.serve drive choice op).2 := by
  cases move with
  | claim worker locked =>
      -- whether a run is found or not, the table is claimed from
      have hclaimed : (fleet.step executor lease (.claim worker locked)).world = fleet.world ∨
          (fleet.step executor lease (.claim worker locked)).world =
            fleet.world.outside (.claimDue 1 (lease worker) locked) := by
        simp only [step, claim]
        split
        · exact .inl rfl
        · split <;> exact .inr rfl
      cases hclaimed with
      | inl hsame => exact .inl hsame
      | inr houtside =>
          refine .inr (.inl ⟨_, houtside, ?_, ?_⟩)
          · intro now heq
            cases heq
          · intro limit length locked heq
            injection heq with _ hlength
            exact ⟨worker, hlength.symm⟩
  | advance worker choice =>
      simp only [step, advance]
      split
      next => exact .inl rfl
      next flight _ =>
        simp only [Fleet.world, Pool.step]
        split
        · exact .inr (.inr ⟨_, choice, _, rfl⟩)
        · exact .inl rfl
  | wake index =>
      simp only [step, wake]
      split
      next => exact .inl rfl
      next woken _ =>
        refine .inr (.inl ⟨.wake woken, rfl, ?_, ?_⟩)
        · intro now heq
          cases heq
        · intro limit length locked heq
          cases heq
  | die worker => exact .inl rfl
  | wakeByTicket ticketId => exact .inl rfl
  | wakeByEngineRun engineRunId => exact .inl rfl
  | trigger created workflow request =>
      refine .inr (.inl ⟨.trigger created workflow request, rfl, ?_, ?_⟩)
      · intro now heq
        cases heq
      · intro limit length locked heq
        cases heq
  | triggerLegacy created request =>
      refine .inr (.inl ⟨.triggerLegacy created request, rfl, ?_, ?_⟩)
      · intro now heq
        cases heq
      · intro limit length locked heq
        cases heq
  | tick now =>
      refine .inr (.inl ⟨.tick now, rfl, ?_, ?_⟩)
      · intro other heq
        injection heq with heq
        rw [heq]
      · intro limit length locked heq
        cases heq

/-- A move of a fleet puts no run ahead of one that is overdue but by an overtaking save. -/
theorem Fleet.queued_step (hrows : (fleet.world.rows.map WorkflowRun.runId).Nodup)
    (hoverdue : time < fleet.world.clock) (hlease : ∀ worker, 0 ≤ lease worker)
    (move : FleetMove) :
    Store.queued time (fleet.step executor lease move).world.rows +
        overtakes time fleet.world.history ≤
      Store.queued time fleet.world.rows +
        overtakes time (fleet.step executor lease move).world.history := by
  rcases @Fleet.step_world executor lease fleet move with
    hsame | ⟨event, houtside, -, hclaim⟩ | ⟨drive, choice, op, hserve⟩
  · rw [hsame]
  · have hclaims : ∀ limit length locked, event = .claimDue limit length locked → 0 ≤ length := by
      intro limit length locked heq
      obtain ⟨worker, hlength⟩ := hclaim limit length locked heq
      rw [hlength]
      exact hlease worker
    obtain ⟨hqueued, hhistory⟩ := queued_outside hoverdue hclaims
    rw [houtside]
    omega
  · rw [hserve]
    exact queued_serve hrows drive choice op

/-- Time goes forward. -/
def Forward (fleet : Fleet) (move : FleetMove) : Prop :=
  ∀ now, move = .tick now → fleet.world.clock ≤ now

theorem Fleet.clock_step {move : FleetMove} (hforward : Forward fleet move) :
    fleet.world.clock ≤ (fleet.step executor lease move).world.clock := by
  rcases @Fleet.step_world executor lease fleet move with
    hsame | ⟨event, houtside, htick, -⟩ | ⟨drive, choice, op, hserve⟩
  · rw [hsame]
  · rw [houtside]
    exact World.outside_clock fun now heq => hforward now (htick now heq)
  · rw [hserve, World.serve_clock]

theorem Fleet.claim_rows {worker : Nat} {locked : UUID → Bool}
    (hidle : fleet.flightOf worker = none) :
    (fleet.step executor lease (.claim worker locked)).world.rows =
      (Store.claimDue fleet.world.clock 1 (lease worker) locked fleet.world.rows).2 := by
  simp only [step, claim, hidle]
  split <;> rfl

/-- A claim of a loop that is free, while a run waits that it may take. -/
theorem Fleet.queued_claim (hwaits : Store.Waits runId time fleet.world.rows)
    (hoverdue : time < fleet.world.clock) (hlease : ∀ worker, 0 ≤ lease worker) {worker : Nat}
    {locked : UUID → Bool} (hidle : fleet.flightOf worker = none) (hfree : locked runId = false) :
    Store.queued time (fleet.step executor lease (.claim worker locked)).world.rows + 1 ≤
        Store.queued time fleet.world.rows ∧
      (fleet.step executor lease (.claim worker locked)).world.history = fleet.world.history := by
  have hclaimed := @Store.queued_claimDue fleet.world.rows runId time fleet.world.clock
    (lease worker) locked hwaits hoverdue (hlease worker)
  rw [if_pos hfree, ← claim_rows hidle] at hclaimed
  refine ⟨hclaimed, ?_⟩
  simp only [step, claim, hidle]
  split <;> rfl

/-- The claims of free loops, of those that might take the run. -/
def Fleet.passedOver (executor : Executor) (lease : Nat → Time) (runId : UUID) :
    List FleetMove → Fleet → Nat
  | [], _ => 0
  | .claim worker locked :: moves, fleet =>
      (if (fleet.flightOf worker).isNone && !locked runId then 1 else 0) +
        passedOver executor lease runId moves (fleet.step executor lease (.claim worker locked))
  | move :: moves, fleet =>
      passedOver executor lease runId moves (fleet.step executor lease move)

theorem Fleet.step_runIds {clock : Time} {others : List (Move system)}
    (hreached : fleet.pool = reached executor clock others) :
    (fleet.world.rows.map WorkflowRun.runId).Nodup := by
  rw [Fleet.world, hreached]
  exact reached_runIds executor clock others

/-- As long as a run waits that is overdue, every claim that might take it leaves one run
less ahead of it, and only an overtaking save one more. -/
theorem Fleet.queued_run {clock : Time} {others : List (Move system)}
    (hreached : fleet.pool = reached executor clock others) (hlease : ∀ worker, 0 ≤ lease worker)
    (hoverdue : time < fleet.world.clock) {moves : List FleetMove}
    (hforward : During executor lease Forward moves fleet)
    (hwaits : During executor lease (fun fleet _ => Store.Waits runId time fleet.world.rows)
      moves fleet) :
    Store.queued time (fleet.run executor lease moves).world.rows +
        (Fleet.passedOver executor lease runId moves fleet + overtakes time fleet.world.history) ≤
      Store.queued time fleet.world.rows +
        overtakes time (fleet.run executor lease moves).world.history := by
  induction moves generalizing fleet others with
  | nil => simp [Fleet.passedOver, Fleet.run]
  | cons move moves ih =>
      obtain ⟨hnow, hlater⟩ := hforward
      obtain ⟨hwaiting, hwaits⟩ := hwaits
      have hclock : time < (fleet.step executor lease move).world.clock :=
        Int.lt_of_lt_of_le hoverdue (Fleet.clock_step hnow)
      obtain ⟨next, hnext⟩ := fleet.step_pool executor lease move
      have hpool : (fleet.step executor lease move).pool =
          reached executor clock (others ++ next) := by
        rw [hnext, hreached, reached_append]
      have hrest := ih hpool hclock hlater hwaits
      have hstep := @Fleet.queued_step executor lease fleet time (Fleet.step_runIds hreached)
        hoverdue hlease move
      change Store.queued time (Fleet.run executor lease moves
        (fleet.step executor lease move)).world.rows + _ ≤ _ + overtakes time (Fleet.run executor
          lease moves (fleet.step executor lease move)).world.history
      cases move with
      | claim worker locked =>
          simp only [Fleet.passedOver]
          split
          next hfree =>
            simp only [Bool.and_eq_true, Option.isNone_iff_eq_none, Bool.not_eq_true'] at hfree
            obtain ⟨hclaimed, hhistory⟩ := @Fleet.queued_claim executor lease fleet runId time
              hwaiting hoverdue hlease worker locked hfree.1 hfree.2
            rw [hhistory] at hrest
            omega
          next => omega
      | _ =>
          simp only [Fleet.passedOver]
          omega

/-- Moves among which time goes forward put no run ahead but by overtaking saves. -/
theorem Fleet.queued_run_le {clock : Time} {others : List (Move system)}
    (hreached : fleet.pool = reached executor clock others) (hlease : ∀ worker, 0 ≤ lease worker)
    (hoverdue : time < fleet.world.clock) {moves : List FleetMove}
    (hforward : During executor lease Forward moves fleet) :
    time < (fleet.run executor lease moves).world.clock ∧
      Store.queued time (fleet.run executor lease moves).world.rows +
          overtakes time fleet.world.history ≤
        Store.queued time fleet.world.rows +
          overtakes time (fleet.run executor lease moves).world.history := by
  induction moves generalizing fleet others with
  | nil => exact ⟨hoverdue, Nat.le_refl _⟩
  | cons move moves ih =>
      obtain ⟨hnow, hlater⟩ := hforward
      obtain ⟨next, hnext⟩ := fleet.step_pool executor lease move
      have hpool : (fleet.step executor lease move).pool =
          reached executor clock (others ++ next) := by
        rw [hnext, hreached, reached_append]
      have hclock : time < (fleet.step executor lease move).world.clock :=
        Int.lt_of_lt_of_le hoverdue (Fleet.clock_step hnow)
      obtain ⟨hrun, hrest⟩ := ih hpool hclock hlater
      have hstep := @Fleet.queued_step executor lease fleet time (Fleet.step_runIds hreached)
        hoverdue hlease move
      refine ⟨hrun, ?_⟩
      change Store.queued time (Fleet.run executor lease moves
        (fleet.step executor lease move)).world.rows + _ ≤ _ + overtakes time (Fleet.run executor
          lease moves (fleet.step executor lease move)).world.history
      omega

end Moves

theorem fleetReached_pool (executor : Executor) (lease : Nat → Time) (clock : Time)
    (moves : List FleetMove) : ∃ others, (fleetReached executor lease clock moves).pool =
      reached executor clock others := by
  have hrun : ∀ fleet : Fleet, ∃ others, (fleet.run executor lease moves).pool =
      Pool.run executor.handle others fleet.pool := by
    induction moves with
    | nil => exact fun fleet => ⟨[], rfl⟩
    | cons move moves ih =>
        intro fleet
        obtain ⟨next, hnext⟩ := fleet.step_pool executor lease move
        obtain ⟨rest, hrest⟩ := ih (fleet.step executor lease move)
        refine ⟨next ++ rest, ?_⟩
        rw [Pool.run_append, ← hnext]
        exact hrest
  exact hrun _

/-- While an overdue run waits, the claims that might have taken it are fewer than the
runs that were scheduled no later when the waiting began and the saves since then that
gave a run such a schedule. -/
theorem passed_over_boundedly (executor : Executor) (lease : Nat → Time) (clock : Time)
    (first later : List FleetMove) (runId : UUID) (time : Time)
    (hlease : ∀ worker, 0 ≤ lease worker)
    (hoverdue : time < (fleetReached executor lease clock first).world.clock)
    (hforward : During executor lease Forward later (fleetReached executor lease clock first))
    (hwaits : During executor lease (fun fleet _ => Store.Waits runId time fleet.world.rows) later
      (fleetReached executor lease clock first))
    (hstill : Store.Waits runId time
      (fleetReached executor lease clock (first ++ later)).world.rows) :
    Fleet.passedOver executor lease runId later (fleetReached executor lease clock first) +
        overtakes time (fleetReached executor lease clock first).world.history <
      Store.queued time (fleetReached executor lease clock first).world.rows +
        overtakes time (fleetReached executor lease clock (first ++ later)).world.history := by
  obtain ⟨others, hpool⟩ := fleetReached_pool executor lease clock first
  have hcount := Fleet.queued_run hpool hlease hoverdue hforward hwaits
  have hpos := hstill.queued_pos
  have hsplit : fleetReached executor lease clock (first ++ later) =
      (fleetReached executor lease clock first).run executor lease later := by
    simp only [fleetReached, Fleet.run, List.foldl_append]
  rw [hsplit] at hpos ⊢
  omega

section Examples

def earlierId : UUID :=
  ⟨List.replicate 32 ⟨2, by decide⟩, List.length_replicate⟩

/-- Two runs that are overdue, one of them for longer. -/
def overdue : List FleetMove :=
  [.trigger earlierId (some automationWorkflow) automationSample, .tick (seconds 1),
    .trigger sampleId (some automationWorkflow) automationSample, .tick (seconds 2)]

/-- Of two overdue runs, the claim takes the one that has waited longer. -/
theorem overdue_claimed : Store.Waits sampleId (seconds 1)
    (fleetReached sampleExecutor sampleLease 0
      (overdue ++ [.claim 0 fun _ => false])).world.rows := by
  obtain ⟨last, first, hrows, hlast, hlastAt, hfirst, hfirstAt⟩ : ∃ last first,
      (fleetReached sampleExecutor sampleLease 0 overdue).world.rows = [last, first] ∧
        last.runId = sampleId ∧ last.scheduledAt = some (seconds 1) ∧
          first.runId = earlierId ∧ first.scheduledAt = some 0 :=
    ⟨_, _, rfl, rfl, rfl, rfl, rfl⟩
  have hids : Store.dueIds (seconds 2) 1 (fun _ => false) [last, first] = [earlierId] := by
    simp [Store.dueIds, Store.isDue, List.mergeSort, List.MergeSort.Internal.splitInTwo,
      hlastAt, hfirstAt, hfirst, seconds]
  have hapart : sampleId ≠ earlierId := by decide
  refine ⟨last, ?_, hlastAt⟩
  have hclaimed : (fleetReached sampleExecutor sampleLease 0
      (overdue ++ [.claim 0 fun _ => false])).world.rows =
        (Store.claimDue (seconds 2) 1 (seconds 300) (fun _ => false)
          (fleetReached sampleExecutor sampleLease 0 overdue).world.rows).2 := by
    simp only [fleetReached, Fleet.run, List.foldl_append, List.foldl_cons, List.foldl_nil]
    exact Fleet.claim_rows rfl
  rw [hclaimed, hrows, Store.claimDue, hids]
  simp [Store.reschedule, Store.get, hlast, hapart]

theorem passed_over_boundedly_overdue :
    Fleet.passedOver sampleExecutor sampleLease sampleId [.claim 0 fun _ => false]
          (fleetReached sampleExecutor sampleLease 0 overdue) +
        overtakes (seconds 1) (fleetReached sampleExecutor sampleLease 0 overdue).world.history <
      Store.queued (seconds 1) (fleetReached sampleExecutor sampleLease 0 overdue).world.rows +
        overtakes (seconds 1) (fleetReached sampleExecutor sampleLease 0
          (overdue ++ [.claim 0 fun _ => false])).world.history := by
  apply passed_over_boundedly sampleExecutor sampleLease 0 overdue _ sampleId (seconds 1)
  · intro worker
    exact (by decide : (0 : Int) ≤ seconds 300)
  · decide
  · refine ⟨?_, trivial⟩
    intro now heq
    cases heq
  · exact ⟨by decide +kernel, trivial⟩
  · exact overdue_claimed

end Examples

section Daemons

variable {executor : Executor} {lease : Nat → Time} {limit : Nat} {daemon : Daemon}
variable {runId : UUID} {time : Time} {worker : Nat}

/-- A loop does not move the clock. -/
theorem During.forward_of_worker {fleet : Fleet} {moves : List FleetMove}
    (hmoves : ∀ move ∈ moves, move.worker = some worker) :
    During executor lease Forward moves fleet := by
  induction moves generalizing fleet with
  | nil => trivial
  | cons move moves ih =>
      refine ⟨?_, ih fun other hother => hmoves other (List.mem_cons_of_mem _ hother)⟩
      intro now heq
      have hworker := hmoves move List.mem_cons_self
      rw [heq] at hworker
      cases hworker

theorem Daemon.queued_step (hstaffed : daemon.Staffed limit)
    (hreached : ∃ clock moves, daemon.fleet = fleetReached executor lease clock moves)
    (hlease : ∀ worker, 0 ≤ lease worker) (hoverdue : time < daemon.fleet.world.clock)
    {move : DaemonMove} (hforward : ∀ other, move = .others other → Forward daemon.fleet other) :
    time < (daemon.step executor lease limit move).fleet.world.clock ∧
      Store.queued time (daemon.step executor lease limit move).fleet.world.rows +
          overtakes time daemon.fleet.world.history ≤
        Store.queued time daemon.fleet.world.rows +
          overtakes time (daemon.step executor lease limit move).fleet.world.history := by
  obtain ⟨clock, moves, hfleet⟩ := hreached
  obtain ⟨others, hpool⟩ := fleetReached_pool executor lease clock moves
  rw [← hfleet] at hpool
  cases move with
  | go worker turn =>
      simp only [Daemon.step]
      split
      next hworker =>
        obtain ⟨own, hown, hlater⟩ := (@Daemon.Staffed.go executor lease limit daemon worker
          hstaffed hworker turn).fleet
        rw [hlater]
        exact Fleet.queued_run_le hpool hlease hoverdue (During.forward_of_worker hown)
      next => exact ⟨hoverdue, Nat.le_refl _⟩
  | requestStop => exact ⟨hoverdue, Nat.le_refl _⟩
  | others move =>
      simp only [Daemon.step]
      split
      · exact @Fleet.queued_run_le executor lease daemon.fleet time clock others hpool hlease
          hoverdue [move] ⟨hforward move rfl, trivial⟩
      · exact ⟨hoverdue, Nat.le_refl _⟩

theorem Daemon.queued_claim (hstaffed : daemon.Staffed limit) (hworker : worker < limit)
    (hwaits : Store.Waits runId time daemon.fleet.world.rows)
    (hoverdue : time < daemon.fleet.world.clock) (hlease : ∀ worker, 0 ≤ lease worker)
    (hclaiming : daemon.phase worker = .claiming) {turn : Turn} (hserved : turn.claimFault = none)
    (hfree : turn.locked runId = false) :
    Store.queued time (daemon.step executor lease limit (.go worker turn)).fleet.world.rows + 1 ≤
        Store.queued time daemon.fleet.world.rows ∧
      (daemon.step executor lease limit (.go worker turn)).fleet.world.history =
        daemon.fleet.world.history := by
  have hidle : daemon.fleet.flightOf worker = none := by
    have hnone := hstaffed.free hworker (by simp [hclaiming])
    simpa using hnone
  simp only [Daemon.step, if_pos hworker, Daemon.go, hclaiming, Daemon.claimed, hserved]
  exact Fleet.queued_claim hwaits hoverdue hlease hidle hfree

end Daemons

/-- A claim of the loop is answered, and might have taken the run. -/
def Daemon.Served (executor : Executor) (lease : Nat → Time) (limit : Nat) (daemon : Daemon)
    (schedule : Nat → DaemonMove) (worker : Nat) (runId : UUID) (now : Nat) : Prop :=
  (daemon.after executor lease limit schedule now).phase worker = .claiming ∧
    ∃ turn, schedule now = .go worker turn ∧ turn.claimFault = none ∧ turn.locked runId = false

/-- An overdue run does not wait for ever: where a loop of a running daemon is scheduled
again and again, its claims do not fail from some time on, and finitely many saves
overtake the run, something comes of it. -/
theorem overdue_run_taken (executor : Executor) (lease : Nat → Time) (limit : Nat)
    (daemon : Daemon) (schedule : Nat → DaemonMove) (worker : Nat) (runId : UUID) (time : Time)
    (since bound : Nat) (hlaunched : daemon.Launched executor lease limit)
    (hworker : worker < limit) (hlease : ∀ worker, 0 ≤ lease worker)
    (hfair : Infinitely (Daemon.Goes schedule worker))
    (hnever : ∀ now, schedule now ≠ .requestStop)
    (hoverdue : time < (daemon.after executor lease limit schedule since).fleet.world.clock)
    (hforward : ∀ now, since ≤ now → ∀ move, schedule now = .others move →
      Forward (daemon.after executor lease limit schedule now).fleet move)
    (hserved : Infinitely (daemon.Claims executor lease limit schedule worker) →
      Infinitely (daemon.Served executor lease limit schedule worker runId))
    (hovertakes : ∀ now, since ≤ now →
      overtakes time (daemon.after executor lease limit schedule now).fleet.world.history ≤ bound) :
    ∃ later, since ≤ later ∧ ¬ Store.Waits runId time
      (daemon.after executor lease limit schedule later).fleet.world.rows := by
  by_contra hever
  have hwaits : ∀ now, since ≤ now → Store.Waits runId time
      (daemon.after executor lease limit schedule now).fleet.world.rows := by
    intro now hle
    by_contra hgone
    exact hever ⟨now, hle, hgone⟩
  have hstaffed := hlaunched.staffed
  -- the runs ahead, with the saves that may still put one there
  let ahead : Nat → Nat := fun now =>
    Store.queued time (daemon.after executor lease limit schedule now).fleet.world.rows +
      (bound - overtakes time (daemon.after executor lease limit schedule now).fleet.world.history)
  have hstep : ∀ now, since ≤ now →
      time < (daemon.after executor lease limit schedule now).fleet.world.clock →
      time < (daemon.after executor lease limit schedule (now + 1)).fleet.world.clock ∧
        ahead (now + 1) ≤ ahead now := by
    intro now hle hclock
    obtain ⟨hlater, hqueued⟩ := Daemon.queued_step (hstaffed.after now)
      (hlaunched.fleet_after schedule now) hlease hclock fun other heq =>
        hforward now hle other heq
    refine ⟨hlater, ?_⟩
    have hnow := hovertakes now hle
    have hnext := hovertakes (now + 1) (by omega)
    simp only [ahead]
    rw [Daemon.after] at hnext ⊢
    omega
  have hend := @eventually_of_rank Nat (· < ·) Nat.lt_wfRel.wf
    (fun now rank => since ≤ now ∧
      time < (daemon.after executor lease limit schedule now).fleet.world.clock ∧
      ahead now ≤ rank)
    (fun _ => False) (daemon.Served executor lease limit schedule worker runId)
    (hserved (Daemon.claims_recur hstaffed hlaunched.stop hnever hworker hfair))
    (by
      intro now rank hholds _
      obtain ⟨hle, hclock, hahead⟩ := hholds
      obtain ⟨hlater, hless⟩ := hstep now hle hclock
      exact ⟨by omega, hlater, Nat.le_trans hless hahead⟩)
    (by
      intro now rank hholds hserved
      obtain ⟨hle, hclock, hahead⟩ := hholds
      obtain ⟨hclaiming, turn, hturn, hfault, hfree⟩ := hserved
      obtain ⟨hless, hhistory⟩ := Daemon.queued_claim (hstaffed.after now) hworker
        (hwaits now hle) hclock hlease hclaiming hfault hfree
      rw [← hturn] at hless hhistory
      have hfewer : ahead (now + 1) < ahead now := by
        simp only [ahead]
        rw [Daemon.after, hhistory]
        omega
      exact .inr ⟨ahead (now + 1), by omega, by omega, (hstep now hle hclock).1, Nat.le_refl _⟩)
    since (ahead since) ⟨Nat.le_refl since, hoverdue, Nat.le_refl _⟩
  obtain ⟨_, _, hfalse⟩ := hend
  exact hfalse

section Examples

/-- A loop whose saves fail overtakes nothing. -/
theorem Daemon.overtakes_go {executor : Executor} {lease : Nat → Time} {daemon : Daemon}
    {worker : Nat} {time : Time} {turn : Turn} {name message : String}
    (hfails : turn.choice.saveFault = some (.beforeCommit name message)) :
    overtakes time (daemon.go executor lease worker turn).fleet.world.history =
      overtakes time daemon.fleet.world.history := by
  have hclaim : ∀ fleet : Fleet,
      (fleet.step executor lease (.claim worker turn.locked)).world.history =
        fleet.world.history := by
    intro fleet
    simp only [Fleet.step, Fleet.claim]
    split
    · rfl
    · split <;> rfl
  have hserve : ∀ drive op (world : World),
      overtakes time (world.serve drive turn.choice op).2.history =
        overtakes time world.history := by
    intro drive op world
    cases op with
    | runsGet loaded =>
        simp only [World.serve, World.load]
        split
        · rfl
        · split
          · simp [World.record, overtakes_cons, Event.overtakes]
          · rfl
    | runsSave run => simp [World.serve, World.save, hfails]
    | provider issuer call => simp [World.serve, World.record, overtakes_cons, Event.overtakes]
    | log record => simp [World.serve, World.record, overtakes_cons, Event.overtakes]
    | utcnow => rfl
    | uniform => rfl
  have hadvance : overtakes time
      (daemon.fleet.step executor lease (.advance worker turn.choice)).world.history =
        overtakes time daemon.fleet.world.history := by
    simp only [Fleet.step, Fleet.advance]
    split
    · rfl
    · simp only [Fleet.world, Pool.step]
      split
      · exact hserve _ _ _
      · rfl
  unfold Daemon.go
  split
  · rfl
  · rfl
  · unfold Daemon.claimed
    split
    · rfl
    · exact congrArg (overtakes time) (hclaim daemon.fleet)
    · exact congrArg (overtakes time) (hclaim daemon.fleet)
  · unfold Daemon.driven
    simp only
    split <;> exact hadvance
  · rfl

/-- A second passes; then one loop goes on for ever, and no save of it succeeds. -/
def unsaved (now : Nat) : DaemonMove :=
  if now = 0 then .others (.tick (seconds 1))
  else .go 0
    { choice := { answer := willing, saveFault := some (.beforeCommit "TimeoutError" "") } }

theorem overdue_run_taken_unsaved :
    ∃ later, 1 ≤ later ∧ ¬ Store.Waits sampleId 0
      (sampleDaemon.after sampleExecutor sampleLease 2 unsaved later).fleet.world.rows := by
  have hgoes : ∀ now, 1 ≤ now → unsaved now = .go 0
      { choice := { answer := willing, saveFault := some (.beforeCommit "TimeoutError" "") } } := by
    intro now hle
    exact if_neg (by omega)
  apply overdue_run_taken sampleExecutor sampleLease 2 sampleDaemon unsaved 0 sampleId 0 1 0
    sampleDaemon_launched (by decide)
  · intro worker
    exact (by decide : (0 : Int) ≤ seconds 300)
  · exact fun since => ⟨since + 1, by omega, _, hgoes _ (by omega)⟩
  · intro now hasked
    unfold unsaved at hasked
    split at hasked <;> cases hasked
  · decide
  · intro now hle move hmove
    rw [hgoes now hle] at hmove
    cases hmove
  · intro hclaims since
    obtain ⟨now, hle, hclaiming, -⟩ := hclaims (since + 1)
    exact ⟨now, by omega, hclaiming, _, hgoes now (by omega), rfl, rfl⟩
  · intro now _
    have hnone : overtakes 0 (sampleDaemon.after sampleExecutor sampleLease 2 unsaved
        now).fleet.world.history = 0 := by
      induction now with
      | zero => rfl
      | succ now ih =>
          cases now with
          | zero => rfl
          | succ now =>
              have hstep := @Daemon.overtakes_go sampleExecutor sampleLease
                (sampleDaemon.after sampleExecutor sampleLease 2 unsaved (now + 1)) 0 0
                { choice :=
                    { answer := willing, saveFault := some (.beforeCommit "TimeoutError" "") } }
                "TimeoutError" "" rfl
              rw [Daemon.after, hgoes (now + 1) (by omega)]
              exact hstep.trans (ih (by omega))
    exact Nat.le_of_eq hnone

end Examples

end CloudioOrchestrator

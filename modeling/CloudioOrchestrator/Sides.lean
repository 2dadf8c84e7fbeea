import CloudioOrchestrator.Ledger
import CloudioOrchestrator.Narrative
import CloudioOrchestrator.Twins
import CloudioOrchestrator.Interaction.Coupling
import Mathlib.Data.Option.Basic

/-! # Two executions side by side

Two executions of the same drives whose choices differ in one aspect only. Their
rows are alike but for the aspect until an engine reports something; from there
on a run may stray, in either execution on its own, and has its ticket.
-/

namespace CloudioOrchestrator

open Interaction

/-! ## Rows -/

theorem WorkflowRun.alike_of_unscheduled {aspect : Aspect} {row twin : WorkflowRun} {params : Json}
    (hparams : aspect.Same row.runState.ticketParams params)
    (htwin : twin.unscheduled = { row with
      scheduledAt := none, runState := { row.runState with ticketParams := params } }) :
    row.Alike aspect twin := by
  have htwin' : twin = { row with
      scheduledAt := twin.scheduledAt
      runState := { row.runState with ticketParams := params } } := by
    cases twin
    simp only [WorkflowRun.unscheduled, WorkflowRun.mk.injEq] at htwin ⊢
    tauto
  rw [htwin']
  exact .intro _ _ hparams

theorem WorkflowRun.Alike.rescheduled {aspect : Aspect} {row twin later other : WorkflowRun}
    (halike : row.Alike aspect twin) (hrow : row.unscheduled = later.unscheduled)
    (htwin : twin.unscheduled = other.unscheduled) : later.Alike aspect other := by
  obtain ⟨scheduledAt, params, hparams⟩ := halike
  have hstate := WorkflowRun.runState_unscheduled hrow
  refine WorkflowRun.alike_of_unscheduled (hstate ▸ hparams) ?_
  rw [← htwin]
  cases row
  cases later
  simp only [WorkflowRun.unscheduled, WorkflowRun.mk.injEq] at hrow ⊢
  simp_all

theorem Ticketing.rescheduled {row later : WorkflowRun} (hrow : Ticketing row)
    (hlater : row.unscheduled = later.unscheduled) : Ticketing later := by
  obtain ⟨hid, htype, -, hstep, hversion, hstate⟩ := WorkflowRun.unscheduled_eq hlater
  exact hrow.spared ⟨hid.symm, htype.symm, hversion.symm, hstep.symm, by rw [hstate],
    by rw [hstate]; exact id⟩

/-- Two rows of a run: alike, unless the run has strayed, and then with its ticket. -/
structure RowBeside (aspect : Aspect) (strayed : Prop) (row twin : WorkflowRun) : Prop where
  ticketing : Ticketing row
  twinTicketing : Ticketing twin
  alike : ¬ strayed → row.Alike aspect twin
  ticketed : strayed → row.runState.ticket.isSome ∧ twin.runState.ticket.isSome

theorem RowBeside.rescheduled {aspect : Aspect} {strayed : Prop}
    {row twin later other : WorkflowRun}
    (hrow : RowBeside aspect strayed row twin) (hlater : row.unscheduled = later.unscheduled)
    (hother : twin.unscheduled = other.unscheduled) : RowBeside aspect strayed later other where
  ticketing := hrow.ticketing.rescheduled hlater
  twinTicketing := hrow.twinTicketing.rescheduled hother
  alike hstrayed := (hrow.alike hstrayed).rescheduled hlater hother
  ticketed hstrayed := by
    rw [← WorkflowRun.runState_unscheduled hlater, ← WorkflowRun.runState_unscheduled hother]
    exact hrow.ticketed hstrayed

/-- The calls of one kind, who made them and as what, newest first. -/
def callsOf (kind : Call → Bool) (history : History) : List (DriveId × Issuer × Call) :=
  history.filterMap fun
    | .called drive issuer call _ _ => if kind call then some (drive, issuer, call) else none
    | _ => none

def Call.opensIncident : Call → Bool
  | .openIncident _ => true
  | _ => false

/-- The calls that do not depend on the aspect. -/
def Aspect.kind : Aspect → Call → Bool
  | .ticketParams => Call.opensIncident
  | .engineReports => Call.opensTicket
  | .settled => fun _ => false

/-- Two executions side by side. -/
structure Sides (aspect : Aspect) (strayed : UUID → Prop) (first second : World) : Prop where
  clock : second.clock = first.clock
  rows : ∀ runId, Option.Rel (RowBeside aspect (strayed runId)) (Store.get first.rows runId)
    (Store.get second.rows runId)
  present : ∀ runId, strayed runId → (Store.get first.rows runId).isSome
  reports : ∀ runId, strayed runId → aspect = .engineReports
  calls : callsOf aspect.kind second.history = callsOf aspect.kind first.history

@[simp] theorem callsOf_created (kind : Call → Bool) (run : WorkflowRun) (history : History) :
    callsOf kind (.created run :: history) = callsOf kind history := rfl

@[simp] theorem callsOf_loaded (kind : Call → Bool) (drive : DriveId) (run : WorkflowRun)
    (history : History) : callsOf kind (.loaded drive run :: history) = callsOf kind history := rfl

@[simp] theorem callsOf_logged (kind : Call → Bool) (drive : DriveId) (record : LogRecord)
    (history : History) :
    callsOf kind (.logged drive record :: history) = callsOf kind history := rfl

@[simp] theorem callsOf_saved (kind : Call → Bool) (drive : DriveId) (row : WorkflowRun)
    (history : History) : callsOf kind (.saved drive row :: history) = callsOf kind history := rfl

@[simp] theorem callsOf_called (kind : Call → Bool) (drive : DriveId) (issuer : Issuer)
    (call : Call) (answer : call.Answer) (applied : Bool) (history : History) :
    callsOf kind (.called drive issuer call answer applied :: history) =
      if kind call then (drive, issuer, call) :: callsOf kind history
      else callsOf kind history := by
  by_cases hkind : kind call <;> simp [callsOf, hkind]

/-! ## What drives in flight depend on -/

/-- What was loaded is the row as it stands in both, but for the aspect, or has
been written over in both. -/
def Linked (aspect : Aspect) (strayed : UUID → Prop) (first second : World) (base : WorkflowRun) :
    Prop :=
  ∃ row twin, Store.get first.rows base.runId = some row ∧
    Store.get second.rows base.runId = some twin ∧
    (base.version < row.version ∧ base.version < twin.version ∨
      ¬ strayed base.runId ∧ base.unscheduled = row.unscheduled ∧
        (aspect = .engineReports → base.runState.engineRunId = none))

/-- What was loaded in one of the executions is the row as it stands there, or
has been written over. -/
def Loose (rows : Store.Rows) (base : WorkflowRun) : Prop :=
  ∃ row, Store.get rows base.runId = some row ∧
    (base.version < row.version ∨ base.unscheduled = row.unscheduled)

/-- The rows are still there, each as it was or written over. -/
def Advances (rows later : Store.Rows) : Prop :=
  ∀ runId row, Store.get rows runId = some row → ∃ after, Store.get later runId = some after ∧
    (row.unscheduled = after.unscheduled ∨ row.version < after.version)

/-- A step of both executions that drives in flight put up with: a run that has
not strayed is written over in both or in none, and strays only with an engine run. -/
structure Follows (aspect : Aspect) (strayed : UUID → Prop) (first second : World)
    (after : UUID → Prop) (later other : World) : Prop where
  advances : Advances first.rows later.rows
  otherAdvances : Advances second.rows other.rows
  strays : ∀ runId, strayed runId → after runId
  together : ∀ runId row, ¬ strayed runId → Store.get first.rows runId = some row →
    (∃ next, Store.get later.rows runId = some next ∧ row.unscheduled = next.unscheduled ∧
      (after runId → aspect = .engineReports ∧ row.runState.engineRunId.isSome)) ∨
    ∃ next twin, Store.get later.rows runId = some next ∧ Store.get other.rows runId = some twin ∧
      row.version < next.version ∧ row.version < twin.version

section Follows

variable {aspect : Aspect} {strayed after : UUID → Prop} {first second later other : World}
  {base : WorkflowRun}

theorem Advances.version_le {rows later : Store.Rows} {runId : UUID} {row next : WorkflowRun}
    (hadvances : Advances rows later) (hrow : Store.get rows runId = some row)
    (hnext : Store.get later runId = some next) : row.version ≤ next.version := by
  obtain ⟨after, hafter, hstep⟩ := hadvances runId row hrow
  obtain rfl := Option.some.inj (hnext.symm.trans hafter)
  cases hstep with
  | inl heq => exact Int.le_of_eq (WorkflowRun.version_unscheduled heq)
  | inr hlt => exact Int.le_of_lt hlt

theorem Linked.follows (hlinked : Linked aspect strayed first second base)
    (hfollows : Follows aspect strayed first second after later other) :
    Linked aspect after later other base := by
  obtain ⟨row, twin, hrow, htwin, hlink⟩ := hlinked
  obtain ⟨next, hnext, -⟩ := hfollows.advances base.runId row hrow
  obtain ⟨mate, hmate, -⟩ := hfollows.otherAdvances base.runId twin htwin
  refine ⟨next, mate, hnext, hmate, ?_⟩
  rcases hlink with ⟨hless, hfewer⟩ | ⟨hstrayed, hsame, hcalm⟩
  · -- what was written over stays so
    have hnewer := hfollows.advances.version_le hrow hnext
    have hnewer' := hfollows.otherAdvances.version_le htwin hmate
    exact .inl ⟨by omega, by omega⟩
  · rcases hfollows.together base.runId row hstrayed hrow with
      ⟨same, hsame', heq, hafter⟩ | ⟨same, partner, hsame', hpartner, hlt, hlt'⟩
    · obtain rfl := Option.some.inj (hnext.symm.trans hsame')
      right
      refine ⟨?_, hsame.trans heq, hcalm⟩
      intro hstray
      obtain ⟨haspect, hengine⟩ := hafter hstray
      rw [← WorkflowRun.runState_unscheduled hsame, hcalm haspect] at hengine
      cases hengine
    · obtain rfl := Option.some.inj (hnext.symm.trans hsame')
      obtain rfl := Option.some.inj (hmate.symm.trans hpartner)
      have hversion := WorkflowRun.version_unscheduled hsame
      left
      omega

theorem Loose.advances {rows later : Store.Rows} (hloose : Loose rows base)
    (hrows : Advances rows later) : Loose later base := by
  obtain ⟨row, hrow, hlink⟩ := hloose
  obtain ⟨next, hnext, hstep⟩ := hrows base.runId row hrow
  refine ⟨next, hnext, ?_⟩
  rcases hlink with hlt | heq
  · have hnewer := hrows.version_le hrow hnext
    exact .inl (by omega)
  · rcases hstep with hsame | hlt
    · exact .inr (heq.trans hsame)
    · left
      rwa [WorkflowRun.version_unscheduled heq]

/-- Rows that are what they were but for the schedule. -/
def Unwritten (rows later : Store.Rows) : Prop :=
  ∀ runId, (Store.get later runId).map WorkflowRun.unscheduled =
    (Store.get rows runId).map WorkflowRun.unscheduled

theorem Unwritten.refl (rows : Store.Rows) : Unwritten rows rows :=
  fun _ => rfl

theorem Unwritten.get {rows later : Store.Rows} (hrows : Unwritten rows later) {runId : UUID}
    {row : WorkflowRun} (hrow : Store.get rows runId = some row) :
    ∃ next, Store.get later runId = some next ∧ row.unscheduled = next.unscheduled := by
  have hsame := hrows runId
  rw [hrow, Option.map_some] at hsame
  obtain ⟨next, hnext, heq⟩ := Option.map_eq_some_iff.mp hsame
  exact ⟨next, hnext, heq.symm⟩

theorem Unwritten.advances {rows later : Store.Rows} (hrows : Unwritten rows later) :
    Advances rows later := by
  intro runId row hrow
  obtain ⟨next, hnext, hsame⟩ := hrows.get hrow
  exact ⟨next, hnext, .inl hsame⟩

theorem Follows.of_unwritten (hrows : Unwritten first.rows later.rows)
    (hothers : Unwritten second.rows other.rows) :
    Follows aspect strayed first second strayed later other where
  advances := hrows.advances
  otherAdvances := hothers.advances
  strays _ := id
  together runId row hstrayed hrow := by
    obtain ⟨next, hnext, hsame⟩ := hrows.get hrow
    exact .inl ⟨next, hnext, hsame, fun hafter => absurd hafter hstrayed⟩

theorem Sides.row (hsides : Sides aspect strayed first second) {runId : UUID} {row : WorkflowRun}
    (hrow : Store.get first.rows runId = some row) :
    ∃ twin, Store.get second.rows runId = some twin ∧
        RowBeside aspect (strayed runId) row twin := by
  have hbeside := hsides.rows runId
  rw [hrow] at hbeside
  generalize Store.get second.rows runId = found at hbeside ⊢
  cases hbeside with
  | some hbeside => exact ⟨_, rfl, hbeside⟩

theorem Sides.absent (hsides : Sides aspect strayed first second) {runId : UUID}
    (hrow : Store.get first.rows runId = none) : Store.get second.rows runId = none := by
  have hbeside := hsides.rows runId
  rw [hrow] at hbeside
  generalize Store.get second.rows runId = found at hbeside ⊢
  cases hbeside with
  | none => rfl

/-- A step that writes no row of either. -/
theorem Sides.unwritten (hsides : Sides aspect strayed first second)
    (hrows : Unwritten first.rows later.rows) (hothers : Unwritten second.rows other.rows)
    (hclock : other.clock = later.clock)
    (hcalls : callsOf aspect.kind other.history = callsOf aspect.kind later.history) :
    Sides aspect strayed later other where
  clock := hclock
  rows runId := by
    cases hrow : Store.get first.rows runId with
    | none =>
        have hnone := hrows runId
        have hnone' := hothers runId
        rw [hrow, Option.map_none, Option.map_eq_none_iff] at hnone
        rw [hsides.absent hrow, Option.map_none, Option.map_eq_none_iff] at hnone'
        rw [hnone, hnone']
        exact .none
    | some row =>
        obtain ⟨twin, htwin, hbeside⟩ := hsides.row hrow
        obtain ⟨next, hnext, hsame⟩ := hrows.get hrow
        obtain ⟨mate, hmate, hsame'⟩ := hothers.get htwin
        rw [hnext, hmate]
        exact .some (hbeside.rescheduled hsame hsame')
  present runId hstrayed := by
    obtain ⟨row, hrow⟩ := Option.isSome_iff_exists.mp (hsides.present runId hstrayed)
    obtain ⟨next, hnext, -⟩ := hrows.get hrow
    rw [hnext, Option.isSome_some]
  reports := hsides.reports
  calls := hcalls

end Follows

/-! ## What happens on both sides -/

section Steps

variable {aspect : Aspect} {strayed : UUID → Prop} {first second : World}

/-- What a run's row has to do with its ticket depends on little of it. -/
theorem Ticketing.carried {run row : WorkflowRun} (hrun : Ticketing run)
    (htype : row.runType = run.runType) (hstep : row.currentStep = run.currentStep)
    (hstate : row.runState = run.runState) : Ticketing row where
  automation hautomation := hstate ▸ hrun.automation (htype ▸ hautomation)
  engine hengine := by
    rw [hstate] at hengine ⊢
    exact hrun.engine hengine
  start step hstart := by
    rw [Ready, hstate]
    apply hrun.start step
    rwa [Executor.startStep, hstep, htype] at hstart

theorem WorkflowRun.Alike.ticketing {run twin : WorkflowRun} (halike : run.Alike aspect twin)
    (hrun : Ticketing run) : Ticketing twin := by
  obtain ⟨scheduledAt, params, -⟩ := halike
  exact ⟨hrun.automation, hrun.engine, hrun.start⟩

theorem Newborn.ticketing {run : WorkflowRun} (hrun : Newborn run) : Ticketing run where
  automation := hrun.ticket.mpr
  engine hengine := by
    rw [hrun.markers.1] at hengine
    cases hengine
  start step hstep := by
    rw [startStep_newborn hrun] at hstep
    obtain rfl := Except.ok.inj hstep
    cases htype : run.runType with
    | automation => exact .inr (.inr (hrun.ticket.mpr htype))
    | resource => exact .inl rfl
    | legacy => exact .inr (.inl rfl)

/-- Rows alike are created on both sides, or on neither. -/
theorem Sides.insert (hsides : Sides aspect strayed first second) {run twin : WorkflowRun}
    (halike : run.Alike aspect twin) (hrun : Ticketing run) :
    Sides aspect strayed (first.insert run) (second.insert twin) ∧
      Follows aspect strayed first second strayed (first.insert run) (second.insert twin) := by
  have hid : twin.runId = run.runId := by
    cases halike
    rfl
  cases hrow : Store.get first.rows run.runId with
  | some row =>
      obtain ⟨mate, hmate, -⟩ := hsides.row hrow
      -- the id is taken in both, and neither inserts
      have hkept : first.insert run = first := by simp [World.insert, hrow]
      have hkept' : second.insert twin = second := by simp [World.insert, hid, hmate]
      rw [hkept, hkept']
      exact ⟨hsides, .of_unwritten (.refl _) (.refl _)⟩
  | none =>
      have hfresh := hsides.absent hrow
      have hinsert : first.insert run = { first with
          rows := Store.create first.rows run, history := .created run :: first.history } := by
        simp [World.insert, hrow]
      have hinsert' : second.insert twin = { second with
          rows := Store.create second.rows twin, history := .created twin :: second.history } := by
        simp [World.insert, hid, hfresh]
      have hget := fun runId => Store.get_create runId hrow
      have hget' : ∀ runId, Store.get (Store.create second.rows twin) runId =
          if twin.runId = runId then some twin else Store.get second.rows runId :=
        fun runId => Store.get_create runId (hid ▸ hfresh)
      have hother : ∀ {rows : Store.Rows} {runId row}, Store.get rows run.runId = none →
          Store.get rows runId = some row → run.runId ≠ runId := by
        intro rows runId row hnone hsome heq
        rw [heq, hsome] at hnone
        cases hnone
      have hadvances : Advances first.rows (Store.create first.rows run) := by
        intro runId row hfound
        refine ⟨row, ?_, .inl rfl⟩
        rw [hget, if_neg (hother hrow hfound), hfound]
      have hadvances' : Advances second.rows (Store.create second.rows twin) := by
        intro runId row hfound
        refine ⟨row, ?_, .inl rfl⟩
        rw [hget', hid, if_neg (hother hfresh hfound), hfound]
      rw [hinsert, hinsert']
      refine ⟨⟨hsides.clock, ?_, ?_, hsides.reports, hsides.calls⟩, hadvances, hadvances',
        fun _ => id, ?_⟩
      · intro runId
        dsimp only
        rw [hget, hget', hid]
        split
        next heq =>
          refine .some ⟨hrun, halike.ticketing hrun, fun _ => halike, ?_⟩
          intro hstray
          -- a run that strayed is in the store, and this one is new
          have hpresent := hsides.present runId hstray
          rw [← heq, hrow] at hpresent
          cases hpresent
        next => exact hsides.rows runId
      · intro runId hstray
        obtain ⟨row, hfound⟩ := Option.isSome_iff_exists.mp (hsides.present runId hstray)
        obtain ⟨next, hnext, -⟩ := hadvances runId row hfound
        rw [hnext, Option.isSome_some]
      · intro runId row hstrayed hfound
        left
        refine ⟨row, ?_, rfl, fun hafter => absurd hafter hstrayed⟩
        dsimp only
        rw [hget, if_neg (hother hrow hfound), hfound]

theorem Advances.put {rows : Store.Rows} {db row : WorkflowRun}
    (hdb : Store.get rows row.runId = some db) (hlt : db.version < row.version) :
    Advances rows (Store.put rows row) := by
  intro runId found hfound
  rw [Store.get_put runId (by simp [hdb])]
  split
  next heq =>
    rw [← heq, hdb] at hfound
    obtain rfl := Option.some.inj hfound
    exact ⟨row, rfl, .inr hlt⟩
  next => exact ⟨found, hfound, .inl rfl⟩

/-- Rows alike are written over on both sides. -/
theorem Sides.commit (hsides : Sides aspect strayed first second) (drive : DriveId)
    {db mate row twin : WorkflowRun} (halike : row.Alike aspect twin)
    (hstrayed : ¬ strayed row.runId) (hdb : Store.get first.rows row.runId = some db)
    (hmate : Store.get second.rows row.runId = some mate) (hrow : Ticketing row)
    (hlt : db.version < row.version) (hlt' : mate.version < twin.version) :
    Sides aspect strayed (first.commit drive row) (second.commit drive twin) ∧
      Follows aspect strayed first second strayed (first.commit drive row)
        (second.commit drive twin) := by
  have hid : twin.runId = row.runId := by
    cases halike
    rfl
  have hget := fun runId => Store.get_put runId
    (show Store.get first.rows row.runId ≠ none by simp [hdb])
  have hget' := fun runId => Store.get_put runId
    (show Store.get second.rows twin.runId ≠ none by simp [hid, hmate])
  have hadvances := Advances.put hdb hlt
  refine ⟨⟨hsides.clock, ?_, ?_, hsides.reports, hsides.calls⟩, hadvances,
    .put (hid ▸ hmate) hlt', fun _ => id, ?_⟩
  · intro runId
    simp only [World.commit]
    rw [hget, hget', hid]
    split
    next heq =>
      exact .some ⟨hrow, halike.ticketing hrow, fun _ => halike, fun hstray =>
        absurd (heq ▸ hstray) hstrayed⟩
    next => exact hsides.rows runId
  · intro runId hstray
    obtain ⟨row, hfound⟩ := Option.isSome_iff_exists.mp (hsides.present runId hstray)
    obtain ⟨next, hnext, -⟩ := hadvances runId row hfound
    rw [World.commit, hnext, Option.isSome_some]
  · intro runId found hcalm hfound
    simp only [World.commit]
    rw [hget, hget', hid]
    by_cases heq : row.runId = runId
    -- the run itself is written over in both
    · rw [if_pos heq, if_pos heq]
      rw [← heq, hdb] at hfound
      obtain rfl := Option.some.inj hfound
      obtain ⟨same, hsame, hbeside⟩ := hsides.row hdb
      obtain rfl := Option.some.inj (hmate.symm.trans hsame)
      have hversion : mate.version = db.version := by
        cases hbeside.alike hstrayed
        rfl
      exact .inr ⟨row, twin, rfl, rfl, hlt, hversion ▸ hlt'⟩
    · rw [if_neg heq]
      exact .inl ⟨found, hfound, rfl, fun hstray => absurd hstray hcalm⟩

/-- What one of the executions does to a run that has strayed. -/
structure Apart (runId : UUID) (world later : World) : Prop where
  clock : later.clock = world.clock
  calls : callsOf Call.opensTicket later.history = callsOf Call.opensTicket world.history
  others : ∀ other, other ≠ runId → Store.get later.rows other = Store.get world.rows other
  row : ∃ row, Store.get later.rows runId = some row ∧ Ticketing row ∧ row.runState.ticket.isSome
  advances : Advances world.rows later.rows

/-- A run that has strayed may do so on either side on its own. -/
theorem Sides.apart (hsides : Sides aspect strayed first second) {runId : UUID}
    (hstrayed : strayed runId) {later other : World} (hfirst : Apart runId first later)
    (hsecond : Apart runId second other) :
    Sides aspect strayed later other ∧ Follows aspect strayed first second strayed later other := by
  obtain rfl := hsides.reports runId hstrayed
  refine ⟨⟨?_, ?_, ?_, fun _ _ => rfl, ?_⟩, hfirst.advances, hsecond.advances, fun _ => id, ?_⟩
  · rw [hfirst.clock, hsecond.clock, hsides.clock]
  · intro found
    by_cases heq : found = runId
    · obtain ⟨row, hrow, hticketing, hticket⟩ := hfirst.row
      obtain ⟨twin, htwin, hticketing', hticket'⟩ := hsecond.row
      rw [heq, hrow, htwin]
      exact .some ⟨hticketing, hticketing', absurd hstrayed, fun _ => ⟨hticket, hticket'⟩⟩
    · rw [hfirst.others found heq, hsecond.others found heq]
      exact hsides.rows found
  · intro found hstray
    obtain ⟨row, hrow⟩ := Option.isSome_iff_exists.mp (hsides.present found hstray)
    obtain ⟨next, hnext, -⟩ := hfirst.advances found row hrow
    rw [hnext, Option.isSome_some]
  · exact hsecond.calls.trans (hsides.calls.trans hfirst.calls.symm)
  · intro found row hcalm hrow
    have heq : found ≠ runId := fun heq => hcalm (heq ▸ hstrayed)
    exact .inl ⟨row, (hfirst.others found heq).trans hrow, rfl, fun hstray => absurd hstray hcalm⟩

/-- Once an engine has a run, the run may stray. -/
theorem Sides.stray (hsides : Sides .engineReports strayed first second) {runId : UUID}
    {row : WorkflowRun} (hrow : Store.get first.rows runId = some row)
    (hengine : row.runState.engineRunId.isSome) :
    Sides .engineReports (fun other => strayed other ∨ other = runId) first second ∧
      Follows .engineReports strayed first second (fun other => strayed other ∨ other = runId) first
        second := by
  obtain ⟨twin, htwin, hbeside⟩ := hsides.row hrow
  refine ⟨⟨hsides.clock, ?_, ?_, fun _ _ => rfl, hsides.calls⟩, (Unwritten.refl _).advances,
    (Unwritten.refl _).advances, fun _ => .inl, ?_⟩
  · intro found
    by_cases heq : found = runId
    · rw [heq, hrow, htwin]
      refine .some
        ⟨hbeside.ticketing, hbeside.twinTicketing, fun hcalm => absurd (.inr rfl) hcalm, ?_⟩
      intro _
      by_cases hstray : strayed runId
      · exact hbeside.ticketed hstray
      -- until now the two were alike, so the other has the engine run as well
      · refine ⟨hbeside.ticketing.engine hengine, hbeside.twinTicketing.engine ?_⟩
        cases hbeside.alike hstray
        exact hengine
    · simp only [heq, or_false]
      exact hsides.rows found
  · intro found hstray
    rcases hstray with hstray | rfl
    · exact hsides.present found hstray
    · rw [hrow, Option.isSome_some]
  · intro found row' hcalm hfound
    left
    refine ⟨row', hfound, rfl, ?_⟩
    rintro (hstray | rfl)
    · exact absurd hstray hcalm
    · rw [hrow] at hfound
      obtain rfl := Option.some.inj hfound
      exact ⟨rfl, hengine⟩

end Steps

end CloudioOrchestrator

import CloudioOrchestrator.Interleaving

/-! # The ledger of a run

What the store keeps whatever drives, claims and wakes interleave: each row is
the last write of its run but for the schedule, accepted saves form a chain,
a row is scheduled exactly while it is not terminal, and a terminal row stays
as it is.
-/

namespace CloudioOrchestrator

open Interaction

/-- A run but for its schedule, which claims and wakes write without a version. -/
def WorkflowRun.unscheduled (run : WorkflowRun) : WorkflowRun :=
  { run with scheduledAt := none }

theorem WorkflowRun.unscheduled_eq {first second : WorkflowRun}
    (heq : first.unscheduled = second.unscheduled) :
    first.runId = second.runId ∧ first.runType = second.runType ∧
      first.status = second.status ∧ first.currentStep = second.currentStep ∧
      first.version = second.version ∧ first.runState = second.runState := by
  simp only [unscheduled, WorkflowRun.mk.injEq] at heq
  tauto

section Unscheduled

variable {first second : WorkflowRun}

theorem WorkflowRun.status_unscheduled (heq : first.unscheduled = second.unscheduled) :
    first.status = second.status := by
  obtain ⟨-, -, hstatus, -⟩ := unscheduled_eq heq
  exact hstatus

theorem WorkflowRun.version_unscheduled (heq : first.unscheduled = second.unscheduled) :
    first.version = second.version := by
  obtain ⟨-, -, -, -, hversion, -⟩ := unscheduled_eq heq
  exact hversion

theorem WorkflowRun.runState_unscheduled (heq : first.unscheduled = second.unscheduled) :
    first.runState = second.runState := by
  obtain ⟨-, -, -, -, -, hstate⟩ := unscheduled_eq heq
  exact hstate

end Unscheduled

/-- What a run was last written as: by its creation or by an accepted save. -/
def lastWrite (runId : UUID) : History → Option WorkflowRun
  | [] => none
  | .created run :: older => if run.runId = runId then some run else lastWrite runId older
  | .saved _ row :: older => if row.runId = runId then some row else lastWrite runId older
  | _ :: older => lastWrite runId older

/-- A last write is the event that made it, or one from before. -/
theorem lastWrite_cases {event : Event} {older : History} {runId : UUID} {row : WorkflowRun}
    (hlast : lastWrite runId (event :: older) = some row) :
    (event = .created row ∨ ∃ drive, event = .saved drive row) ∧ row.runId = runId ∨
      lastWrite runId older = some row := by
  cases event with
  | created run =>
      by_cases hid : run.runId = runId
      · obtain rfl : run = row := by simpa [lastWrite, hid] using hlast
        exact .inl ⟨.inl rfl, hid⟩
      · exact .inr (by simpa [lastWrite, hid] using hlast)
  | saved drive saved =>
      by_cases hid : saved.runId = runId
      · obtain rfl : saved = row := by simpa [lastWrite, hid] using hlast
        exact .inl ⟨.inr ⟨drive, rfl⟩, hid⟩
      · exact .inr (by simpa [lastWrite, hid] using hlast)
  | loaded | called | logged => exact .inr hlast

theorem lastWrite_runId {history : History} {runId : UUID} {row : WorkflowRun}
    (hlast : lastWrite runId history = some row) : row.runId = runId := by
  induction history with
  | nil => cases hlast
  | cons event older ih =>
      rcases lastWrite_cases hlast with ⟨-, hid⟩ | hold
      · exact hid
      · exact ih hold

/-- A save is accepted on top of the write its drive loaded, which was not
terminal; a run is created only where there was none. -/
def Links (event : Event) (older : History) : Prop :=
  match event with
  | .saved drive row => ∃ base previous, .loaded drive base ∈ older ∧
      lastWrite drive.subject older = some previous ∧
      base.unscheduled = previous.unscheduled ∧ row.runId = drive.subject ∧
      row.version = previous.version + 1 ∧ previous.status.terminal = false
  | .created run => lastWrite run.runId older = none
  | _ => True

def Chained : History → Prop
  | [] => True
  | event :: older => Links event older ∧ Chained older

theorem Chained.links {newer older : History} {event : Event}
    (hchained : Chained (newer ++ event :: older)) : Links event older := by
  induction newer with
  | nil => exact hchained.1
  | cons _ _ ih => exact ih hchained.2

theorem Chained.suffix {newer older : History} (hchained : Chained (newer ++ older)) :
    Chained older := by
  induction newer with
  | nil => exact hchained
  | cons _ _ ih => exact ih hchained.2

/-- What a run was last written as stays so, unless a drive that loaded just that saves it. -/
theorem Links.lastWrite_cases {event : Event} {older : History} (hlinks : Links event older)
    {runId : UUID} {row : WorkflowRun} (hlast : lastWrite runId older = some row) :
    lastWrite runId (event :: older) = some row ∨
      ∃ drive base later, event = .saved drive later ∧
        lastWrite runId (event :: older) = some later ∧ .loaded drive base ∈ older ∧
        base.unscheduled = row.unscheduled ∧ later.version = row.version + 1 ∧
        row.status.terminal = false := by
  cases event with
  | created run =>
      left
      have hother : run.runId ≠ runId := by
        -- a run that was written before is not created again
        rintro rfl
        have hnone : lastWrite run.runId older = none := hlinks
        rw [hlast] at hnone
        cases hnone
      simpa [lastWrite, hother] using hlast
  | saved drive later =>
      obtain ⟨base, previous, hbase, hprevious, hsame, hid, hversion, hopen⟩ := hlinks
      by_cases hrow : later.runId = runId
      · right
        rw [← hid, hrow, hlast] at hprevious
        obtain rfl := Option.some.inj hprevious
        exact ⟨drive, base, later, rfl, by simp [lastWrite, hrow], hbase, hsame, hversion, hopen⟩
      · left
        simpa [lastWrite, hrow] using hlast
  | loaded | called | logged => exact .inl hlast

/-- What a run was written as when it became terminal is its last write. -/
theorem Chained.terminal_last {history : History} (hchained : Chained history) {drive : DriveId}
    {row : WorkflowRun} (hsaved : .saved drive row ∈ history)
    (hterminal : row.status.terminal = true) : lastWrite row.runId history = some row := by
  induction history with
  | nil => cases hsaved
  | cons event older ih =>
      obtain ⟨hlinks, hchained⟩ := hchained
      rcases List.mem_cons.mp hsaved with heq | hold
      · subst heq
        simp [lastWrite]
      · rcases hlinks.lastWrite_cases (ih hchained hold) with
          hlast | ⟨_, _, _, _, _, _, _, _, hopen⟩
        · exact hlast
        · rw [hterminal] at hopen
          cases hopen

/-- A run becomes terminal once. -/
theorem Chained.terminal_unique {history : History} (hchained : Chained history)
    {first second : DriveId} {row other : WorkflowRun} (hrow : .saved first row ∈ history)
    (hother : .saved second other ∈ history) (hid : row.runId = other.runId)
    (hterminal : row.status.terminal = true) (hterminal' : other.status.terminal = true) :
    row = other := by
  have hlast := hchained.terminal_last hrow hterminal
  rw [hid, hchained.terminal_last hother hterminal'] at hlast
  exact (Option.some.inj hlast).symm

/-- A row is scheduled exactly while its run is not terminal. -/
def WellScheduled (run : WorkflowRun) : Prop :=
  run.scheduledAt = none ↔ run.status.terminal = true

/-- Setting schedules changes nothing else. -/
theorem unscheduled_reschedule (select : WorkflowRun → Bool) (time : Time) (rows : Store.Rows)
    (runId : UUID) :
    (Store.get (Store.reschedule select time rows) runId).map WorkflowRun.unscheduled =
      (Store.get rows runId).map WorkflowRun.unscheduled := by
  rw [Store.get_reschedule, Option.map_map]
  refine congrArg (Option.map · _) (funext fun row => ?_)
  simp only [Function.comp]
  split <;> rfl

structure LedgerInv (world : World) : Prop where
  agrees : ∀ runId, (Store.get world.rows runId).map WorkflowRun.unscheduled =
    (lastWrite runId world.history).map WorkflowRun.unscheduled
  scheduled : ∀ runId row, Store.get world.rows runId = some row → WellScheduled row
  loaded : ∀ drive base, .loaded drive base ∈ world.history → base.runId = drive.subject ∧
    ∃ row, Store.get world.rows drive.subject = some row ∧ base.version ≤ row.version ∧
      (base.version = row.version → base.unscheduled = row.unscheduled)
  loadedOnce : ∀ drive first second, .loaded drive first ∈ world.history →
    .loaded drive second ∈ world.history → first = second
  chained : Chained world.history

/-- Terminal rows stay as they are. -/
def frozen : Frame where
  keeps world final := ∀ runId row, Store.get world.rows runId = some row →
    row.status.terminal = true → Store.get final.rows runId = some row
  refl _ _ _ hrow _ := hrow
  trans hfirst hsecond runId row hrow hterminal :=
    hsecond runId row (hfirst runId row hrow hterminal) hterminal

namespace LedgerInv

variable {world : World}

theorem initial (clock : Time) : LedgerInv { clock := clock } where
  agrees _ := rfl
  scheduled _ _ hrow := by cases hrow
  loaded _ _ hloaded := by cases hloaded
  loadedOnce _ _ _ hloaded := by cases hloaded
  chained := trivial

/-- Recording a call or a log record touches nothing the ledger speaks of. -/
theorem record (hinv : LedgerInv world) {event : Event}
    (hcalled : ∀ drive run, event ≠ .loaded drive run)
    (hsaved : ∀ drive row, event ≠ .saved drive row)
    (hcreated : ∀ run, event ≠ .created run) : LedgerInv (world.record event) := by
  have hlast : ∀ runId,
      lastWrite runId (event :: world.history) = lastWrite runId world.history := by
    intro runId
    cases event <;> simp_all [lastWrite]
  have hmem : ∀ drive base, Event.loaded drive base ∈ event :: world.history →
      .loaded drive base ∈ world.history := by
    intro drive base hloaded
    rcases List.mem_cons.mp hloaded with heq | hloaded
    · exact absurd heq.symm (hcalled drive base)
    · exact hloaded
  refine ⟨fun runId => ?_, hinv.scheduled, fun drive base hloaded =>
    hinv.loaded drive base (hmem drive base hloaded), fun drive first second hfirst hsecond =>
    hinv.loadedOnce drive first second (hmem _ _ hfirst) (hmem _ _ hsecond), ?_, hinv.chained⟩
  · rw [World.record, hlast]
    exact hinv.agrees runId
  · cases event <;> simp_all [Links]

theorem Newborn.wellScheduled {run : WorkflowRun} (hrun : Newborn run) : WellScheduled run := by
  simp [WellScheduled, hrun.status, RunStatus.terminal, Option.isSome_iff_ne_none.mp hrun.scheduled]

/-- Creating a run starts its ledger. -/
theorem insert (hinv : LedgerInv world) {run : WorkflowRun} (hrun : WellScheduled run) :
    LedgerInv (world.insert run) := by
  simp only [World.insert]
  split
  next => exact hinv
  next htaken =>
    have hfresh : Store.get world.rows run.runId = none := by simpa using htaken
    have hget := fun runId => Store.get_create runId hfresh
    have hmem : ∀ {drive : DriveId} {base : WorkflowRun},
        Event.loaded drive base ∈ .created run :: world.history →
        .loaded drive base ∈ world.history := by simp
    refine ⟨fun runId => ?_, fun runId row hrow => ?_, fun drive base hloaded => ?_,
      fun drive first second hfirst hsecond =>
        hinv.loadedOnce drive first second (hmem hfirst) (hmem hsecond), ?_, hinv.chained⟩
    · simp only [hget, lastWrite]
      split
      · rfl
      · exact hinv.agrees runId
    · rw [hget] at hrow
      split at hrow
      · exact Option.some.inj hrow ▸ hrun
      · exact hinv.scheduled runId row hrow
    · obtain ⟨hid, row, hrow, hversion⟩ := hinv.loaded drive base (hmem hloaded)
      refine ⟨hid, row, ?_, hversion⟩
      rw [hget, if_neg, hrow]
      intro heq
      rw [heq] at hfresh
      simp [hfresh] at hrow
    · have hagrees := hinv.agrees run.runId
      rw [hfresh] at hagrees
      simpa [Links] using hagrees.symm

/-- Claiming and waking write only the schedule of rows that are not terminal. -/
theorem reschedule (hinv : LedgerInv world) {select : WorkflowRun → Bool} {time : Time}
    (hselect : ∀ runId row, Store.get world.rows runId = some row → select row = true →
      row.status.terminal = false) :
    LedgerInv { world with rows := Store.reschedule select time world.rows } ∧
      frozen.keeps world { world with rows := Store.reschedule select time world.rows } := by
  have hget := Store.get_reschedule select time world.rows
  have hsame : ∀ row : WorkflowRun,
      (if select row then { row with scheduledAt := some time } else row).unscheduled =
        row.unscheduled := by
    intro row
    split <;> rfl
  refine ⟨⟨fun runId => ?_, fun runId row hrow => ?_, fun drive base hloaded => ?_,
    hinv.loadedOnce, hinv.chained⟩, fun runId row hrow hterminal => ?_⟩
  · rw [← hinv.agrees runId]
    exact unscheduled_reschedule ..
  · rw [hget] at hrow
    obtain ⟨old, hold, rfl⟩ := Option.map_eq_some_iff.mp hrow
    split
    next hselected =>
      simp [WellScheduled, hselect runId old hold hselected]
    next => exact hinv.scheduled runId old hold
  · obtain ⟨hid, row, hrow, hle, hversion⟩ := hinv.loaded drive base hloaded
    have hrescheduled :
      (if select row then { row with scheduledAt := some time } else row).version =
        row.version := by split <;> rfl
    refine ⟨hid, _, by rw [hget, hrow]; rfl, by rwa [hrescheduled], ?_⟩
    rw [hsame, hrescheduled]
    exact hversion
  · rw [hget, hrow]
    have : select row = false := by
      cases hselected : select row with
      | false => rfl
      | true => simp [hselect runId row hrow hselected] at hterminal
    simp [this]

theorem outside (hinv : LedgerInv world) (event : Outside) :
    LedgerInv (world.outside event) ∧ frozen.keeps world (world.outside event) := by
  have hinsert : ∀ run, Newborn run →
      LedgerInv (world.insert run) ∧ frozen.keeps world (world.insert run) := by
    intro run hrun
    refine ⟨hinv.insert (Newborn.wellScheduled hrun), fun runId row hrow hterminal => ?_⟩
    simp only [World.insert]
    split
    next => exact hrow
    next htaken =>
      have hfresh : Store.get world.rows run.runId = none := by simpa using htaken
      rw [Store.get_create runId hfresh, if_neg, hrow]
      intro heq
      rw [heq] at hfresh
      simp [hfresh] at hrow
  cases event with
  | trigger runId workflow request =>
      simp only [World.outside]
      split
      next run htrigger => exact hinsert run (trigger_newborn htrigger).2
      next => exact ⟨hinv, frozen.refl world⟩
  | triggerLegacy runId request => exact hinsert _ (triggerLegacy_newborn _ _ _).2
  | claimDue limit lease locked =>
      refine hinv.reschedule fun runId row hrow hselected => ?_
      rw [Bool.and_eq_true] at hselected
      -- what is due is scheduled, and what is scheduled is not terminal
      have hdue := Store.scheduled_of_isDue hselected.1
      simpa using mt (hinv.scheduled runId row hrow).mpr hdue
  | wake runId =>
      refine hinv.reschedule fun runId row hrow hselected => ?_
      simp only [Store.wakes, decide_eq_true_eq] at hselected
      rcases hselected.2 with hstatus | hstatus <;> simp [hstatus, RunStatus.terminal]
  | tick now =>
      exact ⟨⟨hinv.agrees, hinv.scheduled, hinv.loaded, hinv.loadedOnce, hinv.chained⟩,
        fun _ _ hrow _ => hrow⟩

/-- Loading a run notes the row as it stands. -/
theorem load (hinv : LedgerInv world) {drive : DriveId} {row : WorkflowRun}
    (hrow : Store.get world.rows drive.subject = some row)
    (hfirst : ∀ base, .loaded drive base ∉ world.history) :
    LedgerInv (world.record (.loaded drive row)) := by
  refine ⟨hinv.agrees, hinv.scheduled, fun other base hloaded => ?_,
    fun other first second hfirst' hsecond => ?_, trivial, hinv.chained⟩
  · rcases List.mem_cons.mp hloaded with heq | hloaded
    · cases heq
      exact ⟨Store.runId_of_get hrow, row, hrow, Int.le_refl _, fun _ => rfl⟩
    · exact hinv.loaded other base hloaded
  · rcases List.mem_cons.mp hfirst' with heq | hold <;>
      rcases List.mem_cons.mp hsecond with heq' | hold'
    · cases heq
      cases heq'
      rfl
    · cases heq
      exact absurd hold' (hfirst second)
    · cases heq'
      exact absurd hold (hfirst first)
    · exact hinv.loadedOnce other first second hold hold'

/-- The row an accepted save writes, over the row as its drive loaded it. -/
theorem commit (hinv : LedgerInv world) {drive : DriveId} {base run row : WorkflowRun}
    (hbase : .loaded drive base ∈ world.history) (hversion : base.version = run.version)
    (hid : run.runId = drive.subject) (hopen : base.status.terminal = false)
    (hrun : WellScheduled run) (hsave : Store.save world.rows run = .ok row) :
    LedgerInv (world.commit drive row) ∧ frozen.keeps world (world.commit drive row) := by
  obtain ⟨db, hdb, hdbVersion, hrow⟩ := Store.save_eq_ok hsave
  obtain ⟨-, db', hdb', -, hsame⟩ := hinv.loaded drive base hbase
  rw [hid] at hdb
  -- the versions agree, so that nobody has saved since the drive loaded
  obtain rfl : db = db' := Option.some.inj (hdb.symm.trans hdb')
  have hbaseDb : base.unscheduled = db.unscheduled := hsame (hversion.trans hdbVersion.symm)
  have hrowId : row.runId = drive.subject := by
    rw [hrow, ← Store.runId_of_get hdb]
  have hget := fun runId => Store.get_put runId
    (show Store.get world.rows row.runId ≠ none by simp [hrowId, hdb])
  have hmem : ∀ {other : DriveId} {base : WorkflowRun},
      Event.loaded other base ∈ .saved drive row :: world.history →
      .loaded other base ∈ world.history := by simp
  have hversionRow : row.version = db.version + 1 := by rw [hrow, hdbVersion]
  refine ⟨⟨fun runId => ?_, fun runId found hfound => ?_, fun other loaded hloaded => ?_,
    fun other first second hfirst hsecond =>
      hinv.loadedOnce other first second (hmem hfirst) (hmem hsecond), ?_, hinv.chained⟩,
    fun runId found hfound hterminal => ?_⟩
  · simp only [World.commit, hget, lastWrite]
    split
    · rfl
    · exact hinv.agrees runId
  · simp only [World.commit, hget] at hfound
    split at hfound
    · rw [← Option.some.inj hfound, hrow]
      exact hrun
    · exact hinv.scheduled runId found hfound
  · obtain ⟨hotherId, current, hcurrent, hle, hsame⟩ := hinv.loaded other loaded (hmem hloaded)
    refine ⟨hotherId, ?_⟩
    simp only [World.commit, hget]
    split
    next heq =>
      rw [← heq, hrowId, hdb] at hcurrent
      obtain rfl := Option.some.inj hcurrent
      exact ⟨row, rfl, by omega, fun heq => by omega⟩
    next => exact ⟨current, hcurrent, hle, hsame⟩
  · have hagrees := hinv.agrees drive.subject
    rw [hdb, Option.map_some] at hagrees
    obtain ⟨previous, hprevious, hsame⟩ := Option.map_eq_some_iff.mp hagrees.symm
    have hbasePrevious := hbaseDb.trans hsame.symm
    refine ⟨base, previous, hbase, hprevious, hbasePrevious, hrowId, ?_, ?_⟩
    · rw [hversionRow, WorkflowRun.version_unscheduled hsame]
    · rw [← WorkflowRun.status_unscheduled hbasePrevious]
      exact hopen
  · simp only [World.commit, hget]
    rw [if_neg, hfound]
    intro heq
    rw [← heq, hrowId, hdb] at hfound
    rw [← Option.some.inj hfound, ← WorkflowRun.status_unscheduled hbaseDb, hopen]
      at hterminal
    cases hterminal

end LedgerInv

/-- The discipline of the ledger. -/
abbrev ledger : Discipline system :=
  interleaving LedgerInv frozen

/-- A run in memory: loaded by its drive while not terminal, and at the version
it was loaded with. -/
def Held (drive : DriveId) (run : WorkflowRun) (world : World) : Prop :=
  run.runId = drive.subject ∧ ∃ base, .loaded drive base ∈ world.history ∧
    base.version = run.version ∧ base.status.terminal = false

theorem Held.of_grows {drive : DriveId} {run : WorkflowRun} {world final : World}
    {since : Event → Prop} (hheld : Held drive run world) (hgrows : world.Grows since final) :
    Held drive run final := by
  obtain ⟨hid, base, hbase, hversion, hopen⟩ := hheld
  exact ⟨hid, base, hgrows.mem hbase, hversion, hopen⟩

/-- The run is held and meets a condition. -/
def holding (drive : DriveId) (condition : WorkflowRun → Prop) : Assertion ledger drive where
  holds run world := condition run ∧ Held drive run world
  stable hheld hrely _ := ⟨hheld.1, hheld.2.of_grows hrely.1⟩

/-- Recording a call or a log record of its own keeps what a drive holds. -/
theorem record_held {drive : DriveId} {run : WorkflowRun} {world : World} (event : Event)
    (hinv : LedgerInv world) (hheld : Held drive run world) (hactor : event.actor = some drive)
    (hcalled : ∀ drive run, event ≠ .loaded drive run)
    (hsaved : ∀ drive row, event ≠ .saved drive row) :
    ledger.inv (world.record event) ∧ ledger.guar drive world (world.record event) ∧
      Held drive run (world.record event) := by
  have hgrows : world.Grows (fun event => event.actor = some drive) (world.record event) :=
    World.grows_record hactor
  refine ⟨hinv.record hcalled hsaved ?_, ⟨hgrows, fun _ _ hrow _ => hrow⟩, hheld.of_grows hgrows⟩
  rintro run rfl
  cases hactor

section Outline

variable (executor : Executor) (drive : DriveId)

/-- A log record leaves what is held as it is, under another condition perhaps. -/
theorem held_log {condition later : WorkflowRun → Prop} {run changed : WorkflowRun} {world : World}
    {record : LogRecord} (hheld : holding drive condition run world) (hinv : LedgerInv world)
    (hchanged : Held drive run (world.record (.logged drive record)) →
      Held drive changed (world.record (.logged drive record)))
    (hlater : condition run → later changed) :
    Serves ledger drive (.log record) world fun _ final => holding drive later changed final := by
  obtain ⟨hkept, hguar, hfinal⟩ :=
    record_held (.logged drive record) hinv hheld.2 rfl (by simp) (by simp)
  exact serves_log ⟨hkept, hguar, hlater hheld.1, hchanged hfinal⟩

theorem held_call {condition : WorkflowRun → Prop} {run : WorkflowRun} {world : World}
    {issuer : Issuer} {call : Call} (hheld : holding drive condition run world)
    (hinv : LedgerInv world) :
    Serves ledger drive (.provider issuer call) world fun _ final =>
      holding drive condition run final := by
  refine serves_call fun answer applied _ => ?_
  obtain ⟨hkept, hguar, hfinal⟩ := record_held
    (.called drive issuer call answer applied) hinv hheld.2 rfl (by simp) (by simp)
  exact ⟨hkept, hguar, hheld.1, hfinal⟩

/-- A save that is consistent in itself keeps the ledger, accepted or not. -/
theorem held_save {run : WorkflowRun} {world : World}
    (hheld : holding drive WellScheduled run world) (hinv : LedgerInv world) :
    (ledger.inv world ∧ ledger.guar drive world world) ∧
      ∀ row, Store.save world.rows run = .ok row →
        ledger.inv (world.commit drive row) ∧ ledger.guar drive world (world.commit drive row) ∧
          holding drive WellScheduled run (world.commit drive row) := by
  obtain ⟨hscheduled, hid, base, hbase, hversion, hopen⟩ := hheld
  refine ⟨⟨hinv, .refl, frozen.refl world⟩, fun row hsave => ?_⟩
  obtain ⟨hkept, hframe⟩ := hinv.commit hbase hversion hid hopen hscheduled hsave
  have hgrows : world.Grows (fun event => event.actor = some drive) (world.commit drive row) :=
    ⟨[.saved drive row], rfl, by simp [Event.actor]⟩
  exact ⟨hkept, ⟨hgrows, hframe⟩, hscheduled, hid, base, hgrows.mem hbase, hversion, hopen⟩

def Ended : Assertion ledger drive where
  holds _ _ := True
  stable _ _ _ := trivial

/-- The driver keeps the ledger: wherever it saves, the status and the schedule
agree, and in between it holds the run at the version it loaded. -/
def ledgerOutline : Outline ledger drive executor where
  fresh := holding drive fun run => run.status.terminal = false
  turning _ := holding drive fun run => run.status = .running
  tried _ _ _ := holding drive fun run => run.status = .running
  raised _ _ := holding drive fun run => run.status = .running
  passed _ := holding drive fun run => run.status = .running
  denied := holding drive fun run => run.status = .rejected ∧ run.scheduledAt = none
  dismissed := holding drive fun run => run.status = .rejected ∧ run.scheduledAt = none
  failing _ := holding drive fun run => run.status = .failed ∧ run.scheduledAt = none
  escalating _ := holding drive fun run => run.status = .failed ∧ run.scheduledAt = none
  failed := holding drive fun run => run.status = .failed ∧ run.scheduledAt = none
  released := holding drive fun run => run.status = .failed ∧ run.scheduledAt = none
  pending := holding drive WellScheduled
  quiet := holding drive WellScheduled
  troubled _ := holding drive fun run => run.status = .failed → run.scheduledAt = none
  ended := Ended drive
  wrecked _ := Ended drive
  guar_refl world _ := ⟨.refl, frozen.refl world⟩
  utcnow := serve_utcnow drive
  uniform := serve_uniform drive
  start hfresh _ := ⟨rfl, hfresh.2⟩
  badStart := by
    rintro run world error ⟨hopen, hheld⟩ _
    exact ⟨fun hfailed => by simp [hfailed, RunStatus.terminal] at hopen, hheld⟩
  unhandled hrun _ := ⟨by simp [hrun.1], hrun.2⟩
  restamp _ _ hrun := hrun
  naive hrun := ⟨by simp [hrun.1], hrun.2⟩
  deadline hrun := hrun
  execute := by
    intro step handler run world _ hrun hinv
    exact wp_handling (holding drive fun run => run.status = .running) hrun
      fun call current hinv hcurrent => held_call drive hcurrent hinv
  reject hrun := ⟨⟨rfl, rfl⟩, hrun.2⟩
  release hrun hinv _ := held_call drive hrun hinv
  unheld hrun _ := hrun
  dismissed_pending hrun :=
    ⟨by simp [WellScheduled, hrun.1.1, hrun.1.2, RunStatus.terminal], hrun.2⟩
  logRaised hrun _ hinv := held_log drive hrun hinv id id
  retry due _ hrun _ := ⟨by simp [WellScheduled, retriedRun, hrun.1, RunStatus.terminal], hrun.2⟩
  retryOverflow _ hrun _ := ⟨by simp [retriedRun, hrun.1], hrun.2⟩
  giveUp hrun _ := ⟨⟨rfl, rfl⟩, hrun.2⟩
  poll due hrun := ⟨by simp [WellScheduled, hrun.1, RunStatus.terminal], hrun.2⟩
  pollOverflow hrun := ⟨by simp [hrun.1], hrun.2⟩
  logCompleted hrun hinv := held_log drive hrun hinv id id
  offPlan hrun _ := ⟨by simp [hrun.1], hrun.2⟩
  next hrun _ _ := hrun
  finish hrun _ _ := ⟨by simp [WellScheduled, completedRun, RunStatus.terminal], hrun.2⟩
  logEscalating hrun hinv := held_log drive hrun hinv id id
  openIncident request hrun hinv := (held_call drive hrun hinv).opened fun _ _ hfinal => hfinal
  escalating_failed hrun := hrun
  aftermath hrun hinv _ := held_call drive hrun hinv
  ticketClosed hrun := hrun
  releaseFailed hrun hinv _ := held_call drive hrun hinv
  unheldFailed hrun _ := hrun
  released_pending hrun := ⟨by simp [WellScheduled, hrun.1.1, hrun.1.2, RunStatus.terminal], hrun.2⟩
  released_quiet hrun := ⟨by simp [WellScheduled, hrun.1.1, hrun.1.2, RunStatus.terminal], hrun.2⟩
  save := by
    intro run world hrun hinv
    obtain ⟨⟨hsame, hguar⟩, haccepted⟩ := held_save drive hrun hinv
    have htroubled : ∀ {final : World}, holding drive WellScheduled run final →
        holding drive (fun run => run.status = .failed → run.scheduledAt = none) run final := by
      rintro final ⟨hscheduled, hheld⟩
      exact ⟨fun hfailed => hscheduled.mpr (by simp [hfailed, RunStatus.terminal]), hheld⟩
    refine serves_save (fun error => ⟨hsame, hguar, ?_⟩) fun row hsave => ?_
    · cases error <;> first | trivial | exact htroubled hrun
    · obtain ⟨hkept, hguar, hheld⟩ := haccepted row hsave
      exact ⟨hkept, hguar, trivial, fun _ _ => htroubled hheld⟩
  saveQuietly := by
    intro run world hrun hinv
    obtain ⟨⟨hsame, hguar⟩, haccepted⟩ := held_save drive hrun hinv
    refine serves_save (fun error => ⟨hsame, hguar, trivial⟩) fun row hsave => ?_
    obtain ⟨hkept, hguar, -⟩ := haccepted row hsave
    exact ⟨hkept, hguar, trivial, fun _ _ => trivial⟩
  unpersisted := by
    intro error run world hrun hfailed hinv
    refine held_log drive hrun hinv id fun hscheduled => ?_
    simp [WellScheduled, hfailed, hscheduled hfailed, RunStatus.terminal]
  unnamed _ _ _ _ := trivial
  crashed hrun _ _ hinv := held_log drive hrun hinv id fun _ => ⟨rfl, rfl⟩

theorem ledger_compatible : ledger.Compatible executor.handle Absent := by
  refine interleaving_compatible (fun event world hinv => hinv.outside event) ?_
  intro drive world _ habsent
  refine (ledgerOutline executor drive).handle_safe fun current hrely hinv => ?_
  refine serves_get (fun answer hmissed => ?_) fun row hrow => ?_
  · exact ⟨hinv, ⟨.refl, frozen.refl current⟩, fun run hanswer => absurd hanswer (hmissed run)⟩
  · have habsent := habsent.of_rely hrely
    refine ⟨hinv.load hrow fun base hbase => habsent _ hbase rfl,
      ⟨World.grows_record rfl, fun _ _ hrow _ => hrow⟩, ?_⟩
    rintro run heq hopen
    obtain rfl : row = run := by simpa using heq
    exact ⟨hopen, Store.runId_of_get hrow, row, List.mem_cons_self, rfl, hopen⟩

variable {executor}

theorem reached_ledger (clock : Time) (moves : List (Move system)) :
    LedgerInv (reached executor clock moves).world :=
  (reached_sound (ledger_compatible executor) clock (.initial clock) moves).inv

end Outline

/-- In every state reached, a row has no schedule exactly if it is terminal, and
a terminal row is what it is in every state reached from there. -/
theorem scheduled_until_terminal (executor : Executor) (clock : Time)
    (moves later : List (Move system)) (runId : UUID) (row : WorkflowRun)
    (hrow : Store.get (reached executor clock moves).world.rows runId = some row) :
    (row.scheduledAt = none ↔
      row.status = .completed ∨ row.status = .failed ∨ row.status = .rejected) ∧
    (row.status = .completed ∨ row.status = .failed ∨ row.status = .rejected →
      Store.get (reached executor clock (moves ++ later)).world.rows runId = some row) := by
  have hterminal : row.status.terminal = true ↔
      row.status = .completed ∨ row.status = .failed ∨ row.status = .rejected := by
    cases row.status <;> simp [RunStatus.terminal]
  rw [← hterminal]
  refine ⟨(reached_ledger clock moves).scheduled runId row hrow, fun hover => ?_⟩
  exact reached_keeps (ledger_compatible executor) clock (.initial clock) moves later
    runId row hrow hover

/-- A legacy run completed by its one drive, and what comes after. -/
theorem scheduled_until_terminal_completed :
    ∃ row, Store.get (reached sampleExecutor 0 (legacyRun 8)).world.rows sampleId = some row ∧
      (row.scheduledAt = none ↔
        row.status = .completed ∨ row.status = .failed ∨ row.status = .rejected) ∧
      row.status = .completed ∧
      Store.get (reached sampleExecutor 0 (legacyRun 8 ++ [.outside (.wake sampleId)])).world.rows
        sampleId = some row := by
  have hsettled := scheduled_until_terminal sampleExecutor 0 (legacyRun 8)
    [.outside (.wake sampleId)] sampleId _ rfl
  exact ⟨_, rfl, hsettled.1, rfl, hsettled.2 (.inl rfl)⟩

section Saving

variable {executor : Executor} {clock : Time} {moves : List (Move system)}

/-- What a save puts in the history, the store accepted. -/
theorem serve_saved {drive : DriveId} {choice : Choice} {op : Op} {world : World}
    {row : WorkflowRun}
    (hsaved : (World.serve drive choice op world).2.history = .saved drive row :: world.history) :
    ∃ run, op = .runsSave run ∧ Store.save world.rows run = .ok row := by
  have hgrown : world.history ≠ .saved drive row :: world.history := List.ne_cons_self
  cases op with
  | runsGet runId =>
      rw [World.serve] at hsaved
      rcases world.load_cases drive choice runId with ⟨answer, -, hserved⟩ | ⟨found, -, hserved⟩
      · rw [hserved] at hsaved
        exact absurd hsaved hgrown
      · rw [hserved] at hsaved
        cases (List.cons.inj hsaved).1
  | runsSave run =>
      refine ⟨run, rfl, ?_⟩
      rw [World.serve] at hsaved
      rcases world.save_cases drive choice run with
        ⟨error, hserved⟩ | ⟨saved, answer, hsave, -, hserved⟩
      · rw [hserved] at hsaved
        exact absurd hsaved hgrown
      · rw [hserved] at hsaved
        cases (List.cons.inj hsaved).1
        exact hsave
  | utcnow => exact absurd hsaved hgrown
  | uniform => exact absurd hsaved hgrown
  | provider issuer call => cases (List.cons.inj hsaved).1
  | log record => cases (List.cons.inj hsaved).1

/-- A drive that comes to save anything has first loaded a run. -/
theorem handle_loads {runId : UUID} {run : WorkflowRun} {trace : Trace Operations}
    {next : Op.Answer (.runsSave run) →
      Prog Operations (Except PyException Unit × Option WorkflowRun)}
    (hleads : (executor.handle runId).Leads trace (.call (.runsSave run) next)) :
    ∃ answers base, trace = answers ++ [⟨.runsGet runId, .ok (some base)⟩] := by
  rcases Prog.Leads.of_call hleads with ⟨-, hcall⟩ | ⟨answers, answer, rfl, hlater⟩
  · cases hcall
  · match answer, hlater with
    | .error error, hlater => cases Prog.Leads.of_ret hlater
    | .ok none, hlater => cases Prog.Leads.of_ret hlater
    | .ok (some base), hlater => exact ⟨answers, base, rfl⟩

/-- What a drive was answered to have loaded, it loaded. -/
theorem loaded_of_answers {runId : UUID} {base : WorkflowRun} {serial : Nat}
    (hmem : ⟨.runsGet runId, .ok (some base)⟩ ∈
      Pool.answers executor.handle serial moves ⟨{ clock := clock }, []⟩) :
    ∃ subject, .loaded ⟨subject, serial⟩ base ∈ (reached executor clock moves).world.history ∧
      base.runId = runId := by
  obtain ⟨first, choice, later, subject, next, rfl, hthread, hanswer⟩ :=
    Pool.exists_of_mem_answers hmem
  change (reached executor clock first).threads[serial]? = _ at hthread
  change _ = (World.load ⟨subject, serial⟩ choice runId (reached executor clock first).world).1
    at hanswer
  have hserved : (reached executor clock (first ++ [.advance serial choice])).world =
      (World.load ⟨subject, serial⟩ choice runId (reached executor clock first).world).2 := by
    rw [reached_append, Pool.run_cons, Pool.run_nil]
    simp only [Pool.step, hthread]
    rfl
  have hgrows :=
    run_grows executor later (reached executor clock (first ++ [.advance serial choice]))
  rw [← reached_append, List.append_assoc, List.singleton_append] at hgrows
  rcases World.load_cases (reached executor clock first).world ⟨subject, serial⟩ choice runId with
    ⟨answer, hnone, hloaded⟩ | ⟨row, hrow, hloaded⟩
  · rw [hloaded] at hanswer
    exact absurd hanswer.symm (hnone base)
  · rw [hloaded] at hserved hanswer
    obtain rfl := Option.some.inj (Except.ok.inj hanswer)
    refine ⟨subject, hgrows.mem ?_, Store.runId_of_get hrow⟩
    rw [hserved]
    exact List.mem_cons_self

/-- A save on record was made by a move of its drive, which had been answered to have
loaded a run and came to save what it had computed from that. -/
theorem exists_saving {drive : DriveId} {row : WorkflowRun} {newer older : History}
    (hhistory : (reached executor clock moves).world.history =
      newer ++ .saved drive row :: older) :
    ∃ first choice later base answers run next,
      moves = first ++ .advance drive.serial choice :: later ∧
      (reached executor clock first).world.history = older ∧
      .loaded drive base ∈ older ∧
      Pool.answers executor.handle drive.serial first ⟨{ clock := clock }, []⟩ =
        answers ++ [⟨.runsGet drive.subject, .ok (some base)⟩] ∧
      (executor.handle drive.subject).Leads
        (answers ++ [⟨.runsGet drive.subject, .ok (some base)⟩]) (.call (.runsSave run) next) ∧
      Store.save (reached executor clock first).world.rows run = .ok row := by
  obtain ⟨first, choice, later, op, next, hmoves, hfirst, hthread, hserved⟩ :=
    exists_advance (show (Event.saved drive row).actor = some drive from rfl) hhistory
  rw [← hfirst] at hserved
  obtain ⟨run, rfl, hsave⟩ := serve_saved hserved
  have hleads := Pool.thread_leads hthread
  obtain ⟨answers, base, hanswers⟩ := handle_loads hleads
  rw [hanswers] at hleads
  have hloaded : .loaded drive base ∈ older := by
    obtain ⟨subject, hloaded, hid⟩ := loaded_of_answers (hanswers ▸ List.mem_concat_self)
    -- a drive loads its own run, whichever run the answer was recorded for
    obtain ⟨hsubject, -⟩ := (reached_ledger clock first).loaded _ _ hloaded
    obtain rfl : subject = drive.subject := hsubject.symm.trans hid
    rwa [hfirst] at hloaded
  exact ⟨first, choice, later, base, answers, run, next, hmoves, hfirst, hloaded, hanswers,
    hleads, hsave⟩

/-- What is committed is the last write of the row with what the save hands over, at the
next version. -/
theorem LedgerInv.save_eq {world : World} {run row previous : WorkflowRun}
    (hinv : LedgerInv world) (hlast : lastWrite run.runId world.history = some previous)
    (hsave : Store.save world.rows run = .ok row) :
    row = { previous with
      status := run.status, currentStep := run.currentStep, scheduledAt := run.scheduledAt
      runState := run.runState, version := previous.version + 1 } := by
  obtain ⟨db, hdb, hversion, hrow⟩ := Store.save_eq_ok hsave
  have hagrees := hinv.agrees run.runId
  rw [hdb, hlast] at hagrees
  have hkept : db.unscheduled = previous.unscheduled := Option.some.inj hagrees
  simp only [WorkflowRun.unscheduled, WorkflowRun.mk.injEq] at hkept
  obtain ⟨hid, htype, -, -, hidentifier, hcreator, hretries, -, hkeptVersion, -⟩ := hkept
  simp [hrow, hid, htype, hidentifier, hcreator, hretries, ← hversion, hkeptVersion]

end Saving

/-- Accepted saves form a single chain. Each was made by a drive that had loaded, once,
exactly what the write before it left, and what it wrote is what the drive had computed
from that and its answers since, at the next version. Every row is its last write but for
the schedule, and claims and wakes change nothing else. -/
theorem accepted_saves_form_chain (executor : Executor) (clock : Time)
    (moves : List (Move system)) :
    let world := (reached executor clock moves).world
    (∀ newer drive row older, world.history = newer ++ .saved drive row :: older →
      ∃ first choice later base previous answers run next,
        moves = first ++ .advance drive.serial choice :: later ∧
        (reached executor clock first).world.history = older ∧
        .loaded drive base ∈ older ∧
        (∀ other, .loaded drive other ∈ world.history → other = base) ∧
        lastWrite drive.subject older = some previous ∧
        base.status = previous.status ∧ base.currentStep = previous.currentStep ∧
        base.runState = previous.runState ∧ base.version = previous.version ∧
        Pool.answers executor.handle drive.serial first ⟨{ clock := clock }, []⟩ =
          answers ++ [⟨.runsGet drive.subject, .ok (some base)⟩] ∧
        (executor.handle drive.subject).Leads
          (answers ++ [⟨.runsGet drive.subject, .ok (some base)⟩]) (.call (.runsSave run) next) ∧
        row.runId = drive.subject ∧
        row = { previous with
          status := run.status, currentStep := run.currentStep, scheduledAt := run.scheduledAt
          runState := run.runState, version := previous.version + 1 }) ∧
    (∀ runId, (Store.get world.rows runId).map WorkflowRun.unscheduled =
      (lastWrite runId world.history).map WorkflowRun.unscheduled) ∧
    (∀ limit lease locked runId,
      (Store.get (world.outside (.claimDue limit lease locked)).rows runId).map
        WorkflowRun.unscheduled = (Store.get world.rows runId).map WorkflowRun.unscheduled) ∧
    (∀ woken runId, (Store.get (world.outside (.wake woken)).rows runId).map
      WorkflowRun.unscheduled = (Store.get world.rows runId).map WorkflowRun.unscheduled) := by
  intro world
  have hinv : LedgerInv world := reached_ledger clock moves
  refine ⟨?_, hinv.agrees, fun _ _ _ runId => unscheduled_reschedule .., fun _ runId =>
    unscheduled_reschedule ..⟩
  intro newer drive row older hhistory
  have hchained := hinv.chained
  rw [hhistory] at hchained
  obtain ⟨base, previous, hbase, hprevious, hsame, hid, hversion, -⟩ := hchained.links
  obtain ⟨-, -, hstatus, hstep, hbaseVersion, hstate⟩ := WorkflowRun.unscheduled_eq hsame
  have hgrown : ∀ event ∈ older, event ∈ world.history := by
    intro event hevent
    rw [hhistory]
    exact List.mem_append_right _ (List.mem_cons_of_mem _ hevent)
  have honce : ∀ other, .loaded drive other ∈ world.history → other = base :=
    fun other hother => hinv.loadedOnce drive other base hother (hgrown _ hbase)
  -- the chain says what was loaded and written, and the move what was computed in between
  obtain ⟨first, choice, later, found, answers, run, next, hmoves, hfirst, hfound, hanswers, hleads,
    hsave⟩ := exists_saving hhistory
  obtain rfl : found = base := honce found (hgrown _ hfound)
  have hrunId : run.runId = drive.subject := by
    obtain ⟨db, hdb, -, hrow⟩ := Store.save_eq_ok hsave
    rw [← hid, hrow]
    exact (Store.runId_of_get hdb).symm
  have hlast : lastWrite run.runId (reached executor clock first).world.history =
      some previous := by
    rw [hrunId, hfirst]
    exact hprevious
  exact ⟨first, choice, later, found, previous, answers, run, next, hmoves, hfirst, hbase, honce,
    hprevious, hstatus, hstep, hstate, hbaseVersion, hanswers, hleads, hid,
    (reached_ledger clock first).save_eq hlast hsave⟩

end CloudioOrchestrator

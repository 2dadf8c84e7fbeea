import CloudioOrchestrator.Interleaving
import CloudioOrchestrator.Handlers

/-! # Accounts

An account says what a stored row of a run, and each event of the history,
presupposes of what happened before. Facts about the past stay true as the
history grows, so a drive may rely on what it knew of its run when it loaded
it, whatever other drives do.
-/

namespace CloudioOrchestrator

open Interaction

/-- What is known of a run from the history; it is not lost as the history grows. -/
structure Fact where
  holds : WorkflowRun → History → Prop
  grows : ∀ {run older} event, holds run older → holds run (event :: older)

instance : CoeFun Fact fun _ => WorkflowRun → History → Prop := ⟨Fact.holds⟩

theorem Fact.append (fact : Fact) {run : WorkflowRun} {older : History} (newer : History)
    (hfact : fact run older) : fact run (newer ++ older) := by
  induction newer with
  | nil => exact hfact
  | cons event newer ih => exact fact.grows event ih

/-- The run was created, and carries what its creation fixed. -/
def HasOrigin (run : WorkflowRun) (history : History) : Prop :=
  ∃ origin, .created origin ∈ history ∧ Newborn origin ∧ origin.Continues run

theorem HasOrigin.cons {run : WorkflowRun} {older : History} (event : Event)
    (horigin : HasOrigin run older) : HasOrigin run (event :: older) := by
  obtain ⟨origin, hcreated, horigin⟩ := horigin
  exact ⟨origin, List.mem_cons_of_mem _ hcreated, horigin⟩

/-- A run of a plan with resource steps has its resource. -/
theorem HasOrigin.resource_isSome {run : WorkflowRun} {history : History}
    (horigin : HasOrigin run history) (htype : run.runType = .resource) :
    run.runState.resource.isSome := by
  obtain ⟨origin, -, hnewborn, hsame⟩ := horigin
  rw [← hsame.2.resource_isSome]
  exact hnewborn.resource.mpr (hsame.1.runType.trans htype)

structure Account where
  /-- What a stored row presupposes. -/
  row : Fact
  /-- What an event presupposes. -/
  event : Event → History → Prop
  born : ∀ {run older}, Newborn run → row run (.created run :: older)
  rescheduled : ∀ {run older} time, row run older → row { run with scheduledAt := some time } older
  created : ∀ run older, event (.created run) older
  loaded : ∀ drive run older, event (.loaded drive run) older

namespace Account

variable (A : Account)

/-- Every event of a history had what it presupposes. -/
abbrev Kept (history : History) : Prop :=
  Throughout A.event history

structure Inv (world : World) : Prop where
  rows : ∀ runId row, Store.get world.rows runId = some row →
    HasOrigin row world.history ∧ A.row row world.history
  newborn : ∀ origin, .created origin ∈ world.history → Newborn origin
  present : ∀ origin, .created origin ∈ world.history →
    Store.get world.rows origin.runId ≠ none
  unique : ∀ first second, .created first ∈ world.history → .created second ∈ world.history →
    first.runId = second.runId → first = second
  kept : A.Kept world.history

namespace Inv

variable {A} {world : World}

theorem initial (clock : Time) : A.Inv { clock := clock } where
  rows _ _ hrow := by cases hrow
  newborn _ hcreated := by cases hcreated
  present _ hcreated := by cases hcreated
  unique _ _ hcreated := by cases hcreated
  kept := trivial

theorem record (hinv : A.Inv world) {event : Event} (hcreated : ∀ run, event ≠ .created run)
    (hevent : A.event event world.history) : A.Inv (world.record event) := by
  have hmem : ∀ {origin}, .created origin ∈ event :: world.history →
      .created origin ∈ world.history := by
    intro origin hmem
    rcases List.mem_cons.mp hmem with heq | hmem
    · exact absurd heq.symm (hcreated origin)
    · exact hmem
  refine ⟨fun runId row hrow => ?_, fun origin horigin => hinv.newborn origin (hmem horigin),
    fun origin horigin => hinv.present origin (hmem horigin),
    fun first second hfirst hsecond => hinv.unique first second (hmem hfirst) (hmem hsecond),
    hevent, hinv.kept⟩
  obtain ⟨horigin, hfact⟩ := hinv.rows runId row hrow
  exact ⟨horigin.cons event, A.row.grows event hfact⟩

theorem insert (hinv : A.Inv world) {run : WorkflowRun} (hrun : Newborn run) :
    A.Inv (world.insert run) := by
  simp only [World.insert]
  split
  next => exact hinv
  next htaken =>
    have hfresh : Store.get world.rows run.runId = none := by simpa using htaken
    have hget := fun runId => Store.get_create runId hfresh
    -- every run there ever was still has a row, so that a free id is nobody's
    have hother : ∀ {origin}, .created origin ∈ world.history → run.runId ≠ origin.runId := by
      intro origin hcreated heq
      rw [heq] at hfresh
      exact hinv.present origin hcreated hfresh
    refine ⟨fun runId row hrow => ?_, fun origin hcreated => ?_, fun origin hcreated => ?_,
      fun first second hfirst hsecond heq => ?_, A.created run _, hinv.kept⟩
    · rw [hget] at hrow
      split at hrow
      · obtain rfl := Option.some.inj hrow
        exact ⟨⟨run, List.mem_cons_self, hrun, .refl run⟩, A.born hrun⟩
      · obtain ⟨horigin, hfact⟩ := hinv.rows runId row hrow
        exact ⟨horigin.cons _, A.row.grows _ hfact⟩
    · rcases List.mem_cons.mp hcreated with heq | hcreated
      · cases heq
        exact hrun
      · exact hinv.newborn origin hcreated
    · rcases List.mem_cons.mp hcreated with heq | hcreated
      · cases heq
        simp [hget]
      · rw [hget, if_neg (hother hcreated)]
        exact hinv.present origin hcreated
    · rcases List.mem_cons.mp hfirst with hnew | hold <;>
        rcases List.mem_cons.mp hsecond with hnew' | hold'
      · cases hnew
        cases hnew'
        rfl
      · cases hnew
        exact absurd heq (hother hold')
      · cases hnew'
        exact absurd heq.symm (hother hold)
      · exact hinv.unique first second hold hold' heq

theorem reschedule (hinv : A.Inv world) (select : WorkflowRun → Bool) (time : Time) :
    A.Inv { world with rows := Store.reschedule select time world.rows } := by
  refine ⟨fun runId row hrow => ?_, hinv.newborn, fun origin hcreated => ?_, hinv.unique,
    hinv.kept⟩
  · rw [Store.get_reschedule] at hrow
    obtain ⟨old, hold, rfl⟩ := Option.map_eq_some_iff.mp hrow
    obtain ⟨horigin, hfact⟩ := hinv.rows runId old hold
    split
    · exact ⟨horigin, A.rescheduled time hfact⟩
    · exact ⟨horigin, hfact⟩
  · rw [Store.get_reschedule, Ne, Option.map_eq_none_iff]
    exact hinv.present origin hcreated

theorem outside (hinv : A.Inv world) (event : Outside) : A.Inv (world.outside event) := by
  cases event with
  | trigger runId workflow request =>
      simp only [World.outside]
      split
      next run htrigger => exact hinv.insert (trigger_newborn htrigger).2
      next => exact hinv
  | triggerLegacy runId request => exact hinv.insert (triggerLegacy_newborn _ _ _).2
  | claimDue limit lease locked => exact hinv.reschedule _ _
  | wake runId => exact hinv.reschedule _ _
  | tick now => exact ⟨hinv.rows, hinv.newborn, hinv.present, hinv.unique, hinv.kept⟩

/-- A run that is saved has the origin of its row, so the row becomes the run. -/
theorem saved_row (hinv : A.Inv world) {run row : WorkflowRun}
    (horigin : HasOrigin run world.history)
    (hsave : Store.save world.rows run = .ok row) :
    row = { run with version := run.version + 1 } := by
  obtain ⟨db, hdb, -, rfl⟩ := Store.save_eq_ok hsave
  obtain ⟨origin, hcreated, -, hsame, -⟩ := horigin
  obtain ⟨⟨dbOrigin, hdbCreated, -, hdbSame, -⟩, -⟩ := hinv.rows _ _ hdb
  have hid : origin.runId = dbOrigin.runId :=
    (hsame.runId.trans (Store.runId_of_get hdb).symm).trans hdbSame.runId.symm
  obtain rfl := hinv.unique origin dbOrigin hcreated hdbCreated hid
  obtain ⟨hrunId, htype, hidentifier, hcreatedBy, hretries⟩ := hdbSame.symm.trans hsame
  rw [hrunId, htype, hidentifier, hcreatedBy, hretries]

theorem commit (hinv : A.Inv world) {drive : DriveId} {run row : WorkflowRun}
    (horigin : HasOrigin run world.history) (hsave : Store.save world.rows run = .ok row)
    (hrow : A.row row (.saved drive row :: world.history))
    (hevent : A.event (.saved drive row) world.history) : A.Inv (world.commit drive row) := by
  have hsame := hinv.saved_row horigin hsave
  obtain ⟨db, hdb, -, -⟩ := Store.save_eq_ok hsave
  have hget := fun runId => Store.get_put runId
    (show Store.get world.rows row.runId ≠ none by simp [hsame, hdb])
  have hmem : ∀ {origin}, Event.created origin ∈ .saved drive row :: world.history →
      .created origin ∈ world.history := by simp
  refine ⟨fun runId found hfound => ?_, fun origin hcreated => hinv.newborn origin (hmem hcreated),
    fun origin hcreated => ?_, fun first second hfirst hsecond =>
      hinv.unique first second (hmem hfirst) (hmem hsecond),
    hevent, hinv.kept⟩
  · simp only [World.commit, hget] at hfound
    split at hfound
    · obtain rfl := Option.some.inj hfound
      refine ⟨?_, hrow⟩
      rw [hsame]
      exact horigin.cons _
    · obtain ⟨horigin, hfact⟩ := hinv.rows runId found hfound
      exact ⟨horigin.cons _, A.row.grows _ hfact⟩
  · simp only [World.commit, hget]
    split
    · simp
    · exact hinv.present origin (hmem hcreated)

end Inv

/-- Drives that keep an account. -/
abbrev discipline : Discipline system :=
  interleaving A.Inv .none

/-- A run in memory of which a fact is known. -/
def noting (drive : DriveId) (fact : Fact) : Assertion A.discipline drive where
  holds run world := run.runId = drive.subject ∧ HasOrigin run world.history ∧
    fact run world.history
  stable := by
    rintro run world current ⟨hid, horigin, hfact⟩ ⟨⟨newer, hhistory, -⟩, -⟩ -
    rw [hhistory]
    obtain ⟨origin, hcreated, horigin⟩ := horigin
    exact ⟨hid, ⟨origin, List.mem_append_right _ hcreated, horigin⟩, fact.append newer hfact⟩

section Noting

variable {A} {drive : DriveId} {fact later : Fact} {run changed : WorkflowRun} {world : World}

theorem noting_imp (hrun : A.noting drive fact run world) (hsame : run.Continues changed)
    (himp : fact run world.history → later changed world.history) :
    A.noting drive later changed world := by
  obtain ⟨hid, ⟨origin, hcreated, hnewborn, horigin⟩, hfact⟩ := hrun
  exact ⟨hsame.1.runId.symm.trans hid, ⟨origin, hcreated, hnewborn, horigin.trans hsame⟩, himp hfact⟩

theorem noting_record (hrun : A.noting drive fact run world) (hinv : A.Inv world) (event : Event)
    (hactor : event.actor = some drive) (hevent : A.event event world.history) :
    A.discipline.inv (world.record event) ∧ A.discipline.guar drive world (world.record event) ∧
      A.noting drive fact run (world.record event) := by
  refine ⟨hinv.record ?_ hevent, ⟨World.grows_record hactor, trivial⟩, hrun.1,
    hrun.2.1.cons event, fact.grows event hrun.2.2⟩
  rintro origin rfl
  cases hactor

theorem noting_log {record : LogRecord} (hrun : A.noting drive fact run world) (hinv : A.Inv world)
    (hsame : run.Continues changed) (hevent : A.event (.logged drive record) world.history)
    (hlater : fact run world.history → later changed (.logged drive record :: world.history)) :
    Serves A.discipline drive (.log record) world fun _ final =>
      A.noting drive later changed final := by
  obtain ⟨hkept, hguar, hnoted⟩ := noting_record hrun hinv (.logged drive record) rfl hevent
  exact serves_log ⟨hkept, hguar, noting_imp hnoted hsame fun _ => hlater hrun.2.2⟩

theorem noting_call {issuer : Issuer} {call : Call} (hrun : A.noting drive fact run world)
    (hinv : A.Inv world) (hevent : ∀ (answer : call.Answer) applied,
      A.event (.called drive issuer call answer applied) world.history) :
    Serves A.discipline drive (.provider issuer call) world fun _ final =>
      A.noting drive fact run final := by
  refine serves_call fun answer applied _ => ?_
  exact noting_record hrun hinv (.called drive issuer call answer applied) rfl
    (hevent answer applied)

/-- A run whose facts suffice for its row may be saved. -/
theorem noting_save (hrun : A.noting drive fact run world) (hinv : A.Inv world)
    (hrow : ∀ event, fact run world.history →
      A.row { run with version := run.version + 1 } (event :: world.history))
    (hevent : fact run world.history →
      A.event (.saved drive { run with version := run.version + 1 }) world.history)
    {post : (Op.runsSave run).Answer → World → Prop}
    (hpost : ∀ answer final, A.noting drive fact run final → post answer final) :
    Serves A.discipline drive (.runsSave run) world post := by
  refine serves_save (fun error => ⟨hinv, ⟨.refl, trivial⟩, hpost _ _ hrun⟩) fun row hsave => ?_
  obtain ⟨hid, horigin, hfact⟩ := hrun
  have hsame := hinv.saved_row horigin hsave
  have hguar : World.Grows (fun event => event.actor = some drive) world (world.commit drive row) :=
    ⟨[.saved drive row], rfl, by simp [Event.actor]⟩
  have hnoted : A.noting drive fact run (world.commit drive row) :=
    ⟨hid, horigin.cons _, fact.grows _ hfact⟩
  refine ⟨hinv.commit horigin hsave ?_ ?_, ⟨hguar, trivial⟩, hpost _ _ hnoted,
    fun _ _ => hpost _ _ hnoted⟩
  · rw [hsame]
    exact hrow _ hfact
  · rw [hsame]
    exact hevent hfact

/-- Loading a row that is not terminal gives what its row is known to satisfy. -/
theorem noting_load {executor : Executor} (O : Outline A.discipline drive executor)
    (hfresh : ∀ {row world}, row.status.terminal = false → A.noting drive A.row row world →
      O.fresh row world) :
    A.discipline.Safe drive (fun _ _ => True) (executor.handle drive.subject) world := by
  refine O.handle_safe fun current _ hinv => ?_
  refine serves_get (fun answer hmissed => ?_) fun row hrow => ?_
  · exact ⟨hinv, ⟨.refl, trivial⟩, fun run hanswer => absurd hanswer (hmissed run)⟩
  · obtain ⟨horigin, hfact⟩ := hinv.rows _ _ hrow
    have hloaded : A.noting drive A.row row current := ⟨Store.runId_of_get hrow, horigin, hfact⟩
    obtain ⟨hkept, hguar, hnoted⟩ :=
      noting_record hloaded hinv (.loaded drive row) rfl (A.loaded _ _ _)
    refine ⟨hkept, hguar, ?_⟩
    rintro run heq hopen
    obtain rfl : row = run := by simpa using heq
    exact hfresh hopen hnoted

/-- Drives that keep an account keep it wherever they reach. -/
theorem reached_inv {executor : Executor} (hsafe : ∀ (drive : DriveId) (world : World),
      A.discipline.Safe drive (fun _ _ => True) (executor.handle drive.subject) world)
    (clock : Time) (moves : List (Move system)) : A.Inv (reached executor clock moves).world :=
  (reached_sound (interleaving_compatible (fun event _ hinv => ⟨hinv.outside event, trivial⟩)
    fun drive world _ _ => hsafe drive world) clock (.initial clock) moves).inv

end Noting

end Account

end CloudioOrchestrator

import CloudioOrchestrator.Account
import CloudioOrchestrator.Interaction.Succession

/-! # Journals

Drives of a run that succeed one another: a later one starts only where the
earlier ones are over or have been cut off. What is known of a run then holds
until its own drive changes it, so a journal may say of a stored row what has
not happened yet. Drives of other runs interleave at will.
-/

namespace CloudioOrchestrator

open Interaction

/-- The run an event is about. -/
def Event.subject : Event → UUID
  | .created run => run.runId
  | .loaded drive _ | .called drive _ _ _ _ | .logged drive _ | .saved drive _ => drive.subject

theorem Event.subject_of_actor {event : Event} {drive : DriveId}
    (hactor : event.actor = some drive) : event.subject = drive.subject := by
  cases event with
  | created run => cases hactor
  | loaded | called | logged | saved => rw [← Option.some.inj hactor]; rfl

/-- What a stored row says of its history. -/
structure Journal where
  row : WorkflowRun → History → Prop
  born : ∀ {run older}, Newborn run → (∀ event ∈ older, event.subject ≠ run.runId) →
    row run (.created run :: older)
  others : ∀ {run older} event, event.subject ≠ run.runId → row run older →
    row run (event :: older)
  rescheduled : ∀ {run history} scheduledAt, row run history →
    row { run with scheduledAt := scheduledAt } history

/-- The account that only knows where runs come from. -/
def origins : Account where
  row := ⟨fun _ _ => True, fun _ _ => trivial⟩
  event _ _ := True
  born _ := trivial
  rescheduled _ _ := trivial
  created _ _ := trivial
  loaded _ _ _ := trivial

/-- What is known of a run in memory, the row it was loaded from and the history,
as long as only its own drive acts on it. -/
structure Note where
  holds : WorkflowRun → WorkflowRun → History → Prop
  others : ∀ {run row older} event, event.subject ≠ run.runId → holds run row older →
    holds run row (event :: older)
  rescheduled : ∀ {run row history} scheduledAt, holds run row history →
    holds run { row with scheduledAt := scheduledAt } history

theorem Note.append (note : Note) {run row : WorkflowRun} {older : History} (newer : History)
    (hothers : ∀ event ∈ newer, event.subject ≠ run.runId) (hnote : note.holds run row older) :
    note.holds run row (newer ++ older) := by
  induction newer with
  | nil => exact hnote
  | cons event newer ih =>
      refine note.others event (hothers event List.mem_cons_self) (ih fun other hother => ?_)
      exact hothers other (List.mem_cons_of_mem _ hother)

namespace Journal

variable (J : Journal)

structure Inv (world : World) : Prop where
  origins : origins.Inv world
  rows : ∀ runId row, Store.get world.rows runId = some row → J.row row world.history
  /-- Nothing is on record about a run that does not exist. -/
  silent : ∀ runId, Store.get world.rows runId = none → ∀ event ∈ world.history,
    event.subject ≠ runId

namespace Inv

variable {J} {world : World}

theorem initial (clock : Time) : J.Inv { clock := clock } where
  origins := .initial clock
  rows _ _ hrow := by cases hrow
  silent _ _ _ hevent := by cases hevent

theorem insert (hinv : J.Inv world) {run : WorkflowRun} (hrun : Newborn run) :
    J.Inv (world.insert run) := by
  have horigins := hinv.origins.insert hrun
  unfold World.insert at horigins ⊢
  split
  next => exact hinv
  next htaken =>
    rw [if_neg htaken] at horigins
    have hfresh : Store.get world.rows run.runId = none := by simpa using htaken
    have hget := fun runId => Store.get_create runId hfresh
    refine ⟨horigins, fun runId row hrow => ?_, fun runId hnone event hevent => ?_⟩
    · rw [hget] at hrow
      split at hrow
      · obtain rfl := Option.some.inj hrow
        exact J.born hrun (hinv.silent _ hfresh)
      next hother =>
        refine J.others _ ?_ (hinv.rows runId row hrow)
        rw [Store.runId_of_get hrow]
        exact hother
    · rw [hget] at hnone
      split at hnone
      · cases hnone
      next hother =>
        rcases List.mem_cons.mp hevent with rfl | hold
        · exact hother
        · exact hinv.silent runId hnone event hold

theorem reschedule (hinv : J.Inv world) (select : WorkflowRun → Bool) (time : Time) :
    J.Inv { world with rows := Store.reschedule select time world.rows } := by
  refine ⟨hinv.origins.reschedule select time, fun runId row hrow => ?_, fun runId hnone => ?_⟩
  · rw [Store.get_reschedule] at hrow
    obtain ⟨old, hold, rfl⟩ := Option.map_eq_some_iff.mp hrow
    have hfact := hinv.rows runId old hold
    split
    · exact J.rescheduled _ hfact
    · exact hfact
  · rw [Store.get_reschedule, Option.map_eq_none_iff] at hnone
    exact hinv.silent runId hnone

theorem outside (hinv : J.Inv world) (event : Outside) : J.Inv (world.outside event) := by
  cases event with
  | trigger runId workflow request =>
      simp only [World.outside]
      split
      next run htrigger => exact hinv.insert (trigger_newborn htrigger).2
      next => exact hinv
  | triggerLegacy runId request => exact hinv.insert (triggerLegacy_newborn _ _ _).2
  | claimDue limit lease locked => exact hinv.reschedule _ _
  | wake runId => exact hinv.reschedule _ _
  | tick now => exact ⟨hinv.origins.outside (.tick now), hinv.rows, hinv.silent⟩

/-- An event of a drive's own, given what it means for the row of its run. -/
theorem record (hinv : J.Inv world) {drive : DriveId} {event : Event} {row : WorkflowRun}
    (hactor : event.actor = some drive) (hrow : Store.get world.rows drive.subject = some row)
    (hfact : J.row row (event :: world.history)) : J.Inv (world.record event) := by
  have hsubject := Event.subject_of_actor hactor
  refine ⟨hinv.origins.record ?_ trivial, fun runId found hfound => ?_,
    fun runId hnone other hother => ?_⟩
  · rintro run rfl
    cases hactor
  · change Store.get world.rows runId = some found at hfound
    by_cases hid : runId = drive.subject
    · rw [hid, hrow] at hfound
      obtain rfl := Option.some.inj hfound
      exact hfact
    · refine J.others event ?_ (hinv.rows runId found hfound)
      rw [hsubject, Store.runId_of_get hfound]
      exact Ne.symm hid
  · change Store.get world.rows runId = none at hnone
    rcases List.mem_cons.mp hother with rfl | hold
    · rw [hsubject]
      rintro rfl
      rw [hrow] at hnone
      cases hnone
    · exact hinv.silent runId hnone other hold

theorem commit (hinv : J.Inv world) {drive : DriveId} {run row : WorkflowRun}
    (hid : run.runId = drive.subject) (horigin : HasOrigin run world.history)
    (hsave : Store.save world.rows run = .ok row)
    (hfact : J.row row (.saved drive row :: world.history)) : J.Inv (world.commit drive row) := by
  have hsame := hinv.origins.saved_row horigin hsave
  have hrowId : row.runId = drive.subject := by rw [hsame, ← hid]
  obtain ⟨db, hdb, -, -⟩ := Store.save_eq_ok hsave
  have hget := fun runId => Store.get_put runId
    (show Store.get world.rows row.runId ≠ none by simp [hsame, hdb])
  refine ⟨hinv.origins.commit horigin hsave trivial trivial, fun runId found hfound => ?_,
    fun runId hnone other hother => ?_⟩
  · simp only [World.commit, hget] at hfound
    split at hfound
    · obtain rfl := Option.some.inj hfound
      exact hfact
    next hother =>
      -- an entry about this run says nothing of the other's row
      refine J.others _ ?_ (hinv.rows runId found hfound)
      change drive.subject ≠ found.runId
      rw [Store.runId_of_get hfound, ← hrowId]
      exact hother
  · simp only [World.commit, hget] at hnone
    split at hnone
    · cases hnone
    next hnot =>
      rcases List.mem_cons.mp hother with rfl | hold
      · change drive.subject ≠ runId
        rwa [← hrowId]
      · exact hinv.silent runId hnone other hold

end Inv

/-- Drives that keep a journal; each leaves the rows of other runs alone. -/
def discipline : Discipline system where
  inv := J.Inv
  rely drive world final := ∀ row, Store.get world.rows drive.subject = some row →
    World.Grows (fun event => event.subject ≠ drive.subject) world final ∧
      ∃ scheduledAt,
        Store.get final.rows drive.subject = some { row with scheduledAt := scheduledAt }
  guar drive world final :=
    World.Grows (fun event => event.actor = some drive) world final ∧
      ∀ runId, runId ≠ drive.subject → Store.get final.rows runId = Store.get world.rows runId
  refl _ _ row hrow := ⟨.refl, row.scheduledAt, hrow⟩
  trans hfirst hsecond row hrow := by
    obtain ⟨hgrows, scheduledAt, hmiddle⟩ := hfirst row hrow
    obtain ⟨hgrows', later, hfinal⟩ := hsecond _ hmiddle
    exact ⟨hgrows.trans hgrows', later, hfinal⟩

/-- A run in memory of which a note is kept. -/
def noting (drive : DriveId) (note : Note) : Assertion J.discipline drive where
  holds run world := run.runId = drive.subject ∧ HasOrigin run world.history ∧
    ∃ row, Store.get world.rows drive.subject = some row ∧ note.holds run row world.history
  stable := by
    rintro run world current ⟨hid, horigin, row, hrow, hnote⟩ hrely -
    obtain ⟨⟨newer, hhistory, hothers⟩, scheduledAt, hcurrent⟩ := hrely row hrow
    obtain ⟨origin, hcreated, horigin⟩ := horigin
    refine ⟨hid, ⟨origin, ?_, horigin⟩, _, hcurrent, note.rescheduled scheduledAt ?_⟩
    · rw [hhistory]
      exact List.mem_append_right _ hcreated
    · rw [hhistory]
      exact note.append newer (hid ▸ hothers) hnote

section Noting

variable {J} {drive : DriveId} {note later : Note} {run changed : WorkflowRun} {world : World}

theorem noting_imp (hrun : J.noting drive note run world) (hsame : run.Continues changed)
    (himp : ∀ row, note.holds run row world.history → later.holds changed row world.history) :
    J.noting drive later changed world := by
  obtain ⟨hid, ⟨origin, hcreated, hnewborn, horigin⟩, row, hrow, hnote⟩ := hrun
  exact ⟨hsame.1.runId.symm.trans hid, ⟨origin, hcreated, hnewborn, horigin.trans hsame⟩, row, hrow,
    himp row hnote⟩

/-- An event of the drive's own: what it means for the row, and for the run. -/
theorem noting_record (hrun : J.noting drive note run world) (hinv : J.Inv world) (event : Event)
    (hactor : event.actor = some drive)
    (hrow : ∀ row, row.runId = run.runId → note.holds run row world.history →
      J.row row world.history → J.row row (event :: world.history))
    (hlater : ∀ row, note.holds run row world.history →
      later.holds run row (event :: world.history)) :
    J.discipline.inv (world.record event) ∧ J.discipline.guar drive world (world.record event) ∧
      J.noting drive later run (world.record event) := by
  obtain ⟨hid, horigin, row, hget, hnote⟩ := hrun
  have hfact := hrow row ((Store.runId_of_get hget).trans hid.symm) hnote (hinv.rows _ _ hget)
  exact ⟨hinv.record hactor hget hfact, ⟨World.grows_record hactor, fun _ _ => rfl⟩, hid,
    horigin.cons event, row, hget, hlater row hnote⟩

/-- A save: refused, or committed over the row. -/
theorem noting_save (hrun : J.noting drive note run world) (hinv : J.Inv world)
    (hcommit : ∀ row, row.runId = run.runId → note.holds run row world.history →
      J.row row world.history →
      let saved := { run with version := run.version + 1 }
      J.row saved (.saved drive saved :: world.history) ∧
        later.holds run saved (.saved drive saved :: world.history))
    {post : (Op.runsSave run).Answer → World → Prop}
    (hrefused : ∀ answer, post answer world)
    (hpost : ∀ answer final, J.noting drive later run final → post answer final) :
    Serves J.discipline drive (.runsSave run) world post := by
  obtain ⟨hid, horigin, row, hget, hnote⟩ := hrun
  refine serves_save (fun error => ⟨hinv, ⟨.refl, fun _ _ => rfl⟩, hrefused _⟩)
    fun saved hsave => ?_
  have hsame := hinv.origins.saved_row horigin hsave
  have hsavedId : saved.runId = drive.subject := by rw [hsame, ← hid]
  obtain ⟨hfact, hlater⟩ :=
    hcommit row ((Store.runId_of_get hget).trans hid.symm) hnote (hinv.rows _ _ hget)
  rw [← hsame] at hfact hlater
  have hput := fun runId => Store.get_put runId
    (show Store.get world.rows saved.runId ≠ none by simp [hsavedId, hget])
  have hnoted : J.noting drive later run (world.commit drive saved) := by
    refine ⟨hid, horigin.cons _, saved, ?_, hlater⟩
    simp only [World.commit, hput, hsavedId, if_true]
  refine ⟨hinv.commit hid horigin hsave hfact, ⟨⟨[_], rfl, by simp [Event.actor]⟩, ?_⟩,
    hpost _ _ hnoted, fun _ _ => hpost _ _ hnoted⟩
  intro runId hother
  simp only [World.commit, hput, hsavedId]
  rw [if_neg (Ne.symm hother)]

/-- Loading a row that is not terminal, given what loading it means. -/
theorem noting_load {executor : Executor} (O : Outline J.discipline drive executor)
    (hrow : ∀ {row history}, row.runId = drive.subject → J.row row history →
      J.row row (.loaded drive row :: history))
    (hfresh : ∀ {row : WorkflowRun} {world : World}, row.status.terminal = false →
      row.runId = drive.subject → HasOrigin row world.history → J.row row world.history →
      Store.get world.rows drive.subject = some row →
      O.fresh row (world.record (.loaded drive row))) :
    J.discipline.Safe drive (fun _ _ => True) (executor.handle drive.subject) world := by
  refine O.handle_safe fun current _ hinv => ?_
  refine serves_get (fun answer hmissed => ?_) fun row hget => ?_
  · exact ⟨hinv, ⟨.refl, fun _ _ => rfl⟩, fun run hanswer => absurd hanswer (hmissed run)⟩
  · have hid := Store.runId_of_get hget
    have hfact := hinv.rows _ _ hget
    refine ⟨hinv.record rfl hget (hrow hid hfact), ⟨World.grows_record rfl, fun _ _ => rfl⟩, ?_⟩
    rintro run heq hopen
    obtain rfl : row = run := by simpa using heq
    exact hfresh hopen hid (hinv.origins.rows _ _ hget).1 hfact hget

end Noting

/-- What the outside does is about other runs, or touches only the schedule. -/
theorem outside_rely (drive : DriveId) (event : Outside) (world : World) :
    J.discipline.rely drive world (world.outside event) := by
  intro row hrow
  obtain ⟨hgrows, hscheduled⟩ := World.outside_row event hrow
  refine ⟨hgrows.mono ?_, hscheduled⟩
  rintro _ ⟨run, rfl, hother⟩
  exact hother

theorem separable {executor : Executor} (hsafe : ∀ (drive : DriveId) (world : World),
      J.discipline.Safe drive (fun _ _ => True) (executor.handle drive.subject) world) :
    Discipline.Separable executor.handle J.discipline Absent where
  interference := by
    rintro client other world final hne - ⟨hgrows, hrows⟩ row hrow
    refine ⟨hgrows.mono fun event hactor => ?_, row.scheduledAt, ?_⟩
    · rw [Event.subject_of_actor hactor]
      exact hne
    · rw [hrows _ (Ne.symm hne), hrow]
  outside_inv event world hinv := hinv.outside event
  outside_rely client event world _ := J.outside_rely client event world
  absent_guar := by
    rintro client other world final hne ⟨⟨newer, hhistory, hactor⟩, -⟩ habsent event hevent
    rw [hhistory] at hevent
    rcases List.mem_append.mp hevent with hnew | hold
    · rw [hactor event hnew]
      simpa using hne
    · exact habsent event hold
  absent_outside := by
    intro client event world habsent other hother
    obtain ⟨newer, hhistory, hnobody⟩ :=
      @World.grows_outside (fun event => event.actor = none) world event fun _ => rfl
    rw [hhistory] at hother
    rcases List.mem_append.mp hother with hnew | hold
    · rw [hnobody other hnew]
      simp
    · exact habsent other hold
  start drive world _ _ := hsafe drive world

end Journal

/-- What drives reach from an empty store, where those of one run succeed one another. -/
def succeeded (executor : Executor) (clock : Time) (moves : List (Move system)) :
    Pool system (Except PyException Unit × Option WorkflowRun) :=
  Pool.succession executor.handle moves ⟨{ clock := clock }, []⟩

/-- Drives that succeed one another interleave. -/
theorem succeeded_eq_reached (executor : Executor) (clock : Time) (moves : List (Move system)) :
    ∃ others, succeeded executor clock moves = reached executor clock others :=
  Pool.succession_eq_run moves _

/-- Drives that keep a journal keep it wherever they reach. -/
theorem Journal.succeeded_inv {J : Journal} {executor : Executor}
    (hsafe : ∀ (drive : DriveId) (world : World),
      J.discipline.Safe drive (fun _ _ => True) (executor.handle drive.subject) world)
    (clock : Time) (moves : List (Move system)) : J.Inv (succeeded executor clock moves).world :=
  (Discipline.Ordered.succession (J.separable hsafe)
    (.empty (.initial clock) fun _ _ hevent => by cases hevent) moves).inv

end CloudioOrchestrator

import CloudioOrchestrator.Journal

/-! # Vigils

Journals for which only certain events of a run matter. What is known of the run
outlasts every other event, so that a drive has to account for those alone.
-/

namespace CloudioOrchestrator

open Interaction

structure Vigil where
  /-- The events of a run that matter. -/
  matters : UUID → Event → Bool
  subject : ∀ {runId event}, matters runId event → event.subject = runId
  row : WorkflowRun → History → Prop
  born : ∀ {run older}, Newborn run → (∀ event ∈ older, event.subject ≠ run.runId) →
    row run (.created run :: older)
  rescheduled : ∀ {run history} scheduledAt, row run history →
    row { run with scheduledAt := scheduledAt } history
  lasting : ∀ {run older} event, matters run.runId event = false →
    (∀ drive saved, event = .saved drive saved → drive.subject ≠ run.runId) →
    row run older → row run (event :: older)

namespace Vigil

variable (V : Vigil)

theorem not_matters {runId : UUID} {event : Event} (hother : event.subject ≠ runId) :
    V.matters runId event = false := by
  by_contra hmatters
  exact hother (V.subject (by simpa using hmatters))

def journal : Journal where
  row := V.row
  born := V.born
  others event hother hrow := V.lasting event (V.not_matters hother) (by
    rintro drive saved rfl
    exact hother) hrow
  rescheduled := V.rescheduled

/-- What is known of a run in memory, as long as nothing happens that matters. -/
structure Watch where
  holds : WorkflowRun → WorkflowRun → History → Prop
  lasting : ∀ {run row older} event, V.matters run.runId event = false → holds run row older →
    holds run row (event :: older)
  rescheduled : ∀ {run row history} scheduledAt, holds run row history →
    holds run { row with scheduledAt := scheduledAt } history

variable {V}

/-- What is known of the run alone. -/
def Watch.only (condition : WorkflowRun → Prop) : V.Watch :=
  ⟨fun run _ _ => condition run, fun _ _ hrun => hrun, fun _ hrun => hrun⟩

def Watch.note (watch : V.Watch) : Note where
  holds := watch.holds
  others event hother hrun := watch.lasting event (V.not_matters hother) hrun
  rescheduled := watch.rescheduled

/-- A run in memory that is watched. -/
abbrev watching (drive : DriveId) (watch : V.Watch) : Assertion V.journal.discipline drive :=
  V.journal.noting drive watch.note

section Watching

variable {drive : DriveId} {watch later : V.Watch} {run changed : WorkflowRun} {world : World}

theorem watching_imp (hrun : watching drive watch run world) (hsame : run.Continues changed)
    (himp : ∀ {row history}, watch.holds run row history → later.holds changed row history) :
    watching drive later changed world :=
  Journal.noting_imp hrun hsame fun _ hwatch => himp hwatch

/-- An event of the drive's own that does not matter. -/
theorem watching_record (hrun : watching drive watch run world) (hinv : V.journal.Inv world)
    (event : Event) (hactor : event.actor = some drive)
    (hevent : V.matters run.runId event = false) (hsaved : ∀ saved, event ≠ .saved drive saved) :
    V.journal.discipline.inv (world.record event) ∧
      V.journal.discipline.guar drive world (world.record event) ∧
      watching drive watch run (world.record event) := by
  refine Journal.noting_record hrun hinv event hactor (fun row hid _ hrow => ?_)
    fun row hwatch => watch.lasting event hevent hwatch
  refine V.lasting event (by rwa [hid]) ?_ hrow
  rintro other saved rfl
  obtain rfl := Option.some.inj hactor
  exact absurd rfl (hsaved saved)

theorem watching_log {record : LogRecord} (hrun : watching drive watch run world)
    (hinv : V.journal.Inv world) (hsame : run.Continues changed)
    (hevent : V.matters run.runId (.logged drive record) = false)
    (hlater : ∀ {row history}, watch.holds run row history → later.holds changed row history) :
    Serves V.journal.discipline drive (.log record) world fun _ final =>
      watching drive later changed final := by
  obtain ⟨hkept, hguar, hwatched⟩ := watching_record hrun hinv (.logged drive record) rfl hevent
    (by simp)
  exact serves_log ⟨hkept, hguar, watching_imp hwatched hsame hlater⟩

theorem watching_call {issuer : Issuer} {call : Call} (hrun : watching drive watch run world)
    (hinv : V.journal.Inv world) (hcall : ∀ answer applied,
      V.matters run.runId (.called drive issuer call answer applied) = false) :
    Serves V.journal.discipline drive (.provider issuer call) world fun _ final =>
      watching drive watch run final := by
  refine serves_call fun answer applied _ => ?_
  exact watching_record hrun hinv (.called drive issuer call answer applied) rfl
    (hcall answer applied) (by simp)

/-- A save: refused, or committed as a row of which all is known that should be. -/
theorem watching_save (hrun : watching drive watch run world) (hinv : V.journal.Inv world)
    (hrow : ∀ row older, row.runId = run.runId → watch.holds run row older → V.row row older →
      let saved := { run with version := run.version + 1 }
      V.row saved (.saved drive saved :: older) ∧
        later.holds run saved (.saved drive saved :: older))
    {post : (Op.runsSave run).Answer → World → Prop}
    (hrefused : ∀ answer, post answer world)
    (hpost : ∀ answer final, watching drive later run final → post answer final) :
    Serves V.journal.discipline drive (.runsSave run) world post :=
  @Journal.noting_save V.journal drive watch.note later.note run world hrun hinv
    (fun row hid hwatch hfact => hrow row _ hid hwatch hfact) post hrefused hpost

/-- A drive keeps the vigil if it does so from a row, not terminal, as it was loaded. -/
theorem watching_load {executor : Executor} (O : Outline V.journal.discipline drive executor)
    (hstart : O.fresh = watching drive watch)
    (hloaded : ∀ runId row, V.matters runId (.loaded drive row) = false)
    (hfresh : ∀ {row older}, row.runId = drive.subject → row.status.terminal = false →
      V.row row older → watch.holds row row (.loaded drive row :: older)) (world : World) :
    V.journal.discipline.Safe drive (fun _ _ => True) (executor.handle drive.subject) world := by
  refine Journal.noting_load O (fun {row history} _ hrow => ?_) fun hopen hid horigin hrow
    hget => ?_
  · exact V.lasting _ (hloaded row.runId row) (by simp) hrow
  · rw [hstart]
    exact ⟨hid, horigin.cons _, _, hget, hfresh hid hopen hrow⟩

end Watching

end Vigil

end CloudioOrchestrator

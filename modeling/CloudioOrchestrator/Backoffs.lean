import CloudioOrchestrator.Fleet
import CloudioOrchestrator.Setbacks

/-! # Retry backoffs over worker loops

How long a failed step of a run is left alone when loops drive the run one
after another, and callbacks wake it in between.
-/

namespace CloudioOrchestrator

open Interaction

/-! ## Failures in a history -/

/-- A step of the run failed. -/
def Event.raises (runId : UUID) (step : StepName) : Event → Bool
  | .logged drive (.stepRaised raised _ _) => drive.subject = runId ∧ raised = step
  | _ => false

/-- The run is driven on: it is loaded, or one of its steps is turned to. -/
def Event.resumes (runId : UUID) : Event → Bool
  | .loaded drive _ | .called drive (.step _) _ _ _ | .logged drive (.stepRaised _ _ _)
  | .logged drive (.stepCompleted _) => drive.subject = runId
  | _ => false

/-- How often a step of the run has failed. -/
def failuresOn (runId : UUID) (step : StepName) (history : History) : Nat :=
  history.countP (Event.raises runId step)

/-- A step failed in the drive. -/
def failedIn (drive : DriveId) (history : History) : Bool :=
  history.any fun event =>
    match event with
    | .logged other (.stepRaised _ _ _) => other = drive
    | _ => false

section Events

variable {runId : UUID} {step : StepName} {event : Event} {newer history : History}
variable {drive : DriveId}

theorem Event.raises_actor (hraises : event.raises runId step = true) :
    ∃ drive, event.actor = some drive ∧ drive.subject = runId := by
  cases event with
  | logged drive record =>
      cases record with
      | stepRaised raised attempt error =>
          simp only [Event.raises, decide_eq_true_eq] at hraises
          exact ⟨drive, rfl, hraises.1⟩
      | _ => cases hraises
  | _ => cases hraises

theorem Event.resumes_actor (hresumes : event.resumes runId = true) :
    ∃ drive, event.actor = some drive ∧ drive.subject = runId := by
  cases event with
  | loaded drive row => exact ⟨drive, rfl, by simpa [Event.resumes] using hresumes⟩
  | called drive issuer call answer applied =>
      cases issuer with
      | step step => exact ⟨drive, rfl, by simpa [Event.resumes] using hresumes⟩
      | _ => cases hresumes
  | logged drive record =>
      cases record with
      | stepRaised raised attempt error =>
          exact ⟨drive, rfl, by simpa [Event.resumes] using hresumes⟩
      | stepCompleted step => exact ⟨drive, rfl, by simpa [Event.resumes] using hresumes⟩
      | _ => cases hresumes
  | _ => cases hresumes

/-- Where no drive of the run acts, its failures stay what they are. -/
theorem failuresOn_aside
    (hnewer : ∀ event ∈ newer, ∀ drive, event.actor = some drive → drive.subject ≠ runId) :
    failuresOn runId step (newer ++ history) = failuresOn runId step history := by
  have hnone : newer.countP (Event.raises runId step) = 0 := by
    rw [List.countP_eq_zero]
    intro event hevent hraises
    obtain ⟨drive, hactor, hsubject⟩ := Event.raises_actor hraises
    exact hnewer event hevent drive hactor hsubject
  rw [failuresOn, List.countP_append, hnone, Nat.zero_add]
  rfl

theorem failedIn_aside (hnewer : ∀ event ∈ newer, event.actor ≠ some drive) :
    failedIn drive (newer ++ history) = failedIn drive history := by
  induction newer with
  | nil => rfl
  | cons event newer ih =>
      have hrest := ih fun other hother => hnewer other (List.mem_cons_of_mem _ hother)
      have hevent := hnewer event List.mem_cons_self
      simp only [failedIn, List.cons_append, List.any_cons] at hrest ⊢
      rw [hrest]
      cases event with
      | logged other record =>
          cases record with
          | stepRaised raised attempt error =>
              have hother : other ≠ drive := fun heq => hevent (congrArg some heq)
              simp [hother]
          | _ => rfl
      | _ => rfl

end Events

/-- The step has failed so often, and none that the plan has after it has failed. -/
def Owed (runType : RunType) (runId : UUID) (history : History) (step : StepName)
    (failures : Nat) : Prop :=
  failuresOn runId step history = failures ∧
    ∀ later ∈ following (runPlans runType) step, failuresOn runId later history = 0

theorem not_mem_following {plan : List StepName} (hplan : plan.Nodup) (step : StepName) :
    step ∉ following plan step := by
  intro hstep
  have hmem : step ∈ plan := by
    have hdrop : step ∈ plan.dropWhile (· ≠ step) := List.mem_of_mem_tail hstep
    exact List.dropWhile_subset _ hdrop
  have hsplit := preceding_append_following hmem
  rw [← hsplit, List.nodup_append] at hplan
  exact (List.nodup_cons.mp hplan.2.1).1 hstep

section Owed

variable {row : WorkflowRun} {start step : StepName} {count failures : Nat}
variable {runType : RunType} {runId : UUID} {history later : History}

theorem Owed.congr (howed : Owed runType runId history step failures)
    (hsame : ∀ step, failuresOn runId step later = failuresOn runId step history) :
    Owed runType runId later step failures := by
  constructor
  · rw [hsame]
    exact howed.1
  · intro other hother
    rw [hsame]
    exact howed.2 other hother

/-- Where a drive comes to, the failures are those it counts. -/
theorem Owed.arrives (howed : Owed row.runType runId history start count)
    (harrives : Arrives row start count step failures) :
    Owed row.runType runId history step failures := by
  cases harrives with
  | inl hstart =>
      rw [hstart.1, hstart.2]
      exact howed
  | inr hfurther =>
      obtain ⟨rfl, hstep, hrest⟩ := hfurther
      exact ⟨howed.2 step hstep, fun other hother => howed.2 other (hrest hother)⟩

/-- One more failure of the step. -/
theorem Owed.raised (howed : Owed runType runId history step failures) {drive : DriveId}
    (hsubject : drive.subject = runId) (attempt : Int) (error : PyException) :
    Owed runType runId (.logged drive (.stepRaised step attempt error) :: history) step
      (failures + 1) := by
  constructor
  · have hraises : Event.raises runId step (.logged drive (.stepRaised step attempt error)) =
        true := by simp [Event.raises, hsubject]
    rw [failuresOn, List.countP_cons_of_pos hraises]
    exact congrArg (· + 1) howed.1
  · intro other hother
    have hne : step ≠ other := by
      intro heq
      rw [← heq] at hother
      exact not_mem_following (runPlans_nodup _) step hother
    have hsilent : ¬ Event.raises runId other (.logged drive (.stepRaised step attempt error)) =
        true := by simp [Event.raises, hne]
    rw [failuresOn, List.countP_cons_of_neg hsilent]
    exact howed.2 other hother

end Owed

/-- The run stands as its failures say. -/
def TalliedRow (row : WorkflowRun) (history : History) : Prop :=
  row.status.terminal = false → ∃ start count, Afoot row start count ∧
    Owed row.runType row.runId history start count

section TalliedRow

variable {row : WorkflowRun} {history later : History}

theorem Afoot.rescheduled {start : StepName} {count : Nat} (hafoot : Afoot row start count)
    (scheduledAt : Option Time) : Afoot { row with scheduledAt := scheduledAt } start count where
  start := hafoot.start
  underway := by
    have hrun := hafoot.underway
    exact ⟨hrun.runType, hrun.maxRetries, hrun.status, hrun.currentStep, hrun.planned,
      hrun.attempts, hrun.aware⟩

theorem TalliedRow.rescheduled (hrow : TalliedRow row history) (scheduledAt : Option Time) :
    TalliedRow { row with scheduledAt := scheduledAt } history := by
  intro hopen
  obtain ⟨start, count, hafoot, howed⟩ := hrow hopen
  exact ⟨start, count, hafoot.rescheduled scheduledAt, howed⟩

theorem TalliedRow.congr (hrow : TalliedRow row history)
    (hsame : ∀ step, failuresOn row.runId step later = failuresOn row.runId step history) :
    TalliedRow row later := by
  intro hopen
  obtain ⟨start, count, hafoot, howed⟩ := hrow hopen
  exact ⟨start, count, hafoot, howed.congr hsame⟩

/-- A run that nobody has driven. -/
theorem Unstarted.tallied (hrow : Unstarted row)
    (hnone : ∀ step, failuresOn row.runId step history = 0) : TalliedRow row history := by
  intro _
  obtain ⟨-, step, failures, hstand, hstart, hunderway⟩ := hrow.boarding
  injection hstand with hstep _ hfailures
  subst hstep hfailures
  exact ⟨_, 0, ⟨hstart, hunderway⟩, hnone _, fun other _ => hnone other⟩

end TalliedRow

/-! ## What leaves a run alone -/

/-- Nothing happens to the run but that it is scheduled otherwise. -/
structure Spared (runId : UUID) (before after : World) : Prop where
  clock : before.clock ≤ after.clock
  row : ∀ row, Store.get before.rows runId = some row →
    ∃ scheduledAt, Store.get after.rows runId = some { row with scheduledAt := scheduledAt }
  history : ∃ newer, after.history = newer ++ before.history ∧
    ∀ event ∈ newer, ∀ drive, event.actor = some drive → drive.subject ≠ runId

namespace World

variable {world : World} {runId : UUID}

theorem insert_clock (run : WorkflowRun) : (world.insert run).clock = world.clock := by
  unfold insert
  split <;> rfl

theorem outside_clock {event : Outside} (hforward : ∀ now, event = .tick now → world.clock ≤ now) :
    world.clock ≤ (world.outside event).clock := by
  cases event with
  | trigger runId workflow request =>
      simp only [outside]
      split
      · exact Int.le_of_eq (insert_clock ..).symm
      · exact Int.le_refl _
  | triggerLegacy runId request =>
      simp only [outside, insert_clock]
      exact Int.le_refl _
  | tick now => exact hforward now rfl
  | _ => exact Int.le_refl _

theorem outside_history (event : Outside) : ∃ newer,
    (world.outside event).history = newer ++ world.history ∧
      ∀ event ∈ newer, event.actor = none := by
  have hcreated : ∀ run, (Event.created run).actor = none := fun _ => rfl
  exact @grows_outside (fun event => event.actor = none) world event hcreated

theorem outside_aside {event : Outside}
    (hforward : ∀ now, event = .tick now → world.clock ≤ now) :
    Spared runId world (world.outside event) where
  clock := outside_clock hforward
  row := by
    intro row hrow
    exact (outside_row event hrow).2
  history := by
    obtain ⟨newer, hhistory, hnobody⟩ := world.outside_history event
    refine ⟨newer, hhistory, ?_⟩
    intro event hevent drive hactor
    rw [hnobody event hevent] at hactor
    cases hactor

/-- The rows there are after something came from outside: those there were, under
another schedule perhaps, and those that nobody has driven. -/
theorem outside_rows (event : Outside) {row : WorkflowRun}
    (hrow : Store.get (world.outside event).rows runId = some row) :
    (∃ old scheduledAt, Store.get world.rows runId = some old ∧
      row = { old with scheduledAt := scheduledAt }) ∨
    (Store.get world.rows runId = none ∧ Unstarted row) := by
  have hreschedule : ∀ select time, Store.get (Store.reschedule select time world.rows) runId =
      some row → ∃ old scheduledAt, Store.get world.rows runId = some old ∧
        row = { old with scheduledAt := scheduledAt } := by
    intro select time hget
    rw [Store.get_reschedule] at hget
    obtain ⟨old, hold, heq⟩ := Option.map_eq_some_iff.mp hget
    refine ⟨old, row.scheduledAt, hold, ?_⟩
    rw [← heq]
    split <;> rfl
  have hinsert : ∀ run : WorkflowRun, Unstarted run →
      Store.get (world.insert run).rows runId = some row →
      (∃ old scheduledAt, Store.get world.rows runId = some old ∧
        row = { old with scheduledAt := scheduledAt }) ∨
      (Store.get world.rows runId = none ∧ Unstarted row) := by
    intro run hrun hget
    unfold insert at hget
    split at hget
    next => exact .inl ⟨row, row.scheduledAt, hget, rfl⟩
    next htaken =>
      have hfresh : Store.get world.rows run.runId = none := by simpa using htaken
      rw [Store.get_create runId hfresh] at hget
      split at hget
      next hid =>
        right
        obtain rfl := Option.some.inj hget
        exact ⟨hid ▸ hfresh, hrun⟩
      next => exact .inl ⟨row, row.scheduledAt, hget, rfl⟩
  cases event with
  | trigger newId workflow request =>
      simp only [outside] at hrow
      split at hrow
      next run htrigger =>
        refine hinsert run ?_ hrow
        simp only [CloudioOrchestrator.trigger] at htrigger
        split at htrigger
        next => cases htrigger
        next workflow =>
          split at htrigger
          next => cases htrigger
          next =>
            obtain rfl := Except.ok.inj htrigger
            exact triggered_unstarted world.clock newId workflow request request.maxRetries
      next => exact .inl ⟨row, row.scheduledAt, hrow, rfl⟩
  | triggerLegacy newId request =>
      exact hinsert _ (triggerLegacy_unstarted world.clock newId request request.maxRetries) hrow
  | claimDue limit lease locked => exact .inl (hreschedule _ _ hrow)
  | wake woken => exact .inl (hreschedule _ _ hrow)
  | tick now => exact .inl ⟨row, row.scheduledAt, hrow, rfl⟩

/-- A drive writes to no run but its own. -/
theorem serve_others {drive : DriveId} {choice : Choice} {op : Op}
    (hledger : LedgerInv (world.serve drive choice op).2) (hother : runId ≠ drive.subject) :
    Store.get (world.serve drive choice op).2.rows runId = Store.get world.rows runId := by
  cases op with
  | runsGet loaded =>
      rw [serve]
      rcases world.load_cases drive choice loaded with ⟨_, -, hserved⟩ | ⟨_, -, hserved⟩
      · rw [hserved]
      · rw [hserved]
        rfl
  | runsSave run =>
      rw [serve] at hledger ⊢
      have hcommit : ∀ row, Store.save world.rows run = .ok row →
        LedgerInv (world.commit drive row) →
          Store.get (world.commit drive row).rows runId = Store.get world.rows runId := by
        intro row hsave hledger
        obtain ⟨_, previous, _, _, _, hid, -⟩ := hledger.chained.1
        obtain ⟨db, hdb, -, hrow⟩ := Store.save_eq_ok hsave
        have htaken : Store.get world.rows row.runId ≠ none := by
          have hrowId : row.runId = run.runId := by
            rw [hrow]
            change db.runId = run.runId
            exact Store.runId_of_get hdb
          rw [hrowId, hdb]
          simp
        rw [commit, Store.get_put _ htaken, hid, if_neg (Ne.symm hother)]
      rcases world.save_cases drive choice run with ⟨_, hserved⟩ | ⟨row, _, hsave, -, hserved⟩
      · rw [hserved]
      · rw [hserved] at hledger ⊢
        exact hcommit row hsave hledger
  | _ => rfl

theorem serve_clock {drive : DriveId} {choice : Choice} {op : Op} :
    (world.serve drive choice op).2.clock = world.clock := by
  cases op with
  | runsGet loaded =>
      simp only [serve, load]
      split
      · rfl
      · split <;> rfl
  | runsSave run =>
      simp only [serve, save]
      split <;> rfl
  | _ => rfl

theorem serve_history {drive : DriveId} {choice : Choice} {op : Op} : ∃ newer,
    (world.serve drive choice op).2.history = newer ++ world.history ∧
      ∀ event ∈ newer, event.actor = some drive :=
  @grows_serve (fun event => event.actor = some drive) world drive choice op fun _ hown => hown

theorem serve_aside {drive : DriveId} {choice : Choice} {op : Op}
    (hledger : LedgerInv (world.serve drive choice op).2) (hother : runId ≠ drive.subject) :
    Spared runId world (world.serve drive choice op).2 where
  clock := Int.le_of_eq (serve_clock ..).symm
  row := by
    intro row hrow
    refine ⟨row.scheduledAt, ?_⟩
    rw [serve_others hledger hother]
    exact hrow
  history := by
    obtain ⟨newer, hhistory, hown⟩ := @serve_history world drive choice op
    refine ⟨newer, hhistory, ?_⟩
    intro event hevent other hactor
    rw [hown event hevent] at hactor
    obtain rfl := Option.some.inj hactor
    exact hother.symm

end World

/-! ## A drive in flight -/

/-- A row as loaded, or as the drive that loaded it has committed it. -/
def WorkflowRun.keptAs (row : WorkflowRun) (scheduledAt : Option Time) :
    Option WorkflowRun → WorkflowRun
  | none => { row with scheduledAt := scheduledAt }
  | some run =>
      { row with
        status := run.status, currentStep := run.currentStep, scheduledAt := scheduledAt
        runState := run.runState, version := run.version }

/-- The failures on record, those of this drive among them. -/
def OwedAfter (row : WorkflowRun) (start : StepName) (count : Nat) (history : History) :
    Option Setback → Prop
  | none => Owed row.runType row.runId history start count
  | some setback => Owed row.runType row.runId history setback.step (setback.failures + 1)

/-- A drive of a row it has loaded, as far as it has come. -/
structure Flown (base : Time) (world : World) (drive : DriveId) (row : WorkflowRun)
    (start : StepName) (count : Nat) (watch : Stopwatch) : Prop where
  sound : watch.Sound row start count base
  clock : watch.clock ≤ world.clock
  subject : row.runId = drive.subject
  afoot : Afoot row start count
  stored : ∃ scheduledAt,
    Store.get world.rows drive.subject = some (row.keptAs scheduledAt watch.kept)
  told : watch.setback.isSome = failedIn drive world.history
  owed : OwedAfter row start count world.history watch.setback

section Flown

variable {base : Time} {world after : World} {drive : DriveId} {row run : WorkflowRun}
variable {start : StepName} {count : Nat} {watch : Stopwatch}

theorem OwedAfter.congr {history later : History} {setback : Option Setback}
    (howed : OwedAfter row start count history setback)
    (hsame : ∀ step, failuresOn row.runId step later = failuresOn row.runId step history) :
    OwedAfter row start count later setback := by
  cases setback with
  | none => exact Owed.congr howed hsame
  | some setback => exact Owed.congr howed hsame

/-- What leaves its run alone leaves a drive where it is. -/
theorem Flown.spared (hflown : Flown base world drive row start count watch)
    (hspared : Spared drive.subject world after) :
    Flown base after drive row start count watch := by
  obtain ⟨newer, hhistory, hothers⟩ := hspared.history
  obtain ⟨scheduledAt, hstored⟩ := hflown.stored
  obtain ⟨later, hlater⟩ := hspared.row _ hstored
  refine ⟨hflown.sound, Int.le_trans hflown.clock hspared.clock, hflown.subject, hflown.afoot,
    ⟨later, ?_⟩, ?_, ?_⟩
  · rw [hlater]
    cases watch.kept <;> rfl
  · rw [hflown.told, hhistory, failedIn_aside]
    intro event hevent hactor
    exact hothers event hevent drive hactor rfl
  · apply hflown.owed.congr
    intro step
    rw [hhistory, failuresOn_aside]
    rw [hflown.subject]
    exact hothers

/-- Where a drive ends, or is cut off with nothing failed, its run stands as its
failures say. -/
theorem Flown.tallied (hflown : Flown base world drive row start count watch)
    (hsettled : Settled row watch) {stored : WorkflowRun}
    (hget : Store.get world.rows drive.subject = some stored) :
    TalliedRow stored world.history := by
  obtain ⟨scheduledAt, hstored⟩ := hflown.stored
  obtain rfl := Option.some.inj (hget.symm.trans hstored)
  have howed := hflown.owed
  have hkept := hflown.sound.kept
  intro hopen
  cases hrun : watch.kept with
  | none =>
      have hnone : watch.setback = none := by
        cases hsetback : watch.setback with
        | none => rfl
        | some setback =>
            have hsome := hsettled (by simp [hsetback])
            simp [hrun] at hsome
      rw [hnone] at howed
      exact ⟨start, count, hflown.afoot.rescheduled scheduledAt, howed⟩
  | some run =>
      rw [hrun] at hopen
      obtain ⟨-, -, hleft⟩ := hkept run hrun
      -- the row stands at the step that the commit left it at
      have hstands : ∀ step failures, Underway row step failures run →
          Owed row.runType row.runId world.history step failures →
          ∃ start count, Afoot (row.keptAs scheduledAt (some run)) start count ∧
            Owed row.runType row.runId world.history start count := by
        intro step failures hunderway howed
        refine ⟨step, failures, ⟨startStep_named hunderway.currentStep, ?_⟩, howed⟩
        exact ⟨rfl, rfl, rfl, rfl, hunderway.planned, hunderway.attempts, hunderway.aware⟩
      cases hleft with
      | inl hterminal =>
          have hclosed : run.status.terminal = false := hopen
          rw [hterminal] at hclosed
          cases hclosed
      | inr hresting =>
          generalize hsetback : watch.setback = setback at hresting howed
          cases hresting with
          | polled hunderway harrives => exact hstands _ _ hunderway (howed.arrives harrives)
          | retrying due hunderway _ _ _ => exact hstands _ _ hunderway howed

/-- The stopwatch read anew. -/
theorem Stopwatch.Sound.at (hsound : watch.Sound row start count base) (clock : Time) :
    Stopwatch.Sound row start count base { watch with clock := clock } :=
  ⟨hsound.once, hsound.arrived, hsound.kept⟩

/-- An event of the drive that is no failure. -/
theorem Flown.noted (hflown : Flown base world drive row start count watch) {event : Event}
    (hfailure : ∀ other step attempt error,
      event ≠ .logged other (.stepRaised step attempt error)) :
    Flown base (world.record event) drive row start count { watch with clock := world.clock } := by
  have hsilent : ∀ runId step, Event.raises runId step event = false := by
    intro runId step
    cases event with
    | logged other record =>
        cases record with
        | stepRaised raised attempt error => exact absurd rfl (hfailure other raised attempt error)
        | _ => rfl
    | _ => rfl
  have hmeek : failedIn drive (event :: world.history) = failedIn drive world.history := by
    cases event with
    | logged other record =>
        cases record with
        | stepRaised raised attempt error => exact absurd rfl (hfailure other raised attempt error)
        | _ => rfl
    | _ => rfl
  refine ⟨hflown.sound.at _, Int.le_refl _, hflown.subject, hflown.afoot, hflown.stored, ?_, ?_⟩
  · rw [hflown.told]
    exact hmeek.symm
  · apply hflown.owed.congr
    intro step
    have hneg : ¬ Event.raises row.runId step event = true := by simp [hsilent]
    exact List.countP_cons_of_neg hneg

/-- A step of the drive fails. -/
theorem Flown.raised (hflown : Flown base world drive row start count watch)
    (huntroubled : Untroubled watch) {step : StepName} {attempt : Int} {error : PyException}
    (hsound : Stopwatch.Sound row start count base
      { watch with clock := world.clock, setback := some ⟨step, attempt.toNat, world.clock⟩ }) :
    Flown base (world.record (.logged drive (.stepRaised step attempt error))) drive row start
      count { watch with
        clock := world.clock, setback := some ⟨step, attempt.toNat, world.clock⟩ } := by
  have howed : Owed row.runType row.runId world.history start count := by
    have howed := hflown.owed
    rwa [huntroubled.1] at howed
  refine ⟨hsound, Int.le_refl _, hflown.subject, hflown.afoot, hflown.stored, ?_, ?_⟩
  · simp [failedIn, World.record]
  · exact (howed.arrives (hsound.arrived _ rfl)).raised hflown.subject.symm attempt error

/-- A run that is committed over the row as it was loaded. -/
theorem Flown.committed (hflown : Flown base world drive row start count watch)
    (hsound : Stopwatch.Sound row start count base
      (Stopwatch.keep run { watch with clock := world.clock }))
    {saved : WorkflowRun} (hsave : Store.save world.rows run = .ok saved) :
    saved.version = run.version + 1 ∧
      Store.get (world.commit drive saved).rows drive.subject =
        some (row.keptAs run.scheduledAt (some { run with version := run.version + 1 })) ∧
      Flown base (world.commit drive saved) drive row start count
        (Stopwatch.keep run { watch with clock := world.clock }) := by
  obtain ⟨hid, hversion, -⟩ := hsound.kept _ rfl
  obtain ⟨db, hdb, hcurrent, hsaved⟩ := Store.save_eq_ok hsave
  obtain ⟨scheduledAt, hstored⟩ := hflown.stored
  have hrunId : run.runId = drive.subject := hid.trans hflown.subject
  rw [hrunId, hstored] at hdb
  obtain rfl := Option.some.inj hdb
  -- nothing was committed before: the version would have moved on
  have hnone : watch.kept = none := by
    cases hkept : watch.kept with
    | none => rfl
    | some old =>
        obtain ⟨-, hold, -⟩ := hflown.sound.kept old hkept
        rw [hkept] at hcurrent
        have hfirst : old.version = run.version := hcurrent
        have hsecond : run.version + 1 = row.version + 1 := hversion
        omega
  rw [hnone] at hsaved
  have hrow : saved = row.keptAs run.scheduledAt (some { run with version := run.version + 1 }) :=
    hsaved
  have hsavedId : saved.runId = drive.subject := by
    rw [hrow]
    exact hflown.subject
  have htaken : Store.get world.rows saved.runId ≠ none := by
    rw [hsavedId, hstored]
    simp
  have hput : Store.get (world.commit drive saved).rows drive.subject =
      some (row.keptAs run.scheduledAt (some { run with version := run.version + 1 })) := by
    rw [World.commit, Store.get_put _ htaken, if_pos hsavedId, hrow]
  refine ⟨by rw [hrow]; rfl, hput, hsound, Int.le_refl _, hflown.subject, hflown.afoot,
    ⟨_, hput⟩, ?_, ?_⟩
  · exact hflown.told
  · apply hflown.owed.congr
    intro step
    exact List.countP_cons_of_neg (by simp [Event.raises])

/-- What a drive that a step has failed in leaves when its save is accepted. -/
def LeftWaiting (world : World) (runId : UUID) (due : Time) : Prop :=
  ∃ row, Store.get world.rows runId = some row ∧ (row.status.terminal = true ∨
    row.status = .running ∧ row.runState.attemptStartedAt = none ∧
      ∃ scheduledAt, row.scheduledAt = some scheduledAt ∧ due ≤ scheduledAt)

/-- One operation of a drive in flight: it is safe on, and it turns to no step once
one has failed in it, until its save is accepted. -/
structure Flies (base : Time) (world after : World) (drive : DriveId) (row : WorkflowRun)
    (start : StepName) (count : Nat) (watch later : Stopwatch) (accepted : Prop) : Prop where
  flown : Flown base after drive row start count later
  noticed : ∀ step attempt error,
    after.history = .logged drive (.stepRaised step attempt error) :: world.history →
      later.setback = some ⟨step, attempt.toNat, world.clock⟩ ∧ later.kept = none
  calm : later.setback.isSome → later.kept = none ∨ accepted
  troubled : ∀ setback, watch.setback = some setback → later.setback = some setback ∧
    (∃ newer, after.history = newer ++ world.history ∧
      ∀ event ∈ newer, event.resumes drive.subject = false) ∧
    (later.kept = none ∨
      accepted ∧ LeftWaiting after drive.subject (setback.since + putOff base setback.failures))

section Serving

variable {choice : Choice} {Value : Type}

/-- What is served without touching the store or turning to a step. -/
theorem Flies.idle (hcalm : watch.setback.isSome → watch.kept = none) {accepted : Prop}
    (newer : History)
    (hafter : Flown base after drive row start count { watch with clock := world.clock })
    (hhistory : after.history = newer ++ world.history)
    (hsilent : ∀ event ∈ newer, event.resumes drive.subject = false) :
    Flies base world after drive row start count watch { watch with clock := world.clock }
      accepted where
  flown := hafter
  noticed := by
    intro step attempt error hfailed
    have hnewer : newer = [.logged drive (.stepRaised step attempt error)] :=
      List.append_cancel_right (hhistory.symm.trans hfailed)
    have hresumes := hsilent _ (by rw [hnewer]; exact List.mem_singleton_self _)
    simp [Event.resumes] at hresumes
  calm hsome := .inl (hcalm hsome)
  troubled setback hsetback :=
    ⟨hsetback, ⟨newer, hhistory, hsilent⟩, .inl (hcalm (by simp [hsetback]))⟩

/-- What is served by turning to a step: nothing has failed in the drive. -/
theorem Flies.turn {accepted : Prop} {later : Stopwatch}
    (hafter : Flown base after drive row start count later)
    (huntroubled : Untroubled watch) (hkept : later.kept = watch.kept)
    (hnoticed : ∀ step attempt error,
      after.history = .logged drive (.stepRaised step attempt error) :: world.history →
        later.setback = some ⟨step, attempt.toNat, world.clock⟩) :
    Flies base world after drive row start count watch later accepted where
  flown := hafter
  noticed step attempt error hfailed :=
    ⟨hnoticed step attempt error hfailed, hkept.trans huntroubled.2⟩
  calm _ := .inl (hkept.trans huntroubled.2)
  troubled setback hsetback := by
    rw [huntroubled.1] at hsetback
    cases hsetback

/-- Turning to a step is safe only before a setback and a commit. -/
theorem Stopwatch.Sound.untroubled
    (hsound : Stopwatch.Sound row start count base watch.turn) : Untroubled watch := by
  have honce : (watch.again || watch.setback.isSome || watch.kept.isSome) = false := hsound.once
  simp only [Bool.or_eq_false_iff, Option.isSome_eq_false_iff, Option.isNone_iff_eq_none] at honce
  exact ⟨honce.1.2, honce.2⟩

/-- The save of a drive in flight. -/
theorem Flown.saves (hflown : Flown base world drive row start count watch)
    (hcalm : watch.setback.isSome → watch.kept = none)
    (hfault : watch.setback.isSome → choice.saveFault = none)
    {next : Except PyException Int → Prog Operations Value}
    (hsafe : (timed row start count base).Safe drive (fun _ => Settled row)
      (.call (.runsSave run) next) watch) :
    ∃ later, Flies base world (world.save drive choice run).2 drive row start count watch later
        (SaveAccepted (.runsSave run) (world.save drive choice run).1) ∧
      (timed row start count base).Safe drive (fun _ => Settled row)
        (next (world.save drive choice run).1) later := by
  let read : Stopwatch := { watch with clock := world.clock }
  have hrest : Flown base world drive row start count read :=
    ⟨hflown.sound.at _, Int.le_refl _, hflown.subject, hflown.afoot, hflown.stored, hflown.told,
      hflown.owed⟩
  have hstep : ∀ commit, _ := fun commit =>
    hsafe read ⟨world.clock, hflown.clock, rfl⟩ (hflown.sound.at _)
      ⟨fun op => (World.serve drive choice op world).1, choice.jitter, commit⟩
  simp only [timed, Stopwatch.serve] at hstep
  cases hsetback : watch.setback with
  | some setback =>
      -- the row is as it was loaded, so that the version is right
      have hnone := hcalm (by simp [hsetback])
      have hnofault := hfault (by simp [hsetback])
      have hsome : read.setback.isSome = true := by simp [read, hsetback]
      simp only [hsome, if_true] at hstep
      obtain ⟨hsound, -, hnext⟩ := hstep true
      obtain ⟨hid, hversion, hleft⟩ := hsound.kept _ rfl
      obtain ⟨scheduledAt, hstored⟩ := hflown.stored
      obtain ⟨saved, hsave⟩ : ∃ saved, Store.save world.rows run = .ok saved := by
        have hrunId : run.runId = drive.subject := hid.trans hflown.subject
        have hcurrent : row.version = run.version := by
          have hsum : run.version + 1 = row.version + 1 := hversion
          omega
        rw [hnone] at hstored
        simp [Store.save, hrunId, hstored, WorkflowRun.keptAs, hcurrent]
      obtain ⟨hsaved, hget, hafter⟩ := hflown.committed hsound hsave
      have hserved : world.save drive choice run =
          (.ok saved.version, world.commit drive saved) := by
        simp [World.save, hnofault, hsave]
      rw [hserved]
      refine ⟨read.keep run, ⟨hafter, by simp [World.commit], fun _ => .inr trivial, ?_⟩,
        by rwa [hsaved]⟩
      intro other hother
      obtain rfl := Option.some.inj (hsetback.symm.trans hother)
      refine ⟨hsetback, ⟨[.saved drive saved], rfl, by simp [Event.resumes]⟩,
        .inr ⟨trivial, _, hget, ?_⟩⟩
      cases hleft with
      | inl hterminal => exact .inl hterminal
      | inr hresting =>
          right
          have hwaits : Resting row start count base (some setback)
              { run with version := run.version + 1 } := by
            rw [← hsetback]
            exact hresting
          cases hwaits with
          | retrying due hunderway hunbegun hdue hlate =>
              exact ⟨hunderway.status, hunbegun, due, hdue, hlate⟩
  | none =>
      have hnot : ¬ read.setback.isSome = true := by simp [read, hsetback]
      simp only [hnot] at hstep
      have hrefused : ∀ error, world.save drive choice run = (.error error, world) →
          ∃ later, Flies base world world drive row start count watch later
              (SaveAccepted (.runsSave run) (.error error)) ∧
            (timed row start count base).Safe drive (fun _ => Settled row)
              (next (.error error)) later := by
        intro error hserved
        obtain ⟨-, -, hnext⟩ := hstep false
        rw [show (World.serve drive choice (.runsSave run) world).1 = .error error from
          congrArg Prod.fst hserved] at hnext
        refine ⟨read, .idle hcalm [] hrest rfl ?_, hnext⟩
        intro event hevent
        cases hevent
      have hcommitted : ∀ saved answer, Store.save world.rows run = .ok saved →
          world.save drive choice run = (answer, world.commit drive saved) →
          ∃ later, Flies base world (world.commit drive saved) drive row start count watch later
              (SaveAccepted (.runsSave run) answer) ∧
            (timed row start count base).Safe drive (fun _ => Settled row)
              (next answer) later := by
        intro saved answer hsave hserved
        obtain ⟨hsound, -, hnext⟩ := hstep true
        rw [show (World.serve drive choice (.runsSave run) world).1 = answer from
          congrArg Prod.fst hserved] at hnext
        obtain ⟨-, -, hafter⟩ := hflown.committed hsound hsave
        refine ⟨read.keep run, ⟨hafter, by simp [World.commit], ?_, ?_⟩, hnext⟩
        · intro hsome
          exact absurd hsome hnot
        · intro setback hsome
          rw [hsetback] at hsome
          cases hsome
      rcases world.save_cases drive choice run with
        ⟨error, hserved⟩ | ⟨saved, answer, hsave, -, hserved⟩
      · have hrefusal := hrefused error hserved
        rwa [hserved]
      · have hcommit := hcommitted saved answer hsave hserved
        rwa [hserved]

/-- One operation of a drive in flight. -/
theorem Flown.serves (hflown : Flown base world drive row start count watch)
    (hcalm : watch.setback.isSome → watch.kept = none)
    (hfault : watch.setback.isSome → choice.saveFault = none) {op : Op}
    {next : op.Answer → Prog Operations Value}
    (hsafe : (timed row start count base).Safe drive (fun _ => Settled row) (.call op next) watch) :
    ∃ later, Flies base world (World.serve drive choice op world).2 drive row start count watch
        later (SaveAccepted op (World.serve drive choice op world).1) ∧
      (timed row start count base).Safe drive (fun _ => Settled row)
        (next (World.serve drive choice op world).1) later := by
  let read : Stopwatch := { watch with clock := world.clock }
  have hrest : Flown base world drive row start count read :=
    ⟨hflown.sound.at _, Int.le_refl _, hflown.subject, hflown.afoot, hflown.stored, hflown.told,
      hflown.owed⟩
  obtain ⟨hsound, -, hnext⟩ := hsafe read ⟨world.clock, hflown.clock, rfl⟩ (hflown.sound.at _)
    ⟨fun op => (World.serve drive choice op world).1, choice.jitter, false⟩
  -- what turns to a step finds nothing that has failed
  have hturned : Stopwatch.Sound row start count base read.turn →
      Untroubled watch ∧ read.turn = read := by
    intro hturn
    have huntroubled : Untroubled read := hturn.untroubled
    exact ⟨huntroubled, huntroubled.turned⟩
  cases op with
  | utcnow => exact ⟨read, .idle hcalm [] hrest rfl (by simp), hnext⟩
  | uniform => exact ⟨read, .idle hcalm [] hrest rfl (by simp), hnext⟩
  | runsSave run => exact hflown.saves hcalm hfault hsafe
  | runsGet runId =>
      obtain ⟨huntroubled, heq⟩ := hturned hsound
      change (timed row start count base).Safe drive (fun _ => Settled row) _ read.turn at hnext
      rw [heq] at hnext
      refine ⟨read, .turn ?_ huntroubled rfl ?_, hnext⟩
      · simp only [World.serve, World.load]
        split
        · exact hrest
        · split
          · exact hflown.noted (by simp)
          · exact hrest
      · intro step attempt error hfailed
        simp only [World.serve, World.load] at hfailed
        split at hfailed
        · exact absurd hfailed.symm (List.cons_ne_self _ _)
        · split at hfailed
          · cases hfailed
          · exact absurd hfailed.symm (List.cons_ne_self _ _)
  | provider issuer call =>
      have hnoted : Flown base (World.serve drive choice (.provider issuer call) world).2 drive row
          start count read := hflown.noted (by simp)
      cases issuer with
      | step step =>
          obtain ⟨huntroubled, heq⟩ := hturned hsound
          change (timed row start count base).Safe drive (fun _ => Settled row) _ read.turn at hnext
          rw [heq] at hnext
          exact ⟨read, .turn hnoted huntroubled rfl (by simp [World.serve, World.record]), hnext⟩
      | _ => exact ⟨read, .idle hcalm [_] hnoted rfl (by simp [Event.resumes]), hnext⟩
  | log record =>
      cases record with
      | stepRaised step attempt error =>
          have huntroubled : Untroubled watch := by
            have honce : read.turn.again = false := hsound.once
            simp only [Stopwatch.turn, Bool.or_eq_false_iff, Option.isSome_eq_false_iff,
              Option.isNone_iff_eq_none] at honce
            exact ⟨honce.1.2, honce.2⟩
          have heq : read.turn = read := by
            have hread : Untroubled read := huntroubled
            exact hread.turned
          change Stopwatch.Sound row start count base
            { read.turn with setback := some ⟨step, attempt.toNat, world.clock⟩ } at hsound
          change (timed row start count base).Safe drive (fun _ => Settled row) _
            { read.turn with setback := some ⟨step, attempt.toNat, world.clock⟩ } at hnext
          rw [heq] at hsound hnext
          refine ⟨_, .turn (hflown.raised huntroubled hsound) huntroubled rfl ?_, hnext⟩
          intro other attempted raised hfailed
          injection hfailed with hevent
          injection hevent with _ hrecord
          injection hrecord with hstep hattempt
          rw [hstep, hattempt]
      | stepCompleted step =>
          obtain ⟨huntroubled, heq⟩ := hturned hsound
          change (timed row start count base).Safe drive (fun _ => Settled row) _ read.turn at hnext
          rw [heq] at hnext
          exact ⟨read, .turn (hflown.noted (by simp)) huntroubled rfl
            (by simp [World.serve, World.record]), hnext⟩
      | _ =>
          exact ⟨read, .idle hcalm [_] (hflown.noted (by simp)) rfl (by simp [Event.resumes]),
            hnext⟩

end Serving

end Flown

end CloudioOrchestrator

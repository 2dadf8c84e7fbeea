import CloudioOrchestrator.System
import CloudioOrchestrator.Walk
import CloudioOrchestrator.Interaction.Following

/-! # Interleaved drives

The disciplines that interleaved drives follow. A drive only adds events of its
own to the history, which is all that the others have to rely on, beside a
frame that a result may ask everybody to keep.
-/

namespace CloudioOrchestrator

open Interaction

/-- The drive an event is due to; nothing else but a creation has none. -/
def Event.actor : Event → Option DriveId
  | .created _ => none
  | .loaded drive _ | .called drive _ _ _ _ | .logged drive _ | .saved drive _ => some drive

/-- Every event of a history met a condition on what had come before it. -/
def Throughout (condition : Event → History → Prop) : History → Prop
  | [] => True
  | event :: older => condition event older ∧ Throughout condition older

instance {condition : Event → History → Prop} [∀ event older, Decidable (condition event older)] :
    DecidablePred (Throughout condition) :=
  fun history => by
    induction history with
    | nil => exact .isTrue trivial
    | cons event older ih => exact instDecidableAnd

theorem Throughout.event {condition : Event → History → Prop} {newer older : History}
    {event : Event}
    (hthroughout : Throughout condition (newer ++ event :: older)) : condition event older := by
  induction newer with
  | nil => exact hthroughout.1
  | cons _ _ ih => exact ih hthroughout.2

theorem Throughout.suffix {condition : Event → History → Prop} {newer older : History}
    (hthroughout : Throughout condition (newer ++ older)) : Throughout condition older := by
  induction newer with
  | nil => exact hthroughout
  | cons event newer ih => exact ih hthroughout.2

/-- It is enough that each event does. -/
theorem Throughout.of_split {condition : Event → History → Prop} {history : History}
    (hsplit : ∀ newer event older, history = newer ++ event :: older → condition event older) :
    Throughout condition history := by
  induction history with
  | nil => trivial
  | cons event older ih =>
      refine ⟨hsplit [] event older rfl, ih fun newer earlier oldest heq => ?_⟩
      exact hsplit (event :: newer) earlier oldest (by rw [heq, List.cons_append])

namespace World

/-- The later world has the earlier one's history, and only certain events since. -/
def Grows (since : Event → Prop) (world final : World) : Prop :=
  ∃ newer, final.history = newer ++ world.history ∧ ∀ event ∈ newer, since event

variable {since other : Event → Prop} {world middle final : World}

@[simp] theorem Grows.refl : world.Grows since world :=
  ⟨[], rfl, by simp⟩

theorem Grows.trans (hfirst : world.Grows since middle) (hsecond : middle.Grows since final) :
    world.Grows since final := by
  obtain ⟨first, hfirst, hsince⟩ := hfirst
  obtain ⟨second, hsecond, hsince'⟩ := hsecond
  refine ⟨second ++ first, by rw [hsecond, hfirst, List.append_assoc], ?_⟩
  intro event hevent
  rcases List.mem_append.mp hevent with hevent | hevent
  · exact hsince' event hevent
  · exact hsince event hevent

theorem Grows.mono (hgrows : world.Grows since final) (himp : ∀ event, since event → other event) :
    world.Grows other final := by
  obtain ⟨newer, hhistory, hsince⟩ := hgrows
  exact ⟨newer, hhistory, fun event hevent => himp event (hsince event hevent)⟩

theorem Grows.mem (hgrows : world.Grows since final) {event : Event}
    (hevent : event ∈ world.history) : event ∈ final.history := by
  obtain ⟨newer, hhistory, -⟩ := hgrows
  rw [hhistory]
  exact List.mem_append_right _ hevent

theorem grows_record {event : Event} (hevent : since event) :
    world.Grows since (world.record event) :=
  ⟨[event], rfl, by simpa using hevent⟩

/-- What comes from outside adds at most one event, which is no drive's. -/
theorem outside_adds (world : World) (event : Outside) :
    (world.outside event).history = world.history ∨
      ∃ run, (world.outside event).history = .created run :: world.history := by
  have hinsert : ∀ run : WorkflowRun, (world.insert run).history = world.history ∨
      (world.insert run).history = .created run :: world.history := by
    intro run
    unfold insert
    split
    · exact .inl rfl
    · exact .inr rfl
  cases event with
  | trigger runId workflow request =>
      simp only [outside]
      split
      next run htrigger => exact (hinsert run).imp_right fun hadded => ⟨run, hadded⟩
      next => exact .inl rfl
  | triggerLegacy runId request => exact (hinsert _).imp_right fun hadded => ⟨_, hadded⟩
  | claimDue limit lease locked => exact .inl rfl
  | wake runId => exact .inl rfl
  | tick now => exact .inl rfl

theorem grows_outside (event : Outside) (hcreated : ∀ run, since (.created run)) :
    world.Grows since (world.outside event) := by
  rcases world.outside_adds event with hsame | ⟨run, hadded⟩
  · exact ⟨[], hsame, by simp⟩
  · exact ⟨[.created run], hadded, by simpa using hcreated run⟩

/-- What the outside does to a run touches only its schedule, and what it leaves in
the history is that other runs were created. -/
theorem outside_row (event : Outside) {runId : UUID} {row : WorkflowRun}
    (hrow : Store.get world.rows runId = some row) :
    world.Grows (fun event => ∃ run, event = .created run ∧ run.runId ≠ runId)
        (world.outside event) ∧
      ∃ scheduledAt, Store.get (world.outside event).rows runId =
        some { row with scheduledAt := scheduledAt } := by
  -- a run is inserted only under an id that no row has
  have hinsert : ∀ run : WorkflowRun,
      world.Grows (fun event => ∃ run, event = .created run ∧ run.runId ≠ runId)
          (world.insert run) ∧
        ∃ scheduledAt, Store.get (world.insert run).rows runId =
          some { row with scheduledAt := scheduledAt } := by
    intro run
    unfold insert
    split
    next => exact ⟨.refl, row.scheduledAt, hrow⟩
    next htaken =>
      have hfresh : Store.get world.rows run.runId = none := by simpa using htaken
      have hother : run.runId ≠ runId := by
        intro heq
        rw [heq, hrow] at hfresh
        cases hfresh
      refine ⟨⟨[_], rfl, by simpa using hother⟩, row.scheduledAt, ?_⟩
      rw [Store.get_create _ hfresh, if_neg hother, hrow]
  have hreschedule : ∀ select time,
      world.Grows (fun event => ∃ run, event = .created run ∧ run.runId ≠ runId)
          { world with rows := Store.reschedule select time world.rows } ∧
        ∃ scheduledAt, Store.get (Store.reschedule select time world.rows) runId =
          some { row with scheduledAt := scheduledAt } := by
    intro select time
    refine ⟨⟨[], rfl, by simp⟩, if select row then some time else row.scheduledAt, ?_⟩
    rw [Store.get_reschedule, hrow, Option.map_some]
    split <;> rfl
  cases event with
  | trigger runId workflow request =>
      simp only [outside]
      split
      · exact hinsert _
      · exact ⟨.refl, row.scheduledAt, hrow⟩
  | triggerLegacy runId request => exact hinsert _
  | claimDue limit lease locked => exact hreschedule _ _
  | wake runId => exact hreschedule _ _
  | tick now => exact ⟨⟨[], rfl, by simp⟩, row.scheduledAt, hrow⟩

/-- Serving an operation adds at most one event, of the drive that performed it. -/
theorem serve_adds (world : World) (drive : DriveId) (choice : Choice) (op : Op) :
    (world.serve drive choice op).2.history = world.history ∨
      ∃ event : Event, event.actor = some drive ∧
        (world.serve drive choice op).2.history = event :: world.history := by
  cases op with
  | runsGet runId =>
      simp only [serve, load]
      split
      · exact .inl rfl
      · split
        · exact .inr ⟨_, rfl, rfl⟩
        · exact .inl rfl
  | runsSave run =>
      simp only [serve, save]
      split
      · exact .inl rfl
      · exact .inl rfl
      · exact .inr ⟨_, rfl, rfl⟩
      · exact .inr ⟨_, rfl, rfl⟩
  | utcnow => exact .inl rfl
  | uniform => exact .inl rfl
  | provider issuer call => exact .inr ⟨_, rfl, rfl⟩
  | log record => exact .inr ⟨_, rfl, rfl⟩

theorem grows_serve (drive : DriveId) (choice : Choice) (op : Op) (hown : ∀ event : Event,
    event.actor = some drive → since event) :
    world.Grows since (world.serve drive choice op).2 := by
  rcases world.serve_adds drive choice op with hsame | ⟨event, hactor, hadded⟩
  · exact ⟨[], hsame, by simp⟩
  · exact ⟨[event], hadded, by simpa using hown event hactor⟩

end World

/-- Asking for the time, or for a random backoff, changes nothing. -/
theorem serve_utcnow (drive : DriveId) (choice : Choice) (world : World) :
    (World.serve drive choice .utcnow world).2 = world := rfl

theorem serve_uniform (drive : DriveId) (choice : Choice) (world : World) :
    (World.serve drive choice .uniform world).2 = world := rfl

/-- Loading finds the row as it stands, or nothing changes. -/
theorem World.load_cases (world : World) (drive : DriveId) (choice : Choice) (runId : UUID) :
    (∃ answer, (∀ run, answer ≠ .ok (some run)) ∧
        world.load drive choice runId = (answer, world)) ∨
      ∃ row, Store.get world.rows runId = some row ∧
        world.load drive choice runId = (.ok (some row), world.record (.loaded drive row)) := by
  unfold World.load
  split
  next => exact .inl ⟨_, by simp, rfl⟩
  next =>
    split
    next row hrow => exact .inr ⟨row, hrow, rfl⟩
    next => exact .inl ⟨_, by simp, rfl⟩

/-- A save is refused and changes nothing, or it is committed, whatever the drive is told. -/
theorem World.save_cases (world : World) (drive : DriveId) (choice : Choice)
    (run : WorkflowRun) :
    (∃ error, world.save drive choice run = (.error error, world)) ∨
      ∃ row answer, Store.save world.rows run = .ok row ∧
        (answer = .ok row.version ∨ ∃ name message,
          choice.saveFault = some (.afterCommit name message) ∧
          answer = .error (.other name message)) ∧
        world.save drive choice run = (answer, world.commit drive row) := by
  unfold World.save
  split
  next => exact .inl ⟨_, rfl⟩
  next => exact .inl ⟨_, rfl⟩
  next name message row hfault hsave =>
    exact .inr ⟨row, _, hsave, .inr ⟨name, message, hfault, rfl⟩, rfl⟩
  next row hfault hsave => exact .inr ⟨row, _, hsave, .inl rfl, rfl⟩

section Serving

variable {D : Discipline system} {drive : DriveId} {world : World}

/-- A save is refused, by the version check or the database, or it is committed,
and the drive may see an error all the same. -/
theorem serves_save {run : WorkflowRun} {post : (Op.runsSave run).Answer → World → Prop}
    (hrefused : ∀ error, D.inv world ∧ D.guar drive world world ∧ post (.error error) world)
    (hcommitted : ∀ row, Store.save world.rows run = .ok row →
      D.inv (world.commit drive row) ∧ D.guar drive world (world.commit drive row) ∧
      post (.ok row.version) (world.commit drive row) ∧
      ∀ name message, post (.error (.other name message)) (world.commit drive row)) :
    Serves D drive (.runsSave run) world post := by
  intro choice
  change D.inv (world.save drive choice run).2 ∧
    D.guar drive world (world.save drive choice run).2 ∧
    post (world.save drive choice run).1 (world.save drive choice run).2
  rcases world.save_cases drive choice run with
    ⟨error, hserved⟩ | ⟨row, answer, hsave, hanswer, hserved⟩
  · rw [hserved]
    exact hrefused error
  · obtain ⟨hinv, hguar, hacknowledged, hraised⟩ := hcommitted row hsave
    rw [hserved]
    rcases hanswer with rfl | ⟨name, message, -, rfl⟩
    · exact ⟨hinv, hguar, hacknowledged⟩
    · exact ⟨hinv, hguar, hraised name message⟩

/-- A provider call is put on record with its answer; a call that is answered took effect. -/
theorem serves_call {issuer : Issuer} {call : Call}
    {post : (Op.provider issuer call).Answer → World → Prop}
    (hcalled : ∀ (answer : call.Answer) applied, (answer.isOk = true → applied = true) →
      D.inv (world.record (.called drive issuer call answer applied)) ∧
      D.guar drive world (world.record (.called drive issuer call answer applied)) ∧
      post answer (world.record (.called drive issuer call answer applied))) :
    Serves D drive (.provider issuer call) world post := by
  intro choice
  exact hcalled (choice.answer call) _ fun hok => by rw [hok, Bool.true_or]

theorem serves_log {record : LogRecord} {post : (Op.log record).Answer → World → Prop}
    (hlogged : D.inv (world.record (.logged drive record)) ∧
      D.guar drive world (world.record (.logged drive record)) ∧
      post () (world.record (.logged drive record))) :
    Serves D drive (.log record) world post :=
  fun _ => hlogged

/-- A load is answered with the row as it stands and put on record, or with none. -/
theorem serves_get {runId : UUID} {post : (Op.runsGet runId).Answer → World → Prop}
    (hmissed : ∀ answer, (∀ run, answer ≠ .ok (some run)) →
      D.inv world ∧ D.guar drive world world ∧ post answer world)
    (hloaded : ∀ row, Store.get world.rows runId = some row →
      D.inv (world.record (.loaded drive row)) ∧
      D.guar drive world (world.record (.loaded drive row)) ∧
      post (.ok (some row)) (world.record (.loaded drive row))) :
    Serves D drive (.runsGet runId) world post := by
  intro choice
  change D.inv (world.load drive choice runId).2 ∧
    D.guar drive world (world.load drive choice runId).2 ∧
    post (world.load drive choice runId).1 (world.load drive choice runId).2
  rcases world.load_cases drive choice runId with
    ⟨answer, hnone, hserved⟩ | ⟨row, hrow, hserved⟩
  · rw [hserved]
    exact hmissed answer hnone
  · rw [hserved]
    exact hloaded row hrow

end Serving

/-- A relation between worlds that everybody keeps. -/
structure Frame where
  keeps : World → World → Prop
  refl : ∀ world, keeps world world
  trans : ∀ {first second third}, keeps first second → keeps second third → keeps first third

/-- The frame that asks nothing. -/
def Frame.none : Frame :=
  ⟨fun _ _ => True, fun _ => trivial, fun _ _ => trivial⟩

/-- Everybody keeps the invariant and the frame and adds only events of their own. -/
def interleaving (inv : World → Prop) (frame : Frame) : Discipline system where
  inv := inv
  rely drive world final :=
    World.Grows (fun event => event.actor ≠ some drive) world final ∧ frame.keeps world final
  guar drive world final :=
    World.Grows (fun event => event.actor = some drive) world final ∧ frame.keeps world final
  refl _ world := ⟨.refl, frame.refl world⟩
  trans hfirst hsecond := ⟨hfirst.1.trans hsecond.1, frame.trans hfirst.2 hsecond.2⟩

/-- The drive has done nothing yet. -/
def Absent (drive : DriveId) (world : World) : Prop :=
  ∀ event ∈ world.history, event.actor ≠ some drive

theorem Absent.of_rely {inv : World → Prop} {frame : Frame} {drive : DriveId}
    {world final : World} (habsent : Absent drive world)
    (hrely : (interleaving inv frame).rely drive world final) : Absent drive final := by
  obtain ⟨⟨newer, hhistory, hnewer⟩, -⟩ := hrely
  intro event hevent
  rw [hhistory] at hevent
  rcases List.mem_append.mp hevent with hevent | hevent
  · exact hnewer event hevent
  · exact habsent event hevent

theorem interleaving_compatible {inv : World → Prop} {frame : Frame} {executor : Executor}
    (houtside : ∀ event world, inv world →
      inv (world.outside event) ∧ frame.keeps world (world.outside event))
    (hstart : ∀ (drive : DriveId) (world : World), inv world → Absent drive world →
      (interleaving inv frame).Safe drive (fun _ _ => True) (executor.handle drive.subject)
        world) :
    (interleaving inv frame).Compatible executor.handle Absent where
  interference := by
    rintro client other world final hne ⟨hgrows, hframe⟩
    refine ⟨hgrows.mono fun event hactor heq => hne ?_, hframe⟩
    exact Option.some.inj (hactor.symm.trans heq)
  outside_inv event world hinv := (houtside event world hinv).1
  outside_rely client event world hinv :=
    ⟨World.grows_outside event (by simp [Event.actor]), (houtside event world hinv).2⟩
  absent_rely habsent hrely := habsent.of_rely hrely
  start := hstart

/-- What any number of drives and the outside reach from an empty store. -/
def reached (executor : Executor) (clock : Time) (moves : List (Move system)) :
    Pool system (Except PyException Unit × Option WorkflowRun) :=
  Pool.run executor.handle moves ⟨{ clock := clock }, []⟩

theorem reached_append (executor : Executor) (clock : Time) (moves later : List (Move system)) :
    reached executor clock (moves ++ later) =
      Pool.run executor.handle later (reached executor clock moves) :=
  Pool.run_append executor.handle moves later _

/-- Nothing that happened is ever taken back. -/
theorem run_grows (executor : Executor) (moves : List (Move system))
    (pool : Pool system (Except PyException Unit × Option WorkflowRun)) :
    World.Grows (fun _ => True) pool.world (Pool.run executor.handle moves pool).world := by
  induction moves generalizing pool with
  | nil => exact .refl
  | cons move moves ih =>
      rw [Pool.run_cons]
      apply World.Grows.trans _ (ih _)
      cases move with
      | start runId => exact .refl
      | advance serial choice =>
          simp only [Pool.step]
          split
          · exact World.grows_serve _ _ _ fun _ _ => trivial
          · exact .refl
      | outside event => exact World.grows_outside event fun _ => trivial

/-- What a drive left in the history it left there as it was advanced. -/
theorem exists_advance {executor : Executor} {clock : Time} {moves : List (Move system)}
    {drive : DriveId} {event : Event} {newer older : History} (hactor : event.actor = some drive)
    (hhistory : (reached executor clock moves).world.history = newer ++ event :: older) :
    ∃ first choice later op next, moves = first ++ .advance drive.serial choice :: later ∧
      (reached executor clock first).world.history = older ∧
      (reached executor clock first).threads[drive.serial]? =
        some (drive.subject, .call op next) ∧
      (World.serve drive choice op (reached executor clock first).world).2.history =
        event :: older := by
  induction moves using List.reverseRecOn generalizing newer with
  | nil => simp [reached] at hhistory
  | append_singleton moves move ih =>
      -- unless the event is the newest there is, an earlier move made it
      have hearlier : ∀ between, (reached executor clock moves).world.history =
          between ++ event :: older → ∃ first choice later op next,
            moves ++ [move] = first ++ .advance drive.serial choice :: later ∧
            (reached executor clock first).world.history = older ∧
            (reached executor clock first).threads[drive.serial]? =
              some (drive.subject, .call op next) ∧
            (World.serve drive choice op (reached executor clock first).world).2.history =
              event :: older := by
        intro between hbefore
        obtain ⟨first, choice, later, op, next, rfl, hfirst⟩ := ih hbefore
        exact ⟨first, choice, later ++ [move], op, next, by simp, hfirst⟩
      rw [reached_append, Pool.run_cons, Pool.run_nil] at hhistory
      cases move with
      | start runId => exact hearlier newer hhistory
      | advance serial choice =>
          simp only [Pool.step] at hhistory
          split at hhistory
          next subject op next hthread =>
            rcases World.serve_adds (reached executor clock moves).world ⟨subject, serial⟩
              choice op with hsame | ⟨added, hadds, hadded⟩
            · exact hearlier newer (hsame.symm.trans hhistory)
            · rw [hadded] at hhistory
              cases newer with
              | nil =>
                  obtain ⟨rfl, hbefore⟩ := List.cons.inj hhistory
                  obtain rfl : (⟨subject, serial⟩ : DriveId) = drive :=
                    Option.some.inj (hadds.symm.trans hactor)
                  rw [hbefore] at hadded
                  exact ⟨moves, choice, [], op, next, rfl, hbefore, hthread, hadded⟩
              | cons last between => exact hearlier between (List.cons.inj hhistory).2
          next => exact hearlier newer hhistory
      | outside outer =>
          rcases World.outside_adds (reached executor clock moves).world outer with
            hsame | ⟨run, hadded⟩
          · exact hearlier newer (hsame.symm.trans hhistory)
          · change (World.outside outer _).history = _ at hhistory
            rw [hadded] at hhistory
            cases newer with
            | nil =>
                obtain ⟨rfl, -⟩ := List.cons.inj hhistory
                cases hactor
            | cons last between => exact hearlier between (List.cons.inj hhistory).2

/-- An invariant of interleaved drives holds wherever they reach. -/
theorem reached_sound {inv : World → Prop} {frame : Frame} {executor : Executor}
    (hcompatible : (interleaving inv frame).Compatible executor.handle Absent)
    (clock : Time) (hinitial : inv { clock := clock }) (moves : List (Move system)) :
    (interleaving inv frame).Sound Absent (reached executor clock moves) :=
  Discipline.Sound.run hcompatible (.empty hinitial fun _ _ hevent => by cases hevent) moves

/-- What everybody keeps is kept by any continuation. -/
theorem reached_keeps {inv : World → Prop} {frame : Frame} {executor : Executor}
    (hcompatible : (interleaving inv frame).Compatible executor.handle Absent)
    (clock : Time) (hinitial : inv { clock := clock }) (moves later : List (Move system)) :
    frame.keeps (reached executor clock moves).world
      (reached executor clock (moves ++ later)).world := by
  have hsound := reached_sound hcompatible clock hinitial moves
  obtain ⟨bound, hbound⟩ := Discipline.exists_bystander later
  have hrely := hsound.run_rely hcompatible ⟨⟨List.replicate 32 0, rfl⟩, bound⟩ later
    (hbound bound (Nat.le_refl bound))
  rw [reached_append]
  exact hrely.2

/-- A legacy request, one drive of it, and as many of its operations as given. -/
def legacyRun (operations : Nat) : List (Move system) :=
  .outside (.triggerLegacy sampleId legacySample) ::
  .start sampleId :: List.replicate operations (.advance 0 { answer := willing })

end CloudioOrchestrator

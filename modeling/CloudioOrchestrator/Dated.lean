import CloudioOrchestrator.Ledger
import CloudioOrchestrator.Account
import Mathlib.Order.Basic

/-! # Dated histories

The system under a clock that never goes back, with the time of each event of
its history beside it. What interleaved drives reach here they reach in the
system too.
-/

namespace CloudioOrchestrator

open Interaction

/-- Python's order of datetimes; one without an offset compares to none that has one. -/
instance : LE Datetime where
  le
    | .aware first, .aware second | .naive first, .naive second => first ≤ second
    | _, _ => False

@[simp] theorem Datetime.aware_le {first second : Time} :
    Datetime.aware first ≤ .aware second ↔ first ≤ second := Iff.rfl

instance : Preorder Datetime where
  le_refl datetime := by cases datetime <;> exact Int.le_refl _
  le_trans first second third hfirst hsecond := by
    cases first <;> cases second <;> cases third <;>
      first | exact Int.le_trans hfirst hsecond | exact hfirst.elim | exact hsecond.elim

structure DatedWorld where
  world : World := {}
  /-- The events of the history, each with what the clock read. -/
  timeline : List (Time × Event) := []

namespace DatedWorld

/-- The world come to, its new events dated by the clock. -/
def follow (before : DatedWorld) (after : World) : DatedWorld where
  world := after
  timeline :=
    (after.history.take (after.history.length - before.world.history.length)).map
      (fun event => (before.world.clock, event)) ++ before.timeline

variable {before : DatedWorld} {after : World}

theorem follow_eq (newer : History) (hhistory : after.history = newer ++ before.world.history) :
    before.follow after =
      ⟨after, newer.map (fun event => (before.world.clock, event)) ++ before.timeline⟩ := by
  simp [follow, hhistory]

theorem follow_same (hhistory : after.history = before.world.history) :
    before.follow after = ⟨after, before.timeline⟩ :=
  follow_eq [] hhistory

@[simp] theorem follow_world : before.follow before.world = before :=
  follow_same rfl

theorem follow_cons {event : Event} (hhistory : after.history = event :: before.world.history) :
    before.follow after = ⟨after, (before.world.clock, event) :: before.timeline⟩ :=
  follow_eq [event] hhistory

/-- The world with one more event, dated. -/
def note (event : Event) (before : DatedWorld) : DatedWorld :=
  before.follow (before.world.record event)

@[simp] theorem follow_record (event : Event) :
    before.follow (before.world.record event) = before.note event := rfl

theorem note_eq (event : Event) : before.note event =
    ⟨before.world.record event, (before.world.clock, event) :: before.timeline⟩ :=
  follow_cons rfl

@[simp] theorem note_clock (event : Event) : (before.note event).world.clock = before.world.clock :=
  rfl

theorem follow_commit (drive : DriveId) (row : WorkflowRun) :
    before.follow (before.world.commit drive row) =
      ⟨before.world.commit drive row, (before.world.clock, .saved drive row) :: before.timeline⟩ :=
  follow_cons rfl

end DatedWorld

/-- The clock goes forward, or stays where it is. -/
def forward (clock : Time) : Outside → Outside
  | .tick now => .tick (max clock now)
  | event => event

abbrev dated : Service Operations UUID where
  World := DatedWorld
  Choice := Choice
  Outside := Outside
  serve drive choice op before :=
    ((World.serve drive choice op before.world).1,
      before.follow (World.serve drive choice op before.world).2)
  outside event before := before.follow (before.world.outside (forward before.world.clock event))

/-- What any number of drives and the outside reach from an empty store. -/
def datedReached (executor : Executor) (clock : Time) (moves : List (Move dated)) :
    Pool dated (Except PyException Unit × Option WorkflowRun) :=
  Pool.run executor.handle moves ⟨{ world := { clock := clock } }, []⟩

/-- The drives of a dated run are drives of the system. -/
theorem datedReached_world (executor : Executor) (clock : Time) (moves : List (Move dated)) :
    ∃ others, (reached executor clock others).world =
      (datedReached executor clock moves).world.world := by
  obtain ⟨others, hothers⟩ := Pool.exists_run_view (V := dated) (W := system) executor.handle
    DatedWorld.world (fun _ choice _ _ => ⟨choice, rfl⟩)
    (fun event before => ⟨forward before.world.clock event, rfl⟩) moves
    ⟨{ world := { clock := clock } }, []⟩
  exact ⟨others, congrArg Pool.world hothers⟩

/-- The later world is dated as the earlier one was, and no time has been taken back. -/
structure DatedWorld.Follows (before after : DatedWorld) : Prop where
  timeline : before.timeline <:+ after.timeline
  history : before.world.history <:+ after.world.history
  clock : before.world.clock ≤ after.world.clock

namespace DatedWorld.Follows

variable {before between after : DatedWorld}

protected theorem refl (before : DatedWorld) : before.Follows before :=
  ⟨List.suffix_rfl, List.suffix_rfl, Int.le_refl _⟩

theorem trans (hfirst : before.Follows between) (hsecond : between.Follows after) :
    before.Follows after :=
  ⟨hfirst.timeline.trans hsecond.timeline, hfirst.history.trans hsecond.history,
    Int.le_trans hfirst.clock hsecond.clock⟩

/-- Following a world that has grown and whose clock has not gone back. -/
theorem of_follow {world : World} (newer : History)
    (hhistory : world.history = newer ++ before.world.history)
    (hclock : before.world.clock ≤ world.clock) : before.Follows (before.follow world) := by
  rw [follow_eq _ hhistory]
  exact ⟨List.suffix_append _ _, ⟨newer, hhistory.symm⟩, hclock⟩

theorem of_note (event : Event) : before.Follows (before.note event) :=
  of_follow [event] rfl (Int.le_refl _)

theorem of_outside (event : Outside) :
    before.Follows (before.follow (before.world.outside (forward before.world.clock event))) := by
  obtain ⟨newer, hhistory, -⟩ := @World.grows_outside (fun _ => True) before.world
    (forward before.world.clock event) fun _ => trivial
  apply of_follow newer hhistory
  cases event with
  | tick now => exact Int.le_max_left _ _
  | trigger runId workflow request =>
      simp only [forward, World.outside]
      split
      · unfold World.insert
        split <;> exact Int.le_refl _
      · exact Int.le_refl _
  | triggerLegacy runId request =>
      simp only [forward, World.outside, World.insert]
      split <;> exact Int.le_refl _
  | _ => exact Int.le_refl _

end DatedWorld.Follows

/-- Drives that keep an invariant of dated worlds, whoever else acts. -/
def minding (inv : DatedWorld → Prop) : Discipline dated where
  inv := inv
  rely _ := DatedWorld.Follows
  guar _ := DatedWorld.Follows
  refl _ := .refl
  trans := .trans

/-- Drives that are safe from any world keep the invariant wherever they reach. -/
theorem datedReached_inv {inv : DatedWorld → Prop} {executor : Executor} (clock : Time)
    (hinitial : inv { world := { clock := clock } })
    (houtside : ∀ event before, inv before →
      inv (before.follow (before.world.outside (forward before.world.clock event))))
    (hsafe : ∀ (drive : DriveId) before, (minding inv).Safe drive (fun _ _ => True)
      (executor.handle drive.subject) before)
    (moves : List (Move dated)) : inv (datedReached executor clock moves).world := by
  have hcompatible : (minding inv).Compatible executor.handle fun _ _ => True :=
    { interference := fun _ hguar => hguar
      outside_inv := houtside
      outside_rely := fun _ event before _ => .of_outside event
      absent_rely := fun _ _ => trivial
      start := fun drive before _ _ => hsafe drive before }
  exact (Discipline.Sound.run hcompatible (.empty hinitial fun _ => trivial) moves).inv

section Serving

variable {D : Discipline dated} {drive : DriveId} {before : DatedWorld}

/-- One operation served in a dated world, as one served in the system. -/
def glimpse (D : Discipline dated) (before : DatedWorld) : Discipline system where
  inv after := D.inv (before.follow after)
  rely _ := Eq
  guar drive _ after := D.guar drive before (before.follow after)
  refl _ _ := rfl
  trans := Eq.trans

theorem serves_dated {op : Op} {post : op.Answer → DatedWorld → Prop}
    (hserves : Serves (glimpse D before) drive op before.world fun answer after =>
      post answer (before.follow after)) : Serves D drive op before post :=
  hserves

end Serving

end CloudioOrchestrator

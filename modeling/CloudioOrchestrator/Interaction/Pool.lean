import CloudioOrchestrator.Interaction.Discipline
import Mathlib.Data.List.Basic

/-! # Runs of interacting programs

A pool of programs whose operations interleave in any order. A program that is
never advanced again has been cut off, so the pool needs no separate move for it.
-/

namespace Interaction

variable {S : Signature} {ι α : Type} (V : Service S ι)

/-- Programs in flight over one world; a program's serial is its position. -/
structure Pool (α : Type) where
  world : V.World
  threads : List (ι × Prog S α)

inductive Move
  | start (subject : ι)
  | advance (serial : Nat) (choice : V.Choice)
  | outside (event : V.Outside)

variable {V} (program : ι → Prog S α)

namespace Pool

/-- Start a program, serve one operation of a program in flight, or let the
outside act. Advancing a program that has returned or was never started does nothing. -/
def step (pool : Pool V α) : Move V → Pool V α
  | .start subject => { pool with threads := pool.threads ++ [(subject, program subject)] }
  | .advance serial choice =>
      match pool.threads[serial]? with
      | some (subject, .call op next) =>
          { world := (V.serve ⟨subject, serial⟩ choice op pool.world).2
            threads := pool.threads.set serial
              (subject, next (V.serve ⟨subject, serial⟩ choice op pool.world).1) }
      | _ => pool
  | .outside event => { pool with world := V.outside event pool.world }

def run (moves : List (Move V)) (pool : Pool V α) : Pool V α :=
  moves.foldl (step program) pool

@[simp] theorem run_nil (pool : Pool V α) : run program [] pool = pool := rfl

@[simp] theorem run_cons (move : Move V) (moves : List (Move V)) (pool : Pool V α) :
    run program (move :: moves) pool = run program moves (pool.step program move) := rfl

theorem run_append (first second : List (Move V)) (pool : Pool V α) :
    run program (first ++ second) pool = run program second (run program first pool) :=
  List.foldl_append

variable {program}

/-- A program found after a move was there before and is not served by it, is started by
it, or is served by it. -/
theorem step_thread {pool : Pool V α} {move : Move V} {serial : Nat} {subject : ι}
    {body : Prog S α}
    (hthread : (pool.step program move).threads[serial]? = some (subject, body)) :
    (pool.threads[serial]? = some (subject, body) ∧
        ∀ choice op next, move = .advance serial choice → body ≠ .call op next) ∨
      (move = .start subject ∧ pool.threads.length = serial ∧ body = program subject) ∨
      ∃ choice op next, move = .advance serial choice ∧
        pool.threads[serial]? = some (subject, .call op next) ∧
        body = next (V.serve ⟨subject, serial⟩ choice op pool.world).1 := by
  cases move with
  | start other =>
      simp only [step, List.getElem?_append] at hthread
      split at hthread
      next => exact .inl ⟨hthread, nofun⟩
      next hlength =>
        have hmem := List.mem_of_getElem? hthread
        obtain ⟨rfl, rfl⟩ : subject = other ∧ body = program other := by simpa using hmem
        obtain ⟨hzero, -⟩ := List.getElem?_eq_some_iff.mp hthread
        rw [List.length_singleton] at hzero
        exact .inr (.inl ⟨rfl, by omega, rfl⟩)
  | advance advanced choice =>
      simp only [step] at hthread
      split at hthread
      next other op next hother =>
        by_cases hserial : advanced = serial
        · subst hserial
          obtain ⟨hlength, -⟩ := List.getElem?_eq_some_iff.mp hother
          rw [List.getElem?_set_self hlength] at hthread
          cases hthread
          exact .inr (.inr ⟨choice, op, next, rfl, hother, rfl⟩)
        · rw [List.getElem?_set_ne hserial] at hthread
          refine .inl ⟨hthread, fun _ _ _ heq => ?_⟩
          cases heq
          exact absurd rfl hserial
      next hidle =>
        -- only a program that is at a call is served
        refine .inl ⟨hthread, ?_⟩
        rintro _ op next heq rfl
        cases heq
        exact hidle _ _ _ hthread
  | outside event => exact .inl ⟨hthread, nofun⟩

variable (program)

/-- What serving any operation keeps, and what the outside keeps as it acts, a
run keeps. -/
theorem run_keeps (holds : V.World → Prop) {moves : List (Move V)}
    (hserve : ∀ client choice op world, holds world → holds (V.serve client choice op world).2)
    (houtside : ∀ event world, .outside event ∈ moves → holds world →
      holds (V.outside event world))
    {pool : Pool V α} (hpool : holds pool.world) : holds (run program moves pool).world := by
  induction moves generalizing pool with
  | nil => exact hpool
  | cons move rest ih =>
      rw [run_cons]
      apply ih
      · intro event world hmem
        exact houtside event world (List.mem_cons_of_mem _ hmem)
      · cases move with
        | start subject => exact hpool
        | advance serial choice =>
            simp only [step]
            split
            · exact hserve _ _ _ _ hpool
            · exact hpool
        | outside event => exact houtside event _ List.mem_cons_self hpool

/-- A run of a service is a run of any other service that does the same to a view
of its world. -/
theorem exists_run_view {W : Service S ι} (view : V.World → W.World)
    (hserve : ∀ client choice op world, ∃ picked, W.serve client picked op (view world) =
      ((V.serve client choice op world).1, view (V.serve client choice op world).2))
    (houtside : ∀ event world, ∃ other, W.outside other (view world) = view (V.outside event world))
    (moves : List (Move V)) (pool : Pool V α) :
    ∃ others : List (Move W), run program others ⟨view pool.world, pool.threads⟩ =
      ⟨view (run program moves pool).world, (run program moves pool).threads⟩ := by
  induction moves generalizing pool with
  | nil => exact ⟨[], rfl⟩
  | cons move moves ih =>
      -- move for move, but for the advances that serve nobody
      obtain ⟨others, hothers⟩ := ih (pool.step program move)
      cases move with
      | start subject => exact ⟨.start subject :: others, hothers⟩
      | advance serial choice =>
          cases hthread : pool.threads[serial]? with
          | none =>
              refine ⟨others, ?_⟩
              simpa [step, hthread] using hothers
          | some thread =>
              obtain ⟨subject, body⟩ := thread
              cases body with
              | ret value =>
                  refine ⟨others, ?_⟩
                  simpa [step, hthread] using hothers
              | call op next =>
                  obtain ⟨picked, hpicked⟩ := hserve ⟨subject, serial⟩ choice op pool.world
                  refine ⟨.advance serial picked :: others, ?_⟩
                  simpa [step, hthread, hpicked] using hothers
      | outside event =>
          obtain ⟨other, hother⟩ := houtside event pool.world
          refine ⟨.outside other :: others, ?_⟩
          simpa [step, hother] using hothers

end Pool

namespace Discipline

/-- What makes a discipline hold of every interleaving: nobody's guarantee
breaks what another relies on, the outside keeps the invariant and what
everybody relies on, and a program is safe wherever it is started by a client
that has not taken part yet. -/
structure Compatible (D : Discipline V) (absent : Client ι → V.World → Prop) : Prop where
  interference : ∀ {client other world final}, client ≠ other →
    D.guar client world final → D.rely other world final
  outside_inv : ∀ event world, D.inv world → D.inv (V.outside event world)
  outside_rely : ∀ client event world, D.inv world → D.rely client world (V.outside event world)
  absent_rely : ∀ {client world final}, absent client world → D.rely client world final →
    absent client final
  start : ∀ client world, D.inv world → absent client world →
    D.Safe client (fun _ _ => True) (program client.subject) world

/-- A pool all of whose programs are safe in the world as it stands, and in
which no later program has taken part. -/
structure Sound (D : Discipline V) (absent : Client ι → V.World → Prop) (pool : Pool V α) :
    Prop where
  inv : D.inv pool.world
  absent : ∀ client, pool.threads.length ≤ client.serial → absent client pool.world
  safe : ∀ serial subject body, pool.threads[serial]? = some (subject, body) →
    D.Safe ⟨subject, serial⟩ (fun _ _ => True) body pool.world

variable {program} {D : Discipline V} {absent : Client ι → V.World → Prop}

theorem Safe.of_rely {client : Client ι} {body : Prog S α} {world later : V.World}
    (hsafe : D.Safe client (fun _ _ => True) body world) (hrely : D.rely client world later) :
    D.Safe client (fun _ _ => True) body later := by
  cases body with
  | ret value => trivial
  | call op next => exact hsafe.stable hrely

/-- A move is something every client other than the one advancing relies on. -/
theorem Sound.step_rely (hD : D.Compatible program absent) {pool : Pool V α}
    (hpool : D.Sound absent pool) (move : Move V) (client : Client ι)
    (hclient : ∀ choice, move ≠ .advance client.serial choice) :
    D.rely client pool.world (pool.step program move).world := by
  cases move with
  | start subject => exact D.refl _ _
  | advance serial choice =>
      simp only [Pool.step]
      split
      next subject op next hthread =>
        obtain ⟨-, hguar, -⟩ := hpool.safe serial subject _ hthread
          pool.world (D.refl _ _) hpool.inv choice
        refine hD.interference ?_ hguar
        rintro rfl
        exact hclient choice rfl
      next => exact D.refl _ _
  | outside event => exact hD.outside_rely client event pool.world hpool.inv

theorem Sound.step (hD : D.Compatible program absent) {pool : Pool V α}
    (hpool : D.Sound absent pool) (move : Move V) :
    D.Sound absent (pool.step program move) := by
  have hrely := hpool.step_rely hD move
  cases move with
  | start subject =>
      refine ⟨hpool.inv, fun client hclient => hpool.absent client ?_, ?_⟩
      · simp only [Pool.step, List.length_append, List.length_singleton] at hclient
        omega
      intro serial found body hfound
      simp only [Pool.step, List.getElem?_append] at hfound
      split at hfound
      next => exact hpool.safe serial found body hfound
      next hserial =>
        obtain ⟨rfl, rfl⟩ : subject = found ∧ program subject = body := by
          have hmem := List.mem_of_getElem? hfound
          simpa [eq_comm] using hmem
        exact hD.start ⟨subject, serial⟩ pool.world hpool.inv
          (hpool.absent _ (by simpa using hserial))
  | advance serial choice =>
      simp only [Pool.step] at hrely ⊢
      split at hrely
      next subject op next hthread =>
        obtain ⟨hinv, -, hnext⟩ := hpool.safe serial subject _ hthread
          pool.world (D.refl _ _) hpool.inv choice
        have hlength := (List.getElem?_eq_some_iff.mp hthread).1
        refine ⟨hinv, fun client hclient => ?_, ?_⟩
        · rw [List.length_set] at hclient
          refine hD.absent_rely (hpool.absent client hclient) (hrely client fun _ heq => ?_)
          have : serial = client.serial := by injection heq
          omega
        -- who was not served relies on what the one who was guarantees
        intro other found body hfound
        by_cases heq : other = serial
        · subst heq
          rw [List.getElem?_set_self hlength] at hfound
          obtain ⟨rfl, rfl⟩ := Option.some.inj hfound
          exact hnext
        · rw [List.getElem?_set_ne (Ne.symm heq)] at hfound
          refine (hpool.safe other found body hfound).of_rely (hrely ⟨found, other⟩ ?_)
          intro _ hmove
          injection hmove with hserial
          exact heq hserial.symm
      next => exact hpool
  | outside event =>
      exact ⟨hD.outside_inv event pool.world hpool.inv,
        fun client hclient => hD.absent_rely (hpool.absent client hclient) (hrely client (by simp)),
        fun serial subject body hfound =>
          (hpool.safe serial subject body hfound).of_rely (hrely _ (by simp))⟩

theorem Sound.run (hD : D.Compatible program absent) {pool : Pool V α}
    (hpool : D.Sound absent pool) (moves : List (Move V)) :
    D.Sound absent (Pool.run program moves pool) := by
  induction moves generalizing pool with
  | nil => exact hpool
  | cons move rest ih => exact ih (hpool.step hD move)

/-- A pool with no program yet is sound where nobody has taken part. -/
theorem Sound.empty {world : V.World} (hinv : D.inv world)
    (habsent : ∀ client, absent client world) :
    D.Sound absent (⟨world, []⟩ : Pool V α) :=
  ⟨hinv, fun client _ => habsent client, by simp⟩

/-- A client whose program is never started can rely on a run as a whole. -/
theorem Sound.run_rely (hD : D.Compatible program absent) {pool : Pool V α}
    (hpool : D.Sound absent pool) (client : Client ι) (moves : List (Move V))
    (hclient : ∀ choice, .advance client.serial choice ∉ moves) :
    D.rely client pool.world (Pool.run program moves pool).world := by
  induction moves generalizing pool with
  | nil => exact D.refl _ _
  | cons move rest ih =>
      have hmove := hpool.step_rely hD move client
        fun choice heq => hclient choice (heq ▸ List.mem_cons_self)
      exact D.trans hmove (ih (hpool.step hD move)
        fun choice hmem => hclient choice (List.mem_cons_of_mem _ hmem))

/-- A run advances none of the serials from some point on. -/
theorem exists_bystander (moves : List (Move V)) :
    ∃ bound, ∀ serial, bound ≤ serial → ∀ choice, .advance serial choice ∉ moves := by
  induction moves with
  | nil => exact ⟨0, by simp⟩
  | cons move rest ih =>
      obtain ⟨bound, hbound⟩ := ih
      cases move with
      | advance advanced picked =>
          refine ⟨max bound (advanced + 1), fun serial hserial choice hmem => ?_⟩
          rcases List.mem_cons.mp hmem with heq | hmem
          · injection heq with heq
            omega
          · exact hbound serial (by omega) choice hmem
      | start subject => exact ⟨bound, by simpa using hbound⟩
      | outside event => exact ⟨bound, by simpa using hbound⟩

end Discipline

end Interaction
